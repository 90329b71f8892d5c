/-!
Verdicts: what an authenticator says about credentials, each with its code. Codes without a meaning
are kept as they are.
-/

namespace Gatehouse.Wire

/-- An authenticator's verdict. -/
inductive Verdict where
  | success
  | generalError
  | credentialsInvalid
  | credentialsIncorrect
  | accountLocked
  | accountDisabled
  | accountExpired
  | timedOut
  | credentialsExpired
  | remoteUnavailable
  | unknown (code : Int)
deriving DecidableEq, Repr, Inhabited

namespace Verdict

/-- The verdict of a code. -/
def ofCode : Int → Verdict
  | 0 => success
  | 1 => generalError
  | 2 => credentialsInvalid
  | 3 => credentialsIncorrect
  | 4 => accountLocked
  | 5 => accountDisabled
  | 6 => accountExpired
  | 7 => timedOut
  | 8 => credentialsExpired
  | 9 => remoteUnavailable
  | n => unknown n

/-- The code of a verdict. -/
def code : Verdict → Int
  | success => 0
  | generalError => 1
  | credentialsInvalid => 2
  | credentialsIncorrect => 3
  | accountLocked => 4
  | accountDisabled => 5
  | accountExpired => 6
  | timedOut => 7
  | credentialsExpired => 8
  | remoteUnavailable => 9
  | unknown n => n

/-- The text of a verdict. -/
def text : Verdict → String
  | success => "SUCCESS"
  | generalError => "GENERAL_ERROR"
  | credentialsInvalid => "CREDENTIALS_INVALID"
  | credentialsIncorrect => "CREDENTIALS_INCORRECT"
  | accountLocked => "ACCOUNT_LOCKED"
  | accountDisabled => "ACCOUNT_DISABLED"
  | accountExpired => "ACCOUNT_EXPIRED"
  | timedOut => "TIMED_OUT"
  | credentialsExpired => "CREDENTIALS_EXPIRED"
  | remoteUnavailable => "REMOTE_UNAVAILABLE"
  | unknown n => "UNKNOWN(" ++ toString n ++ ")"

def isSuccess (v : Verdict) : Bool := v == success

/-- Every code is the code of its verdict. -/
theorem code_ofCode (n : Int) : (ofCode n).code = n := by
  unfold ofCode
  split <;> rfl

end Verdict

end Gatehouse.Wire
