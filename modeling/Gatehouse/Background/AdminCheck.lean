import Gatehouse.Account.UserDirectory
/-!
The task that a login leaves behind: to record when the administrator flag of the user was evaluated.
-/

namespace Gatehouse.Background

/-- The administrator flag of a user was evaluated at a time. -/
structure AdminCheck where
  userId : ObjectId
  admin : Bool
  time : Instant
deriving DecidableEq

/-- Records the evaluation in the directory. -/
def AdminCheck.perform (c : AdminCheck) (d : UserDirectory) : Except Fault Unit × UserDirectory :=
  d.recordAdminCheck c.userId c.admin c.time

end Gatehouse.Background
