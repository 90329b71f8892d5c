/-!
Secrets: texts that are used but never shown.
-/

namespace Gatehouse

/-- A text that must not be shown. -/
structure Secret where
  exposed : String
deriving DecidableEq, Inhabited

namespace Secret

/-- What is shown in place of a secret. -/
def redaction : String := "[REDACTED]"

/-- The text of a secret, which tells nothing about it. -/
def text (_ : Secret) : String := redaction

/-- The text of a secret among the fields of a record under inspection. -/
def inspect (s : Secret) : String := "Secret(\"" ++ s.text ++ "\")"

def isEmpty (s : Secret) : Bool := s.exposed.isEmpty

theorem text_eq (a b : Secret) : a.text = b.text := rfl

theorem inspect_eq (a b : Secret) : a.inspect = b.inspect := rfl

end Secret

end Gatehouse
