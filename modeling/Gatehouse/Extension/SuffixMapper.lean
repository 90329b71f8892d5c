import Gatehouse.Settings.Schema
import Gatehouse.Text.Lowercase
import Gatehouse.Wire.Message
/-!
The suffix mapper: strips a suffix off user names, and may put principals into lower case.
-/

namespace Gatehouse

/-- Takes a suffix off a text once; a text without it stays as it is. -/
def stripSuffix (suffix s : String) : String :=
  let (cs, ending) := (s.toList, suffix.toList)
  if ending.isSuffixOf cs then String.ofList (cs.take (cs.length - ending.length)) else s

theorem stripSuffix_append (rest ending : String) : stripSuffix ending (rest ++ ending) = rest := by
  unfold stripSuffix
  simp [String.toList_append]

theorem stripSuffix_of_ne {ending name : String} (h : ∀ rest, name ≠ rest ++ ending) :
    stripSuffix ending name = name := by
  unfold stripSuffix
  have hs : ¬ ending.toList.isSuffixOf name.toList = true := by
    intro hs
    obtain ⟨cs, hcs⟩ := List.isSuffixOf_iff_suffix.1 hs
    refine h (String.ofList cs) (String.toList_injective ?_)
    rw [String.toList_append, String.toList_ofList, hcs]
  simp [hs]

/-- A suffix mapper. -/
structure SuffixMapper where
  name : String
  suffix : Option String := none
  lowercase : Bool := false
deriving DecidableEq, Inhabited

namespace SuffixMapper

/-- The mapper that the settings describe; an empty suffix is none. -/
def ofSettings (s : MapperSettings) : SuffixMapper where
  name := s.name
  suffix := s.stripSuffix.filter fun suffix => !suffix.isEmpty
  lowercase := s.lowercase

/-- The name under which a user is known to the authenticator. -/
def mapUser (m : SuffixMapper) (q : Wire.MapUserRequest) : Wire.MappingResponse :=
  { user := some (m.suffix.elim q.user fun suffix => stripSuffix suffix q.user) }

/-- The record that the authorizer is to see. -/
def mapAuthRecord (m : SuffixMapper) (q : Wire.MapAuthRecordRequest) : Wire.MappingResponse :=
  if m.lowercase then
    match q.authRecord.principal? with
    | some principal => { authRecord := some (q.authRecord.withPrincipal (Lowercase.lower principal)) }
    | none => { authRecord := some q.authRecord }
  else {}

end SuffixMapper

end Gatehouse
