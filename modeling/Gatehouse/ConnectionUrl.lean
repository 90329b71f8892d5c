import Gatehouse.Text.ByteOffset
/-!
Connection addresses, shown without their password: it starts after the first colon that follows the
scheme and ends at the last at-sign. Main statements: of an address with a password everything else is
shown, any other is shown as it is, and no address is cut within a character.
-/

namespace Gatehouse.ConnectionUrl

open ByteOffset

/-- Where the separator after the scheme of an address ends; without one, where the address starts. -/
def schemeEnd (url : String) : Nat := ((find? "://".toList url.toList).map (· + 3)).getD 0

/-- An address with its password replaced, if every cut falls between characters. -/
def mask? (url : String) : Option String :=
  match findLast? '@' url.toList with
  | some atSign =>
    if schemeEnd url < atSign then do
      let credentials ← slice? url (schemeEnd url) atSign
      match find? ":".toList credentials.toList with
      | some colon =>
        let shown ← slice? url 0 (schemeEnd url + colon)
        let host ← slice? url atSign url.utf8ByteSize
        pure (shown ++ ":****" ++ host)
      | none => pure url
    else some url
  | none => some url

/-! ## Heads -/

/-- An address has a head before its credentials: a scheme and the separator, or nothing. -/
inductive Opens : String → String → Prop
  | scheme {scheme tail : String}
      (h : find? "://".toList (scheme ++ ("://" ++ tail)).toList = some scheme.utf8ByteSize) :
      Opens (scheme ++ "://") tail
  | bare {tail : String} (h : find? "://".toList tail.toList = none) : Opens "" tail

section
variable {head tail user password rest : String}

theorem exists_opens (url : String) : ∃ head tail, url = head ++ tail ∧ Opens head tail := by
  cases h : find? "://".toList url.toList with
  | none => exact ⟨"", url, by simp, .bare h⟩
  | some n =>
    obtain ⟨scheme, tail, rfl, rfl⟩ := exists_append_of_find? h
    exact ⟨scheme ++ "://", tail, String.append_assoc.symm, .scheme h⟩

theorem Opens.schemeEnd_eq (h : Opens head tail) : schemeEnd (head ++ tail) = head.utf8ByteSize := by
  unfold schemeEnd
  cases h with
  | scheme h =>
    rw [String.append_assoc, h, String.utf8ByteSize_append]
    rfl
  | bare h =>
    rw [String.empty_append, h]
    rfl

/-- What follows the head may change, as long as no separator comes up. -/
theorem Opens.congr {tail' : String} (h : Opens head tail)
    (ht : find? "://".toList tail.toList = none → find? "://".toList tail'.toList = none) : Opens head tail' := by
  cases h with
  | scheme h =>
    refine .scheme ?_
    simp only [String.toList_append, ← size_toList] at h ⊢
    exact find?_of_find?_eq_some (by decide) h _
  | bare h => exact .bare (ht h)

/-- Hiding the password brings no separator up: neither the name before it nor what it is replaced with has
a part of one. -/
theorem Opens.hide (h : Opens head (user ++ ":" ++ password ++ ("@" ++ rest))) (hu : ':' ∉ user.toList) :
    Opens head (user ++ ":" ++ "****" ++ ("@" ++ rest)) := by
  refine h.congr fun hnone => ?_
  have hrest : find? "://".toList rest.toList = none := by
    refine find?_eq_none_of_append (a := (user ++ ":" ++ password ++ "@").toList) ?_
    rw [← String.toList_append, String.append_assoc]
    exact hnone
  have hmark : find? "://".toList (":****@".toList ++ rest.toList) = none := by
    show find? (':' :: ['/', '/']) (':' :: ("****@".toList ++ rest.toList)) = none
    rw [find?, if_neg (by simp), find?_append_of_not_mem (by decide)]
    exact congrArg _ (congrArg _ hrest)
  have htext : (user ++ ":" ++ "****" ++ ("@" ++ rest)).toList = user.toList ++ (":****@".toList ++ rest.toList) := by
    simp
  rw [htext]
  exact (find?_append_of_not_mem hu).trans (congrArg _ hmark)

end

/-! ## Addresses with a password -/

/-- An address with a password, in its parts. -/
structure Parts where
  head : String
  user : String
  password : String
  /-- What follows the last at-sign. -/
  rest : String
  opens : Opens head (user ++ ":" ++ password ++ ("@" ++ rest))
  user_ends : ':' ∉ user.toList
  password_ends : '@' ∉ rest.toList

namespace Parts

variable (x : Parts)

def credentials : String := x.user ++ ":" ++ x.password

def text : String := x.head ++ (x.credentials ++ ("@" ++ x.rest))

/-- The address with its password hidden. -/
def hidden : Parts := { x with password := "****", opens := x.opens.hide x.user_ends }

theorem findLast?_text : findLast? '@' x.text.toList = some (x.head ++ x.credentials).utf8ByteSize := by
  have h := findLast?_append_cons (a := (x.head ++ x.credentials).toList) x.password_ends
  rw [size_toList] at h
  rw [← h]
  simp [text]

theorem find?_credentials : find? ":".toList x.credentials.toList = some x.user.utf8ByteSize := by
  rw [credentials, String.append_assoc, String.toList_append, ← size_toList, String.toList_append]
  refine (find?_append_of_not_mem x.user_ends).trans ?_
  exact congrArg _ (find?_append_self (by decide) _)

theorem slice?_credentials :
    slice? x.text x.head.utf8ByteSize (x.head ++ x.credentials).utf8ByteSize = some x.credentials := by
  rw [text, ← String.append_assoc]
  exact slice?_append ..

theorem slice?_shown : slice? x.text 0 (x.head ++ x.user).utf8ByteSize = some (x.head ++ x.user) := by
  have h := slice?_append "" (x.head ++ x.user) (":" ++ x.password ++ ("@" ++ x.rest))
  simpa [text, credentials, String.append_assoc] using h

theorem slice?_host :
    slice? x.text (x.head ++ x.credentials).utf8ByteSize x.text.utf8ByteSize = some ("@" ++ x.rest) := by
  have h := slice?_append (x.head ++ x.credentials) ("@" ++ x.rest) ""
  rwa [String.append_empty, String.append_assoc] at h

/-- Everything but the password is shown. -/
theorem mask?_text : mask? x.text = some x.hidden.text := by
  have hlt : x.head.utf8ByteSize < (x.head ++ x.credentials).utf8ByteSize := by
    have hcolon : ":".utf8ByteSize = 1 := rfl
    simp only [credentials, String.utf8ByteSize_append, hcolon]
    omega
  have hend : schemeEnd x.text = x.head.utf8ByteSize := x.opens.schemeEnd_eq
  simp only [mask?, findLast?_text, hend, if_pos hlt, slice?_credentials, Option.bind_eq_bind, Option.bind_some,
    find?_credentials, ← String.utf8ByteSize_append, slice?_shown, slice?_host]
  show some (x.head ++ x.user ++ (":" ++ "****") ++ ("@" ++ x.rest)) =
    some (x.head ++ (x.user ++ ":" ++ "****" ++ ("@" ++ x.rest)))
  simp only [String.append_assoc]

end Parts

/-- An address without a password is shown as it is. -/
theorem mask?_cases (url : String) : mask? url = some url ∨ ∃ x : Parts, url = x.text := by
  obtain ⟨head, tail, hurl, ho⟩ := exists_opens url
  have hend : schemeEnd url = head.utf8ByteSize := hurl ▸ ho.schemeEnd_eq
  cases hat : findLast? '@' url.toList with
  | none => simp [mask?, hat]
  | some n =>
    by_cases hlt : schemeEnd url < n
    case neg => simp [mask?, hat, hlt]
    obtain ⟨front, rest, hfront, hrest, rfl⟩ := exists_append_of_findLast? hat
    -- The at-sign stands behind the head, so the credentials start where the head ends.
    obtain ⟨credentials, rfl, rfl⟩ :=
      exists_append_of_le (hurl.symm.trans hfront) (hend ▸ Nat.le_of_lt hlt)
    have hslice : slice? url (schemeEnd url) (head ++ credentials).utf8ByteSize = some credentials := by
      rw [hend, hfront]
      exact slice?_append ..
    cases hcolon : find? ":".toList credentials.toList with
    | none =>
      left
      simp only [mask?, hat, if_pos hlt, hslice, hcolon, Option.bind_eq_bind, Option.bind_some]
      rfl
    | some m =>
      obtain ⟨user, password, hcredentials, rfl⟩ := exists_append_of_find? hcolon
      replace hcredentials : credentials = user ++ ":" ++ password := hcredentials.trans String.append_assoc.symm
      subst hcredentials
      right
      refine ⟨⟨head, user, password, rest, ho, ?_, hrest⟩, hurl⟩
      rw [String.append_assoc, String.toList_append, ← size_toList] at hcolon
      exact not_mem_of_find?_eq_some hcolon

theorem isSome_mask? (url : String) : (mask? url).isSome = true := by
  obtain h | ⟨x, rfl⟩ := mask?_cases url
  · rw [h]
    rfl
  · rw [x.mask?_text]
    rfl

/-- An address with its password replaced. -/
def mask (url : String) : String := (mask? url).get (isSome_mask? url)

end Gatehouse.ConnectionUrl
