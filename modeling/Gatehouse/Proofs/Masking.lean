import Gatehouse.ConnectionUrl
/-!
# What is shown of a password

Nothing: whatever a password is, even if it holds the very characters that addresses are cut at, the same is
shown of the address. What is shown is an address again, of which the same is shown.
-/

namespace Gatehouse.ConnectionUrl

open ByteOffset

theorem mask?_eq (url : String) : mask? url = some (mask url) := (Option.some_get (isSome_mask? url)).symm

theorem Parts.mask_text (x : Parts) : mask x.text = x.hidden.text :=
  Option.some.inj ((mask?_eq x.text).symm.trans x.mask?_text)

/-- To hide a hidden password changes nothing. -/
theorem mask_mask (url : String) : mask (mask url) = mask url := by
  obtain h | ⟨x, rfl⟩ := mask?_cases url
  · have hself : mask url = url := Option.some.inj ((mask?_eq url).symm.trans h)
    rw [hself, hself]
  · rw [x.mask_text, x.hidden.mask_text]
    rfl

/-- An address with a scheme, in its parts. -/
def Parts.ofScheme (scheme user password rest : String) (hs : ':' ∉ scheme.toList) (hu : ':' ∉ user.toList)
    (hr : '@' ∉ rest.toList) : Parts where
  head := scheme ++ "://"
  user := user
  password := password
  rest := rest
  user_ends := hu
  password_ends := hr
  opens := by
    refine .scheme ?_
    rw [String.toList_append, String.toList_append, ← size_toList]
    refine (find?_append_of_not_mem hs).trans ?_
    exact congrArg _ (find?_append_self (by decide) _)

/-- Of an address with scheme, user and password everything but the password is shown, whatever the password is.
Every address can be shown, since no cut falls within a character, and what is shown stays as it is when it is
shown again. -/
theorem mask_conceals_password :
    (∀ scheme user password rest : String, ':' ∉ scheme.toList → ':' ∉ user.toList → '@' ∉ rest.toList →
      mask (scheme ++ "://" ++ user ++ ":" ++ password ++ "@" ++ rest) =
        scheme ++ "://" ++ user ++ ":****@" ++ rest) ∧
      ∀ url, mask? url = some (mask url) ∧ mask (mask url) = mask url := by
  refine ⟨fun scheme user password rest hs hu hr => ?_, fun url => ⟨mask?_eq url, mask_mask url⟩⟩
  let x := Parts.ofScheme scheme user password rest hs hu hr
  have htext : scheme ++ "://" ++ user ++ ":" ++ password ++ "@" ++ rest = x.text := by
    simp only [x, Parts.text, Parts.credentials, Parts.ofScheme, String.append_assoc]
  have hhidden : scheme ++ "://" ++ user ++ (":" ++ "****" ++ "@") ++ rest = x.hidden.text := by
    simp only [x, Parts.text, Parts.credentials, Parts.hidden, Parts.ofScheme, String.append_assoc]
  rw [htext, x.mask_text]
  exact hhidden.symm

/-- At a password with a separator, an at-sign and colons in it, between letters of two bytes. -/
theorem mask_conceals_password_delimiters :
    ':' ∉ "postgres".toList ∧ ':' ∉ "ü".toList ∧ '@' ∉ "db/ß".toList ∧
      mask "postgres://ü:p@ß://:s@db/ß" = "postgres://ü:****@db/ß" :=
  have hscheme : ':' ∉ "postgres".toList := by decide
  have huser : ':' ∉ "ü".toList := by decide
  have hrest : '@' ∉ "db/ß".toList := by decide
  ⟨hscheme, huser, hrest, mask_conceals_password.1 "postgres" "ü" "p@ß://:s" "db/ß" hscheme huser hrest⟩

end Gatehouse.ConnectionUrl
