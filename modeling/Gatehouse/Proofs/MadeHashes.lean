import Gatehouse.Password.Hash
/-!
# Hashes that were made

The text that `make` writes is read back as what was made, whatever the password is, and so every password can be
compared with it: the outcome is never a fault. Main statements: bytes are read back from their text, and a made hash
fits a password exactly if that one hashes to the same bytes under the same salt.
-/

namespace Gatehouse

/-! ## Bytes as text -/

namespace Base64

variable {a : Alphabet}

theorem value?_char {n : Nat} (hn : n < 64) : a.value? (a.char n) = some n := by
  cases a <;> decide +revert +kernel

theorem byte_eq {n : Nat} {x : UInt8} (h : n % 256 = x.toNat) : UInt8.ofNat n = x :=
  UInt8.toNat_inj.1 ((UInt8.toNat_ofNat' ..).trans h)

/-- Bytes are read back from their text. -/
theorem decodeChars?_encodeChars (bytes : List UInt8) : decodeChars? a (encodeChars a bytes) = some bytes := by
  -- The characters are the digits to base 64 of up to three bytes, which are put together again.
  induction bytes using encodeChars.induct with
  | case1 => rfl
  | case2 x =>
    have hx := x.toNat_lt
    have hn : x.toNat * 16 / 64 * 64 + x.toNat * 16 % 64 = x.toNat * 16 := by omega
    simp only [encodeChars, decodeChars?]
    rw [value?_char (by omega), value?_char (by omega)]
    show (if (x.toNat * 16 / 64 * 64 + x.toNat * 16 % 64) % 16 = 0 then some [UInt8.ofNat (_ / 16)] else none) = _
    rw [hn, if_pos (by omega), byte_eq (x := x) (by omega)]
  | case3 x y =>
    have hx := x.toNat_lt
    have hy := y.toNat_lt
    generalize hn : (x.toNat * 256 + y.toNat) * 4 = n
    have hd : (n / 4096 * 64 + n / 64 % 64) * 64 + n % 64 = n := by omega
    simp only [encodeChars, decodeChars?, hn]
    rw [value?_char (by omega), value?_char (by omega), value?_char (by omega)]
    show (if ((n / 4096 * 64 + n / 64 % 64) * 64 + n % 64) % 4 = 0 then
      some [UInt8.ofNat (_ / 1024), UInt8.ofNat (_ / 4)] else none) = _
    rw [hd, if_pos (by omega), byte_eq (x := x) (by omega), byte_eq (x := y) (by omega)]
  | case4 x y z rest ih =>
    have hx := x.toNat_lt
    have hy := y.toNat_lt
    have hz := z.toNat_lt
    generalize hn : (x.toNat * 256 + y.toNat) * 256 + z.toNat = n
    have hd : ((n / 262144 * 64 + n / 4096 % 64) * 64 + n / 64 % 64) * 64 + n % 64 = n := by omega
    simp only [encodeChars, decodeChars?, hn]
    rw [value?_char (by omega), value?_char (by omega), value?_char (by omega), value?_char (by omega), ih]
    show some (UInt8.ofNat ((((n / 262144 * 64 + n / 4096 % 64) * 64 + n / 64 % 64) * 64 + n % 64) / 65536) ::
      UInt8.ofNat (_ / 256) :: UInt8.ofNat _ :: rest) = _
    rw [hd, byte_eq (x := x) (by omega), byte_eq (x := y) (by omega), byte_eq (x := z) (by omega)]

/-- A text of bytes holds characters of the alphabet. -/
theorem mem_characters_of_mem_encodeChars {c : Char} {bytes : List UInt8} (hc : c ∈ encodeChars a bytes) :
    c ∈ a.characters := by
  have hchar : ∀ n, a.char n ∈ a.characters := by
    intro n
    unfold Alphabet.char
    rw [List.getD_eq_getElem?_getD]
    cases h : a.characters[n]? with
    | none => cases a <;> decide
    | some d => exact List.mem_of_getElem? h
  induction bytes using encodeChars.induct with
  | case1 => cases hc
  | case2 | case3 =>
    simp only [encodeChars, List.mem_cons, List.not_mem_nil, or_false] at hc
    rcases hc with rfl | rfl | rfl <;> exact hchar _
  | case4 x y z rest ih =>
    simp only [encodeChars, List.mem_cons] at hc
    rcases hc with rfl | rfl | rfl | rfl | hc
    · exact hchar _
    · exact hchar _
    · exact hchar _
    · exact hchar _
    · exact ih hc

/-- Three bytes take four characters. -/
theorem length_encodeChars (bytes : List UInt8) : (encodeChars a bytes).length = (bytes.length * 4 + 2) / 3 := by
  induction bytes using encodeChars.induct with
  | case1 => rfl
  | case2 | case3 => simp [encodeChars]
  | case4 x y z rest ih =>
    simp only [encodeChars, List.length_cons, ih]
    omega

end Base64

/-! ## Lengths of hashes -/

namespace Blake2b

theorem size_compress (h m : Array UInt64) (count : Nat) (last : Bool) : (compress h m count last).size = 8 :=
  Array.size_ofFn

theorem size_absorb (fuel : Nat) (h : Array UInt64) (count : Nat) (bytes : List UInt8) :
    (absorb (fuel + 1) h count bytes).size = 8 := by
  induction fuel generalizing h count bytes with
  | zero =>
    simp only [absorb]
    split
    · exact size_compress ..
    · exact size_compress ..
  | succ fuel ih =>
    rw [absorb]
    split
    · exact size_compress ..
    · exact ih ..

theorem length_wordBytes (count : Nat) (w : UInt64) : (wordBytes count w).length = count := by
  induction count generalizing w with
  | zero => rfl
  | succ count ih => exact congrArg Nat.succ (ih _)

/-- A hash has the length that was asked for. -/
theorem length_hash {size : Nat} (hs : size ≤ 64) (message : List UInt8) : (hash size message).length = size := by
  unfold hash
  rw [List.length_take, List.length_flatMap]
  simp only [length_wordBytes, List.map_const', List.sum_replicate_nat, Array.length_toList, size_absorb]
  exact Nat.min_eq_left hs

end Blake2b

namespace Argon2

theorem length_hash {s : Settings} (hs : s.size ≤ 64) (password salt : List UInt8) :
    (hash s password salt).length = s.size := by
  unfold hash longHash
  simp only [if_pos hs, Blake2b.length_hash hs]

end Argon2

/-! ## Fields between separators -/

namespace PasswordHash

theorem splitOn_of_not_mem {x : Char} {field : List Char} (h : x ∉ field) : splitOn x field = [field] := by
  induction field with
  | nil => rfl
  | cons c field ih =>
    rw [List.mem_cons, not_or] at h
    obtain ⟨hc, hf⟩ := h
    rw [splitOn, ih hf]
    exact if_neg (Ne.symm hc)

theorem splitOn_append {x : Char} {field : List Char} (h : x ∉ field) (rest : List Char) :
    splitOn x (field ++ x :: rest) = field :: splitOn x rest := by
  have hne : splitOn x rest ≠ [] := by
    cases rest with
    | nil => exact List.cons_ne_nil _ _
    | cons c rest =>
      unfold splitOn
      split
      · split <;> exact List.cons_ne_nil _ _
      · exact List.cons_ne_nil _ _
  obtain ⟨first, fields, hs⟩ := List.exists_cons_of_ne_nil hne
  induction field with
  | nil =>
    show splitOn x (x :: rest) = [] :: splitOn x rest
    rw [splitOn, hs]
    exact if_pos rfl
  | cons c field ih =>
    rw [List.mem_cons, not_or] at h
    obtain ⟨hc, hf⟩ := h
    rw [List.cons_append, splitOn, ih hf]
    exact if_neg (Ne.symm hc)

/-! ## What is made is read back -/

theorem value?_encodeChars {bytes : List UInt8} (h : bytes.length ≤ 48) :
    value? (Base64.encodeChars .standard bytes) = some (Base64.encode .standard bytes) := by
  have hlength : (Base64.encodeChars .standard bytes).length ≤ 64 := by
    rw [Base64.length_encodeChars]
    omega
  have hstandard : (Base64.Alphabet.characters .standard).all
      fun c => c.isAlphanum || c == '/' || c == '+' || c == '.' || c == '-' := by decide
  have hall : (Base64.encodeChars .standard bytes).all
      fun c => c.isAlphanum || c == '/' || c == '+' || c == '.' || c == '-' :=
    List.all_eq_true.2 fun c hc =>
      List.all_eq_true.1 hstandard c (Base64.mem_characters_of_mem_encodeChars hc)
  unfold value?
  rw [hall, decide_eq_true hlength]
  rfl

/-- The separator of fields is not in the text of bytes. -/
theorem dollar_not_mem_encodeChars (bytes : List UInt8) : '$' ∉ Base64.encodeChars .standard bytes :=
  fun h => absurd (Base64.mem_characters_of_mem_encodeChars h) (by decide)

/-- What `make` makes. -/
def made (password : String) (salt : List UInt8) : PasswordHash where
  algorithm := "argon2id"
  version := some 19
  parameters := [("m", "19456"), ("t", "2"), ("p", "1")]
  salt := some (Base64.encode .standard salt)
  hash := some (Argon2.hash {} password.toUTF8.data.toList salt)

theorem toList_make (password : String) (salt : List UInt8) : (make password salt).toList =
    [] ++ '$' :: ("argon2id".toList ++ '$' :: ("v=19".toList ++ '$' :: ("m=19456,t=2,p=1".toList ++ '$' ::
      (Base64.encodeChars .standard salt ++ '$' ::
        Base64.encodeChars .standard (Argon2.hash {} password.toUTF8.data.toList salt))))) := by
  have hhead : "$argon2id$v=19$m=" ++ toString 19456 ++ ",t=" ++ toString 2 ++ ",p=" ++ toString 1 ++ "$" =
      "$argon2id$v=19$m=19456,t=2,p=1$" := by decide
  unfold make
  dsimp only
  rw [hhead]
  simp [Base64.encode]

theorem bytes?_encodeChars {bytes : List UInt8} (h : 10 ≤ bytes.length) (h' : bytes.length ≤ 64) :
    bytes? (Base64.encodeChars .standard bytes) = some bytes := by
  unfold bytes?
  rw [Base64.decodeChars?_encodeChars]
  exact if_pos ⟨h, h'⟩

theorem salt?_encodeChars {bytes : List UInt8} (h : 3 ≤ bytes.length) (h' : bytes.length ≤ 48) :
    salt? (Base64.encodeChars .standard bytes) = some (Base64.encode .standard bytes) := by
  unfold salt?
  rw [if_pos (by rw [Base64.length_encodeChars]; omega), value?_encodeChars h']

/-- A text with all its fields is read field by field. -/
theorem ofText?_of_fields {s name text : String} {algorithm v parameters salt hash : List Char}
    {written : List (String × String)} {bytes : List UInt8} {n : Nat}
    (hs : splitOn '$' s.toList = [[], algorithm, 'v' :: '=' :: v, parameters, salt, hash])
    (ha : name? algorithm = some name) (hv : decimal? v = some n) (hc : ',' ∉ v) (hp : '=' ∈ parameters)
    (hw : parameters? parameters = some written) (ht : salt? salt = some text) (hb : bytes? hash = some bytes) :
    ofText? s = some {
      algorithm := name, version := some n, parameters := written, salt := some text, hash := some bytes } := by
  unfold ofText?
  rw [hs]
  simp [ha, version?, hv, hc, parameterField?, hp, hw, ht, hb]

/-- The text of a made hash is read back. -/
theorem ofText?_make (password : String) {salt : List UInt8} (h : 3 ≤ salt.length) (h' : salt.length ≤ 48) :
    ofText? (make password salt) = some (made password salt) := by
  have hlength : (Argon2.hash {} password.toUTF8.data.toList salt).length = 32 := Argon2.length_hash (by decide) _ _
  have hs := congrArg (splitOn '$') (toList_make password salt)
  rw [splitOn_append (by decide), splitOn_append (by decide), splitOn_append (by decide), splitOn_append (by decide),
    splitOn_append (dollar_not_mem_encodeChars _), splitOn_of_not_mem (dollar_not_mem_encodeChars _)] at hs
  exact ofText?_of_fields (v := ['1', '9']) hs (by decide) (by decide) (by decide) (by decide) (by decide)
    (salt?_encodeChars h h') (bytes?_encodeChars (by omega) (by omega))

/-- A made hash fits a password exactly if it is what the password hashes to. -/
theorem verify_make (password origin : String) {salt : List UInt8} (h : 8 ≤ salt.length) (h' : salt.length ≤ 48) :
    verify password (make origin salt) = .ok (Argon2.hash {} password.toUTF8.data.toList salt ==
      Argon2.hash {} origin.toUTF8.data.toList salt) := by
  have hlength : (Argon2.hash {} origin.toUTF8.data.toList salt).length = 32 := Argon2.length_hash (by decide) _ _
  have hsalt : Base64.decode? .standard (Base64.encode .standard salt) = some salt := by
    unfold Base64.decode? Base64.encode
    rw [String.toList_ofList, Base64.decodeChars?_encodeChars]
  have hsettings : (made origin salt).settings? 32 = some {} := rfl
  have hfits : (made origin salt).fits? password = some (Argon2.hash {} password.toUTF8.data.toList salt ==
      Argon2.hash {} origin.toUTF8.data.toList salt) := by
    unfold fits?
    show ((made origin salt).settings? (Argon2.hash {} origin.toUTF8.data.toList salt).length).bind _ = _
    rw [hlength, hsettings]
    show (Base64.decode? .standard (Base64.encode .standard salt)).bind _ = _
    rw [hsalt]
    exact if_pos h
  unfold verify
  rw [ofText?_make origin (by omega) h']
  dsimp only
  rw [hfits]

end PasswordHash

end Gatehouse
