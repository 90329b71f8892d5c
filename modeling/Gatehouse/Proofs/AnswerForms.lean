import Gatehouse.Extension.Remote
import Gatehouse.Proofs.RoundTrip
/-!
# Which answers of remote extensions get through

Whoever asks a remote extension is handed its fault as it is, and its output as it is read. Main statement: an output is
read exactly if it is well-formed, which is a matter of a few fields, each of which may be missing or null where it is
not required; an extension that was not asked for a verdict fails by any code but that of success; and every other
output is a fault of the exchange.
-/

namespace Gatehouse

namespace Wire

/-! ## Fields -/

/-- A value is of a kind; an integer has to fit a word. -/
def Kind.Has : Kind → Value → Prop
  | .text, v => ∃ s, v = .text s
  | .integer, v => ∃ n, v = .int n ∧ Value.fitsWord n = true
  | .record, v => ∃ r, v = .record r

/-- A value of a kind stands under a key. -/
def Holds (m : Record) (key : String) (k : Kind) : Prop := ∃ v, m.find? key = some v ∧ k.Has v

/-- What stands under a key, if anything, is null or a value of a kind. -/
def MayHold (m : Record) (key : String) (k : Kind) : Prop := ∀ v, m.find? key = some v → v = .null ∨ k.Has v

section
variable {m m' : Record} {key key' : String} {v : Value}

theorem mayHold_iff {k : Kind} : MayHold m key k ↔ ∀ v, present? m key = some v → k.Has v := by
  unfold MayHold present?
  cases hv : m.find? key with
  | none => simp
  | some v => cases v <;> simp [Option.filter, Value.isNull]

theorem holds_iff {k : Kind} : Holds m key k ↔ ∃ v, present? m key = some v ∧ k.Has v := by
  unfold Holds present?
  cases hv : m.find? key with
  | none => simp
  | some v => cases v <;> cases k <;> simp [Option.filter, Value.isNull, Kind.Has]

theorem exists_eq_map_iff {α β : Type} {f : α → β} {x : Option β} :
    (∃ o : Option α, x = o.map f) ↔ ∀ b, x = some b → ∃ a, b = f a := by
  cases x with
  | none => exact ⟨fun _ => nofun, fun _ => ⟨none, rfl⟩⟩
  | some b =>
    constructor
    · rintro ⟨o, ho⟩ c hc
      cases hc
      obtain ⟨a, -, ha⟩ := Option.map_eq_some_iff.1 ho.symm
      exact ⟨a, ha.symm⟩
    · intro h
      obtain ⟨a, ha⟩ := h b rfl
      exact ⟨some a, congrArg some ha⟩

theorem exists_text?_iff : (∃ o, text? m key = .ok o) ↔ MayHold m key .text := by
  simp only [text?_eq_ok_iff, mayHold_iff]
  exact exists_eq_map_iff

theorem exists_record?_iff : (∃ o, record? m key = .ok o) ↔ MayHold m key .record := by
  simp only [record?_eq_ok_iff, mayHold_iff]
  exact exists_eq_map_iff

theorem exists_int?_some_iff : (∃ n, int? m key = .ok (some n)) ↔ Holds m key .integer := by
  simp only [int?_eq_ok_iff, holds_iff]
  constructor
  · rintro ⟨n, hn, hfits⟩
    exact ⟨_, hn, n, rfl, hfits n rfl⟩
  · rintro ⟨_, hv, n, rfl, hfits⟩
    exact ⟨n, hv, by simpa using hfits⟩

/-! A reader of a field goes by what stands under its key, a null apart. -/

theorem text?_eq_present : text? m key = match present? m key with
    | none => .ok none
    | some (.text s) => .ok (some s)
    | some _ => .error (.invalidField key .text) := by
  unfold text? present?
  cases hv : m.find? key with
  | none => rfl
  | some v => cases v <;> rfl

theorem record?_eq_present : record? m key = match present? m key with
    | none => .ok none
    | some (.record r) => .ok (some r)
    | some _ => .error (.invalidField key .record) := by
  unfold record? present?
  cases hv : m.find? key with
  | none => rfl
  | some v => cases v <;> rfl

theorem int?_eq_present : int? m key = match present? m key with
    | none => .ok none
    | some v => match v.int? with
      | some n => .ok (some n)
      | none => .error (.invalidField key .integer) := by
  unfold int? present?
  cases hv : m.find? key with
  | none => rfl
  | some v => cases v <;> rfl

theorem present?_insert_of_ne (h : key ≠ key') : present? (m.insert key v) key' = present? m key' := by
  unfold present?
  rw [Table.find?_insert_of_ne _ _ h]

/-- A null says no more than nothing. -/
theorem present?_insert_null (h : m.find? key = none) (key' : String) :
    present? (m.insert key .null) key' = present? m key' := by
  by_cases hk : key = key'
  · subst hk
    unfold present?
    rw [Table.find?_insert_self, h]
    rfl
  · exact present?_insert_of_ne hk

end

/-- A reader goes by what stands under some keys, a null apart. -/
def GoesBy {β : Type} (keys : List String) (read : Record → β) : Prop :=
  ∀ m m', (∀ key ∈ keys, present? m key = present? m' key) → read m = read m'

namespace GoesBy

variable {β : Type} {keys : List String} {read : Record → β}

theorem insert_stray (h : GoesBy keys read) (m : Record) {key : String} (hk : key ∉ keys) (v : Value) :
    read (m.insert key v) = read m :=
  h _ _ fun _ hm => present?_insert_of_ne fun he => hk (he ▸ hm)

theorem insert_null (h : GoesBy keys read) {m : Record} {key : String} (hn : m.find? key = none) :
    read (m.insert key .null) = read m :=
  h _ _ fun key' _ => present?_insert_null hn key'

end GoesBy

/-! ## Answers -/

/-- An output is an authenticator's answer: it has a verdict, and a record if the verdict is success. -/
structure IsAuthnAnswer (m : Record) : Prop where
  result : Holds m resultKey .integer
  authRecord : MayHold m authRecordKey .record
  vouched : m.find? resultKey = some (.int 0) → Holds m authRecordKey .record
  principal : MayHold m principalKey .text
  changeUrl : MayHold m changeUrlKey .text
  userMessage : MayHold m userMessageKey .text

/-- The fields of a mapper's answer are well-formed. -/
structure IsMappingAnswer (m : Record) : Prop where
  user : MayHold m userKey .text
  authRecord : MayHold m authRecordKey .record

/-- The field of an authorizer's answer is well-formed. -/
def IsPrincipalAnswer (m : Record) : Prop := MayHold m principalRecordKey .record

theorem isSuccess_ofCode {code : Int} : (Verdict.ofCode code).isSuccess = true ↔ code = 0 := by
  constructor
  · intro h
    have hv : Verdict.ofCode code = .success := by simpa [Verdict.isSuccess] using h
    rw [← Verdict.code_ofCode code, hv]
    rfl
  · rintro rfl
    rfl

/-- What an authenticator answers does not lack a record exactly if the map has one where it has to. -/
theorem Answers.vouched_iff {m : Record} {a : AuthnResponse} (h : Answers m a) :
    (a.result.isSuccess && a.authRecord.isNone) = false ↔
      (m.find? resultKey = some (.int 0) → Holds m authRecordKey .record) := by
  obtain ⟨⟨code, hc, -, hv⟩, -, hr, -⟩ := h
  have hcode : m.find? resultKey = some (.int 0) ↔ a.result.isSuccess = true := by
    rw [hv, isSuccess_ofCode, (Option.filter_eq_some_iff.1 hc).1]
    simp
  have hrecord : Holds m authRecordKey .record ↔ a.authRecord.isNone = false := by
    rw [holds_iff, hr]
    cases a.authRecord <;> simp [Kind.Has]
  rw [hcode, hrecord]
  cases a.result.isSuccess <;> simp

theorem exists_authnResponse_iff {m : Record} : (∃ a, AuthnResponse.ofMap m = .ok a) ↔ IsAuthnAnswer m := by
  constructor
  · rintro ⟨a, ha⟩
    have h := answers_of_authnResponse ha
    rw [authnResponse_of_answers h] at ha
    split at ha
    · cases ha
    next hs =>
    obtain ⟨code, hc, hf, -⟩ := h.result
    exact {
      result := holds_iff.2 ⟨_, hc, code, rfl, hf⟩
      authRecord := exists_record?_iff.1 ⟨_, record?_eq_ok_iff.2 h.authRecord⟩
      vouched := h.vouched_iff.1 (Bool.eq_false_iff.2 hs)
      principal := exists_text?_iff.1 ⟨_, text?_eq_ok_iff.2 h.principal⟩
      changeUrl := exists_text?_iff.1 ⟨_, text?_eq_ok_iff.2 h.changeUrl⟩
      userMessage := exists_text?_iff.1 ⟨_, text?_eq_ok_iff.2 h.userMessage⟩ }
  · rintro ⟨hres, hr, hv, hp, hu, hm⟩
    obtain ⟨code, hc⟩ := exists_int?_some_iff.2 hres
    obtain ⟨record, hr⟩ := exists_record?_iff.2 hr
    obtain ⟨principal, hp⟩ := exists_text?_iff.2 hp
    obtain ⟨changeUrl, hu⟩ := exists_text?_iff.2 hu
    obtain ⟨userMessage, hm⟩ := exists_text?_iff.2 hm
    obtain ⟨hcode, hf⟩ := int?_eq_ok_iff.1 hc
    have h : Answers m ⟨.ofCode code, principal, record.map AuthRecord.mk, changeUrl, userMessage⟩ := {
      result := ⟨code, hcode, hf code rfl, rfl⟩
      principal := text?_eq_ok_iff.1 hp
      authRecord := by rw [map_fields_map_mk]; exact record?_eq_ok_iff.1 hr
      changeUrl := text?_eq_ok_iff.1 hu
      userMessage := text?_eq_ok_iff.1 hm }
    exact ⟨_, (authnResponse_of_answers h).trans (if_neg (Bool.eq_false_iff.1 (h.vouched_iff.2 hv)))⟩

theorem exists_mappingResponse_iff {m : Record} : (∃ a, MappingResponse.ofMap m = .ok a) ↔ IsMappingAnswer m := by
  unfold MappingResponse.ofMap
  simp only [Except.bind_eq_ok_iff]
  constructor
  · rintro ⟨a, user, hu, record, hr, -⟩
    exact ⟨exists_text?_iff.1 ⟨_, hu⟩, exists_record?_iff.1 ⟨_, hr⟩⟩
  · rintro ⟨hu, hr⟩
    obtain ⟨user, hu⟩ := exists_text?_iff.2 hu
    obtain ⟨record, hr⟩ := exists_record?_iff.2 hr
    exact ⟨_, user, hu, record, hr, rfl⟩

theorem exists_fetchPrincipalResponse_iff {m : Record} :
    (∃ a, FetchPrincipalResponse.ofMap m = .ok a) ↔ IsPrincipalAnswer m := by
  unfold FetchPrincipalResponse.ofMap
  simp only [Except.bind_eq_ok_iff]
  constructor
  · rintro ⟨a, record, hr, -⟩
    exact exists_record?_iff.1 ⟨_, hr⟩
  · intro h
    obtain ⟨record, hr⟩ := exists_record?_iff.2 h
    exact ⟨_, record, hr, rfl⟩

theorem goesBy_authnResponse :
    GoesBy [resultKey, principalKey, authRecordKey, changeUrlKey, userMessageKey] AuthnResponse.ofMap := by
  intro m m' h
  simp only [List.forall_mem_cons] at h
  obtain ⟨hr, hp, ha, hu, hm, -⟩ := h
  unfold AuthnResponse.ofMap
  simp only [int?_eq_present, record?_eq_present, text?_eq_present, hr, hp, ha, hu, hm]

theorem goesBy_mappingResponse : GoesBy [userKey, authRecordKey] MappingResponse.ofMap := by
  intro m m' h
  simp only [List.forall_mem_cons] at h
  obtain ⟨hu, ha, -⟩ := h
  unfold MappingResponse.ofMap
  simp only [record?_eq_present, text?_eq_present, hu, ha]

theorem goesBy_fetchPrincipalResponse : GoesBy [principalRecordKey] FetchPrincipalResponse.ofMap := by
  intro m m' h
  simp only [List.forall_mem_cons] at h
  unfold FetchPrincipalResponse.ofMap
  simp only [record?_eq_present, h.1]

end Wire

namespace Remote

open Wire

/-! ## Reading outputs -/

/-- An output stands for success where no verdict was asked for. -/
def Succeeds (m : Record) : Prop := ∀ v, m.find? resultKey = some v → v = .null ∨ v = .int 0

/-- An output has a code other than that of success. -/
def Fails (m : Record) : Prop :=
  ∃ code, m.find? resultKey = some (.int code) ∧ Value.fitsWord code = true ∧ code ≠ 0

/-- A reader of outputs reads the well-formed ones, tells the failed ones from the ill-formed ones, and looks at some
keys only, where a null is as good as nothing. -/
structure Screens {α : Type} (keys : List String) (read : Record → Except Fault α) (WellFormed Failed : Record → Prop) :
    Prop where
  ok_iff : ∀ m, (∃ a, read m = .ok a) ↔ WellFormed m
  extension_iff : ∀ m, (∃ e, read m = .error e ∧ e.kind = .extension) ↔ Failed m
  protocol : ∀ m, ¬WellFormed m → ¬Failed m → ∃ e, read m = .error e ∧ e.kind = .protocol
  stray : ∀ m key v, key ∉ keys → read (m.insert key v) = read m
  null : ∀ m key, m.find? key = none → read (m.insert key .null) = read m

section
variable {m : Record} {r : Remote}

theorem Fails.not_succeeds (h : Fails m) : ¬Succeeds m := by
  obtain ⟨code, hf, -, h0⟩ := h
  intro hs
  rcases hs _ hf with hv | hv
  · cases hv
  · exact h0 (Value.int.inj hv)

theorem succeeds_iff : Succeeds m ↔ int? m resultKey = .ok none ∨ int? m resultKey = .ok (some 0) := by
  unfold Succeeds
  simp only [int?_eq_ok_iff, present?]
  cases hv : m.find? resultKey with
  | none => simp
  | some v => cases v <;> simp [Option.filter, Value.isNull, Value.fitsWord]

theorem fails_iff : Fails m ↔ ∃ code, int? m resultKey = .ok (some code) ∧ code ≠ 0 := by
  unfold Fails
  simp only [int?_eq_ok_iff, present?]
  cases hv : m.find? resultKey with
  | none => simp
  | some v => cases v <;> simp [Option.filter, Value.isNull]

/-- A verdict is missing or good, bad, or no verdict at all. -/
theorem ensureSuccess_cases (r : Remote) (m : Record) :
    (Succeeds m ∧ r.ensureSuccess m = .ok ()) ∨
      (Fails m ∧ ∃ e, r.ensureSuccess m = .error e ∧ e.kind = .extension) ∨
      (¬Succeeds m ∧ ¬Fails m ∧ ∃ e, r.ensureSuccess m = .error e ∧ e.kind = .protocol) := by
  rw [succeeds_iff, fails_iff]
  unfold ensureSuccess
  cases hc : int? m resultKey with
  | error flaw => exact .inr (.inr ⟨by simp, by simp, flaw.toFault, rfl, rfl⟩)
  | ok o =>
    cases o with
    | none => exact .inl ⟨.inl rfl, rfl⟩
    | some code =>
      by_cases h0 : code = 0
      · subst h0
        exact .inl ⟨.inr rfl, rfl⟩
      · have hv : ¬(Verdict.ofCode code).isSuccess = true := mt isSuccess_ofCode.1 h0
        exact .inr (.inl ⟨⟨code, rfl, h0⟩, r.refused (.ofCode code), if_neg hv, rfl⟩)

end

/-! A reader of messages as a reader of outputs. -/

section
variable {α : Type} {keys : List String} {ofMap : Record → Except Flaw α} {WellFormed : Record → Prop}

theorem exists_mapError_iff {x : Except Flaw α} :
    (∃ a, x.mapError Flaw.toFault = .ok a) ↔ ∃ a, x = .ok a := by
  cases x <;> simp [Except.mapError]

theorem kind_of_mapError {x : Except Flaw α} {e : Fault} (h : x.mapError Flaw.toFault = .error e) :
    e.kind = .protocol := by
  cases x with
  | error flaw =>
    cases h
    rfl
  | ok a => cases h

/-- Where the verdict is part of what is read, every flaw is one of the exchange. -/
theorem screens_plain (hok : ∀ m, (∃ a, ofMap m = .ok a) ↔ WellFormed m) (hgo : GoesBy keys ofMap) :
    Screens keys (fun m => (ofMap m).mapError Flaw.toFault) WellFormed fun _ => False where
  ok_iff m := exists_mapError_iff.trans (hok m)
  extension_iff m := by
    refine ⟨?_, False.elim⟩
    rintro ⟨e, he, hk⟩
    rw [kind_of_mapError he] at hk
    cases hk
  protocol m hm _ := by
    cases hr : (ofMap m).mapError Flaw.toFault with
    | error e => exact ⟨e, rfl, kind_of_mapError hr⟩
    | ok a => exact absurd ((hok m).1 (exists_mapError_iff.1 ⟨a, hr⟩)) hm
  stray m key v hk := by rw [hgo.insert_stray m hk v]
  null m key hn := by rw [hgo.insert_null hn]

/-- Reads an output that has no verdict other than success. -/
def readEnsured (r : Remote) (ofMap : Record → Except Flaw α) (m : Record) : Except Fault α :=
  (r.ensureSuccess m).bind fun _ => (ofMap m).mapError Flaw.toFault

theorem readEnsured_cases (r : Remote) (ofMap : Record → Except Flaw α) (m : Record) :
    (Succeeds m ∧ r.readEnsured ofMap m = (ofMap m).mapError Flaw.toFault) ∨
      (Fails m ∧ ∃ e, r.readEnsured ofMap m = .error e ∧ e.kind = .extension) ∨
      (¬Succeeds m ∧ ¬Fails m ∧ ∃ e, r.readEnsured ofMap m = .error e ∧ e.kind = .protocol) := by
  unfold readEnsured
  rcases r.ensureSuccess_cases m with ⟨hs, he⟩ | ⟨hf, e, he, hk⟩ | ⟨hs, hf, e, he, hk⟩ <;> rw [he]
  · exact .inl ⟨hs, rfl⟩
  · exact .inr (.inl ⟨hf, e, rfl, hk⟩)
  · exact .inr (.inr ⟨hs, hf, e, rfl, hk⟩)

theorem goesBy_readEnsured (r : Remote) (hgo : GoesBy keys ofMap) :
    GoesBy (resultKey :: keys) (r.readEnsured ofMap) := by
  intro m m' h
  obtain ⟨hr, hf⟩ := List.forall_mem_cons.1 h
  unfold readEnsured ensureSuccess
  simp only [int?_eq_present, hr, hgo m m' hf]

/-- Where no verdict was asked for, one other than success comes before every flaw of the fields. -/
theorem screens_ensured (r : Remote) (hok : ∀ m, (∃ a, ofMap m = .ok a) ↔ WellFormed m) (hgo : GoesBy keys ofMap) :
    Screens (resultKey :: keys) (r.readEnsured ofMap) (fun m => Succeeds m ∧ WellFormed m) Fails where
  ok_iff m := by
    rcases r.readEnsured_cases ofMap m with ⟨hs, he⟩ | ⟨hf, e, he, -⟩ | ⟨hs, -, e, he, -⟩ <;> rw [he]
    · rw [exists_mapError_iff, hok, and_iff_right hs]
    · exact ⟨nofun, fun h => absurd h.1 hf.not_succeeds⟩
    · exact ⟨nofun, fun h => absurd h.1 hs⟩
  extension_iff m := by
    rcases r.readEnsured_cases ofMap m with ⟨hs, he⟩ | ⟨hf, e, he, hk⟩ | ⟨-, hf, e, he, hk⟩ <;> rw [he]
    · exact ⟨fun ⟨e, he, hk⟩ => by simp [kind_of_mapError he] at hk, fun h => absurd hs h.not_succeeds⟩
    · exact ⟨fun _ => hf, fun _ => ⟨e, rfl, hk⟩⟩
    · exact ⟨fun ⟨e', he', hk'⟩ => by cases he'; simp [hk] at hk', fun h => absurd h hf⟩
  protocol m hwf hfail := by
    rcases r.readEnsured_cases ofMap m with ⟨hs, he⟩ | ⟨hf, -⟩ | ⟨-, -, he⟩
    · rw [he]
      exact (screens_plain hok hgo).protocol m (fun h => hwf ⟨hs, h⟩) id
    · exact absurd hf hfail
    · exact he
  stray m _ v hk := (goesBy_readEnsured r hgo).insert_stray m hk v
  null _ _ hn := (goesBy_readEnsured r hgo).insert_null hn

end

/-! ## Main statement -/

/-- Whoever asks is handed a fault as it is and an output as it is read, and asks once. -/
structure HandsOn {ρ α : Type} (asked : Except Fault Record × ρ) (read : Record → Except Fault α)
    (answer : Except Fault α × ρ) : Prop where
  fault : ∀ e, asked.1 = .error e → answer.1 = .error e
  output : ∀ m, asked.1 = .ok m → answer.1 = read m
  once : answer.2 = asked.2

theorem handsOn_bind {ρ α : Type} (asked : Except Fault Record × ρ) (read : Record → Except Fault α) :
    HandsOn asked read (asked.1.bind read, asked.2) := by
  obtain ⟨answer, s⟩ := asked
  refine ⟨?_, ?_, rfl⟩
  · rintro e rfl
    rfl
  · rintro m rfl
    rfl

/-- Whatever a remote extension does, its faults come through as they are, and of its outputs exactly the well-formed
ones: an authenticator's with a verdict and its fields, the others' with no verdict but success and their fields. -/
theorem answers_let_through {ρ : Type} (invoke : Remote → Record → StateM ρ (Except Fault Record)) (r : Remote) :
    (∀ q s, HandsOn (invoke r q.toMap s) readAuthn (r.authenticate invoke q s)) ∧
    (∀ q s, HandsOn (invoke r q.toMap s) r.readMapping (r.mapUser invoke q s)) ∧
    (∀ q s, HandsOn (invoke r q.toMap s) r.readMapping (r.mapAuthRecord invoke q s)) ∧
    (∀ q s, HandsOn (invoke r q.toMap s) r.readPrincipal (r.fetchPrincipal invoke q s)) ∧
    Screens [resultKey, principalKey, authRecordKey, changeUrlKey, userMessageKey] readAuthn IsAuthnAnswer
      (fun _ => False) ∧
    Screens [resultKey, userKey, authRecordKey] r.readMapping (fun m => Succeeds m ∧ IsMappingAnswer m) Fails ∧
    Screens [resultKey, principalRecordKey] r.readPrincipal (fun m => Succeeds m ∧ IsPrincipalAnswer m) Fails :=
  ⟨fun _ _ => handsOn_bind _ _, fun _ _ => handsOn_bind _ _, fun _ _ => handsOn_bind _ _, fun _ _ => handsOn_bind _ _,
    screens_plain (fun _ => exists_authnResponse_iff) goesBy_authnResponse,
    r.screens_ensured (fun _ => exists_mappingResponse_iff) goesBy_mappingResponse,
    r.screens_ensured (fun _ => exists_fetchPrincipalResponse_iff) goesBy_fetchPrincipalResponse⟩

end Remote

end Gatehouse
