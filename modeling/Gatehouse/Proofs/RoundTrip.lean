import Gatehouse.Proofs.Assembly
import Gatehouse.Wire.Message
/-!
# Messages come back as they were sent

Every reader of a field asks for what stands under a key and is not null. From this, each message that was written
as a map is read back as it was, and each map that can be read says no more than the message that was read: written
again, it is the map without the keys of others and without nulls. A request is read by the reader of its own
command alone.
-/

namespace Gatehouse.Wire

/-! ## Fields -/

/-- What stands under a key, unless it is null. -/
def present? (m : Record) (key : String) : Option Value := (m.find? key).filter fun v => !v.isNull

/-- What a map says under a key that is one of some keys. -/
def within (keys : List String) (m : Record) (key : String) : Option Value :=
  if key ∈ keys then present? m key else none

/-- Binds a key to a value, if there is one. -/
def insert? (m : Record) (key : String) : Option Value → Record
  | some v => m.insert key v
  | none => m

/-- Copies what a map says under some keys into another map, key by key. -/
def copyInto (r m : Record) (keys : List String) : Record :=
  keys.foldl (fun r key => insert? r key (present? m key)) r

section
variable {m r : Record} {key key' : String}

theorem insertText?_eq (o : Option String) : m.insertText? key o = insert? m key (o.map .text) := by
  cases o <;> rfl

theorem insertRecord?_eq (o : Option Record) : insertRecord? m key o = insert? m key (o.map .record) := by
  cases o <;> rfl

theorem find?_insert? (o : Option Value) :
    (insert? m key o).find? key' = if key = key' ∧ o.isSome then o else m.find? key' := by
  cases o with
  | none => simp [insert?]
  | some v => simp [insert?, Table.find?_insert]

theorem find?_copyInto {keys : List String} : (copyInto r m keys).find? key =
    if key ∈ keys ∧ (present? m key).isSome then present? m key else r.find? key := by
  unfold copyInto
  induction keys generalizing r with
  | nil => simp
  | cons k keys ih =>
    rw [List.foldl_cons, ih, find?_insert?]
    by_cases hk : k = key
    · subst hk
      by_cases hs : (present? m k).isSome <;> simp [hs]
    · simp [hk, Ne.symm hk]

theorem find?_copyInto_empty {keys : List String} : (copyInto ∅ m keys).find? key = within keys m key := by
  rw [find?_copyInto]
  unfold within
  by_cases hk : key ∈ keys
  · cases hp : present? m key <;> simp [hk]
  · simp [hk]

/-! ## Reading a field -/

theorem text?_eq_ok_iff {o : Option String} : text? m key = .ok o ↔ present? m key = o.map .text := by
  unfold text? present?
  cases hm : m.find? key with
  | none => cases o <;> simp
  | some v => cases v <;> cases o <;> simp [Value.isNull]

theorem record?_eq_ok_iff {o : Option Record} : record? m key = .ok o ↔ present? m key = o.map .record := by
  unfold record? present?
  cases hm : m.find? key with
  | none => cases o <;> simp
  | some v => cases v <;> cases o <;> simp [Value.isNull]

theorem int?_eq_ok_iff {o : Option Int} :
    int? m key = .ok o ↔ present? m key = o.map .int ∧ ∀ n ∈ o, Value.fitsWord n = true := by
  unfold int? present?
  cases hm : m.find? key with
  | none => cases o <;> simp
  | some v =>
    cases v with
    | int n =>
      simp only [Value.int?]
      by_cases hn : Value.fitsWord n = true <;> cases o <;> simp [hn, Value.isNull]
      · intro h
        rw [← h]
        exact hn
      · intro h
        subst h
        simpa using hn
    | _ => cases o <;> simp [Value.int?, Value.isNull]

theorem text_eq_ok_iff {s : String} : text m key = .ok s ↔ present? m key = some (.text s) := by
  unfold text
  rw [Except.bind_eq_ok_iff]
  constructor
  · rintro ⟨_ | s', ho, h⟩
    · cases h
    · cases h
      exact text?_eq_ok_iff.1 ho
  · intro h
    exact ⟨some s, text?_eq_ok_iff.2 h, rfl⟩

theorem record_eq_ok_iff : record m key = .ok r ↔ present? m key = some (.record r) := by
  unfold record
  rw [Except.bind_eq_ok_iff]
  constructor
  · rintro ⟨_ | r', ho, h⟩
    · cases h
    · cases h
      exact record?_eq_ok_iff.1 ho
  · intro h
    exact ⟨some r, record?_eq_ok_iff.2 h, rfl⟩

theorem ofText?_eq_some_iff {s : String} {c : Command} : Command.ofText? s = some c ↔ s = c.text := by
  constructor
  · intro h
    have hc := List.find?_some h
    simp at hc
    exact hc.symm
  · rintro rfl
    cases c <;> decide

theorem command_eq_ok_iff {c : Command} : command m = .ok c ↔ present? m commandKey = some (.text c.text) := by
  unfold command present?
  cases hm : m.find? commandKey with
  | none => simp
  | some v =>
    cases v with
    | text s =>
      have hs := ofText?_eq_some_iff (s := s) (c := c)
      cases hc : Command.ofText? s <;> simp_all [Value.isNull]
    | _ => simp [Value.isNull]

theorem expect_eq_ok_iff {c : Command} {u : Unit} :
    expect c m = .ok u ↔ present? m commandKey = some (.text c.text) := by
  unfold expect
  rw [Except.bind_eq_ok_iff, ← command_eq_ok_iff]
  constructor
  · rintro ⟨a, ha, h⟩
    split at h
    · next he => exact he ▸ ha
    · cases h
  · intro h
    exact ⟨c, h, by simp [pure, Except.pure]⟩

/-- A reader that expects another command says which command came. -/
theorem expect_of_ne {c c' : Command} (h : command m = .ok c) (hc : c ≠ c') :
    expect c' m = .error (.unexpectedCommand c c') := by
  unfold expect
  rw [h]
  exact if_neg hc

end

/-! ## Requests -/

/-- The requests of a command. -/
def RequestOf : Command → Type
  | .authenticateCredentials => AuthnRequest
  | .mapUser => MapUserRequest
  | .mapAuthRecord => MapAuthRecordRequest
  | .fetchPrincipalRecord => FetchPrincipalRequest

def writeRequest : (c : Command) → RequestOf c → Record
  | .authenticateCredentials => AuthnRequest.toMap
  | .mapUser => MapUserRequest.toMap
  | .mapAuthRecord => MapAuthRecordRequest.toMap
  | .fetchPrincipalRecord => FetchPrincipalRequest.toMap

def readRequest : (c : Command) → Record → Except Flaw (RequestOf c)
  | .authenticateCredentials => AuthnRequest.ofMap
  | .mapUser => MapUserRequest.ofMap
  | .mapAuthRecord => MapAuthRecordRequest.ofMap
  | .fetchPrincipalRecord => FetchPrincipalRequest.ofMap

/-- The keys of the requests of a command. -/
def requestKeys : Command → List String
  | .authenticateCredentials => [commandKey, userKey, credentialsKey]
  | .mapUser => [commandKey, userKey]
  | .mapAuthRecord | .fetchPrincipalRecord => [commandKey, authRecordKey]

section
variable {m : Record}

theorem authnRequest_eq_ok_iff {q : AuthnRequest} : AuthnRequest.ofMap m = .ok q ↔
    present? m commandKey = some (.text Command.authenticateCredentials.text) ∧
      present? m userKey = some (.text q.user) ∧ present? m credentialsKey = some (.text q.credentials.exposed) := by
  unfold AuthnRequest.ofMap
  simp only [Except.bind_eq_ok_iff, expect_eq_ok_iff, text_eq_ok_iff]
  constructor
  · rintro ⟨-, hc, user, hu, password, hp, h⟩
    cases h
    exact ⟨hc, hu, hp⟩
  · rintro ⟨hc, hu, hp⟩
    exact ⟨(), hc, _, hu, _, hp, rfl⟩

theorem mapUserRequest_eq_ok_iff {q : MapUserRequest} : MapUserRequest.ofMap m = .ok q ↔
    present? m commandKey = some (.text Command.mapUser.text) ∧ present? m userKey = some (.text q.user) := by
  unfold MapUserRequest.ofMap
  simp only [Except.bind_eq_ok_iff, expect_eq_ok_iff, text_eq_ok_iff]
  constructor
  · rintro ⟨-, hc, user, hu, h⟩
    cases h
    exact ⟨hc, hu⟩
  · rintro ⟨hc, hu⟩
    exact ⟨(), hc, _, hu, rfl⟩

theorem mapAuthRecordRequest_eq_ok_iff {q : MapAuthRecordRequest} : MapAuthRecordRequest.ofMap m = .ok q ↔
    present? m commandKey = some (.text Command.mapAuthRecord.text) ∧
      present? m authRecordKey = some (.record q.authRecord.fields) := by
  unfold MapAuthRecordRequest.ofMap
  simp only [Except.bind_eq_ok_iff, expect_eq_ok_iff, record_eq_ok_iff]
  constructor
  · rintro ⟨-, hc, r, hr, h⟩
    cases h
    exact ⟨hc, hr⟩
  · rintro ⟨hc, hr⟩
    exact ⟨(), hc, _, hr, rfl⟩

theorem fetchPrincipalRequest_eq_ok_iff {q : FetchPrincipalRequest} : FetchPrincipalRequest.ofMap m = .ok q ↔
    present? m commandKey = some (.text Command.fetchPrincipalRecord.text) ∧
      present? m authRecordKey = some (.record q.authRecord.fields) := by
  unfold FetchPrincipalRequest.ofMap
  simp only [Except.bind_eq_ok_iff, expect_eq_ok_iff, record_eq_ok_iff]
  constructor
  · rintro ⟨-, hc, r, hr, h⟩
    cases h
    exact ⟨hc, hr⟩
  · rintro ⟨hc, hr⟩
    exact ⟨(), hc, _, hr, rfl⟩

end

/-! ## Answers -/

section
variable {m : Record}

@[simp] theorem map_mk_map_fields (o : Option AuthRecord) : (o.map AuthRecord.fields).map AuthRecord.mk = o := by
  cases o <;> rfl

@[simp] theorem map_fields_map_mk (o : Option Record) : (o.map AuthRecord.mk).map AuthRecord.fields = o := by
  cases o <;> rfl

theorem mappingResponse_eq_ok_iff {a : MappingResponse} : MappingResponse.ofMap m = .ok a ↔
    present? m userKey = a.user.map .text ∧
      present? m authRecordKey = (a.authRecord.map AuthRecord.fields).map .record := by
  unfold MappingResponse.ofMap
  simp only [Except.bind_eq_ok_iff, text?_eq_ok_iff, record?_eq_ok_iff]
  constructor
  · rintro ⟨user, hu, record, hr, h⟩
    cases h
    exact ⟨hu, by rw [map_fields_map_mk, hr]⟩
  · rintro ⟨hu, hr⟩
    exact ⟨_, hu, _, hr, by rw [map_mk_map_fields]; rfl⟩

theorem fetchPrincipalResponse_eq_ok_iff {a : FetchPrincipalResponse} :
    FetchPrincipalResponse.ofMap m = .ok a ↔
      present? m principalRecordKey = (a.principalRecord.map PrincipalRecord.fields).map .record := by
  unfold FetchPrincipalResponse.ofMap
  simp only [Except.bind_eq_ok_iff, record?_eq_ok_iff]
  constructor
  · rintro ⟨record, hr, h⟩
    cases h
    cases record <;> exact hr
  · intro hr
    refine ⟨_, hr, ?_⟩
    obtain ⟨_ | r⟩ := a <;> rfl

/-- A map says what an authenticator answers. -/
structure Answers (m : Record) (a : AuthnResponse) : Prop where
  result : ∃ code, present? m resultKey = some (.int code) ∧ Value.fitsWord code = true ∧ a.result = .ofCode code
  principal : present? m principalKey = a.principal.map .text
  authRecord : present? m authRecordKey = (a.authRecord.map AuthRecord.fields).map .record
  changeUrl : present? m changeUrlKey = a.changeUrl.map .text
  userMessage : present? m userMessageKey = a.userMessage.map .text

/-- A success without a record is not read, whatever else the map says. -/
theorem authnResponse_of_answers {a : AuthnResponse} (h : Answers m a) : AuthnResponse.ofMap m =
    if a.result.isSuccess && a.authRecord.isNone then .error (.missingField authRecordKey) else .ok a := by
  obtain ⟨⟨code, hc, hf, hv⟩, hp, hr, hu, hm⟩ := h
  have hcode : int? m resultKey = .ok (some code) := int?_eq_ok_iff.2 ⟨hc, by simpa using hf⟩
  unfold AuthnResponse.ofMap
  rw [hcode, record?_eq_ok_iff.2 hr, text?_eq_ok_iff.2 hp, text?_eq_ok_iff.2 hu, text?_eq_ok_iff.2 hm]
  simp only [bind, Except.bind, pure, Except.pure, map_mk_map_fields, Option.isNone_map, ← hv]
  split <;> rfl

theorem answers_of_authnResponse {a : AuthnResponse} (h : AuthnResponse.ofMap m = .ok a) : Answers m a := by
  unfold AuthnResponse.ofMap at h
  obtain ⟨_ | code, hc, h⟩ := Except.bind_eq_ok_iff.1 h
  · cases h
  obtain ⟨record, hr, h⟩ := Except.bind_eq_ok_iff.1 h
  split at h
  · cases h
  obtain ⟨principal, hp, h⟩ := Except.bind_eq_ok_iff.1 h
  obtain ⟨changeUrl, hu, h⟩ := Except.bind_eq_ok_iff.1 h
  obtain ⟨userMessage, hm, h⟩ := Except.bind_eq_ok_iff.1 h
  cases h
  obtain ⟨hcode, hf⟩ := int?_eq_ok_iff.1 hc
  exact {
    result := ⟨code, hcode, hf code rfl, rfl⟩
    principal := text?_eq_ok_iff.1 hp
    authRecord := by rw [map_fields_map_mk]; exact record?_eq_ok_iff.1 hr
    changeUrl := text?_eq_ok_iff.1 hu
    userMessage := text?_eq_ok_iff.1 hm }

/-- A verdict is the one of its own code, and the code fits a word. -/
structure Verdict.IsCanonical (v : Verdict) : Prop where
  ofCode_code : ofCode v.code = v
  fits : Value.fitsWord v.code = true

theorem answers_toMap {a : AuthnResponse} (h : a.result.IsCanonical) : Answers a.toMap a := by
  obtain ⟨result, principal, authRecord, changeUrl, userMessage⟩ := a
  refine ⟨⟨result.code, ?_, h.fits, h.ofCode_code.symm⟩, ?_, ?_, ?_, ?_⟩ <;>
    cases principal <;> cases authRecord <;> cases changeUrl <;> cases userMessage <;> rfl

theorem toMap_of_answers {a : AuthnResponse} (h : Answers m a) :
    a.toMap = copyInto ∅ m [resultKey, principalKey, authRecordKey, changeUrlKey, userMessageKey] := by
  obtain ⟨⟨code, hc, -, hv⟩, hp, hr, hu, hm⟩ := h
  simp only [copyInto, List.foldl_cons, List.foldl_nil, hc, hp, hr, hu, hm]
  unfold AuthnResponse.toMap
  rw [insertText?_eq, insertRecord?_eq, insertText?_eq, insertText?_eq, hv, Verdict.code_ofCode]
  rfl

end

/-! ## Messages -/

/-- Messages are read back as they were written, and written again as the map says that they were read off. -/
structure RoundTrips {α : Type} (content : Record → String → Option Value) (write : α → Record)
    (read : Record → Except Flaw α) : Prop where
  read_write : ∀ x, read (write x) = .ok x
  write_read : ∀ m x, read m = .ok x → ∀ key, (write x).find? key = content m key

theorem roundTrips_request (c : Command) : RoundTrips (within (requestKeys c)) (writeRequest c) (readRequest c) := by
  constructor
  · intro q
    cases c with
    | authenticateCredentials => exact authnRequest_eq_ok_iff.2 ⟨rfl, rfl, rfl⟩
    | mapUser => exact mapUserRequest_eq_ok_iff.2 ⟨rfl, rfl⟩
    | mapAuthRecord => exact mapAuthRecordRequest_eq_ok_iff.2 ⟨rfl, rfl⟩
    | fetchPrincipalRecord => exact fetchPrincipalRequest_eq_ok_iff.2 ⟨rfl, rfl⟩
  · intro m q h key
    have hq : writeRequest c q = copyInto ∅ m (requestKeys c) := by
      cases c with
      | authenticateCredentials =>
        obtain ⟨hc, hu, hp⟩ := authnRequest_eq_ok_iff.1 h
        simp only [requestKeys, copyInto, List.foldl, hc, hu, hp]
        rfl
      | mapUser =>
        obtain ⟨hc, hu⟩ := mapUserRequest_eq_ok_iff.1 h
        simp only [requestKeys, copyInto, List.foldl, hc, hu]
        rfl
      | mapAuthRecord =>
        obtain ⟨hc, hr⟩ := mapAuthRecordRequest_eq_ok_iff.1 h
        simp only [requestKeys, copyInto, List.foldl, hc, hr]
        rfl
      | fetchPrincipalRecord =>
        obtain ⟨hc, hr⟩ := fetchPrincipalRequest_eq_ok_iff.1 h
        simp only [requestKeys, copyInto, List.foldl, hc, hr]
        rfl
    rw [hq, find?_copyInto_empty]

theorem command_writeRequest (c : Command) (q : RequestOf c) : command (writeRequest c q) = .ok c := by
  cases c <;> rfl

theorem readRequest_of_ne {c c' : Command} (q : RequestOf c) (hc : c ≠ c') :
    readRequest c' (writeRequest c q) = .error (.unexpectedCommand c c') := by
  have he := expect_of_ne (command_writeRequest c q) hc
  cases c' <;> simp only [readRequest, AuthnRequest.ofMap, MapUserRequest.ofMap, MapAuthRecordRequest.ofMap,
    FetchPrincipalRequest.ofMap, he] <;> rfl

/-- What a map says under some keys, as the answer that something succeeded. -/
def succeeding (keys : List String) (m : Record) (key : String) : Option Value :=
  if key = resultKey then some (.int 0) else within keys m key

theorem find?_copyInto_result {m : Record} {keys : List String} {key : String} (hk : resultKey ∉ keys) :
    (copyInto ((∅ : Record).insert resultKey (.int 0)) m keys).find? key = succeeding keys m key := by
  rw [find?_copyInto, Table.find?_insert, Table.find?_empty]
  unfold succeeding within
  by_cases hr : key = resultKey
  · simp [hr, hk]
  · by_cases hm : key ∈ keys
    · cases hp : present? m key <;> simp [hr, Ne.symm hr, hm]
    · simp [hr, Ne.symm hr, hm]

theorem roundTrips_mappingResponse :
    RoundTrips (succeeding [userKey, authRecordKey]) MappingResponse.toMap MappingResponse.ofMap := by
  constructor
  · intro a
    obtain ⟨user, authRecord⟩ := a
    apply mappingResponse_eq_ok_iff.2
    cases user <;> cases authRecord <;> exact ⟨rfl, rfl⟩
  · intro m a h key
    obtain ⟨hu, hr⟩ := mappingResponse_eq_ok_iff.1 h
    rw [← find?_copyInto_result (by decide)]
    simp only [MappingResponse.toMap, copyInto, List.foldl, insertText?_eq, insertRecord?_eq, hu, hr]
    rfl

theorem roundTrips_fetchPrincipalResponse : RoundTrips (succeeding [principalRecordKey])
    FetchPrincipalResponse.toMap FetchPrincipalResponse.ofMap := by
  constructor
  · intro a
    obtain ⟨principalRecord⟩ := a
    apply fetchPrincipalResponse_eq_ok_iff.2
    cases principalRecord <;> rfl
  · intro m a h key
    have hr := fetchPrincipalResponse_eq_ok_iff.1 h
    rw [← find?_copyInto_result (by decide)]
    simp only [FetchPrincipalResponse.toMap, copyInto, List.foldl, insertRecord?_eq, hr]
    rfl

/-- Messages are read back as they were written, but for a success without a record, which is no answer; and a map
that was read is written again without nulls and without the keys of others. No request is read as another. -/
theorem messages_round_trip :
    (∀ c, RoundTrips (within (requestKeys c)) (writeRequest c) (readRequest c)) ∧
    (∀ {c c'} (q : RequestOf c), c ≠ c' → readRequest c' (writeRequest c q) = .error (.unexpectedCommand c c')) ∧
    RoundTrips (succeeding [userKey, authRecordKey]) MappingResponse.toMap MappingResponse.ofMap ∧
    RoundTrips (succeeding [principalRecordKey]) FetchPrincipalResponse.toMap FetchPrincipalResponse.ofMap ∧
    (∀ a : AuthnResponse, a.result.IsCanonical → AuthnResponse.ofMap a.toMap =
      if a.result.isSuccess && a.authRecord.isNone then .error (.missingField authRecordKey) else .ok a) ∧
    ∀ m a, AuthnResponse.ofMap m = .ok a → ∀ key, a.toMap.find? key =
      within [resultKey, principalKey, authRecordKey, changeUrlKey, userMessageKey] m key := by
  refine ⟨roundTrips_request, readRequest_of_ne, roundTrips_mappingResponse, roundTrips_fetchPrincipalResponse, ?_, ?_⟩
  · intro a ha
    exact authnResponse_of_answers (answers_toMap ha)
  · intro m a h key
    rw [toMap_of_answers (answers_of_authnResponse h), find?_copyInto_empty]

/-- A refusal with an unknown code, a null and a key that is not its own. -/
def loose : Record := .ofList [
  (resultKey, .int 42), (principalKey, .text "ada"), (userMessageKey, .null), ("TRACE", .text "x")]

theorem messages_round_trip_loose : ∃ a, AuthnResponse.ofMap loose = .ok a ∧ a.result.IsCanonical ∧
    AuthnResponse.ofMap a.toMap = .ok a ∧ a.toMap.find? principalKey = some (.text "ada") ∧
    a.toMap.find? "TRACE" = none ∧ readRequest .mapUser (writeRequest .fetchPrincipalRecord ⟨.new "ada"⟩) =
      .error (.unexpectedCommand .fetchPrincipalRecord .mapUser) := by
  obtain ⟨-, hc, -, -, ha, hm⟩ := messages_round_trip
  refine ⟨_, rfl, ⟨rfl, rfl⟩, (ha _ ⟨rfl, rfl⟩).trans rfl, ?_, ?_, hc _ (by decide)⟩
  · rw [hm loose _ rfl]
    rfl
  · rw [hm loose _ rfl]
    rfl

end Gatehouse.Wire
