import Gatehouse.Proofs.Course
/-!
# The schedule of the calls

The calls that a login attempt makes to its collaborators come by a schedule that is fixed before the first
call. `Follows` says of a transcript, step by step, that every call is the next one of the schedule, that it
is made with what the preceding replies amount to, and that nothing but cleaning up comes after a call that
failed. `InOrder` is what this amounts to for the transcript as a whole.
-/

namespace Gatehouse.Login

/-! ## Calls -/

/-- The parts of a session that are written one by one. -/
inductive SessionPart where
  | user
  | seen
  | profile
  | authRecord
  | principalRecord
  | password
  | hardLimit
deriving DecidableEq

/-- The part that an edit writes. -/
def partOf : Session.Edit → SessionPart
  | .user _ => .user
  | .seen => .seen
  | .profile _ => .profile
  | .authRecord _ => .authRecord
  | .principalRecord _ => .principalRecord
  | .password _ => .password
  | .hardLimit _ => .hardLimit

/-- What a collaborator is called for. -/
inductive Call where
  | recallUser
  | recallPassword
  | mapUser
  | authenticate
  | mapAuthRecord
  | fetchPrincipal
  | saveUser
  | checkPermission
  | checkAdmin
  | newToken
  | write (part : SessionPart)
deriving DecidableEq

/-- The call that a request makes. -/
def Request.call? : Request → Option Call
  | .sessions (.user? _) => some .recallUser
  | .sessions (.password? _) => some .recallPassword
  | .sessions (.write _ e) => some (.write (partOf e))
  | .mapUser .. => some .mapUser
  | .authenticate .. => some .authenticate
  | .mapAuthRecord .. => some .mapAuthRecord
  | .fetchPrincipal .. => some .fetchPrincipal
  | .saveUser _ => some .saveUser
  | .checkPermission _ => some .checkPermission
  | .checkAdmin _ => some .checkAdmin
  | .newToken => some .newToken
  | _ => none

/-- Requests that go with the calls: reports and audit entries, fresh identifiers and the clock. -/
def Request.isIncidental : Request → Bool
  | .report _ | .audit .. | .newId | .now => true
  | _ => false

/-- Requests that may still be made after a call that failed. -/
def Request.isAftermath : Request → Bool
  | .report _ | .audit .. | .sessions (.remove _) => true
  | _ => false

/-- Whether a reply ends the attempt: the collaborator failed, refused, denied, or does not know. -/
def Exchange.stops : Exchange → Bool
  | ⟨.authenticate .., .ok a⟩ => !a.result.isSuccess || a.authRecord.isNone
  | ⟨.fetchPrincipal .., .ok a⟩ => a.principalRecord.isNone
  | ⟨.checkPermission _, .ok permitted⟩ => !permitted
  | x => x.fault?.isSome

/-- The calls of a transcript, in order. -/
def calls (tr : List Exchange) : List Call := tr.filterMap fun x => x.request.call?

theorem calls_append (t u : List Exchange) : calls (t ++ u) = calls t ++ calls u := List.filterMap_append

/-! ## The schedule -/

/-- The calls that recall what a session remembers. -/
def recallSchedule (p : LoginParameters) : List Call :=
  if p.credentialSession?.isSome then [.recallUser, .recallPassword] else []

/-- The calls that check credentials. -/
def askSchedule (profile : Profile) : List Call :=
  (if profile.mapper.isSome && profile.authenticator.capabilities.acceptsCredentials then [.mapUser] else [])
    ++ [.authenticate]

/-- The calls that prove who logs in. -/
def proofSchedule (profile : Profile) (p : LoginParameters) : List Call :=
  if p.authRecord.isSome then [] else recallSchedule p ++ askSchedule profile

/-- The calls that map the record. -/
def mapSchedule (profile : Profile) : List Call := if profile.mapper.isSome then [.mapAuthRecord] else []

/-- The parts of a session that are written. -/
def partSchedule (s : SessionSettings) (password : Option Secret) : List SessionPart :=
  [.user, .seen, .profile, .authRecord, .principalRecord]
    ++ (if s.retainPassword && password.isSome then [.password] else [])
    ++ [.hardLimit]

/-- The calls that issue a session. -/
def issueSchedule (s : SessionSettings) (password : Option Secret) : List Call :=
  .newToken :: (partSchedule s password).map .write

/-- The calls of an attempt that gets to a session. -/
def schedule (s : Setup) (profile : Profile) (p : LoginParameters) : List Call :=
  proofSchedule profile p ++ (mapSchedule profile ++ ([.fetchPrincipal] ++ ([.saveUser] ++
    ([.checkPermission, .checkAdmin] ++ issueSchedule s.session p.givenPassword?))))

/-- No call is scheduled twice. -/
theorem nodup_schedule (s : Setup) (profile : Profile) (p : LoginParameters) : (schedule s profile p).Nodup := by
  unfold schedule proofSchedule recallSchedule askSchedule mapSchedule issueSchedule partSchedule
  repeat' split
  all_goals decide

/-! ## What the replies amount to -/

/-- What has been learned from replies. -/
structure Learned where
  /-- The user and the password that the consulted session remembers. -/
  user : Option LocalUser := none
  password : Option Secret := none
  userMapping : Option Wire.MappingResponse := none
  response : Option Wire.AuthnResponse := none
  recordMapping : Option Wire.MappingResponse := none
  principal : Option PrincipalRecord := none
  id : Option ObjectId := none
  row : Option LocalUser := none
  admin : Option Bool := none
  token : Option String := none
  time : Option Instant := none

namespace Learned

/-- What is known after one more reply. -/
def learn (k : Learned) : Exchange → Learned
  | ⟨.sessions (.user? _), .ok user⟩ => { k with user }
  | ⟨.sessions (.password? _), .ok password⟩ => { k with password }
  | ⟨.mapUser .., .ok answer⟩ => { k with userMapping := some answer }
  | ⟨.authenticate .., .ok response⟩ => { k with response := some response }
  | ⟨.mapAuthRecord .., .ok answer⟩ => { k with recordMapping := some answer }
  | ⟨.fetchPrincipal .., .ok answer⟩ => { k with principal := answer.principalRecord }
  | ⟨.newId, id⟩ => { k with id := some id }
  | ⟨.saveUser _, .ok row⟩ => { k with row := some row }
  | ⟨.checkAdmin _, .ok admin⟩ => { k with admin := some admin }
  | ⟨.newToken, .ok token⟩ => { k with token := some token }
  | ⟨.now, time⟩ => { k with time := some time }
  | _ => k

section
variable (k : Learned) (s : Setup) (profile : Profile) (p : LoginParameters)

/-- The credentials to check. -/
def credentials : Option (String × Secret) := do
  let name ← p.givenName?
  let password ← p.givenPassword?
  some ((recollect k.user k.password).getD (name, password))

/-- The name to send to the authenticator. -/
def sentName : Option String := do
  let (name, _) ← k.credentials p
  if profile.mapper.isSome && profile.authenticator.capabilities.acceptsCredentials then
    k.userMapping.map fun answer => answer.userOr name
  else some name

/-- The record of whoever logs in. -/
def proven : Option AuthRecord := p.authRecord <|> k.response.bind Wire.AuthnResponse.authRecord

/-- The record that the authorizer is to see. -/
def record : Option AuthRecord :=
  (k.proven p).bind fun record =>
    if profile.mapper.isSome then k.recordMapping.map fun answer => answer.authRecordOr record else some record

/-- The user that the principal is here. -/
def candidate : Option LocalUser := do
  let principal ← k.principal
  let id ← k.id
  (LocalUser.ofPrincipal id profile.authorizer.name principal).toOption

/-- What the session is to hold. -/
def grant : Option Grant := do
  let row ← k.row
  let admin ← k.admin
  let authRecord ← k.record profile p
  let principalRecord ← k.principal
  some {
    profile := profile.name, user := { row with admin }, authRecord, principalRecord
    password := p.givenPassword? }

/-- The write of a part of the session. -/
def write (part : SessionPart) : Option Request := do
  let token ← k.token
  let grant ← k.grant profile p
  let now ← k.time
  let edit ← (grant.edits s.session now).find? fun e => partOf e = part
  some (.sessions (.write token edit))

/-- The request by which a call is to be made. -/
def request? : Call → Option Request
  | .recallUser => p.credentialSession?.map fun token => .sessions (.user? token)
  | .recallPassword => p.credentialSession?.map fun token => .sessions (.password? token)
  | .mapUser => do some (.mapUser (← profile.mapper) { user := (← k.credentials p).1 })
  | .authenticate => do
    let (_, credentials) ← k.credentials p
    some (.authenticate profile.authenticator { user := ← k.sentName profile p, credentials })
  | .mapAuthRecord => do some (.mapAuthRecord (← profile.mapper) { authRecord := ← k.proven p })
  | .fetchPrincipal => do some (.fetchPrincipal profile.authorizer { authRecord := ← k.record profile p })
  | .saveUser => (k.candidate profile).map .saveUser
  | .checkPermission => k.row.map fun row => .checkPermission (.login row)
  | .checkAdmin => k.row.map .checkAdmin
  | .newToken => some .newToken
  | .write part => k.write s profile p part

end

end Learned

theorem Learned.grant_eq {k : Learned} {profile : Profile} {p : LoginParameters} {row : LocalUser} {admin : Bool}
    {authRecord : AuthRecord} {principalRecord : PrincipalRecord} (hw : k.row = some row)
    (ha : k.admin = some admin) (hr : k.record profile p = some authRecord) (hp : k.principal = some principalRecord) :
    k.grant profile p = some {
      profile := profile.name, user := { row with admin }, authRecord, principalRecord
      password := p.givenPassword? } := by
  simp [Learned.grant, hw, ha, hr, hp]

/-- What has been learned from the replies in a transcript. -/
def learned (tr : List Exchange) : Learned := tr.foldl Learned.learn {}

/-! ## Following the schedule -/

section
variable (s : Setup) (profile : Profile) (p : LoginParameters)

/-- Every call of a schedule is made in a transcript, in order and as due, and none of them fails. -/
inductive Passes : Learned → List Call → List Exchange → Learned → Prop
  | nil (k : Learned) : Passes k [] [] k
  | aside {k k' cs x tr} (hx : x.request.isIncidental = true) (h : Passes (k.learn x) cs tr k') :
      Passes k cs (x :: tr) k'
  | call {k k' c cs x tr} (hc : x.request.call? = some c) (hr : k.request? s profile p c = some x.request)
      (hg : x.stops = false) (h : Passes (k.learn x) cs tr k') : Passes k (c :: cs) (x :: tr) k'

/-- What may still be asked once a call has failed: a session that was begun is removed. -/
def Learned.mopsUp (k : Learned) (failed : Call) : Request → Prop
  | .report _ | .audit .. => True
  | .sessions (.remove token) => k.token = some token ∧ ∃ part, failed = .write part
  | _ => False

/-- The calls of a schedule are made in order and as due, up to one that fails or to the end. -/
inductive Follows : Learned → List Call → List Exchange → Prop
  | ended (k : Learned) (cs : List Call) : Follows k cs []
  | aside {k cs x tr} (hx : x.request.isIncidental = true) (h : Follows (k.learn x) cs tr) :
      Follows k cs (x :: tr)
  | call {k c cs x tr} (hc : x.request.call? = some c) (hr : k.request? s profile p c = some x.request)
      (hg : x.stops = false) (h : Follows (k.learn x) cs tr) : Follows k (c :: cs) (x :: tr)
  | stopped {k c cs x tr} (hc : x.request.call? = some c) (hr : k.request? s profile p c = some x.request)
      (hx : x.stops = true) (ht : ∀ y ∈ tr, k.mopsUp c y.request) : Follows k (c :: cs) (x :: tr)

end

section
variable {s : Setup} {profile : Profile} {p : LoginParameters} {k k' k'' : Learned} {a b : List Call}
  {t u : List Exchange}

theorem Passes.append (ht : Passes s profile p k a t k') (hu : Passes s profile p k' b u k'') :
    Passes s profile p k (a ++ b) (t ++ u) k'' := by
  induction ht with
  | nil k => exact hu
  | aside hx _ ih => exact .aside hx (ih hu)
  | call hc hr hg _ ih => exact .call hc hr hg (ih hu)

theorem Passes.follows (ht : Passes s profile p k a t k') (hu : Follows s profile p k' b u) :
    Follows s profile p k (a ++ b) (t ++ u) := by
  induction ht with
  | nil k => exact hu
  | aside hx _ ih => exact .aside hx (ih hu)
  | call hc hr hg _ ih => exact .call hc hr hg (ih hu)

/-- An attempt may end with a call that fails. -/
theorem Follows.last {c : Call} {cs : List Call} {x : Exchange} (hc : x.request.call? = some c)
    (hr : k.request? s profile p c = some x.request) (hx : x.stops = true) : Follows s profile p k (c :: cs) [x] :=
  .stopped hc hr hx fun _ hy => absurd hy List.not_mem_nil

/-- Where an attempt stops, the rest of the schedule does not matter. -/
theorem Follows.more (h : Follows s profile p k a t) (b : List Call) : Follows s profile p k (a ++ b) t := by
  induction h with
  | ended k cs => exact .ended k _
  | aside hx _ ih => exact .aside hx ih
  | call hc hr hg _ ih => exact .call hc hr hg ih
  | stopped hc hr hx ht => exact .stopped hc hr hx ht

/-- An audit entry may follow in any case. -/
theorem Follows.audited (h : Follows s profile p k a t) (who : String) (event : AuditEvent) :
    Follows s profile p k a (t ++ [⟨.audit who event, ()⟩]) := by
  induction h with
  | ended k cs => exact .aside rfl (.ended _ cs)
  | aside hx _ ih => exact .aside hx ih
  | call hc hr hg _ ih => exact .call hc hr hg ih
  | stopped hc hr hx ht =>
    refine .stopped hc hr hx fun y hy => ?_
    rcases List.mem_append.1 hy with hy | hy
    · exact ht y hy
    · cases List.mem_singleton.1 hy
      trivial

end

/-! ## What follows from it -/

section
variable {s : Setup} {profile : Profile} {p : LoginParameters} {k k' : Learned} {cs : List Call}
  {x : Exchange} {tr t u : List Exchange}

theorem call?_of_isIncidental {r : Request} (h : r.isIncidental = true) : r.call? = none := by
  cases r <;> first | rfl | cases h

theorem call?_of_mopsUp {c : Call} {r : Request} (h : k.mopsUp c r) : r.call? = none := by
  cases r with
  | sessions op => cases op <;> first | rfl | exact h.elim
  | _ => first | rfl | exact h.elim

theorem stops_of_isIncidental (h : x.request.isIncidental = true) : x.stops = false := by
  obtain ⟨r, reply⟩ := x
  cases r <;> first | rfl | cases h

theorem isAftermath_of_mopsUp {c : Call} {r : Request} (h : k.mopsUp c r) : r.isAftermath = true := by
  cases r with
  | sessions op => cases op <;> first | rfl | exact h.elim
  | _ => first | rfl | exact h.elim

theorem Passes.calls_eq (h : Passes s profile p k cs tr k') : calls tr = cs := by
  induction h with
  | nil k => rfl
  | aside hx _ ih => simpa [calls, call?_of_isIncidental hx] using ih
  | call hc _ _ _ ih => simpa [calls, hc] using ih

theorem Passes.stops_of_mem (h : Passes s profile p k cs tr k') (hx : x ∈ tr) : x.stops = false := by
  induction h with
  | nil k => cases hx
  | aside hi _ ih =>
    rcases List.mem_cons.1 hx with rfl | hx
    · exact stops_of_isIncidental hi
    · exact ih hx
  | call _ _ hg _ ih =>
    rcases List.mem_cons.1 hx with rfl | hx
    · exact hg
    · exact ih hx

theorem Follows.calls_prefix (h : Follows s profile p k cs tr) : calls tr <+: cs := by
  induction h with
  | ended k cs => exact List.nil_prefix
  | aside hx _ ih => simpa [calls, call?_of_isIncidental hx] using ih
  | call hc _ _ _ ih => simpa [calls, hc] using ih
  | stopped hc _ _ ht =>
    have hn : calls _ = [] := List.filterMap_eq_nil_iff.2 fun y hy => call?_of_mopsUp (ht y hy)
    simp only [calls, List.filterMap_cons, hc] at hn ⊢
    rw [hn]
    simp

theorem Follows.due (h : Follows s profile p k cs tr) (htr : tr = t ++ x :: u) {c : Call}
    (hx : x.request.call? = some c) : (t.foldl Learned.learn k).request? s profile p c = some x.request := by
  -- The prefix is any: it loses its first exchange with every step, and what it teaches moves into what is known.
  induction h generalizing t with
  | ended k cs => simp at htr
  | aside hi _ ih =>
    rcases List.cons_eq_append_iff.1 htr with ⟨rfl, hu⟩ | ⟨t, rfl, hu⟩
    · cases hu
      cases (call?_of_isIncidental hi).symm.trans hx
    · exact ih hu
  | call hc hr _ _ ih =>
    rcases List.cons_eq_append_iff.1 htr with ⟨rfl, hu⟩ | ⟨t, rfl, hu⟩
    · cases hu
      cases hc.symm.trans hx
      exact hr
    · exact ih hu
  | stopped hc hr _ ht =>
    rcases List.cons_eq_append_iff.1 htr with ⟨rfl, hu⟩ | ⟨t, rfl, hu⟩
    · cases hu
      cases hc.symm.trans hx
      exact hr
    · cases (call?_of_mopsUp (ht x (by simp [hu]))).symm.trans hx

theorem Follows.pairwise (h : Follows s profile p k cs tr) :
    tr.Pairwise fun x y => x.stops = true → y.request.isAftermath = true := by
  induction h with
  | ended k cs => exact .nil
  | aside hx _ ih => exact .cons (fun _ _ hs => by simp [stops_of_isIncidental hx] at hs) ih
  | call _ _ hg _ ih => exact .cons (fun _ _ hs => by simp [hg] at hs) ih
  | stopped _ _ _ ht =>
    refine .cons (fun y hy _ => isAftermath_of_mopsUp (ht y hy)) (List.pairwise_of_forall_mem_list ?_)
    exact fun _ _ y hy _ => isAftermath_of_mopsUp (ht y hy)

/-- A due write that stops the attempt is a failed write under the token that was drawn. -/
theorem exists_of_write {part : SessionPart} {token : String}
    (hr : k.request? s profile p (.write part) = some x.request) (hk : k.token = some token)
    (hx : x.stops = true) : ∃ e f, x = ⟨.sessions (.write token e), .error f⟩ := by
  obtain ⟨r, reply⟩ := x
  simp only [Learned.request?, Learned.write, hk, Option.bind_eq_bind, Option.bind_some,
    Option.bind_eq_some_iff, Option.some.injEq] at hr
  obtain ⟨_, -, _, -, e, -, rfl⟩ := hr
  rcases reply with f | ⟨⟩
  · exact ⟨e, f, rfl⟩
  · cases hx

theorem Follows.removal (h : Follows s profile p k cs tr) (htr : tr = t ++ x :: u) {token : String}
    (hx : x.request = .sessions (.remove token)) : ∃ e f, ⟨.sessions (.write token e), .error f⟩ ∈ t := by
  induction h generalizing t with
  | ended k cs => simp at htr
  | aside hi _ ih =>
    rcases List.cons_eq_append_iff.1 htr with ⟨rfl, hu⟩ | ⟨t, rfl, hu⟩
    · cases hu
      rw [hx] at hi
      cases hi
    · obtain ⟨e, f, hm⟩ := ih hu
      exact ⟨e, f, List.mem_cons_of_mem _ hm⟩
  | call hc _ _ _ ih =>
    rcases List.cons_eq_append_iff.1 htr with ⟨rfl, hu⟩ | ⟨t, rfl, hu⟩
    · cases hu
      rw [hx] at hc
      cases hc
    · obtain ⟨e, f, hm⟩ := ih hu
      exact ⟨e, f, List.mem_cons_of_mem _ hm⟩
  | stopped hc hr hs ht =>
    rcases List.cons_eq_append_iff.1 htr with ⟨rfl, hu⟩ | ⟨t, rfl, hu⟩
    · cases hu
      rw [hx] at hc
      cases hc
    · -- A removal is made for the token of the write that failed just before.
      have hm := ht x (by simp [hu])
      rw [hx] at hm
      obtain ⟨hk, part, rfl⟩ := hm
      obtain ⟨e, f, rfl⟩ := exists_of_write hr hk hs
      exact ⟨e, f, List.mem_cons_self⟩

/-- What is asked goes with the calls, is a call of the schedule, or cleans up after one. -/
theorem Follows.mem_cases (h : Follows s profile p k cs tr) (hx : x ∈ tr) :
    x.request.isIncidental = true ∨
      ∃ c ∈ cs, x.request.call? = some c ∨ ∃ k' : Learned, k'.mopsUp c x.request := by
  induction h with
  | ended k cs => cases hx
  | aside hi _ ih =>
    rcases List.mem_cons.1 hx with rfl | hx
    · exact .inl hi
    · exact ih hx
  | call hc _ _ _ ih =>
    rcases List.mem_cons.1 hx with rfl | hx
    · exact .inr ⟨_, List.mem_cons_self, .inl hc⟩
    · rcases ih hx with hi | ⟨c, hm, hc⟩
      · exact .inl hi
      · exact .inr ⟨c, List.mem_cons_of_mem _ hm, hc⟩
  | stopped hc _ _ ht =>
    rcases List.mem_cons.1 hx with rfl | hx
    · exact .inr ⟨_, List.mem_cons_self, .inl hc⟩
    · exact .inr ⟨_, List.mem_cons_self, .inr ⟨_, ht x hx⟩⟩

end

/-! ## Transcripts in order -/

/-- Bookkeeping reads the clock and hands over to the background runner. -/
def Request.isBookkeeping : Request → Bool
  | .now | .submit _ => true
  | _ => false

/-- A transcript in which the calls come in order. -/
structure InOrder (s : Setup) (profile : Profile) (p : LoginParameters) (tr : List Exchange) : Prop where
  /-- The calls are those of the schedule up to some point, each one made once. -/
  scheduled : calls tr <+: schedule s profile p
  /-- Every call is made with what the preceding replies amount to. -/
  due : ∀ t x u, tr = t ++ x :: u → ∀ c, x.request.call? = some c →
    (learned t).request? s profile p c = some x.request
  /-- After a call that failed there are only reports, audit entries and removals. -/
  stopped : tr.Pairwise fun x y => x.stops = true → y.request.isAftermath = true
  /-- What is removed is the session that could not be written. -/
  removal : ∀ t x u token, tr = t ++ x :: u → x.request = .sessions (.remove token) →
    ∃ e f, ⟨.sessions (.write token e), .error f⟩ ∈ t
  /-- Nothing else is asked. -/
  nothingElse : ∀ x ∈ tr, x.request.call?.isSome = true ∨ x.request.isIncidental = true ∨
    x.request.isAftermath = true ∨ x.request.isBookkeeping = true
  /-- Nothing is left to the background unless every call has been made. -/
  booked : ∀ x ∈ tr, ∀ task, x.request = .submit task → calls tr = schedule s profile p

section
variable {s : Setup} {profile : Profile} {p : LoginParameters} {tr u : List Exchange}

theorem Follows.inOrder (h : Follows s profile p {} (schedule s profile p) tr) : InOrder s profile p tr where
  scheduled := h.calls_prefix
  due _ _ _ htr _ hx := h.due htr hx
  stopped := h.pairwise
  removal _ _ _ _ htr hx := h.removal htr hx
  nothingElse x hx := by
    rcases h.mem_cases hx with hi | ⟨c, -, hc | ⟨k, hc⟩⟩
    · exact .inr (.inl hi)
    · exact .inl (by rw [hc]; rfl)
    · exact .inr (.inr (.inl (isAftermath_of_mopsUp hc)))
  booked x hx task hr := by
    rcases h.mem_cases hx with hi | ⟨c, -, hc | ⟨k, hc⟩⟩
    · rw [hr] at hi
      cases hi
    · rw [hr] at hc
      cases hc
    · rw [hr] at hc
      exact hc.elim

/-- No call is made twice. -/
theorem InOrder.call?_ne {t : List Exchange} {x : Exchange} {c : Call}
    (h : InOrder s profile p (t ++ x :: u)) (hx : x.request.call? = some c) {y : Exchange} (hy : y ∈ t ∨ y ∈ u) :
    y.request.call? ≠ some c := by
  intro hc
  have hn : (calls (t ++ x :: u)).Nodup := (nodup_schedule s profile p).sublist h.scheduled.sublist
  have hcalls : calls (x :: u) = c :: calls u := List.filterMap_cons_some hx
  rw [calls_append, hcalls, List.nodup_append, List.nodup_cons] at hn
  obtain ⟨-, ⟨hlater, -⟩, hearlier⟩ := hn
  rcases hy with hy | hy
  · exact hearlier c (List.mem_filterMap.2 ⟨y, hy, hc⟩) c List.mem_cons_self rfl
  · exact hlater (List.mem_filterMap.2 ⟨y, hy, hc⟩)

/-- A call is made in one exchange only. -/
theorem InOrder.eq_of_call {x y : Exchange} {c : Call} (h : InOrder s profile p tr) (hx : x ∈ tr) (hy : y ∈ tr)
    (hcx : x.request.call? = some c) (hcy : y.request.call? = some c) : x = y := by
  obtain ⟨t, u, rfl⟩ := List.append_of_mem hx
  rcases List.mem_append.1 hy with hy | hy
  · exact absurd hcy (h.call?_ne hcx (.inl hy))
  rcases List.mem_cons.1 hy with rfl | hy
  · rfl
  · exact absurd hcy (h.call?_ne hcx (.inr hy))

/-- Where one list ends and another begins, an element stands in the one or in the other. -/
theorem mem_or_split {t t' u u' : List Exchange} {x : Exchange} (h : t ++ u = t' ++ x :: u') :
    x ∈ u ∨ ∃ v, t = t' ++ x :: v := by
  rcases List.append_eq_append_iff.1 h with ⟨v, rfl, hv⟩ | ⟨v, rfl, hv⟩
  · exact .inl (by simp [hv])
  · rcases List.cons_eq_append_iff.1 hv with ⟨rfl, hu⟩ | ⟨w, rfl, -⟩
    · exact .inl (by simp [hu])
    · exact .inr ⟨w, rfl⟩

theorem not_bookkeeping {x : Exchange} (h : x.request.isBookkeeping = true) :
    x.request.call? = none ∧ x.stops = false ∧ ∀ token, x.request ≠ .sessions (.remove token) := by
  obtain ⟨r, reply⟩ := x
  cases r <;> first | exact ⟨rfl, rfl, nofun⟩ | cases h

theorem calls_of_bookkeeping (hu : ∀ x ∈ u, x.request.isBookkeeping = true) : calls u = [] :=
  List.filterMap_eq_nil_iff.2 fun x hx => (not_bookkeeping (hu x hx)).1

/-- Once every call has been made, bookkeeping does not disturb the order. -/
theorem InOrder.booking (h : InOrder s profile p tr) (hc : calls tr = schedule s profile p)
    (hs : ∀ x ∈ tr, x.stops = false) (hu : ∀ x ∈ u, x.request.isBookkeeping = true) :
    InOrder s profile p (tr ++ u) where
  scheduled := by
    rw [calls_append, calls_of_bookkeeping hu, List.append_nil]
    exact h.scheduled
  due t x v htr c hx := by
    rcases mem_or_split htr with hm | ⟨w, rfl⟩
    · cases (not_bookkeeping (hu x hm)).1.symm.trans hx
    · exact h.due t x w rfl c hx
  stopped := by
    refine List.pairwise_append.2 ⟨h.stopped, List.pairwise_of_forall_mem_list ?_, ?_⟩
    · intro x hx _ _ hs'
      simp [(not_bookkeeping (hu x hx)).2.1] at hs'
    · intro x hx _ _ hs'
      simp [hs x hx] at hs'
  removal t x v token htr hx := by
    rcases mem_or_split htr with hm | ⟨w, rfl⟩
    · exact absurd hx ((not_bookkeeping (hu x hm)).2.2 token)
    · exact h.removal t x w token rfl hx
  nothingElse x hx := by
    rcases List.mem_append.1 hx with hx | hx
    · exact h.nothingElse x hx
    · exact .inr (.inr (.inr (hu x hx)))
  booked _ _ _ _ := by rw [calls_append, calls_of_bookkeeping hu, List.append_nil, hc]

end

end Gatehouse.Login
