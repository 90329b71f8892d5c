import Gatehouse.Login.Services
import Gatehouse.Proofs.AuditEntries
import Gatehouse.Proofs.Likeness
import Gatehouse.Proofs.Reporting
/-!
# Mappers that change nothing

A mapper that answers with no name and no record, or with what it was asked about, is as good as none. A login by a
profile with such a mapper is the login by the profile without it, with consultations in between: `Interposes` says so
of dialogues, and is kept by every way to put them together. Main statement: two such logins end the same, and do the
same with everybody but the mapper.
-/

namespace Gatehouse

/-! ## Answers that change nothing -/

/-- An output that says nothing of a user or a record, and reports no failure. -/
structure Wire.SaysNothing (output : Record) : Prop where
  user : output.find? userKey = none ∨ output.find? userKey = some .null
  authRecord : output.find? authRecordKey = none ∨ output.find? authRecordKey = some .null
  result : output.find? resultKey = none ∨ output.find? resultKey = some .null ∨
    output.find? resultKey = some (.int 0)

/-- An output that says nothing is read as an answer that says nothing. -/
theorem Wire.SaysNothing.readMapping {output : Record} (h : SaysNothing output) (r : Remote) :
    r.readMapping output = .ok {} := by
  have hresult : r.ensureSuccess output = .ok () := by
    unfold Remote.ensureSuccess int?
    rcases h.result with h | h | h
    · rw [h]
    · rw [h]
    · rw [h]
      rfl
  have huser : text? output userKey = .ok none := by
    unfold text?
    rcases h.user with h | h <;> rw [h]
  have hrecord : record? output authRecordKey = .ok none := by
    unfold record?
    rcases h.authRecord with h | h <;> rw [h]
  unfold Remote.readMapping MappingResponse.ofMap
  rw [hresult, huser, hrecord]
  rfl

/-- A mapper that changes nothing: one that strips no suffix and leaves principals in their case, or a remote one of
which every output says nothing. -/
inductive Mapper.IsIdle {μ : Type} (invoke : Remote → Record → StateM μ (Except Fault Record)) : Mapper → Prop
  | suffix {c : MapperSettings} (hs : c.stripSuffix = none ∨ c.stripSuffix = some "") (hl : c.lowercase = false) :
      IsIdle invoke (.suffix (.ofSettings c))
  | remote {r : Remote} (h : ∀ input st, ∃ output, (invoke r input st).1 = .ok output ∧ Wire.SaysNothing output) :
      IsIdle invoke (.remote r)

namespace Login

/-- Whether a request goes to a mapper. -/
def Request.asksMapper : Request → Bool
  | .mapUser .. | .mapAuthRecord .. => true
  | _ => false

/-- A request goes to a mapper. -/
def Request.Consults (m : Mapper) : Request → Prop
  | .mapUser m' _ | .mapAuthRecord m' _ => m' = m
  | _ => False

theorem Request.Consults.asksMapper {m : Mapper} {r : Request} (h : r.Consults m) : r.asksMapper = true := by
  cases r with
  | mapUser | mapAuthRecord => rfl
  | _ => cases h

theorem Request.exists_of_asksMapper {r : Request} (h : r.asksMapper = true) :
    (∃ m q, r = .mapUser m q) ∨ ∃ m q, r = .mapAuthRecord m q := by
  cases r with
  | mapUser m q => exact .inl ⟨m, q, rfl⟩
  | mapAuthRecord m q => exact .inr ⟨m, q, rfl⟩
  | _ => cases h

/-- An exchange with a mapper that leaves what it was asked about as it is. -/
def Exchange.ChangesNothing : Exchange → Prop
  | ⟨.mapUser _ q, v⟩ => ∃ a, v = .ok a ∧ Wire.MappingResponse.userOr a q.user = q.user
  | ⟨.mapAuthRecord _ q, v⟩ => ∃ a, v = .ok a ∧ Wire.MappingResponse.authRecordOr a q.authRecord = q.authRecord
  | _ => True

/-- Mappers are asked as the program asks them; everybody else has a state apart from theirs, and replies in whatever
way. -/
def besides {τ μ : Type} (h : Dialogue.Handler τ) (invoke : Remote → Record → StateM μ (Except Fault Record)) :
    Dialogue.Handler (τ × Services μ) := fun r st =>
  if r.asksMapper then
    let (v, mappers) := Services.reply invoke r st.2
    (v, st.1, mappers)
  else
    let (v, others) := h r st.1
    (v, others, st.2)

theorem changesNothing_reply {μ : Type} {invoke : Remote → Record → StateM μ (Except Fault Record)} {m : Mapper}
    (hm : m.IsIdle invoke) {r : Request} (hr : r.Consults m) (st : Services μ) :
    (⟨r, (Services.reply invoke r st).1⟩ : Exchange).ChangesNothing := by
  cases hm with
  | @suffix c hs hl =>
    have hsuffix : (SuffixMapper.ofSettings c).suffix = none := by
      unfold SuffixMapper.ofSettings
      rcases hs with h | h <;> rw [h] <;> rfl
    cases r with
    | mapUser m' q =>
      cases (show m' = _ from hr)
      refine ⟨_, rfl, ?_⟩
      unfold SuffixMapper.mapUser
      rw [hsuffix]
      rfl
    | mapAuthRecord m' q =>
      cases (show m' = _ from hr)
      refine ⟨_, rfl, ?_⟩
      unfold SuffixMapper.mapAuthRecord
      rw [if_neg (by simp [SuffixMapper.ofSettings, hl])]
      rfl
    | _ => trivial
  | @remote r' h =>
    have hread : ∀ input st, ((invoke r' input st).1.bind r'.readMapping) = .ok {} := by
      intro input st
      obtain ⟨output, hv, hn⟩ := h input st
      rw [hv]
      exact hn.readMapping r'
    cases r with
    | mapUser m' q =>
      cases (show m' = _ from hr)
      exact ⟨{}, hread q.toMap st.outside, rfl⟩
    | mapAuthRecord m' q =>
      cases (show m' = _ from hr)
      exact ⟨{}, hread q.toMap st.outside, rfl⟩
    | _ => trivial

/-! ## Consultations in between -/

/-- The second dialogue is the first one with consultations of a mapper in between, as far as these change nothing. -/
inductive Interposes (m : Mapper) {α : Type} : Dialogue α → Dialogue α → Prop
  | done (a : α) : Interposes m (.done a) (.done a)
  | ask {r : Request} {next next' : r.Reply → Dialogue α} (hr : r.asksMapper = false)
      (h : ∀ v, Interposes m (next v) (next' v)) : Interposes m (.ask r next) (.ask r next')
  | consult {x : Dialogue α} {r : Request} {next : r.Reply → Dialogue α} (hr : r.Consults m)
      (h : ∀ v, Exchange.ChangesNothing ⟨r, v⟩ → Interposes m x (next v)) : Interposes m x (.ask r next)

/-- No mapper is asked in a transcript. -/
def AsksNoMapper (tr : List Exchange) : Prop := ∀ x ∈ tr, x.request.asksMapper = false

/-- A transcript without the exchanges with mappers. -/
def unmapped (tr : List Exchange) : List Exchange := tr.filter fun x => !x.request.asksMapper

section
variable {m : Mapper} {α β : Type}

theorem Interposes.bind {x x' : Dialogue α} {f f' : α → Dialogue β} (hx : Interposes m x x')
    (hf : ∀ a, Interposes m (f a) (f' a)) : Interposes m (x >>= f) (x' >>= f') := by
  induction hx with
  | done a => exact hf a
  | ask hr _ ih => exact .ask hr ih
  | consult hr _ ih => exact .consult hr ih

theorem interposes_request {r : Request} (hr : r.asksMapper = false) :
    Interposes m (Dialogue.request r) (Dialogue.request r) := .ask hr fun _ => .done _

/-- A dialogue that asks no mapper is itself with nothing in between. -/
theorem interposes_of_yields {x : Dialogue α} (hx : ∀ tr a, x.Yields tr a → AsksNoMapper tr) :
    Interposes m x x := by
  induction x with
  | done a => exact .done a
  | ask r next ih =>
    have hnext : ∀ v tr a, (next v).Yields tr a → AsksNoMapper (⟨r, v⟩ :: tr) := fun v tr a hy => hx _ a (.ask v hy)
    have hr : r.asksMapper = false := by
      obtain ⟨v⟩ := Dialogue.nonempty_reply r
      obtain ⟨tr, a, hy⟩ := Dialogue.exists_yields (next v)
      exact hnext v tr a hy _ List.mem_cons_self
    exact .ask hr fun v => ih v fun tr a hy e he => hnext v tr a hy e (List.mem_cons_of_mem _ he)

/-- Beside a mapper that changes nothing, a dialogue goes as if nobody were consulted. -/
theorem Interposes.run {τ μ : Type} {h : Dialogue.Handler τ}
    {invoke : Remote → Record → StateM μ (Except Fault Record)} (hm : m.IsIdle invoke) {x x' : Dialogue α}
    (hx : Interposes m x x') (st : τ) (mappers : Services μ) :
    (x'.run (besides h invoke) (st, mappers)).1 = (x.run h st).1 ∧
      (x'.run (besides h invoke) (st, mappers)).2.1 = (x.run h st).2 ∧
      unmapped (x'.transcript (besides h invoke) (st, mappers)) = x.transcript h st := by
  induction hx generalizing st mappers with
  | done a => exact ⟨rfl, rfl, rfl⟩
  | @ask r next next' hr _ ih =>
    have hreply : besides h invoke r (st, mappers) = ((h r st).1, (h r st).2, mappers) := if_neg (by simp [hr])
    rw [Dialogue.run_ask, Dialogue.transcript_ask, Dialogue.run_ask, Dialogue.transcript_ask, hreply]
    obtain ⟨hv, hst, htr⟩ := ih (h r st).1 (h r st).2 mappers
    refine ⟨hv, hst, ?_⟩
    rw [unmapped, List.filter_cons_of_pos (by simp [hr]), ← unmapped, htr]
  | @consult x r next hr _ ih =>
    have hreply : besides h invoke r (st, mappers) =
        ((Services.reply invoke r mappers).1, st, (Services.reply invoke r mappers).2) := if_pos hr.asksMapper
    rw [Dialogue.run_ask, Dialogue.transcript_ask, hreply]
    obtain ⟨hv, hst, htr⟩ := ih _ (changesNothing_reply hm hr mappers) st (Services.reply invoke r mappers).2
    refine ⟨hv, hst, ?_⟩
    rw [unmapped, List.filter_cons_of_neg (by simp [hr.asksMapper]), ← unmapped, htr]

/-! ## Talks and attempts -/

variable (m) in
/-- Talks of which the second one is the first one with consultations in between. -/
abbrev TalksInterpose (x x' : Talk α) : Prop := Interposes m x.run x'.run

variable (m) in
/-- Attempts of which the second one is the first one with consultations in between, from every progress on. -/
def AttemptsInterpose (x x' : Attempt α) : Prop := ∀ a, Interposes m (x.run.run a) (x'.run.run a)

theorem talksInterpose_bind {x x' : Talk α} {f f' : α → Talk β} (hx : TalksInterpose m x x')
    (hf : ∀ a, TalksInterpose m (f a) (f' a)) : TalksInterpose m (x >>= f) (x' >>= f') := by
  refine Interposes.bind hx fun r => ?_
  cases r with
  | ok a => exact hf a
  | error e => exact .done _

theorem AttemptsInterpose.bind {x x' : Attempt α} {f f' : α → Attempt β} (hx : AttemptsInterpose m x x')
    (hf : ∀ a, AttemptsInterpose m (f a) (f' a)) : AttemptsInterpose m (x >>= f) (x' >>= f') := by
  refine fun a => Interposes.bind (hx a) ?_
  rintro ⟨r, b⟩
  cases r with
  | ok v => exact hf v b
  | error e => exact .done _

theorem attemptsInterpose_reaching (stage : LoginStage) {x x' : Talk α} (hx : TalksInterpose m x x') :
    AttemptsInterpose m (reaching stage x) (reaching stage x') :=
  fun _ => Interposes.bind (hx.bind fun _ => .done _) fun _ => .done _

theorem attemptsInterpose_of_goes {x : Attempt α} (hx : ∀ a tr r b, Goes x a tr r b → AsksNoMapper tr) :
    AttemptsInterpose m x x :=
  fun a => interposes_of_yields fun tr r hy => hx a tr r.1 r.2 hy

theorem attemptsInterpose_pure (v : α) : AttemptsInterpose m (pure v) (pure v) := fun _ => .done _

theorem attemptsInterpose_refuse (f : LoginFailure) (messages : List UserMessage) :
    AttemptsInterpose m (refuse f messages : Attempt α) (refuse f messages) := fun _ => .done _

theorem attemptsInterpose_ask {r : Request} (hr : r.asksMapper = false) : AttemptsInterpose m (ask r) (ask r) :=
  fun _ => .ask hr fun _ => .done _

/-- Learning of a principal asks nobody. -/
theorem attemptsInterpose_identify_bind {principal : Option String} {profile : Profile} {f f' : Unit → Attempt α}
    (hf : AttemptsInterpose m (f ()) (f' ())) :
    AttemptsInterpose m
      (match principal with
        | some principal => do
          let y ← identify principal profile.name
          f y
        | _ => f ())
      (match principal with
        | some principal => do
          let y ← identify principal profile.name
          f' y
        | _ => f' ()) := by
  cases principal with
  | none => exact hf
  | some principal => exact AttemptsInterpose.bind (fun _ => .done _) fun _ => hf

end

/-! ## Who asks no mapper -/

section
variable {profile : Profile} {p : LoginParameters} {s : SessionSettings} {tr : List Exchange} {a b : Progress}

theorem Chooses.asksNoMapper {submitted : String × Secret} {r : Except Fault (String × Secret)}
    (h : Chooses p submitted tr r) : AsksNoMapper tr := by
  cases h <;> simp [AsksNoMapper, Request.asksMapper]

theorem Finds.asksNoMapper {record : AuthRecord} {name : Option String} {r : Except Exit PrincipalRecord}
    (h : Finds profile record name a tr r b) : AsksNoMapper tr := by
  cases h <;> simp [AsksNoMapper, Request.asksMapper]

theorem Syncs.asksNoMapper {principal : PrincipalRecord} {r : Except Fault LocalUser}
    (h : Syncs profile principal tr r) : AsksNoMapper tr := by
  cases h <;> simp [AsksNoMapper, Request.asksMapper]

theorem Permits.asksNoMapper {record : AuthRecord} {principal : PrincipalRecord} {user : LocalUser}
    {r : Except Exit LocalUser} (h : Permits profile record principal user a tr r b) : AsksNoMapper tr := by
  cases h <;> simp [AsksNoMapper, Request.asksMapper]

theorem Writes.asksNoMapper {token : String} {es : List Session.Edit} {r : Except Fault Unit}
    (h : Writes token es tr r) : AsksNoMapper tr := by
  induction h with
  | done => simp [AsksNoMapper]
  | failed => simp [AsksNoMapper, Request.asksMapper]
  | wrote _ ih => simpa [AsksNoMapper, Request.asksMapper] using ih

theorem Issues.asksNoMapper {g : Grant} {r : Except Fault String} (h : Issues s g tr r) : AsksNoMapper tr := by
  cases h with
  | noToken => simp [AsksNoMapper, Request.asksMapper]
  | unwritten hw =>
    intro x hx
    simp only [List.mem_cons, List.mem_append, List.not_mem_nil, or_false] at hx
    rcases hx with rfl | rfl | hx | rfl
    · rfl
    · rfl
    · exact hw.asksNoMapper x hx
    · rfl
  | issued hw => simpa [AsksNoMapper, Request.asksMapper] using hw.asksNoMapper

theorem Books.asksNoMapper {s : Setup} {user : LocalUser} (h : Books s user tr) : AsksNoMapper tr := by
  cases h <;> simp [AsksNoMapper, Request.asksMapper]

end

/-! ## The same profile with and without a mapper -/

section
variable {m : Mapper} {profile : Profile}

/-- The name stays as it is. -/
theorem mapUser_interposes (hn : profile.mapper = none) (user : String) :
    TalksInterpose m (profile.mapUser user) (Profile.mapUser { profile with mapper := some m } user) := by
  unfold Profile.mapUser
  rw [hn]
  refine .consult rfl ?_
  rintro _ ⟨answer, rfl, hanswer⟩
  show Interposes m (pure (Except.ok user)) (pure (Except.ok (answer.userOr user)))
  rw [hanswer]
  exact .done _

/-- The record stays as it is. -/
theorem mapAuthRecord_interposes (hn : profile.mapper = none) (record : AuthRecord) :
    TalksInterpose m (profile.mapAuthRecord record)
      (Profile.mapAuthRecord { profile with mapper := some m } record) := by
  unfold Profile.mapAuthRecord
  rw [hn]
  refine .consult rfl ?_
  rintro _ ⟨answer, rfl, hanswer⟩
  show Interposes m (pure (Except.ok record)) (pure (Except.ok (answer.authRecordOr record)))
  rw [hanswer]
  exact .done _

theorem authenticate_interposes (hn : profile.mapper = none) (user : String) (password : Secret) :
    TalksInterpose m (profile.authenticate user password)
      (Profile.authenticate { profile with mapper := some m } user password) := by
  -- Under whatever name, the authenticator is asked in the same way.
  let checks (mappedUser : String) : Talk Authentication := do
    let response ← ExceptT.mk (Dialogue.request
      (.authenticate profile.authenticator { user := mappedUser, credentials := password }))
    pure { mappedUser, response }
  have hchecks : ∀ mappedUser, TalksInterpose m (checks mappedUser) (checks mappedUser) := fun _ =>
    talksInterpose_bind (interposes_request rfl) fun _ => .done _
  unfold Profile.authenticate
  dsimp only
  split
  · exact talksInterpose_bind (mapUser_interposes hn user) hchecks
  · exact hchecks user

theorem obtainEvidence_interposes (hn : profile.mapper = none) (p : LoginParameters) :
    AttemptsInterpose m (obtainEvidence profile p) (obtainEvidence { profile with mapper := some m } p) := by
  unfold obtainEvidence
  split
  · exact attemptsInterpose_pure _
  unfold checkCredentials
  split
  case h_2 => exact attemptsInterpose_refuse _ _
  next name _ =>
  split
  case h_2 => exact attemptsInterpose_refuse _ _
  next password _ =>
  dsimp only
  split
  · exact fun _ => .done _
  refine AttemptsInterpose.bind (attemptsInterpose_reaching _ ?_) ?_
  · exact interposes_of_yields fun tr r h => (chooses_of_yields h).asksNoMapper
  rintro ⟨user, sent⟩
  refine AttemptsInterpose.bind (attemptsInterpose_reaching _ (authenticate_interposes hn user sent)) fun x => ?_
  -- From here on no mapper is asked.
  refine attemptsInterpose_of_goes fun a tr r b h e he => ?_
  obtain ⟨_, _, hr⟩ := audit_of_goes_settled h he
  rw [hr]
  rfl

variable {s : Setup} {ps : Profiles} {p : LoginParameters}

theorem execute_interposes (hp : s.profiles.find? p.profileName = some profile) (hn : profile.mapper = none)
    (hp' : ps.find? p.profileName = some { profile with mapper := some m }) :
    AttemptsInterpose m (execute s p) (execute { s with profiles := ps } p) := by
  unfold execute
  rw [hp, hp']
  refine AttemptsInterpose.bind (obtainEvidence_interposes hn p) fun evidence => ?_
  refine attemptsInterpose_identify_bind ?_
  refine AttemptsInterpose.bind (attemptsInterpose_reaching _ (mapAuthRecord_interposes hn evidence.record)) ?_
  intro record
  refine AttemptsInterpose.bind (attemptsInterpose_of_goes fun a tr r b h => (finds_of_goes h).asksNoMapper) ?_
  intro principal
  refine AttemptsInterpose.bind (attemptsInterpose_reaching _ ?_) fun row => ?_
  · exact interposes_of_yields fun tr r h => (syncs_of_yields h).asksNoMapper
  refine AttemptsInterpose.bind (attemptsInterpose_of_goes fun a tr r b h => (permits_of_goes h).asksNoMapper) ?_
  intro user
  refine AttemptsInterpose.bind (attemptsInterpose_ask rfl) fun _ => ?_
  refine AttemptsInterpose.bind (attemptsInterpose_reaching _ ?_) fun _ => attemptsInterpose_pure _
  exact interposes_of_yields fun tr r h => (issues_of_yields h).asksNoMapper

/-- The login with the mapper is the login without it, with consultations in between. -/
theorem login_interposes (hp : s.profiles.find? p.profileName = some profile) (hn : profile.mapper = none)
    (hp' : ps.find? p.profileName = some { profile with mapper := some m }) :
    Interposes m (login s p) (login { s with profiles := ps } p) := by
  unfold login
  refine Interposes.bind (execute_interposes hp hn hp' (.start p)) ?_
  rintro ⟨(f | e) | ⟨token, user⟩, b⟩
  · exact (interposes_request rfl).bind fun _ => .done _
  · exact .done _
  · refine (interposes_request rfl).bind fun _ => Interposes.bind ?_ fun _ => .done _
    exact interposes_of_yields fun tr r h => (books_of_yields h).asksNoMapper

end

/-- The requests to authenticators and authorizers, in order. -/
def extensionRequests (tr : List Exchange) : List Request :=
  tr.filterMap fun x => match x.request with
    | .authenticate a q => some (.authenticate a q)
    | .fetchPrincipal a q => some (.fetchPrincipal a q)
    | _ => none

/-- What has nothing to do with mappers is the same without the exchanges with them. -/
theorem filterMap_unmapped {γ : Type} {f : Exchange → Option γ}
    (hf : ∀ x : Exchange, x.request.asksMapper = true → f x = none) (tr : List Exchange) :
    (unmapped tr).filterMap f = tr.filterMap f := by
  unfold unmapped
  rw [List.filterMap_filter]
  refine List.filterMap_congr fun x _ => ?_
  cases hx : x.request.asksMapper with
  | false => rfl
  | true => exact (hf x hx).symm

/-- Whatever everybody else does, a login by a profile with a mapper that changes nothing is the login by the profile
without it: it ends the same and leaves everybody else in the same state, and without the exchanges with the mapper it
has the same transcript; hence the same entries in the audit trail, the same reports, and the same requests to the
authenticator and the authorizer, in the same order. -/
theorem login_idle_mapper {τ μ : Type} (h : Dialogue.Handler τ)
    {invoke : Remote → Record → StateM μ (Except Fault Record)} {m : Mapper} (hm : m.IsIdle invoke) {s : Setup}
    {ps : Profiles} {p : LoginParameters} {profile : Profile} (hp : s.profiles.find? p.profileName = some profile)
    (hn : profile.mapper = none) (hp' : ps.find? p.profileName = some { profile with mapper := some m }) (st : τ)
    (mappers : Services μ) :
    let run := (login s p).run h st
    let run' := (login { s with profiles := ps } p).run (besides h invoke) (st, mappers)
    let tr := (login s p).transcript h st
    let tr' := (login { s with profiles := ps } p).transcript (besides h invoke) (st, mappers)
    run'.1 = run.1 ∧ run'.2.1 = run.2 ∧ unmapped tr' = tr ∧ entries tr' = entries tr ∧
      reports tr' = reports tr ∧ extensionRequests tr' = extensionRequests tr := by
  intro run run' tr tr'
  obtain ⟨hv, hst, htr⟩ := (login_interposes hp hn hp').run hm st mappers
  have same : ∀ {γ : Type} {f : Exchange → Option γ},
      (∀ x : Exchange, x.request.asksMapper = true → f x = none) → tr'.filterMap f = tr.filterMap f := by
    intro γ f hf
    rw [← filterMap_unmapped hf tr']
    exact congrArg (List.filterMap f) htr
  refine ⟨hv, hst, htr, same ?_, same ?_, same ?_⟩
  all_goals
    rintro ⟨r, v⟩ hr
    obtain ⟨_, _, rfl⟩ | ⟨_, _, rfl⟩ := Request.exists_of_asksMapper hr <;> rfl

/-- A remote mapper says that all went well, and that there is no user to speak of: Ada logs in as she would without
it. -/
theorem login_idle_mapper_remote :
    let d : Directory := {
      name := "staff", authnName := "staff-authn", authzName := "staff-authz"
      users := .ofList [("ada", { name := "ada", passwordHash := "" })] }
    let r : Remote := { number := 0, name := "mapper" }
    let invoke : Remote → Record → StateM Nat (Except Fault Record) := fun _ _ asked =>
      (.ok (.ofList [(Wire.resultKey, .int 0), (Wire.userKey, .null)]), asked + 1)
    let profile : Profile := { name := "main", authenticator := .directory d, authorizer := .directory d }
    let s : Setup := { profiles := ⟨.ofList [("main", profile)]⟩ }
    let ps : Profiles := ⟨.ofList [("main", { profile with mapper := some (.remote r) })]⟩
    let p := LoginParameters.ofAuthRecord "main" (.new "ada") .negotiation
    let h := Services.reply fun _ _ => pure (.ok ∅)
    let st : Services Unit := {
      permissions := { allowEveryone := true }, clock := fun _ => default, outside := () }
    let mappers : Services Nat := { clock := fun _ => default, outside := 0 }
    let run' := (login { s with profiles := ps } p).run (besides h invoke) (st, mappers)
    run'.1 = ((login s p).run h st).1 ∧ run'.2.1 = ((login s p).run h st).2 ∧ run'.2.2.outside = 1 ∧
      (run'.1.toOption.map LoginResult.succeeded) = some true := by
  intro d r invoke profile s ps p h st mappers run'
  have hidle : Mapper.IsIdle invoke (.remote r) := .remote fun _ _ => ⟨_, rfl, .inr rfl, .inl rfl, .inr (.inr rfl)⟩
  have hp : s.profiles.find? p.profileName = some profile := rfl
  have hp' : ps.find? p.profileName = some { profile with mapper := some (.remote r) } := rfl
  obtain ⟨hv, hst, -⟩ := login_idle_mapper h hidle hp rfl hp' st mappers
  refine ⟨hv, ?_, by decide +kernel, by decide +kernel⟩
  rw [hst]

end Login

end Gatehouse
