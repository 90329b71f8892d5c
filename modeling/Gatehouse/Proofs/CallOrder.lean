import Gatehouse.Proofs.Schedule
/-!
# The order of the calls

A login attempt makes its calls in the order of its schedule, whatever the collaborators do. For every step
there is a lemma on how it passes its part of the schedule, and one on where it may stop.
-/

namespace Gatehouse.Login

/-! ## Step by step -/

section
variable {s : Setup} {profile : Profile} {p : LoginParameters} {k : Learned} {t : List Exchange}
  {submitted credentials : String × Secret}

theorem Chooses.passes (hs : Submits profile p submitted) (h : Chooses p submitted t (.ok credentials)) :
    ∃ user password, Passes s profile p {} (recallSchedule p) t { user, password } ∧
      Learned.credentials { user, password } p = some credentials := by
  unfold recallSchedule
  cases h with
  | submitted hp =>
    refine ⟨none, none, ?_, ?_⟩
    · rw [hp]
      exact .nil _
    · simp [Learned.credentials, hs.name, hs.password, recollect]
  | @recalled token user password hp =>
    refine ⟨user, password, ?_, ?_⟩
    · rw [hp]
      refine .call rfl ?_ rfl (.call rfl ?_ rfl (.nil _))
      · simp [Learned.request?, hp]
      · simp [Learned.request?, hp]
    · simp [Learned.credentials, hs.name, hs.password]

theorem Chooses.follows {e : Fault} (h : Chooses p submitted t (.error e)) :
    Follows s profile p {} (recallSchedule p) t := by
  unfold recallSchedule
  cases h with
  | noUser hp =>
    rw [hp]
    exact .last rfl (by simp [Learned.request?, hp]) rfl
  | noPassword hp =>
    rw [hp]
    exact .call rfl (by simp [Learned.request?, hp]) rfl (.last rfl (by simp [Learned.request?, hp]) rfl)

theorem Names.passes {user : String} (hk : k.credentials p = some credentials)
    (h : Names profile credentials.1 t (.ok user)) :
    ∃ userMapping, Passes s profile p k
        (if profile.mapper.isSome && profile.authenticator.capabilities.acceptsCredentials then [.mapUser] else [])
        t { k with userMapping } ∧
      Learned.sentName { k with userMapping } profile p = some user := by
  have hk' : ∀ userMapping, Learned.credentials { k with userMapping } p = some credentials := fun _ => hk
  cases h with
  | same hm =>
    have hn : (profile.mapper.isSome && profile.authenticator.capabilities.acceptsCredentials) = false := by
      rcases hm with hm | hm <;> simp [hm]
    refine ⟨k.userMapping, ?_, ?_⟩
    · rw [hn]
      exact .nil k
    · simp [Learned.sentName, hk', hn]
  | @mapped m a hc hm =>
    refine ⟨some a, ?_, ?_⟩
    · rw [hm, hc]
      exact .call rfl (by simp [Learned.request?, hm, hk]) rfl (.nil _)
    · simp [Learned.sentName, hk', hm, hc]

theorem Names.follows {e : Fault} (hk : k.credentials p = some credentials)
    (h : Names profile credentials.1 t (.error e)) : Follows s profile p k (askSchedule profile) t := by
  cases h with
  | @failed m e hc hm =>
    simp only [askSchedule, hm, hc]
    exact .last rfl (by simp [Learned.request?, hm, hk]) rfl

/-- The request to the authenticator is due once the name to send is known. -/
theorem request?_authenticate {user : String} (hk : k.credentials p = some credentials)
    (hn : k.sentName profile p = some user) :
    k.request? s profile p .authenticate =
      some (.authenticate profile.authenticator { user, credentials := credentials.2 }) := by
  simp [Learned.request?, hk, hn]

theorem Asks.passes {x : Authentication} {record : AuthRecord} (hk : k.credentials p = some credentials)
    (h : Asks profile credentials t (.ok x)) (hx : x.response.result.isSuccess = true)
    (hr : x.response.authRecord = some record) :
    ∃ userMapping, Passes s profile p k (askSchedule profile) t
      { k with userMapping, response := some x.response } := by
  cases h with
  | answered hn =>
    obtain ⟨userMapping, ht, hu⟩ := hn.passes (s := s) hk
    exact ⟨userMapping, ht.append (.call rfl (request?_authenticate hk hu) (by simp_all [Exchange.stops]) (.nil _))⟩

theorem Asks.follows_of_error {e : Fault} (hk : k.credentials p = some credentials)
    (h : Asks profile credentials t (.error e)) : Follows s profile p k (askSchedule profile) t := by
  cases h with
  | unnamed hn => exact hn.follows hk
  | failed hn =>
    obtain ⟨_, ht, hu⟩ := hn.passes (s := s) hk
    exact ht.follows (.last rfl (request?_authenticate hk hu) rfl)

/-- An authenticator that refuses, or does not say who it was, stops the attempt. -/
theorem Asks.follows_of_ok {x : Authentication} {u : List Exchange} (hk : k.credentials p = some credentials)
    (h : Asks profile credentials t (.ok x))
    (hx : x.response.result.isSuccess = false ∨ x.response.authRecord = none)
    (hu : ∀ y ∈ u, ∃ who event, y.request = .audit who event) :
    Follows s profile p k (askSchedule profile) (t ++ u) := by
  cases h with
  | @answered t user response hn =>
    obtain ⟨_, ht, hu'⟩ := hn.passes (s := s) hk
    rw [List.append_assoc]
    have hs : (⟨.authenticate profile.authenticator ⟨user, credentials.2⟩, .ok response⟩ : Exchange).stops = true := by
      rcases hx with hx | hx <;> simp_all [Exchange.stops]
    refine ht.follows (.stopped rfl (request?_authenticate hk hu') hs ?_)
    intro y hy
    obtain ⟨who, event, hy⟩ := hu y hy
    rw [hy]
    trivial

theorem audit_of_mem_refusalEntry {x : Authentication} {y : Exchange} (h : y ∈ refusalEntry x) :
    ∃ who event, y.request = .audit who event := by
  unfold refusalEntry at h
  split at h
  · split at h
    · cases h
    · cases List.mem_singleton.1 h
      exact ⟨_, _, rfl⟩
  · cases h

/-- Once the authenticator has answered, credentials are settled without asking anybody; a refusal is logged. -/
theorem audit_of_goes_settled {profile : Profile} {x : Authentication} {name : String} {a b : Progress}
    {tr : List Exchange} {r : Except Exit Evidence}
    (h : Goes (do
      if let some principal := x.response.principal then identify principal profile.name
      if !x.response.result.isSuccess then refuseCredentials x
      let record ← reaching .authenticated (match x.response.authRecord with
        | some record => pure record
        | none => throw (recordMissing profile.authenticator))
      pure { record, loginName := some name, reason := .credentialsLogin }) a tr r b) {e : Exchange} (he : e ∈ tr) :
    ∃ who event, e.request = .audit who event := by
  replace h := goes_identify_bind.1 h
  cases hx : x.response.result.isSuccess with
  | false =>
    simp only [hx, Bool.not_false, if_true] at h
    obtain ⟨rfl, -, -⟩ := refuseCredentials_of_goes h
    exact audit_of_mem_refusalEntry he
  | true =>
    simp only [hx, Bool.not_true, Bool.false_eq_true, if_false] at h
    cases hr : x.response.authRecord with
    | none =>
      rw [hr] at h
      cases h
      cases he
    | some record =>
      rw [hr] at h
      cases h
      cases he

theorem Proves.passes {a b : Progress} {evidence : Evidence} (h : Proves profile p a t (.ok evidence) b) :
    ∃ k, Passes s profile p {} (proofSchedule profile p) t k ∧ k.proven p = some evidence.record := by
  unfold proofSchedule
  cases h with
  | supplied hp =>
    rw [hp]
    exact ⟨{}, .nil _, by simp [Learned.proven, hp]⟩
  | proven hs hc ha hx hr =>
    rw [hs.unsupplied]
    obtain ⟨_, _, hr', hk⟩ := hc.passes (s := s) hs
    obtain ⟨_, ha'⟩ := ha.passes hk hx hr
    exact ⟨_, hr'.append ha', by simp [Learned.proven, hs.unsupplied, hr]⟩

theorem Proves.follows {a b : Progress} {x : Exit} (h : Proves profile p a t (.error x) b) :
    Follows s profile p {} (proofSchedule profile p) t := by
  unfold proofSchedule
  cases h with
  | noName | noPassword | unsupported => exact .ended _ _
  | unchosen hs hc =>
    rw [hs.unsupplied]
    exact hc.follows.more _
  | unasked hs hc ha =>
    rw [hs.unsupplied]
    obtain ⟨_, _, hr, hk⟩ := hc.passes (s := s) hs
    exact hr.follows (ha.follows_of_error hk)
  | refused hs hc ha hx =>
    rw [hs.unsupplied]
    obtain ⟨_, _, hr, hk⟩ := hc.passes (s := s) hs
    exact hr.follows (ha.follows_of_ok hk (.inl hx) fun _ => audit_of_mem_refusalEntry)
  | recordless hs hc ha _ hn =>
    rw [hs.unsupplied]
    obtain ⟨_, _, hr, hk⟩ := hc.passes (s := s) hs
    have hf := ha.follows_of_ok (s := s) (u := []) hk (.inr hn) (by simp)
    rw [List.append_nil] at hf
    exact hr.follows hf

theorem Maps.passes {record result : AuthRecord} (hk : k.proven p = some record)
    (h : Maps profile record t (.ok result)) :
    ∃ recordMapping, Passes s profile p k (mapSchedule profile) t { k with recordMapping } ∧
      Learned.record { k with recordMapping } profile p = some result := by
  have hk' : ∀ recordMapping, Learned.proven { k with recordMapping } p = some record := fun _ => hk
  unfold mapSchedule
  cases h with
  | same hm =>
    refine ⟨k.recordMapping, ?_, by simp [Learned.record, hk', hm]⟩
    rw [hm]
    exact .nil k
  | @mapped m answer hm =>
    refine ⟨some answer, ?_, by simp [Learned.record, hk', hm]⟩
    rw [hm]
    exact .call rfl (by simp [Learned.request?, hm, hk]) rfl (.nil _)

theorem Maps.follows {record : AuthRecord} {e : Fault} (hk : k.proven p = some record)
    (h : Maps profile record t (.error e)) : Follows s profile p k (mapSchedule profile) t := by
  unfold mapSchedule
  cases h with
  | failed hm =>
    rw [hm]
    exact .last rfl (by simp [Learned.request?, hm, hk]) rfl

theorem Finds.passes {record : AuthRecord} {loginName : Option String} {a b : Progress}
    {principal : PrincipalRecord} (hk : k.record profile p = some record)
    (h : Finds profile record loginName a t (.ok principal) b) :
    Passes s profile p k [.fetchPrincipal] t { k with principal := some principal } := by
  cases h
  exact .call rfl (by simp [Learned.request?, hk]) rfl (.nil _)

theorem Finds.follows {record : AuthRecord} {loginName : Option String} {a b : Progress} {x : Exit}
    (hk : k.record profile p = some record) (h : Finds profile record loginName a t (.error x) b) :
    Follows s profile p k [.fetchPrincipal] t := by
  have hr : k.request? s profile p .fetchPrincipal =
      some (.fetchPrincipal profile.authorizer { authRecord := record }) := by
    simp [Learned.request?, hk]
  cases h with
  | failed => exact .last rfl hr rfl
  | unknown => exact .stopped rfl hr rfl fun y hy => List.mem_singleton.1 hy ▸ trivial

theorem Syncs.passes {principal : PrincipalRecord} {row : LocalUser} (hk : k.principal = some principal)
    (h : Syncs profile principal t (.ok row)) :
    ∃ id, Passes s profile p k [.saveUser] t { k with id, row := some row } := by
  cases h with
  | @saved id user row hu =>
    refine ⟨some id, .aside rfl (.call rfl ?_ rfl (.nil _))⟩
    simp [Learned.request?, Learned.candidate, Learned.learn, hk, hu, Except.toOption]

theorem Syncs.follows {principal : PrincipalRecord} {e : Fault} (hk : k.principal = some principal)
    (h : Syncs profile principal t (.error e)) : Follows s profile p k [.saveUser] t := by
  cases h with
  | unkeyed hu => exact .aside rfl (.ended _ _)
  | failed hu =>
    refine .aside rfl (.last rfl ?_ rfl)
    simp [Learned.request?, Learned.candidate, Learned.learn, hk, hu, Except.toOption]

section
variable {record : AuthRecord} {principal : PrincipalRecord} {row : LocalUser} {a b : Progress}

theorem Permits.passes {user : LocalUser} (hk : k.row = some row)
    (h : Permits profile record principal row a t (.ok user) b) :
    ∃ admin, user = { row with admin } ∧
      Passes s profile p k [.checkPermission, .checkAdmin] t { k with admin := some admin } := by
  cases h with
  | @permitted admin =>
    refine ⟨admin, rfl, .call rfl ?_ rfl (.call rfl ?_ rfl (.nil _))⟩
    · simp [Learned.request?, hk]
    · simp [Learned.request?, Learned.learn, hk]

theorem Permits.follows {x : Exit} (hk : k.row = some row)
    (h : Permits profile record principal row a t (.error x) b) :
    Follows s profile p k [.checkPermission, .checkAdmin] t := by
  have hr : k.request? s profile p .checkPermission = some (.checkPermission (.login row)) := by
    simp [Learned.request?, hk]
  cases h with
  | failed => exact .last rfl hr rfl
  | denied => exact .stopped rfl hr rfl fun y hy => List.mem_singleton.1 hy ▸ trivial
  | adminFailed => exact .call rfl hr rfl (.last rfl (by simp [Learned.request?, Learned.learn, hk]) rfl)

end

end

/-! ## The session -/

theorem partOf_edits (g : Grant) (s : SessionSettings) (now : Instant) :
    (g.edits s now).map partOf = partSchedule s g.password := by
  unfold Grant.edits partSchedule
  cases hr : s.retainPassword <;> cases hg : g.password <;> rfl

theorem nodup_partSchedule (s : SessionSettings) (password : Option Secret) : (partSchedule s password).Nodup := by
  unfold partSchedule
  split <;> decide

/-- An edit is the only one that writes its part. -/
theorem find?_partOf {es : List Session.Edit} (hn : (es.map partOf).Nodup) {e : Session.Edit} (he : e ∈ es) :
    es.find? (fun e' => partOf e' = partOf e) = some e := by
  induction es with
  | nil => cases he
  | cons e' es ih =>
    obtain ⟨hne, hn⟩ := List.nodup_cons.1 hn
    rcases List.mem_cons.1 he with rfl | he
    · simp
    · have hp : partOf e' ≠ partOf e := fun h => hne (h ▸ List.mem_map_of_mem he)
      rw [List.find?_cons_of_neg (by simpa using hp)]
      exact ih hn he

section
variable {s : Setup} {profile : Profile} {p : LoginParameters} {k : Learned} {t : List Exchange}
  {token : String} {es : List Session.Edit}

theorem Writes.passes
    (hk : ∀ e ∈ es, k.write s profile p (partOf e) = some (.sessions (.write token e)))
    (h : Writes token es t (.ok ())) : Passes s profile p k (es.map fun e => .write (partOf e)) t k := by
  generalize hr : (Except.ok () : Except Fault Unit) = r at h
  induction h with
  | done => exact .nil k
  | failed => cases hr
  | @wrote e es t r _ ih =>
    exact .call rfl (hk e List.mem_cons_self) rfl (ih (fun e he => hk e (List.mem_cons_of_mem _ he)) hr)

/-- After a write that failed, the session is removed and nothing else is done. -/
theorem Writes.follows {f : Fault} {removed : Except Fault Bool}
    (hk : ∀ e ∈ es, k.write s profile p (partOf e) = some (.sessions (.write token e)))
    (ht : k.token = some token) (h : Writes token es t (.error f)) :
    Follows s profile p k (es.map fun e => .write (partOf e)) (t ++ [⟨.sessions (.remove token), removed⟩]) := by
  generalize hr : (Except.error f : Except Fault Unit) = r at h
  induction h with
  | done => cases hr
  | @failed e es f' =>
    refine .stopped rfl (hk e List.mem_cons_self) rfl fun y hy => ?_
    cases List.mem_singleton.1 hy
    exact ⟨ht, _, rfl⟩
  | @wrote e es t r _ ih =>
    exact .call rfl (hk e List.mem_cons_self) rfl (ih (fun e he => hk e (List.mem_cons_of_mem _ he)) hr)

variable {g : Grant} {now : Instant}

/-- With the grant, the token and the time, every edit of the grant is due. -/
theorem write_of_mem_edits (hg : k.grant profile p = some g) {e : Session.Edit} (he : e ∈ g.edits s.session now) :
    Learned.write { k with token := some token, time := some now } s profile p (partOf e) =
      some (.sessions (.write token e)) := by
  have hg' : Learned.grant { k with token := some token, time := some now } profile p = some g := hg
  have hn : ((g.edits s.session now).map partOf).Nodup := partOf_edits .. ▸ nodup_partSchedule ..
  simp [Learned.write, hg', find?_partOf hn he]

theorem Issues.passes (hg : k.grant profile p = some g) (h : Issues s.session g t (.ok token)) :
    ∃ k', Passes s profile p k (issueSchedule s.session g.password) t k' := by
  cases h with
  | @issued _ now t hw =>
    refine ⟨{ k with token := some token, time := some now }, .call rfl rfl rfl (.aside rfl ?_)⟩
    rw [← partOf_edits g s.session now, List.map_map]
    exact hw.passes fun e he => write_of_mem_edits hg he

theorem Issues.follows {e : Fault} (hg : k.grant profile p = some g) (h : Issues s.session g t (.error e)) :
    Follows s profile p k (issueSchedule s.session g.password) t := by
  cases h with
  | noToken => exact .last rfl rfl rfl
  | @unwritten token now t _ _ hw =>
    refine .call rfl rfl rfl (.aside rfl ?_)
    rw [← partOf_edits g s.session now, List.map_map]
    exact hw.follows (fun e he => write_of_mem_edits hg he) rfl

end

/-! ## The whole attempt -/

section
variable {s : Setup} {p : LoginParameters} {a b : Progress} {t : List Exchange}

/-- The schedule up to the principal. -/
def locateSchedule (profile : Profile) (p : LoginParameters) : List Call :=
  proofSchedule profile p ++ (mapSchedule profile ++ [.fetchPrincipal])

/-- The schedule up to the session. -/
def admitSchedule (profile : Profile) (p : LoginParameters) : List Call :=
  locateSchedule profile p ++ ([.saveUser] ++ [.checkPermission, .checkAdmin])

theorem schedule_eq (s : Setup) (profile : Profile) (p : LoginParameters) :
    schedule s profile p = admitSchedule profile p ++ issueSchedule s.session p.givenPassword? := by
  simp [schedule, admitSchedule, locateSchedule]

theorem Locates.profile {profile : Profile} {evidence : Evidence} {record : AuthRecord}
    {principal : PrincipalRecord} (h : Locates s p a profile evidence record principal t b) :
    s.profiles.find? p.profileName = some profile := by
  cases h with
  | intro hp => exact hp

theorem Admits.profile {x : Findings} (h : Admits s p a x t b) :
    s.profiles.find? p.profileName = some x.profile := by
  cases h with
  | intro hl => exact hl.profile

theorem Locates.passes {profile : Profile} {evidence : Evidence} {record : AuthRecord}
    {principal : PrincipalRecord} (h : Locates s p a profile evidence record principal t b) :
    ∃ k, Passes s profile p {} (locateSchedule profile p) t k ∧ k.record profile p = some record ∧
      k.principal = some principal := by
  cases h with
  | intro _ hv hm hf =>
    obtain ⟨k, hv, hk⟩ := hv.passes (s := s)
    obtain ⟨_, hm, hr⟩ := hm.passes (s := s) hk
    exact ⟨_, hv.append (hm.append (hf.passes hr)), hr, rfl⟩

theorem Admits.passes {x : Findings} (h : Admits s p a x t b) :
    ∃ k, Passes s x.profile p {} (admitSchedule x.profile p) t k ∧ k.grant x.profile p = some (x.grant p) := by
  cases h with
  | intro hl hs hp =>
    obtain ⟨k, hl, hr, hk⟩ := hl.passes
    obtain ⟨id, hs⟩ := hs.passes (s := s) (p := p) hk
    obtain ⟨admin, hu, hp⟩ := hp.passes (s := s) (p := p) (k := { k with id, row := some x.row }) rfl
    refine ⟨_, hl.append (hs.append hp), ?_⟩
    rw [Learned.grant_eq (k := { k with id, row := some x.row, admin := some admin }) rfl rfl hr hk, Findings.grant, hu]

theorem Executes.passes {v : String × LocalUser} (h : Executes s p a t (.ok v) b) :
    ∃ profile k, s.profiles.find? p.profileName = some profile ∧
      Passes s profile p {} (schedule s profile p) t k := by
  cases h with
  | @granted x _ _ _ _ ha hi =>
    obtain ⟨k, hk, hg⟩ := ha.passes
    obtain ⟨k', hi⟩ := hi.passes hg
    refine ⟨x.profile, k', ha.profile, ?_⟩
    rw [schedule_eq]
    exact hk.append (.aside rfl hi)

/-- An attempt that ends early stops on its way to a user who may log in, or else with issuing a session. -/
theorem Executes.stops {x : Exit} {profile : Profile} (hp : s.profiles.find? p.profileName = some profile)
    (h : Executes s p a t (.error x) b) :
    Follows s profile p {} (admitSchedule profile p) t ∨
      ∃ f u v e, t = u ++ (⟨.report f.report, ()⟩ :: v) ∧ Admits s p a f u b ∧
        Issues s.session (f.grant p) v (.error e) := by
  have same : ∀ {profile'}, s.profiles.find? p.profileName = some profile' → profile' = profile := fun h =>
    Option.some.inj (h.symm.trans hp)
  unfold admitSchedule locateSchedule
  -- What has been passed stays known, and what is left of the schedule after the stop does not matter.
  cases h with
  | noProfile hn => cases hn.symm.trans hp
  | unproven hq hv =>
    cases same hq
    exact .inl ((hv.follows.more _).more _)
  | unmapped hq hv hm =>
    cases same hq
    obtain ⟨k, hv, hk⟩ := hv.passes (s := s)
    exact .inl (.more (hv.follows ((hm.follows hk).more _)) _)
  | unfound hq hv hm hf =>
    cases same hq
    obtain ⟨k, hv, hk⟩ := hv.passes (s := s)
    obtain ⟨_, hm, hr⟩ := hm.passes (s := s) hk
    exact .inl (.more (hv.follows (hm.follows (hf.follows hr))) _)
  | unsynced hl hs =>
    cases same hl.profile
    obtain ⟨k, hl, _, hk⟩ := hl.passes
    exact .inl (hl.follows ((hs.follows hk).more _))
  | unpermitted hl hs hq =>
    cases same hl.profile
    obtain ⟨k, hl, _, hk⟩ := hl.passes
    obtain ⟨id, hs⟩ := hs.passes (s := s) (p := p) hk
    exact .inl (hl.follows (hs.follows (hq.follows rfl)))
  | unissued ha hi => exact .inr ⟨_, _, _, _, rfl, ha, hi⟩

theorem Executes.follows {x : Exit} {profile : Profile} (hp : s.profiles.find? p.profileName = some profile)
    (h : Executes s p a t (.error x) b) : Follows s profile p {} (schedule s profile p) t := by
  rw [schedule_eq]
  rcases h.stops hp with hf | ⟨f, u, v, e, rfl, ha, hi⟩
  · exact hf.more _
  · cases ha.profile.symm.trans hp
    obtain ⟨k, hk, hg⟩ := ha.passes
    exact hk.follows (.aside rfl (hi.follows hg))

end

section
variable {s : Setup} {profile : Profile} {p : LoginParameters} {tr u : List Exchange}

theorem Books.isBookkeeping {user : LocalUser} (h : Books s user u) {x : Exchange} (hx : x ∈ u) :
    x.request.isBookkeeping = true := by
  cases h with
  | skipped => cases hx
  | submitted =>
    simp only [List.mem_cons, List.not_mem_nil, or_false] at hx
    rcases hx with rfl | rfl <;> rfl

/-- An attempt that succeeds makes every call of its schedule, and then leaves the bookkeeping. -/
theorem Course.passes {v : LoginResult} (h : Course s p tr (.ok v)) (hv : v.succeeded = true) :
    ∃ profile k t u, tr = t ++ u ∧ s.profiles.find? p.profileName = some profile ∧
      Passes s profile p {} (schedule s profile p) t k ∧ ∀ x ∈ u, x.request.isBookkeeping = true := by
  cases h with
  | refused => cases hv
  | @granted t u token user b he hb =>
    obtain ⟨profile, k, hp, hk⟩ := he.passes
    have ha := hk.append (.aside (x := ⟨.audit b.displayName .login, ()⟩) rfl (.nil _))
    rw [List.append_nil] at ha
    exact ⟨profile, _, _, u, List.append_cons .., hp, ha, fun _ => hb.isBookkeeping⟩

theorem Course.stops_of_succeeded {v : LoginResult} (h : Course s p tr (.ok v)) (hv : v.succeeded = true)
    {x : Exchange} (hx : x ∈ tr) : x.stops = false := by
  obtain ⟨_, _, t, u, rfl, -, hk, hu⟩ := h.passes hv
  rcases List.mem_append.1 hx with hx | hx
  · exact hk.stops_of_mem hx
  · exact (not_bookkeeping (hu x hx)).2.1

theorem Course.inOrder {r : Except Fault LoginResult} (hp : s.profiles.find? p.profileName = some profile)
    (h : Course s p tr r) : InOrder s profile p tr := by
  cases h with
  | granted he hb =>
    obtain ⟨profile', k, t, u, htr, hq, hk, hu⟩ := (Course.granted he hb).passes rfl
    cases hq.symm.trans hp
    have hf := hk.follows (.ended k [])
    rw [List.append_nil, List.append_nil] at hf
    rw [htr]
    exact hf.inOrder.booking hk.calls_eq (fun _ => hk.stops_of_mem) hu
  | refused he => exact ((he.follows hp).audited ..).inOrder
  | aborted he => exact (he.follows hp).inOrder

/-- Why an attempt makes no call at all. -/
inductive Idle (s : Setup) (p : LoginParameters) : Prop
  | noProfile (hp : s.profiles.find? p.profileName = none)
  | noName (hr : p.authRecord = none) (hn : p.givenName? = none)
  | noPassword (hr : p.authRecord = none) (hw : p.givenPassword? = none)
  | unsupported {profile : Profile} (hp : s.profiles.find? p.profileName = some profile)
      (hr : p.authRecord = none) (hc : profile.authenticator.capabilities.acceptsPassword = false)

theorem Proves.of_idle {a b : Progress} {t : List Exchange} {r : Except Exit Evidence} (hi : Idle s p)
    (hp : s.profiles.find? p.profileName = some profile) (h : Proves profile p a t r b) :
    t = [] ∧ ∃ f, r = .error (.failed f) := by
  have hs : ∀ submitted, ¬ Submits profile p submitted := by
    intro submitted hs
    cases hi with
    | noProfile hq => cases hq.symm.trans hp
    | noName _ hn => cases hn.symm.trans hs.name
    | noPassword _ hw => cases hw.symm.trans hs.password
    | unsupported hq _ hc =>
      cases hq.symm.trans hp
      cases hc.symm.trans hs.accepts
  cases h with
  | supplied hr =>
    cases hi with
    | noProfile hq => cases hq.symm.trans hp
    | noName hn | noPassword hn | unsupported _ hn => cases hn.symm.trans hr
  | noName | noPassword | unsupported => exact ⟨rfl, _, rfl⟩
  | unchosen hs' | unasked hs' | refused hs' | recordless hs' | proven hs' => exact (hs _ hs').elim

theorem Proves.not_idle {a b : Progress} {t : List Exchange} {evidence : Evidence}
    (hp : s.profiles.find? p.profileName = some profile) (h : Proves profile p a t (.ok evidence) b) :
    ¬ Idle s p := by
  intro hi
  obtain ⟨-, f, hr⟩ := h.of_idle hi hp
  cases hr

theorem Locates.not_idle {a b : Progress} {t : List Exchange} {evidence : Evidence} {record : AuthRecord}
    {principal : PrincipalRecord} (h : Locates s p a profile evidence record principal t b) : ¬ Idle s p := by
  cases h with
  | intro hp hv => exact hv.not_idle hp

theorem Executes.of_idle {a b : Progress} {t : List Exchange} {r : Except Exit (String × LocalUser)}
    (hi : Idle s p) (h : Executes s p a t r b) : t = [] ∧ ∃ f, r = .error (.failed f) := by
  cases h with
  | noProfile => exact ⟨rfl, _, rfl⟩
  | unproven hp hv =>
    obtain ⟨ht, f, hr⟩ := hv.of_idle hi hp
    cases hr
    exact ⟨ht, f, rfl⟩
  | unmapped hp hv | unfound hp hv => exact (hv.not_idle hp hi).elim
  | unsynced hl | unpermitted hl => exact (hl.not_idle hi).elim
  | unissued ha | granted ha =>
    cases ha with
    | intro hl => exact (hl.not_idle hi).elim

/-- An attempt that has nothing to go by asks nobody, and logs that it failed. -/
theorem Course.of_idle {r : Except Fault LoginResult} (hi : Idle s p) (h : Course s p tr r) :
    ∃ who, tr = [⟨.audit who .loginFailed, ()⟩] := by
  cases h with
  | granted he =>
    obtain ⟨-, _, hr⟩ := he.of_idle hi
    cases hr
  | refused he =>
    obtain ⟨rfl, -⟩ := he.of_idle hi
    exact ⟨_, rfl⟩
  | aborted he =>
    obtain ⟨-, _, hr⟩ := he.of_idle hi
    cases hr

end

/-- Whatever the collaborators do, an attempt by a known profile makes its calls in the order of a schedule
that names none twice, each with what the preceding replies amount to, and none after one that failed. An
attempt without a profile, or without a record and without credentials that the authenticator takes, makes
no call at all. -/
theorem login_in_order {σ : Type} (s : Setup) (p : LoginParameters) (h : Dialogue.Handler σ) (st : σ) :
    let tr := (login s p).transcript h st
    (∀ profile, s.profiles.find? p.profileName = some profile →
      (schedule s profile p).Nodup ∧ InOrder s profile p tr) ∧
    (Idle s p → ∃ who, tr = [⟨.audit who .loginFailed, ()⟩]) := by
  intro tr
  have hc : Course s p tr ((login s p).run h st).1 := course_of_yields (Dialogue.yields_transcript h _ st)
  exact ⟨fun profile hp => ⟨nodup_schedule s profile p, hc.inOrder hp⟩, hc.of_idle⟩

end Gatehouse.Login
