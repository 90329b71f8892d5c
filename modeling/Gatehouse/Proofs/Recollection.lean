import Gatehouse.Proofs.StoreAccess
/-!
# What a session remembers, and to whom it lends it

An attempt that consults a session presents the user and the password that the session remembers, in place of
what was submitted. The store asks no session whether its limit has passed: a session lends its credentials
until an evicting pass drops it. A session that an attempt issues remembers the password that was submitted to
that attempt, which need not be the one that the authenticator accepted.
-/

namespace Gatehouse.Login

/-- The credentials that a store lends to an attempt: those that the consulted session remembers. -/
def lent? (store : SessionStore) (p : LoginParameters) : Option (String × Secret) :=
  p.credentialSession?.bind fun token => recollect (store.user? token) (store.password? token)

/-- The credentials that an attempt presents: those that it is lent, else those that were submitted. -/
def presented (store : SessionStore) (p : LoginParameters) (submitted : String × Secret) : String × Secret :=
  (lent? store p).getD submitted

/-- A name is sent as it is, or as the mapper has it. -/
inductive SentAs (profile : Profile) (tr : List Exchange) (name : String) : String → Prop
  | same (hm : profile.authenticator.capabilities.acceptsCredentials = false ∨ profile.mapper = none) :
      SentAs profile tr name name
  | mapped {m answer} (hm : profile.mapper = some m) (hx : ⟨.mapUser m { user := name }, .ok answer⟩ ∈ tr) :
      SentAs profile tr name (Wire.MappingResponse.userOr answer name)

/-! ## How an authenticator comes to be asked -/

def Request.asksAuthenticator : Request → Bool
  | .authenticate .. => true
  | _ => false

/-- Requests about credentials: what a session remembers, how a name is mapped, whether credentials are right. -/
def Request.concernsCredentials : Request → Bool
  | .sessions (.user? _) | .sessions (.password? _) | .mapUser .. | .authenticate .. => true
  | _ => false

/-- Nothing of a kind is asked in a transcript. -/
def Lacks (kind : Request → Bool) (tr : List Exchange) : Prop := ∀ x ∈ tr, kind x.request = false

/-- No authenticator hears of a transcript. -/
abbrev AsksNobody (tr : List Exchange) : Prop := Lacks Request.asksAuthenticator tr

/-- Nothing in a transcript concerns credentials. -/
abbrev Settled (tr : List Exchange) : Prop := Lacks Request.concernsCredentials tr

/-- An authenticator was asked with the credentials that were chosen. -/
structure Asked (profile : Profile) (p : LoginParameters) (tr : List Exchange) (a : Authenticator)
    (q : Wire.AuthnRequest) (submitted credentials : String × Secret) : Prop where
  submits : Submits profile p submitted
  /-- The choice was made before anything else. -/
  chosen : ∃ t u, tr = t ++ u ∧ Chooses p submitted t (.ok credentials)
  authenticator : a = profile.authenticator
  user : SentAs profile tr credentials.1 q.user
  password : q.credentials = credentials.2

/-- Whenever an authenticator is asked in a transcript, it is with credentials that were chosen. -/
def AsksAsChosen (profile : Profile) (p : LoginParameters) (tr : List Exchange) : Prop :=
  ∀ a q v, ⟨.authenticate a q, v⟩ ∈ tr → ∃ submitted credentials, Asked profile p tr a q submitted credentials

section
variable {profile : Profile} {p : LoginParameters} {t u tr : List Exchange} {a : Authenticator}
  {q : Wire.AuthnRequest} {v : Except Fault Wire.AuthnResponse} {submitted credentials : String × Secret}

theorem lacks_nil (kind : Request → Bool) : Lacks kind [] := fun _ hx => absurd hx List.not_mem_nil

theorem Lacks.append {kind : Request → Bool} (ht : Lacks kind t) (hu : Lacks kind u) : Lacks kind (t ++ u) := by
  intro x hx
  exact (List.mem_append.1 hx).elim (ht x) (hu x)

theorem Lacks.cons {kind : Request → Bool} {x : Exchange} (hx : kind x.request = false) (ht : Lacks kind t) :
    Lacks kind (x :: t) := by
  intro y hy
  rcases List.mem_cons.1 hy with rfl | hy
  · exact hx
  · exact ht y hy

theorem AsksNobody.not_mem (h : AsksNobody t) : ⟨.authenticate a q, v⟩ ∉ t := fun hx => nomatch h _ hx

/-- To ask an authenticator is to ask about credentials. -/
theorem Lacks.asksNobody (h : Settled t) : AsksNobody t := by
  rintro ⟨r, v⟩ hx
  have hr := h _ hx
  cases r with
  | authenticate => cases hr
  | _ => rfl

theorem AsksNobody.asksAsChosen (h : AsksNobody t) : AsksAsChosen profile p t :=
  fun _ _ _ hx => absurd hx h.not_mem

theorem SentAs.mono {name sent : String} (h : SentAs profile t name sent) (hu : ∀ x ∈ t, x ∈ u) :
    SentAs profile u name sent := by
  cases h with
  | same hm => exact .same hm
  | mapped hm hx => exact .mapped hm (hu _ hx)

theorem Names.sentAs {name sent : String} (h : Names profile name t (.ok sent)) : SentAs profile t name sent := by
  cases h with
  | same hm => exact .same hm
  | mapped _ hm => exact .mapped hm List.mem_cons_self

/-- What comes after the authenticator was asked does not change how it was. -/
theorem AsksAsChosen.append (h : AsksAsChosen profile p t) (hu : AsksNobody u) : AsksAsChosen profile p (t ++ u) := by
  intro a q v hx
  have hx : ⟨.authenticate a q, v⟩ ∈ t := (List.mem_append.1 hx).resolve_right hu.not_mem
  obtain ⟨submitted, credentials, hs, ⟨w, z, rfl, hc⟩, ha, hn, hp⟩ := h a q v hx
  exact ⟨submitted, credentials, hs, ⟨w, z ++ u, by simp, hc⟩, ha, hn.mono fun x hx => List.mem_append_left u hx, hp⟩

theorem Chooses.asksNobody {r : Except Fault (String × Secret)} (h : Chooses p submitted t r) : AsksNobody t := by
  cases h <;> simp [Lacks, Request.asksAuthenticator]

theorem Names.asksNobody {name : String} {r : Except Fault String} (h : Names profile name t r) : AsksNobody t := by
  cases h <;> simp [Lacks, Request.asksAuthenticator]

/-! No step but the check of credentials concerns credentials. -/

theorem settled_refusalEntry (x : Authentication) : Settled (refusalEntry x) := by
  intro y hy
  obtain ⟨_, _, hr⟩ := audit_of_mem_refusalEntry hy
  rw [hr]
  rfl

theorem Maps.settled {record : AuthRecord} {r : Except Fault AuthRecord} (h : Maps profile record t r) :
    Settled t := by
  cases h <;> simp [Lacks, Request.concernsCredentials]

theorem Finds.settled {record : AuthRecord} {name : Option String} {b c : Progress}
    {r : Except Exit PrincipalRecord} (h : Finds profile record name b t r c) : Settled t := by
  cases h <;> simp [Lacks, Request.concernsCredentials]

theorem Syncs.settled {principal : PrincipalRecord} {r : Except Fault LocalUser}
    (h : Syncs profile principal t r) : Settled t := by
  cases h <;> simp [Lacks, Request.concernsCredentials]

theorem Permits.settled {record : AuthRecord} {principal : PrincipalRecord} {row : LocalUser} {b c : Progress}
    {r : Except Exit LocalUser} (h : Permits profile record principal row b t r c) : Settled t := by
  cases h <;> simp [Lacks, Request.concernsCredentials]

theorem Writes.settled {token : String} {es : List Session.Edit} {r : Except Fault Unit}
    (h : Writes token es t r) : Settled t := by
  induction h with
  | done | failed => simp [Lacks, Request.concernsCredentials]
  | wrote _ ih => exact ih.cons rfl

theorem Issues.settled {s : SessionSettings} {g : Grant} {r : Except Fault String} (h : Issues s g t r) :
    Settled t := by
  cases h with
  | noToken => simp [Lacks, Request.concernsCredentials]
  | unwritten hw => exact ((hw.settled.append (by simp [Lacks, Request.concernsCredentials])).cons rfl).cons rfl
  | issued hw => exact (hw.settled.cons rfl).cons rfl

theorem Books.settled {s : Setup} {user : LocalUser} (h : Books s user t) : Settled t := by
  cases h <;> simp [Lacks, Request.concernsCredentials]

/-! ## The credentials of a request -/

theorem Asks.asksAsChosen {r : Except Fault Authentication} (hs : Submits profile p submitted)
    (hc : Chooses p submitted t (.ok credentials)) (h : Asks profile credentials u r) :
    AsksAsChosen profile p (t ++ u) := by
  -- Whatever the authenticator answers, its request stands last and carries the credentials.
  have last : ∀ {w user r}, Names profile credentials.1 w (.ok user) → AsksAsChosen profile p (t ++ (w ++
      [⟨.authenticate profile.authenticator { user, credentials := credentials.2 }, r⟩])) := by
    intro w user r hn a q v hx
    rcases List.mem_append.1 hx with hx | hx
    · exact absurd hx hc.asksNobody.not_mem
    rcases List.mem_append.1 hx with hx | hx
    · exact absurd hx hn.asksNobody.not_mem
    cases List.mem_singleton.1 hx
    refine ⟨submitted, credentials, hs, ⟨t, _, rfl, hc⟩, rfl, hn.sentAs.mono fun x hx => ?_, rfl⟩
    simp [hx]
  cases h with
  | unnamed hn => exact AsksNobody.asksAsChosen (hc.asksNobody.append hn.asksNobody)
  | failed hn | answered hn => exact last hn

theorem Proves.asksAsChosen {b c : Progress} {r : Except Exit Evidence} (h : Proves profile p b tr r c) :
    AsksAsChosen profile p tr := by
  cases h with
  | supplied | noName | noPassword | unsupported => exact AsksNobody.asksAsChosen (lacks_nil _)
  | unchosen _ hc => exact hc.asksNobody.asksAsChosen
  | unasked hs hc ha | recordless hs hc ha | proven hs hc ha => exact ha.asksAsChosen hs hc
  | refused hs hc ha =>
    rw [← List.append_assoc]
    exact (ha.asksAsChosen hs hc).append (settled_refusalEntry _).asksNobody

end

section
variable {s : Setup} {p : LoginParameters} {tr : List Exchange}

/-- A transcript starts with what an attempt did to find out who logs in, and nothing that comes after concerns
credentials. -/
def StartsWithProof (profile : Profile) (p : LoginParameters) (a : Progress) (tr : List Exchange) : Prop :=
  ∃ t u r b, tr = t ++ u ∧ Proves profile p a t r b ∧ Settled u

theorem Proves.startsWithProof {profile : Profile} {a b : Progress} {r : Except Exit Evidence}
    (h : Proves profile p a tr r b) : StartsWithProof profile p a tr :=
  ⟨tr, [], r, b, (List.append_nil tr).symm, h, lacks_nil _⟩

theorem StartsWithProof.append {profile : Profile} {a : Progress} {w : List Exchange}
    (h : StartsWithProof profile p a tr) (hw : Settled w) : StartsWithProof profile p a (tr ++ w) := by
  obtain ⟨t, u, r, b, rfl, hv, hu⟩ := h
  exact ⟨t, u ++ w, r, b, List.append_assoc .., hv, hu.append hw⟩

theorem Locates.startsWithProof {profile : Profile} {a b : Progress} {evidence : Evidence} {record : AuthRecord}
    {principal : PrincipalRecord} (h : Locates s p a profile evidence record principal tr b) :
    StartsWithProof profile p a tr := by
  cases h with
  | intro _ hv hm hf => exact hv.startsWithProof.append (hm.settled.append hf.settled)

theorem Admits.startsWithProof {a b : Progress} {f : Findings} (h : Admits s p a f tr b) :
    StartsWithProof f.profile p a tr := by
  cases h with
  | intro hl hs hp => exact hl.startsWithProof.append (hs.settled.append hp.settled)

theorem Executes.startsWithProof {a b : Progress} {r : Except Exit (String × LocalUser)} {profile : Profile}
    (hp : s.profiles.find? p.profileName = some profile) (h : Executes s p a tr r b) :
    StartsWithProof profile p a tr := by
  have same : ∀ {profile'}, s.profiles.find? p.profileName = some profile' → profile' = profile := fun h =>
    Option.some.inj (h.symm.trans hp)
  cases h with
  | noProfile hn => cases hn.symm.trans hp
  | unproven hq hv =>
    cases same hq
    exact hv.startsWithProof
  | unmapped hq hv hm =>
    cases same hq
    exact hv.startsWithProof.append hm.settled
  | unfound hq hv hm hf =>
    cases same hq
    exact hv.startsWithProof.append (hm.settled.append hf.settled)
  | unsynced hl hs =>
    cases same hl.profile
    exact hl.startsWithProof.append hs.settled
  | unpermitted hl hs hq =>
    cases same hl.profile
    exact hl.startsWithProof.append (hs.settled.append hq.settled)
  | unissued ha hi | granted ha hi =>
    cases same ha.profile
    exact ha.startsWithProof.append (hi.settled.cons rfl)

/-- Whatever the collaborators do, an attempt is through with credentials once it knows who logs in. -/
theorem Course.startsWithProof {r : Except Fault LoginResult} {profile : Profile}
    (hp : s.profiles.find? p.profileName = some profile) (h : Course s p tr r) :
    StartsWithProof profile p (.start p) tr := by
  have audited : ∀ {who event}, Settled [⟨.audit who event, ()⟩] := by
    simp [Lacks, Request.concernsCredentials]
  cases h with
  | granted he hb => exact (he.startsWithProof hp).append (hb.settled.cons rfl)
  | refused he => exact (he.startsWithProof hp).append audited
  | aborted he => exact he.startsWithProof hp

/-- Whatever the collaborators do, an authenticator is asked with credentials that were chosen. -/
theorem Course.asksAsChosen {r : Except Fault LoginResult} {profile : Profile}
    (hp : s.profiles.find? p.profileName = some profile) (h : Course s p tr r) : AsksAsChosen profile p tr := by
  obtain ⟨t, u, _, _, rfl, hv, hu⟩ := h.startsWithProof hp
  exact hv.asksAsChosen.append hu.asksNobody

end

/-! ## Expired sessions -/

/-- A session whose limit has come by the time of an evicting pass lends nothing any more. -/
theorem lent?_evict {store : SessionStore} {p : LoginParameters} {now : Instant} {token : String} {x : Session}
    (hn : store.sessions.keys.Nodup) (hp : p.credentialSession? = some token) (hx : store.find? token = some x)
    (he : x.isExpired now = true) (soft : Span) : lent? (store.evict now soft) p = none := by
  have hgone : (store.evict now soft).find? token = none := by
    rw [SessionStore.find?_evict hn, hx]
    simp [Option.filter, SessionStore.keeps, he]
  simp [lent?, hp, SessionStore.user?, SessionStore.password?, hgone, recollect]

section
variable {σ : Type} {h : Dialogue.Handler σ} {store : σ → SessionStore} (ht : TellsStore h store) {p : LoginParameters}
include ht

theorem Chooses.eq_presented {submitted credentials : String × Secret} {t : List Exchange} {st st' : σ}
    (hc : Chooses p submitted t (.ok credentials)) (hd : Dialogue.Conducts h st t st') :
    credentials = presented (store st) p submitted := by
  cases hc with
  | submitted hp => simp [presented, lent?, hp]
  | @recalled token user password hp =>
    obtain ⟨hu, hd⟩ := Dialogue.conducts_cons.1 hd
    obtain ⟨hw, -⟩ := Dialogue.conducts_cons.1 hd
    have hstore : store (h (.sessions (.user? token)) st).2 = store st := ht.spare _ _ rfl
    have huser : user = (store st).user? token := by
      rcases ht.user token st with hr | ⟨f, hr⟩
      · exact Except.ok.inj (hu.trans hr)
      · cases hu.trans hr
    have hpassword : password = (store st).password? token := by
      rcases ht.password token (h (.sessions (.user? token)) st).2 with hr | ⟨f, hr⟩
      · exact hstore ▸ Except.ok.inj (hw.trans hr)
      · cases hw.trans hr
    rw [presented, lent?, hp, huser, hpassword]
    rfl

theorem Asked.eq_presented {profile : Profile} {tr : List Exchange} {st st' : σ} {a : Authenticator}
    {q : Wire.AuthnRequest} {submitted credentials : String × Secret}
    (hq : Asked profile p tr a q submitted credentials) (hd : Dialogue.Conducts h st tr st') :
    credentials = presented (store st) p submitted := by
  obtain ⟨t, u, rfl, hc⟩ := hq.chosen
  obtain ⟨m, hd, -⟩ := Dialogue.conducts_append.1 hd
  exact hc.eq_presented ht hd

/-- What an authenticator is sent: the name, as a mapper has it, and the password that the consulted session
remembers, if it remembers both a user and a password that is not empty, and those that were submitted
otherwise. Whether the limit of the session has come makes no difference as long as the session is in the
store; an evicting pass at its limit or later makes an end of it. -/
theorem login_presents (s : Setup) (p : LoginParameters) (st : σ) {a : Authenticator} {q : Wire.AuthnRequest}
    {v : Except Fault Wire.AuthnResponse} (hx : ⟨.authenticate a q, v⟩ ∈ (login s p).transcript h st) :
    ∃ profile name password, s.profiles.find? p.profileName = some profile ∧ a = profile.authenticator ∧
      p.authRecord = none ∧ p.givenName? = some name ∧ p.givenPassword? = some password ∧
      SentAs profile ((login s p).transcript h st) (presented (store st) p (name, password)).1 q.user ∧
      q.credentials = (presented (store st) p (name, password)).2 ∧
      ∀ (before : SessionStore) (now : Instant) (soft : Span) (token : String) (x : Session),
        before.sessions.keys.Nodup → before.find? token = some x → p.credentialSession? = some token →
        x.isExpired now = true → store st = before.evict now soft →
        SentAs profile ((login s p).transcript h st) name q.user ∧ q.credentials = password := by
  have hd := Dialogue.conducts_transcript h (login s p) st
  have hy : Course s p _ _ := course_of_yields (Dialogue.yields_transcript h (login s p) st)
  generalize (login s p).transcript h st = tr at hx hd hy ⊢
  cases hp : s.profiles.find? p.profileName with
  | none =>
    obtain ⟨who, rfl⟩ := hy.of_idle (.noProfile hp)
    cases List.mem_singleton.1 hx
  | some profile =>
    obtain ⟨⟨name, password⟩, credentials, hq⟩ := hy.asksAsChosen hp a q v hx
    have hsent := hq.eq_presented ht hd
    refine ⟨profile, name, password, rfl, hq.authenticator, hq.submits.unsupplied, hq.submits.name,
      hq.submits.password, hsent ▸ hq.user, hsent ▸ hq.password, ?_⟩
    intro before now soft token x hn hfind htoken hexpired hstore
    have hnone : lent? (store st) p = none := hstore ▸ lent?_evict hn htoken hfind hexpired soft
    have hsame : credentials = (name, password) := by rw [hsent, presented, hnone, Option.getD_none]
    subst hsame
    exact ⟨hq.user, hq.password⟩

end

/-! An example: the authenticator is a remote party, and somebody else's session is consulted. -/

/-- A remote party that takes passwords. -/
def ldap : Remote := { number := 0, name := "ldap", capabilities := .union .credentials .password }

/-- Logins by one profile, whose authenticator and authorizer is the remote party. -/
def ldapSetup : Setup where
  profiles := ⟨.ofList [("main", { name := "main", authenticator := .remote ldap, authorizer := .remote ldap })]⟩

/-- A session of which the limit has come. -/
def overdue : Session where
  user := some { id := default, externalId := "ann", loginName := "ann", domain := "ldap" }
  password := some ⟨"ann-secret"⟩
  hardLimit := some ⟨10, 0⟩
  createdAt := ⟨0, 0⟩
  lastSeen := ⟨0, 0⟩

/-- Bob logs in, and the session is consulted. -/
def consulting (token : String) : LoginParameters :=
  { LoginParameters.ofCredentials "main" "bob" ⟨"bob-secret"⟩ with sessionId := some token }

/-- After the session was dropped, the name and the password that are submitted are sent. -/
theorem login_presents_submitted :
    let st : Services Unit := {
      sessions := SessionStore.evict ⟨.ofList [("old", overdue)]⟩ ⟨20, 0⟩ ⟨0⟩, clock := fun _ => ⟨20, 0⟩,
      outside := () }
    let tr := (login ldapSetup (consulting "old")).transcript (Services.reply fun _ _ => pure (.ok ∅)) st
    ∃ profile q v, ⟨.authenticate (.remote ldap) q, v⟩ ∈ tr ∧ SentAs profile tr "bob" q.user ∧
      q.credentials = ⟨"bob-secret"⟩ := by
  intro st tr
  have hx : ⟨.authenticate (.remote ldap) { user := "bob", credentials := ⟨"bob-secret"⟩ }, .error _⟩ ∈ tr :=
    List.mem_of_getElem? (i := 2) rfl
  obtain ⟨profile, name, password, -, -, -, hn, hw, -, -, hlast⟩ :=
    login_presents (tellsStore_reply fun _ _ => pure (.ok ∅)) ldapSetup (consulting "old") st hx
  cases hn
  cases hw
  exact ⟨profile, _, _, hx, hlast ⟨.ofList [("old", overdue)]⟩ ⟨20, 0⟩ ⟨0⟩ "old" overdue (by decide) rfl rfl rfl rfl⟩

/-- Before it is dropped, the session lends its user and password to Bob, though its limit has come. -/
theorem login_presents_overdue :
    let p := consulting "old"
    let st : Services Unit := {
      sessions := ⟨.ofList [("old", overdue)]⟩, clock := fun _ => ⟨20, 0⟩, outside := () }
    let tr := (login ldapSetup p).transcript (Services.reply fun _ _ => pure (.ok ∅)) st
    p.authRecord = none ∧ p.credentialSession? = some "old" ∧ st.sessions.find? "old" = some overdue ∧
      (∀ n, overdue.isExpired (st.clock n) = true) ∧
      ¬ ∀ a q v, ⟨.authenticate a q, v⟩ ∈ tr → q.user = "bob" ∧ q.credentials = ⟨"bob-secret"⟩ := by
  refine ⟨rfl, rfl, rfl, fun _ => rfl, fun hall => ?_⟩
  have hann : "ann" = "bob" := (hall (.remote ldap) { user := "ann", credentials := ⟨"ann-secret"⟩ } _
    (List.mem_of_getElem? (i := 2) rfl)).1
  exact absurd hann (by decide)

end Gatehouse.Login
