import Gatehouse.Proofs.AuditEntries
import Gatehouse.Proofs.UserMessages
/-!
# Under which name an attempt is logged

From its start an attempt is shown as somebody's, and twice it may come to be shown as somebody else's: when the
authenticator answers, and when there is a record of who logs in. Main statement: whatever the collaborators do, the
entry that ends an attempt names the principal of this record, else the principal of the answer, else who was claimed to
log in; and of all that collaborators reply, only the answer of the authenticator makes a difference.
-/

namespace Gatehouse

/-! ## Profiles stand under their own names -/

section
variable {t t' : Profiles}

theorem Profiles.named_addAll {ps : List Profile}
    (ht : ∀ name profile, t.byName.find? name = some profile → profile.name = name) (h : addAll ps t = .ok t') :
    ∀ name profile, t'.byName.find? name = some profile → profile.name = name := by
  induction ps generalizing t with
  | nil =>
    cases h
    exact ht
  | cons p ps ih =>
    unfold addAll at h
    split at h
    · cases h
    refine ih (fun name profile hf => ?_) h
    by_cases hp : p.name = name
    · subst hp
      rw [Table.find?_insert_self] at hf
      cases hf
      rfl
    · rw [Table.find?_insert_of_ne _ _ hp] at hf
      exact ht name profile hf

/-- The profile that a name leads to has this name. -/
theorem Profiles.name_of_find? {ps : List Profile} (h : Profiles.ofList ps = .ok t) {name : Option String}
    {profile : Profile} (hf : t.find? name = some profile) : name = some profile.name := by
  obtain ⟨name, rfl, hf⟩ := Option.bind_eq_some_iff.1 hf
  rw [named_addAll (fun name profile hf => by simp at hf) h name profile hf]

end

namespace Login

/-! ## Who logs in -/

/-- The answer that an authenticator gave. -/
def Exchange.response? : Exchange → Option Wire.AuthnResponse
  | ⟨.authenticate .., .ok response⟩ => some response
  | _ => none

/-- What the authenticator answered, if it was asked and answered. -/
def heard (tr : List Exchange) : Option Wire.AuthnResponse := tr.findSome? Exchange.response?

/-- The record of who logs in: the supplied one, or that of an authenticator that accepted the credentials. No mapper
has seen it yet. -/
def obtained? (p : LoginParameters) (tr : List Exchange) : Option AuthRecord :=
  p.authRecord <|> ((heard tr).filter fun response => response.result.isSuccess).bind fun response => response.authRecord

/-- Who logs in, as far as it is known: by the record, else by the answer, else by what was submitted. -/
def identity (s : Setup) (p : LoginParameters) (tr : List Exchange) : String :=
  ((s.profiles.find? p.profileName).bind (fun _ => (obtained? p tr).bind AuthRecord.principal?)
    <|> (heard tr).bind (fun response => response.principal)
    <|> p.givenName?
    <|> p.authRecord.bind AuthRecord.principal?).getD ""

section
variable {s : Setup} {p : LoginParameters} {profile : Profile} {credentials : String × Secret} {t u tr : List Exchange}

theorem heard_append (t u : List Exchange) : heard (t ++ u) = (heard t).or (heard u) := List.findSome?_append

theorem AsksNobody.heard_eq (h : AsksNobody t) : heard t = none := by
  refine List.findSome?_eq_none_iff.2 fun x hx => ?_
  obtain ⟨r, v⟩ := x
  have hr := h _ hx
  cases r with
  | authenticate => cases hr
  | _ => rfl

theorem heard_append_of_asksNobody (hu : AsksNobody u) : heard (t ++ u) = heard t := by
  rw [heard_append, hu.heard_eq, Option.or_none]

theorem AsksNobody.heard_append (h : AsksNobody t) : heard (t ++ u) = heard u := by
  rw [Login.heard_append, h.heard_eq, Option.none_or]

theorem identity_append_of_asksNobody (hu : AsksNobody u) : identity s p (t ++ u) = identity s p t := by
  unfold identity obtained?
  rw [heard_append_of_asksNobody hu]

theorem Asks.heard_eq_none {e : Fault} (h : Asks profile credentials t (.error e)) : heard t = none := by
  cases h with
  | unnamed hn => exact hn.asksNobody.heard_eq
  | failed hn => exact hn.asksNobody.heard_append

theorem Asks.heard_eq {x : Authentication} (h : Asks profile credentials t (.ok x)) :
    heard t = some x.response := by
  cases h with
  | answered hn => exact hn.asksNobody.heard_append

/-- Once a profile was found, each source of the name is asked after the one before it. -/
theorem identity_of_found (hp : s.profiles.find? p.profileName = some profile) : identity s p tr =
    ((obtained? p tr).bind AuthRecord.principal?).getD
      (((heard tr).bind fun response => response.principal).getD p.claimant) := by
  unfold identity LoginParameters.claimant
  rw [hp, Option.bind_some]
  cases (obtained? p tr).bind AuthRecord.principal? <;>
    cases (heard tr).bind fun response => response.principal <;> rfl

end

/-! ## How an attempt is shown -/

/-- An attempt is shown as somebody, by the profile that was asked for. -/
def Progress.Shows (a : Progress) (p : LoginParameters) (who : String) : Prop :=
  a.displayName = LoginParameters.displayName who p.profileName

section
variable {s : Setup} {p : LoginParameters} {profile : Profile} {a b : Progress} {who : String} {t : List Exchange}

theorem Progress.Shows.naming (h : a.Shows p who) (hn : p.profileName = some profile.name)
    (principal : Option String) : (a.naming principal profile).Shows p (principal.getD who) := by
  cases principal with
  | none => exact h
  | some principal =>
    unfold Shows
    rw [hn]
    rfl

/-- What the record says is not shown yet, but what the answer says is. -/
theorem Proves.shows {r : Except Exit Evidence} (h : Proves profile p a t r b)
    (hn : p.profileName = some profile.name) (ha : a.Shows p who) :
    b.Shows p (((heard t).bind fun response => response.principal).getD who) := by
  cases h with
  | supplied | noName | noPassword | unsupported => exact ha
  | unchosen _ hc => rwa [hc.asksNobody.heard_eq]
  | unasked _ hc hx => rwa [hc.asksNobody.heard_append, hx.heard_eq_none]
  | refused _ hc hx =>
    rw [hc.asksNobody.heard_append, heard_append_of_asksNobody (settled_refusalEntry _).asksNobody, hx.heard_eq]
    exact ha.naming hn _
  | recordless _ hc hx | proven _ hc hx =>
    rw [hc.asksNobody.heard_append, hx.heard_eq]
    exact ha.naming hn _

theorem Proves.obtained?_eq {evidence : Evidence} (h : Proves profile p a t (.ok evidence) b) :
    obtained? p t = some evidence.record := by
  unfold obtained?
  cases h with
  | supplied hp =>
    rw [hp]
    rfl
  | proven hs hc hx hok hr =>
    rw [hs.unsupplied, hc.asksNobody.heard_append, hx.heard_eq]
    simp [Option.filter, hok, hr]

theorem Proves.obtained?_eq_none {x : Exit} (h : Proves profile p a t (.error x) b) : obtained? p t = none := by
  unfold obtained?
  cases h with
  | noName hp | noPassword hp | unsupported hp =>
    rw [hp]
    rfl
  | unchosen hs hc =>
    rw [hs.unsupplied, hc.asksNobody.heard_eq]
    rfl
  | unasked hs hc hx =>
    rw [hs.unsupplied, hc.asksNobody.heard_append, hx.heard_eq_none]
    rfl
  | refused hs hc hx hno =>
    rw [hs.unsupplied, hc.asksNobody.heard_append,
      heard_append_of_asksNobody (settled_refusalEntry _).asksNobody, hx.heard_eq]
    simp [Option.filter, hno]
  | recordless hs hc hx hok hr =>
    rw [hs.unsupplied, hc.asksNobody.heard_append, hx.heard_eq]
    simp [Option.filter, hok, hr]

theorem Finds.displayName_eq {record : AuthRecord} {loginName : Option String} {r : Except Exit PrincipalRecord}
    (h : Finds profile record loginName a t r b) : b.displayName = a.displayName := by
  cases h <;> rfl

theorem Permits.displayName_eq {record : AuthRecord} {principal : PrincipalRecord} {user : LocalUser}
    {r : Except Exit LocalUser} (h : Permits profile record principal user a t r b) :
    b.displayName = a.displayName := by
  cases h <;> rfl

/-- The profile that an attempt goes by has the name that was asked for. -/
def Setup.Named (s : Setup) (p : LoginParameters) : Prop :=
  ∀ profile, s.profiles.find? p.profileName = some profile → p.profileName = some profile.name

/-- Once there is a record of who logs in, the attempt is shown as theirs. -/
theorem Proves.shows_identity {evidence : Evidence} (h : Proves profile p (.start p) t (.ok evidence) b)
    (hs : s.Named p) (hp : s.profiles.find? p.profileName = some profile) :
    (b.naming evidence.record.principal? profile).Shows p (identity s p t) := by
  rw [identity_of_found hp, h.obtained?_eq]
  exact (h.shows (hs profile hp) rfl).naming (hs profile hp) _

theorem Locates.shows {evidence : Evidence} {record : AuthRecord} {principal : PrincipalRecord}
    (h : Locates s p (.start p) profile evidence record principal t b) (hs : s.Named p) :
    b.Shows p (identity s p t) := by
  cases h with
  | intro hp hv hm hf =>
    rw [identity_append_of_asksNobody (hm.settled.append hf.settled).asksNobody]
    exact hf.displayName_eq.trans (hv.shows_identity hs hp)

theorem Admits.shows {f : Findings} (h : Admits s p (.start p) f t b) (hs : s.Named p) :
    b.Shows p (identity s p t) := by
  cases h with
  | intro hl hy hq =>
    rw [identity_append_of_asksNobody (hy.settled.append hq.settled).asksNobody]
    exact hq.displayName_eq.trans (hl.shows hs)

/-- However an attempt ends, it is then shown as that of who logs in. -/
theorem Executes.shows {r : Except Exit (String × LocalUser)} (h : Executes s p (.start p) t r b) (hs : s.Named p) :
    b.Shows p (identity s p t) := by
  cases h with
  | noProfile hp =>
    unfold identity
    rw [hp]
    rfl
  | unproven hp hv =>
    rw [identity_of_found hp, hv.obtained?_eq_none]
    exact hv.shows (hs _ hp) rfl
  | unmapped hp hv hm =>
    rw [identity_append_of_asksNobody hm.settled.asksNobody]
    exact hv.shows_identity hs hp
  | unfound hp hv hm hf =>
    rw [identity_append_of_asksNobody (hm.settled.append hf.settled).asksNobody]
    exact hf.displayName_eq.trans (hv.shows_identity hs hp)
  | unsynced hl hy =>
    rw [identity_append_of_asksNobody hy.settled.asksNobody]
    exact hl.shows hs
  | unpermitted hl hy hq =>
    rw [identity_append_of_asksNobody (hy.settled.append hq.settled).asksNobody]
    exact hq.displayName_eq.trans (hl.shows hs)
  | unissued ha hi | granted ha hi =>
    rw [identity_append_of_asksNobody (hi.settled.cons rfl).asksNobody]
    exact ha.shows hs

/-- An entry that ends an attempt names who logs in; what an authenticator's refusal leaves is no such entry. -/
theorem Course.shows {r : Except Fault LoginResult} (h : Course s p t r) (hs : s.Named p) {name : String}
    {event : AuditEvent} (hx : (name, event) ∈ entries t) (he : event.isTerminal = true) :
    name = LoginParameters.displayName (identity s p t) p.profileName := by
  cases h with
  | @granted t u token user b hg hb =>
    rw [identity_append_of_asksNobody (hb.settled.cons rfl).asksNobody]
    have hentry : (name, event) ∈ [(b.displayName, AuditEvent.login)] := by
      rw [entries_append, hg.silent.logged] at hx
      have hx : (name, event) ∈ (b.displayName, AuditEvent.login) :: entries u := hx
      rwa [hb.silent.logged] at hx
    cases List.mem_singleton.1 hentry
    exact hg.shows hs
  | @refused t f b hg =>
    have hentry : (name, event) ∈ [(b.displayName, AuditEvent.loginFailed)] := by
      rw [entries_append, hg.ends.1] at hx
      refine (List.mem_append.1 hx).resolve_left fun hr => ?_
      cases (isTerminal_of_mem_refusals hr).symm.trans he
    cases List.mem_singleton.1 hentry
    rw [identity_append_of_asksNobody (Lacks.cons rfl (lacks_nil _))]
    exact hg.shows hs
  | aborted hg =>
    rw [hg.ends.1.logged] at hx
    cases hx

end

/-- Whatever the collaborators do, the entry that ends an attempt names who logs in, as far as it is known, and the
profile that was asked for. Two runs of the same attempt, whoever replies in them, have the same name in this entry if
the authenticator answers the same in both, or in neither. -/
theorem login_logs_identity {σ : Type} (h : Dialogue.Handler σ) {ps : List Profile} {s : Setup}
    (hs : Profiles.ofList ps = .ok s.profiles) (p : LoginParameters) (st : σ) {name : String} {event : AuditEvent}
    (hx : (name, event) ∈ entries ((login s p).transcript h st)) (he : event.isTerminal = true) :
    name = identity s p ((login s p).transcript h st) ++ "@" ++ p.profileName.getD "N/A" ∧
    ∀ (σ' : Type) (h' : Dialogue.Handler σ') (st' : σ') (name' : String) (event' : AuditEvent),
      (name', event') ∈ entries ((login s p).transcript h' st') → event'.isTerminal = true →
        heard ((login s p).transcript h' st') = heard ((login s p).transcript h st) → name' = name := by
  have hn : s.Named p := fun profile hp => Profiles.name_of_find? hs hp
  have logs : ∀ {σ : Type} (h : Dialogue.Handler σ) (st : σ) {name event},
      (name, event) ∈ entries ((login s p).transcript h st) → event.isTerminal = true →
        name = LoginParameters.displayName (identity s p ((login s p).transcript h st)) p.profileName :=
    fun h st => (course_of_yields (Dialogue.yields_transcript h (login s p) st)).shows hn
  refine ⟨logs h st hx he, fun σ' h' st' name' event' hx' he' hh => ?_⟩
  rw [logs h st hx he, logs h' st' hx' he', identity, identity, obtained?, obtained?, hh]

/-! An example: a remote party refuses, and says whose account it is. -/

/-- The answer of the remote party. -/
def lockedOut : Wire.AuthnResponse := { result := .accountLocked, principal := some "robert" }

/-- The name is that of the account, not the one that was submitted. -/
theorem login_logs_identity_refused :
    let h := Services.reply fun _ _ => pure (.ok lockedOut.toMap)
    let p := LoginParameters.ofCredentials "main" "bob" ⟨"bob-secret"⟩
    let st : Services Unit := { clock := fun _ => ⟨0, 0⟩, outside := () }
    ("robert@main", AuditEvent.loginFailed) ∈ entries ((login ldapSetup p).transcript h st) ∧
      "robert@main" = identity ldapSetup p ((login ldapSetup p).transcript h st) ++ "@" ++ p.profileName.getD "N/A" := by
  intro h p st
  have hx : ("robert@main", AuditEvent.loginFailed) ∈ entries ((login ldapSetup p).transcript h st) :=
    List.mem_of_getElem? (i := 1) rfl
  have hs : Profiles.ofList [{ name := "main", authenticator := .remote ldap, authorizer := .remote ldap }] =
      .ok ldapSetup.profiles := rfl
  exact ⟨hx, (login_logs_identity h hs p st hx rfl).1⟩

end Login

end Gatehouse
