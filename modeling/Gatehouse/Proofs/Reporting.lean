import Gatehouse.Proofs.Noninterference
/-!
# What is reported to those who account for logins

An attempt makes one report at most: that the principal is not known, that it may not log in, or that it
logged in, which is reported before the session is issued. Every sink gets what is reported, and what the
sinks answer makes no difference to anything else.
-/

namespace Gatehouse

namespace Accounting

/-- Makes reports one after the other. -/
def reportAll (a : Accounting) (rs : List Report) : Accounting := rs.foldl report a

theorem reportAll_append (a : Accounting) (rs ts : List Report) :
    a.reportAll (rs ++ ts) = (a.reportAll rs).reportAll ts := List.foldl_append

theorem received_reportAll (a : Accounting) (rs : List Report) :
    (a.reportAll rs).sinks.map Sink.received = a.sinks.map fun k => k.received ++ rs := by
  induction rs generalizing a with
  | nil => simp [reportAll]
  | cons r rs ih =>
    have hr : (a.report r).sinks.map (fun k => k.received ++ rs) =
        (((a.report r).sinks.map Sink.received).map fun received => received ++ rs) := by
      simp
    show ((a.report r).reportAll rs).sinks.map Sink.received = _
    rw [ih, hr, received_report]
    simp

end Accounting

namespace Login

/-! ## What a transcript shows -/

/-- The report that a request makes. -/
def Exchange.report? : Exchange → Option Report
  | ⟨.report x, _⟩ => some x
  | _ => none

/-- The reports of a transcript, in order. -/
def reports (tr : List Exchange) : List Report := tr.filterMap Exchange.report?

/-- The user may log in. -/
def Exchange.permits : Exchange → Bool
  | ⟨.checkPermission _, .ok permitted⟩ => permitted
  | _ => false

/-- It is known whether the user administers. -/
def Exchange.evaluates : Exchange → Bool
  | ⟨.checkAdmin _, .ok _⟩ => true
  | _ => false

/-- The permission was granted, and it was answered whether the user administers. -/
def cleared (tr : List Exchange) : Bool := tr.any Exchange.permits && tr.any Exchange.evaluates

/-- The fault for which a session could not be issued: there was no token, or a part could not be written. -/
def Exchange.issueFault? : Exchange → Option Fault
  | ⟨.newToken, r⟩ => faultOf r
  | ⟨.sessions (.write ..), r⟩ => faultOf r
  | _ => none

def issueFaults (tr : List Exchange) : List Fault := tr.filterMap Exchange.issueFault?

theorem reports_append (t u : List Exchange) : reports (t ++ u) = reports t ++ reports u := List.filterMap_append

/-- What a transcript shows of all this. -/
structure Tally (tr : List Exchange) (rs : List Report) (permitted evaluated : Bool) (faults : List Fault) : Prop where
  reports : reports tr = rs
  permitted : tr.any Exchange.permits = permitted
  evaluated : tr.any Exchange.evaluates = evaluated
  faults : issueFaults tr = faults

theorem Tally.append {t u : List Exchange} {rs rs' : List Report} {a a' b b' : Bool} {fs fs' : List Fault}
    (ht : Tally t rs a b fs) (hu : Tally u rs' a' b' fs') :
    Tally (t ++ u) (rs ++ rs') (a || a') (b || b') (fs ++ fs') where
  reports := by
    rw [← ht.reports, ← hu.reports, reports_append]
  permitted := by rw [List.any_append, ht.permitted, hu.permitted]
  evaluated := by rw [List.any_append, ht.evaluated, hu.evaluated]
  faults := by
    rw [← ht.faults, ← hu.faults]
    exact List.filterMap_append

/-- Nothing of it happens. -/
abbrev Quiet (tr : List Exchange) : Prop := Tally tr [] false false []

section
variable {t u : List Exchange} {rs : List Report} {a b : Bool} {fs : List Fault}

theorem Tally.after (hu : Tally u rs a b fs) (ht : Quiet t) : Tally (t ++ u) rs a b fs := ht.append hu

theorem Tally.before (ht : Tally t rs a b fs) (hu : Quiet u) : Tally (t ++ u) rs a b fs := by
  simpa using ht.append hu

end

/-! ## Step by step -/

section
variable {s : Setup} {profile : Profile} {p : LoginParameters} {a b : Progress} {t u : List Exchange}

theorem Chooses.quiet {submitted : String × Secret} {r : Except Fault (String × Secret)}
    (h : Chooses p submitted t r) : Quiet t := by
  cases h <;> exact ⟨rfl, rfl, rfl, rfl⟩

theorem Names.quiet {name : String} {r : Except Fault String} (h : Names profile name t r) : Quiet t := by
  cases h <;> exact ⟨rfl, rfl, rfl, rfl⟩

theorem Asks.quiet {credentials : String × Secret} {r : Except Fault Authentication}
    (h : Asks profile credentials t r) : Quiet t := by
  cases h with
  | unnamed hn => exact hn.quiet
  | failed hn | answered hn => exact hn.quiet.append ⟨rfl, rfl, rfl, rfl⟩

theorem quiet_refusalEntry (x : Authentication) : Quiet (refusalEntry x) := by
  unfold refusalEntry
  repeat' split
  all_goals exact ⟨rfl, rfl, rfl, rfl⟩

theorem Proves.quiet {r : Except Exit Evidence} (h : Proves profile p a t r b) : Quiet t := by
  cases h with
  | supplied | noName | noPassword | unsupported => exact ⟨rfl, rfl, rfl, rfl⟩
  | unchosen _ hc => exact hc.quiet
  | unasked _ hc ha | recordless _ hc ha | proven _ hc ha => exact hc.quiet.append ha.quiet
  | refused _ hc ha => exact hc.quiet.append (ha.quiet.append (quiet_refusalEntry _))

theorem Maps.quiet {record : AuthRecord} {r : Except Fault AuthRecord} (h : Maps profile record t r) : Quiet t := by
  cases h <;> exact ⟨rfl, rfl, rfl, rfl⟩

theorem Syncs.quiet {principal : PrincipalRecord} {r : Except Fault LocalUser} (h : Syncs profile principal t r) :
    Quiet t := by
  cases h <;> exact ⟨rfl, rfl, rfl, rfl⟩

theorem Locates.quiet {evidence : Evidence} {record : AuthRecord} {principal : PrincipalRecord}
    (h : Locates s p a profile evidence record principal t b) : Quiet t := by
  obtain ⟨_, hv, hm, hf⟩ := h
  refine hv.quiet.append (hm.quiet.append ?_)
  cases hf
  exact ⟨rfl, rfl, rfl, rfl⟩

theorem Admits.tally {f : Findings} (h : Admits s p a f t b) : Tally t [] true true [] := by
  obtain ⟨hl, hs, hp⟩ := h
  refine Tally.after (Tally.after ?_ hs.quiet) hl.quiet
  obtain ⟨admin, rfl, -⟩ := hp.eq
  exact ⟨rfl, rfl, rfl, rfl⟩

theorem Writes.tally {token : String} {es : List Session.Edit} {r : Except Fault Unit} (h : Writes token es t r) :
    Tally t [] false false (faultOf r).toList := by
  induction h with
  | done => exact ⟨rfl, rfl, rfl, rfl⟩
  | failed => exact ⟨rfl, rfl, rfl, rfl⟩
  | @wrote e _ _ _ _ ih =>
    have he : Quiet [⟨.sessions (.write token e), .ok ()⟩] := ⟨rfl, rfl, rfl, rfl⟩
    exact ih.after he

theorem Issues.tally {g : Grant} {r : Except Fault String} (h : Issues s.session g t r) :
    Tally t [] false false (faultOf r).toList := by
  have hq : ∀ token now, Quiet [⟨.newToken, .ok token⟩, ⟨.now, now⟩] := fun _ _ => ⟨rfl, rfl, rfl, rfl⟩
  cases h with
  | noToken => exact ⟨rfl, rfl, rfl, rfl⟩
  | @unwritten token now _ _ removed hw =>
    have hr : Quiet [⟨.sessions (.remove token), removed⟩] := ⟨rfl, rfl, rfl, rfl⟩
    exact (hw.tally.before hr).after (hq token now)
  | issued hw => exact hw.tally.after (hq _ _)

theorem Books.quiet {user : LocalUser} (h : Books s user t) : Quiet t := by
  cases h <;> exact ⟨rfl, rfl, rfl, rfl⟩

end

/-! ## Every report and every end -/

/-- What a successful login is reported for. -/
def loginReason (p : LoginParameters) : ReportReason :=
  if p.authRecord.isSome ∧ p.authType = some .negotiation then .negotiateLogin else .credentialsLogin

/-- A report tells of the authorizer, of the record that it was shown, which is what a mapper makes of the
supplied or the authenticated one, and of the principal that it answered with. -/
def TellsOf (s : Setup) (p : LoginParameters) (tr : List Exchange) (x : Report) : Prop :=
  ∃ profile original, s.profiles.find? p.profileName = some profile ∧ x.authorizer = profile.authorizer.name ∧
    (p.authRecord = some original ∨ p.authRecord = none ∧
      ∃ q response, ⟨.authenticate profile.authenticator q, .ok response⟩ ∈ tr ∧
        response.result.isSuccess = true ∧ response.authRecord = some original) ∧
    (profile.mapper = none ∧ x.authRecord = original ∨
      ∃ m answer, profile.mapper = some m ∧ ⟨.mapAuthRecord m { authRecord := original }, .ok answer⟩ ∈ tr ∧
        x.authRecord = Wire.MappingResponse.authRecordOr answer original) ∧
    ⟨.fetchPrincipal profile.authorizer { authRecord := x.authRecord },
      .ok { principalRecord := x.principalRecord }⟩ ∈ tr

/-- The ends of an attempt that have to do with a report. -/
def Exit.isReported : Exit → Bool
  | .failed .principalNotFound | .failed .authorizationDenied | .failed (.unavailable .sessionIssued) => true
  | _ => false

/-- What an attempt reports, by the way in which it ends. -/
inductive Reports (s : Setup) (p : LoginParameters) (tr : List Exchange) :
    Except Exit (String × LocalUser) → Prop
  | nothing {x permitted} (ht : Tally tr [] permitted false []) (hx : x.isReported = false) :
      Reports s p tr (.error x)
  | unknown {x} (ht : Tally tr [x] false false []) (hx : TellsOf s p tr x) (hr : x.reason = .principalNotFound)
      (hp : x.principalRecord = none) : Reports s p tr (.error (.failed .principalNotFound))
  | denied {x} (ht : Tally tr [x] false false []) (hx : TellsOf s p tr x) (hr : x.reason = .loginNoPermission)
      (hp : x.principalRecord.isSome = true) : Reports s p tr (.error (.failed .authorizationDenied))
  | unissued {x e} (ht : Tally tr [x] true true [e]) (hx : TellsOf s p tr x) (hr : x.reason = loginReason p)
      (hp : x.principalRecord.isSome = true) : Reports s p tr (.error (exitAt .sessionIssued e))
  | granted {x v} (ht : Tally tr [x] true true []) (hx : TellsOf s p tr x) (hr : x.reason = loginReason p)
      (hp : x.principalRecord.isSome = true) : Reports s p tr (.ok v)

section
variable {s : Setup} {profile : Profile} {p : LoginParameters} {a b : Progress} {t u w : List Exchange}

theorem TellsOf.mono {x : Report} (h : TellsOf s p t x) (hu : ∀ y ∈ t, y ∈ u) : TellsOf s p u x := by
  obtain ⟨profile, original, hp, hn, hv, hm, hf⟩ := h
  refine ⟨profile, original, hp, hn, ?_, ?_, hu _ hf⟩
  · rcases hv with hr | ⟨hr, q, response, hy, hs⟩
    · exact .inl hr
    · exact .inr ⟨hr, q, response, hu _ hy, hs⟩
  · rcases hm with hr | ⟨m, answer, hm, hy, hr⟩
    · exact .inl hr
    · exact .inr ⟨m, answer, hm, hu _ hy, hr⟩

theorem tellsOf {evidence : Evidence} {record : AuthRecord} {x : Report}
    (hp : s.profiles.find? p.profileName = some profile) (hv : Proves profile p a t (.ok evidence) b)
    (hm : Maps profile evidence.record u (.ok record)) (hn : x.authorizer = profile.authorizer.name)
    (hr : x.authRecord = record)
    (hf : ⟨.fetchPrincipal profile.authorizer { authRecord := record },
      .ok { principalRecord := x.principalRecord }⟩ ∈ w) : TellsOf s p (t ++ (u ++ w)) x := by
  subst hr
  refine ⟨profile, evidence.record, hp, hn, ?_, ?_, by simp [hf]⟩
  · rcases hv.vouched with hr | ⟨hr, q, response, hy, hs⟩
    · exact .inl hr
    · exact .inr ⟨hr, q, response, by simp [hy], hs⟩
  · rcases hm.rewritten with hr | ⟨m, answer, hm, hy, hr⟩
    · exact .inl hr
    · exact .inr ⟨m, answer, hm, by simp [hy], hr⟩

theorem Locates.tellsOf {evidence : Evidence} {record : AuthRecord} {principal : PrincipalRecord} {x : Report}
    (h : Locates s p a profile evidence record principal t b) (hn : x.authorizer = profile.authorizer.name)
    (hr : x.authRecord = record) (hx : x.principalRecord = some principal) : TellsOf s p t x := by
  obtain ⟨hp, hv, hm, hf⟩ := h
  refine Login.tellsOf hp hv hm hn hr ?_
  cases hf
  rw [hx]
  exact List.mem_cons_self

theorem Proves.reason_eq {evidence : Evidence} (h : Proves profile p a t (.ok evidence) b) :
    evidence.reason = loginReason p := by
  cases h with
  | supplied hp =>
    unfold suppliedReason loginReason
    rw [hp]
    cases p.authType with
    | none => rfl
    | some k => cases k <;> rfl
  | proven hs =>
    unfold loginReason
    rw [hs.unsupplied]
    rfl

theorem Admits.report {f : Findings} (h : Admits s p a f t b) :
    TellsOf s p t f.report ∧ f.report.reason = loginReason p := by
  obtain ⟨hl, hs, hp⟩ := h
  refine ⟨(hl.tellsOf rfl rfl rfl).mono fun y hy => List.mem_append_left _ hy, ?_⟩
  obtain ⟨_, hv, _, _⟩ := hl
  exact hv.reason_eq

theorem isReported_exitAt {stage : LoginStage} (hs : stage ≠ .sessionIssued) (e : Fault) :
    (exitAt stage e).isReported = false := by
  unfold exitAt
  split
  · rfl
  · cases stage <;> first | rfl | exact absurd rfl hs

theorem Proves.isReported {x : Exit} (h : Proves profile p a t (.error x) b) : x.isReported = false := by
  cases h with
  | noName | noPassword | unsupported | recordless => rfl
  | unchosen | unasked => exact isReported_exitAt (by decide) _
  | refused =>
    unfold Wire.AuthnResponse.refusal
    split <;> rfl

/-- Every attempt reports what it should. -/
theorem Executes.reports {r : Except Exit (String × LocalUser)} (h : Executes s p a t r b) : Reports s p t r := by
  cases h with
  | noProfile => exact .nothing ⟨rfl, rfl, rfl, rfl⟩ rfl
  | unproven _ hv => exact .nothing hv.quiet hv.isReported
  | unmapped _ hv hm => exact .nothing (hv.quiet.append hm.quiet) (isReported_exitAt (by decide) _)
  | @unfound profile _ record t u _ _ _ _ hp hv hm hf =>
    cases hf with
    | failed =>
      refine .nothing (Tally.after (Tally.after ⟨rfl, rfl, rfl, rfl⟩ hm.quiet) hv.quiet) ?_
      exact isReported_exitAt (by decide) _
    | unknown =>
      refine .unknown (Tally.after (Tally.after ⟨rfl, rfl, rfl, rfl⟩ hm.quiet) hv.quiet) ?_ rfl rfl
      exact tellsOf hp hv hm rfl rfl List.mem_cons_self
  | unsynced hl hs => exact .nothing (hl.quiet.append hs.quiet) (isReported_exitAt (by decide) _)
  | @unpermitted _ _ _ _ row _ _ _ _ _ _ hl hs hp =>
    cases hp with
    | failed | adminFailed =>
      refine .nothing (Tally.after (Tally.after ⟨rfl, rfl, rfl, rfl⟩ hs.quiet) hl.quiet) ?_
      exact isReported_exitAt (by decide) _
    | denied =>
      refine .denied (Tally.after (Tally.after ⟨rfl, rfl, rfl, rfl⟩ hs.quiet) hl.quiet) ?_ rfl rfl
      exact (hl.tellsOf rfl rfl rfl).mono fun y hy => List.mem_append_left _ hy
  | @unissued f _ _ _ _ ha hi =>
    obtain ⟨hx, hr⟩ := ha.report
    have ht : Tally [⟨.report f.report, ()⟩] [f.report] false false [] := ⟨rfl, rfl, rfl, rfl⟩
    exact .unissued (ha.tally.append (ht.append hi.tally)) (hx.mono fun y hy => List.mem_append_left _ hy) hr rfl
  | @granted f _ _ _ _ ha hi =>
    obtain ⟨hx, hr⟩ := ha.report
    have ht : Tally [⟨.report f.report, ()⟩] [f.report] false false [] := ⟨rfl, rfl, rfl, rfl⟩
    exact .granted (ha.tally.append (ht.append hi.tally)) (hx.mono fun y hy => List.mem_append_left _ hy) hr rfl

theorem Reports.before {r : Except Exit (String × LocalUser)} (h : Reports s p t r) (hu : Quiet u) :
    Reports s p (t ++ u) r := by
  have hm : ∀ y ∈ t, y ∈ t ++ u := fun y hy => List.mem_append_left _ hy
  cases h with
  | nothing ht hx => exact .nothing (ht.before hu) hx
  | unknown ht hx hr hp => exact .unknown (ht.before hu) (hx.mono hm) hr hp
  | denied ht hx hr hp => exact .denied (ht.before hu) (hx.mono hm) hr hp
  | unissued ht hx hr hp => exact .unissued (ht.before hu) (hx.mono hm) hr hp
  | granted ht hx hr hp => exact .granted (ht.before hu) (hx.mono hm) hr hp

end

/-! ## The whole attempt -/

/-- An attempt failed in a way. -/
def FailsWith (r : Except Fault LoginResult) (f : LoginFailure) : Prop := ∃ v, r = .ok v ∧ v.failure = some f

/-- Of each kind of report there is one exactly if the attempt ended as it says, and else there is none. -/
structure Reported (s : Setup) (p : LoginParameters) (tr : List Exchange) (r : Except Fault LoginResult) : Prop where
  unknown : (∃ x, reports tr = [x] ∧ x.reason = .principalNotFound ∧ x.principalRecord = none) ↔
    FailsWith r .principalNotFound
  denied : (∃ x, reports tr = [x] ∧ x.reason = .loginNoPermission ∧ x.principalRecord.isSome = true) ↔
    FailsWith r .authorizationDenied
  loggedIn : (∃ x, reports tr = [x] ∧ x.reason = loginReason p ∧ x.principalRecord.isSome = true) ↔
    cleared tr = true
  cleared_iff : cleared tr = true ↔ (∃ v, r = .ok v ∧ v.succeeded = true) ∨
    FailsWith r (.unavailable .sessionIssued) ∨ ∃ e ∈ issueFaults tr, r = .error e
  otherwise : ¬ FailsWith r .principalNotFound → ¬ FailsWith r .authorizationDenied → cleared tr = false →
    reports tr = []
  tellsOf : ∀ x ∈ reports tr, TellsOf s p tr x

/-- What comes of an attempt. -/
inductive Concludes : Except Exit (String × LocalUser) → Except Fault LoginResult → Prop
  | granted {token user} : Concludes (.ok (token, user)) (.ok (.granted token user))
  | refused {f messages} : Concludes (.error (.failed f)) (.ok (.refused f messages))
  | aborted {e} : Concludes (.error (.fatal e)) (.error e)

theorem Course.reports {s : Setup} {p : LoginParameters} {tr : List Exchange} {r : Except Fault LoginResult}
    (h : Course s p tr r) : ∃ x, Reports s p tr x ∧ Concludes x r := by
  have ha : ∀ name event, Quiet [⟨.audit name event, ()⟩] := fun _ _ => ⟨rfl, rfl, rfl, rfl⟩
  cases h with
  | granted he hb => exact ⟨_, he.reports.before ((ha _ _).append hb.quiet), .granted⟩
  | refused he => exact ⟨_, he.reports.before (ha _ _), .refused⟩
  | aborted he => exact ⟨_, he.reports, .aborted⟩

section
variable {s : Setup} {p : LoginParameters} {tr : List Exchange}

theorem failsWith_refused {f g : LoginFailure} {messages : List UserMessage} :
    FailsWith (.ok (.refused f messages)) g ↔ f = g := by
  simp [FailsWith, LoginResult.refused]

theorem not_failsWith_granted {token : String} {user : LocalUser} {g : LoginFailure} :
    ¬ FailsWith (.ok (.granted token user)) g := by
  simp [FailsWith, LoginResult.granted]

theorem not_failsWith_error {e : Fault} {g : LoginFailure} : ¬ FailsWith (.error e) g := by
  simp [FailsWith]

theorem loginReason_ne (p : LoginParameters) :
    loginReason p ≠ .principalNotFound ∧ loginReason p ≠ .loginNoPermission := by
  unfold loginReason
  split <;> decide

theorem Tally.cleared_eq {rs : List Report} {a b : Bool} {fs : List Fault} (h : Tally tr rs a b fs) :
    cleared tr = (a && b) := by
  rw [cleared, h.permitted, h.evaluated]

theorem Reports.reported {x : Except Exit (String × LocalUser)} {r : Except Fault LoginResult}
    (h : Reports s p tr x) (hc : Concludes x r) : Reported s p tr r := by
  obtain ⟨hne, hne'⟩ := loginReason_ne p
  have hs : ∀ f messages, (LoginResult.refused f messages).succeeded = false := fun _ _ => rfl
  cases h with
  | nothing ht hx =>
    have hcl := ht.cleared_eq
    rw [Bool.and_false] at hcl
    cases hc with
    | @refused f =>
      -- No failure that has to do with a report ends an attempt that made none.
      have hf : f ≠ .principalNotFound ∧ f ≠ .authorizationDenied ∧ f ≠ .unavailable .sessionIssued := by
        refine ⟨?_, ?_, ?_⟩
        all_goals
          rintro rfl
          cases hx
      constructor <;> simp [ht.reports, ht.faults, hcl, failsWith_refused, hs, hf]
    | aborted => constructor <;> simp [ht.reports, ht.faults, hcl, not_failsWith_error]
  | unknown ht hx hr hp =>
    have hcl := ht.cleared_eq
    cases hc
    constructor <;> simp [ht.reports, ht.faults, hcl, failsWith_refused, hs, hr, hp, hx]
  | denied ht hx hr hp =>
    have hcl := ht.cleared_eq
    cases hc
    constructor <;> simp [ht.reports, ht.faults, hcl, failsWith_refused, hs, hr, hp, hx, hne'.symm]
  | @unissued x e ht hx hr hp =>
    have hcl := ht.cleared_eq
    unfold exitAt at hc
    split at hc
    · cases hc
      constructor <;> simp [ht.reports, ht.faults, hcl, not_failsWith_error, hr, hp, hx, hne, hne']
    · cases hc
      constructor <;> simp [ht.reports, ht.faults, hcl, failsWith_refused, hs, hr, hp, hx, hne, hne']
  | @granted x v ht hx hr hp =>
    have hcl := ht.cleared_eq
    have hg : ∀ token user, (LoginResult.granted token user).succeeded = true := fun _ _ => rfl
    cases hc
    constructor <;> simp [ht.reports, ht.faults, hcl, not_failsWith_granted, hg, hr, hp, hx, hne, hne']

end

/-! ## The sinks -/

section
variable {ρ α : Type} (instead : (r : Request) → StateM ρ (Option r.Reply))
  (invoke : Remote → Record → StateM ρ (Except Fault Record))
  (hi : ∀ x o, instead (.report x) o = (none, o)) (st : Services ρ) (a : Accounting)
include hi

/-- Whatever the sinks are, the program replies the same, and leaves the same but for what they received. -/
theorem replyUnless_accounting (r : Request) :
    Services.replyUnless instead invoke r { st with accounting := a } =
      ((Services.replyUnless instead invoke r st).1, { (Services.replyUnless instead invoke r st).2 with
        accounting := a.reportAll (reports [⟨r, (Services.replyUnless instead invoke r st).1⟩]) }) := by
  unfold Services.replyUnless
  dsimp only
  cases hv : (instead r st.outside).1 with
  | some v =>
    cases r with
    | report x =>
      rw [hi] at hv
      cases hv
    | _ => rfl
  | none =>
    cases r with
    | sessions op => rfl
    | authenticate x q | mapUser x q | mapAuthRecord x q | fetchPrincipal x q => cases x <;> rfl
    | submit c =>
      rcases st with ⟨_, _, _, _, _, _ | runner, _⟩ <;> rfl
    | _ => rfl

theorem run_accounting (x : Dialogue α) :
    x.transcript (Services.replyUnless instead invoke) { st with accounting := a } =
        x.transcript (Services.replyUnless instead invoke) st ∧
      x.run (Services.replyUnless instead invoke) { st with accounting := a } =
        ((x.run (Services.replyUnless instead invoke) st).1,
          { (x.run (Services.replyUnless instead invoke) st).2 with
            accounting := a.reportAll (reports (x.transcript (Services.replyUnless instead invoke) st)) }) := by
  induction x generalizing st a with
  | done v => exact ⟨rfl, rfl⟩
  | ask r next ih =>
    have hr := replyUnless_accounting instead invoke hi st a r
    generalize hv : Services.replyUnless instead invoke r st = reply at hr
    obtain ⟨v, st'⟩ := reply
    obtain ⟨htr, hrun⟩ := ih v st' (a.reportAll (reports [⟨r, v⟩]))
    have hx : (Dialogue.ask r next).transcript (Services.replyUnless instead invoke) st =
        [⟨r, v⟩] ++ (next v).transcript (Services.replyUnless instead invoke) st' := by
      rw [Dialogue.transcript, hv]
      rfl
    have hn : (Dialogue.ask r next).run (Services.replyUnless instead invoke) st =
        (next v).run (Services.replyUnless instead invoke) st' := by
      show (next (Services.replyUnless instead invoke r st).1).run _ (Services.replyUnless instead invoke r st).2 = _
      rw [hv]
    constructor
    · rw [hx, Dialogue.transcript, hr, htr]
      rfl
    · rw [hn, hx, reports_append, Accounting.reportAll_append, ← hrun]
      show (next (Services.replyUnless instead invoke r _).1).run _ (Services.replyUnless instead invoke r _).2 = _
      rw [hr]

/-- An attempt reports once, or not at all, by the way in which it ends, and every sink receives the report, whatever
the sinks answer; nothing else depends on them. -/
theorem login_reports (s : Setup) (p : LoginParameters) :
    Reported s p ((login s p).transcript (Services.replyUnless instead invoke) st)
        ((login s p).run (Services.replyUnless instead invoke) st).1 ∧
      ∀ a : Accounting,
        let left := (login s p).run (Services.replyUnless instead invoke) st
        let left' := (login s p).run (Services.replyUnless instead invoke) { st with accounting := a }
        left'.1 = left.1 ∧ left'.2 = { left.2 with accounting := left'.2.accounting } ∧
          left'.2.accounting.sinks.map Sink.received = a.sinks.map fun k =>
            k.received ++ reports ((login s p).transcript (Services.replyUnless instead invoke) st) := by
  constructor
  · have hy : Course s p _ _ := course_of_yields
      (Dialogue.yields_transcript (Services.replyUnless instead invoke) (login s p) st)
    obtain ⟨x, hx, hc⟩ := hy.reports
    exact hx.reported hc
  · intro a
    dsimp only
    obtain ⟨-, hr⟩ := run_accounting instead invoke hi st a (login s p)
    rw [hr]
    exact ⟨rfl, rfl, Accounting.received_reportAll ..⟩

end

/-- One sink fails, and the other one learns all the same that somebody logged in. -/
theorem login_reports_failing :
    let h := Services.replyUnless (fun _ => pure none) fun _ _ => pure (.ok (vouching "bob"))
    let st : Services Unit := {
      permissions := { allowEveryone := true }, accounting := ⟨[.failing (.internal "down"), .keeping]⟩
      clock := fun _ => ⟨5, 0⟩, tokens := fun _ => .ok "new", outside := () }
    let p := LoginParameters.ofCredentials "main" "bob" ⟨"secret"⟩
    ∃ x, reports ((login ldapSetup p).transcript h st) = [x] ∧ x.reason = .credentialsLogin ∧
      ((login ldapSetup p).run h st).2.accounting.sinks.map Sink.received = [[x], [x]] := by
  intro h st p
  have hs : opened? ((login ldapSetup p).run h st).1 = some "new" := by decide +kernel
  have hl : loginReason p = .credentialsLogin := rfl
  have hk : st.accounting.sinks.map Sink.received = [[], []] := rfl
  obtain ⟨hr, ha⟩ :=
    login_reports (fun _ => pure none) (fun _ _ => pure (.ok (vouching "bob"))) (fun _ _ => rfl) st ldapSetup p
  -- From here on the attempt is not to be run again.
  clear_value st p
  obtain ⟨v, hv, hs, -⟩ := opened?_eq_some.1 hs
  obtain ⟨x, hx, hn, -⟩ := hr.loggedIn.2 (hr.cleared_iff.2 (.inl ⟨v, hv, hs⟩))
  obtain ⟨-, -, hreceived⟩ := ha st.accounting
  refine ⟨x, hx, hn.trans hl, ?_⟩
  calc ((login ldapSetup p).run h st).2.accounting.sinks.map Sink.received
      = st.accounting.sinks.map fun k => k.received ++ reports ((login ldapSetup p).transcript h st) := hreceived
    _ = (st.accounting.sinks.map Sink.received).map fun received => received ++ [x] := by
      rw [hx, List.map_map]
      rfl
    _ = [[x], [x]] := by rw [hk]; rfl

end Login

end Gatehouse
