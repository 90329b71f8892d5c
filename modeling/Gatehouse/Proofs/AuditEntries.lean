import Gatehouse.Login.Services
import Gatehouse.Proofs.Course
/-!
# What an attempt leaves in the audit trail

An ended attempt logs one terminal entry, after at most one entry that tells why an authenticator refused.
An attempt that ends with a fatal fault logs nothing, and this fault is that of the first collaborator
that failed. Both are proved for every course of an attempt, hence for whatever the collaborators do.
-/

namespace Gatehouse.Login

/-- The audit entry that a request makes. -/
def Exchange.entry? : Exchange → Option (String × AuditEvent)
  | ⟨.audit userName event, _⟩ => some (userName, event)
  | _ => none

/-- The entry that an authenticator's refusal calls for: under the name that was sent to the authenticator,
unless the verdict has no event of its own. -/
def Exchange.refusal? : Exchange → Option (String × AuditEvent)
  | ⟨.authenticate _ q, .ok a⟩ =>
    if a.result.isSuccess then none
    else (a.result.auditEvent?.filter fun event => event ≠ .loginFailed).map (q.user, ·)
  | _ => none

/-- The audit entries of a transcript, in order. -/
def entries (tr : List Exchange) : List (String × AuditEvent) := tr.filterMap Exchange.entry?

/-- The entries that the refusals in a transcript call for. -/
def refusals (tr : List Exchange) : List (String × AuditEvent) := tr.filterMap Exchange.refusal?

/-- The fault of the first collaborator that failed. -/
def firstFault (tr : List Exchange) : Option Fault := tr.findSome? Exchange.fault?

theorem entries_append (t u : List Exchange) : entries (t ++ u) = entries t ++ entries u := List.filterMap_append

theorem refusals_append (t u : List Exchange) : refusals (t ++ u) = refusals t ++ refusals u :=
  List.filterMap_append

theorem firstFault_append (t u : List Exchange) : firstFault (t ++ u) = (firstFault t).or (firstFault u) :=
  List.findSome?_append

/-- A verdict's own event, other than that the login failed, does not end an attempt. -/
theorem isTerminal_of_auditEvent {v : Wire.Verdict} {event : AuditEvent} (h : v.auditEvent? = some event)
    (hn : event ≠ .loginFailed) : event.isTerminal = false := by
  cases v <;> cases h <;> first | rfl | exact absurd rfl hn

/-- An entry that a refusal calls for does not end the attempt. -/
theorem isTerminal_of_mem_refusals {tr : List Exchange} {x : String × AuditEvent} (h : x ∈ refusals tr) :
    x.2.isTerminal = false := by
  obtain ⟨y, -, hx⟩ := List.mem_filterMap.1 h
  unfold Exchange.refusal? at hx
  split at hx
  · split at hx
    · cases hx
    · obtain ⟨event, he, rfl⟩ := Option.map_eq_some_iff.1 hx
      obtain ⟨hv, hn⟩ := Option.filter_eq_some_iff.1 he
      exact isTerminal_of_auditEvent hv (by simpa using hn)
  · cases hx

/-- Nothing was logged, nothing calls for an entry, and the first fault is the given one. -/
structure Silent (fault : Option Fault) (tr : List Exchange) : Prop where
  logged : entries tr = []
  refused : refusals tr = []
  faulted : firstFault tr = fault

/-- What a transcript is to show when the attempt ends in a way. -/
def Ends (tr : List Exchange) : Exit → Prop
  | .failed _ => entries tr = refusals tr ∧ (refusals tr).length ≤ 1 ∧
      ∀ e, firstFault tr = some e → e.isFatal = false
  | .fatal e => Silent (some e) tr ∧ e.isFatal = true

section
variable {t u : List Exchange}

theorem Silent.append {f : Option Fault} (ht : Silent none t) (hu : Silent f u) : Silent f (t ++ u) where
  logged := by rw [entries_append, ht.logged, hu.logged]; rfl
  refused := by rw [refusals_append, ht.refused, hu.refused]; rfl
  faulted := by rw [firstFault_append, ht.faulted, hu.faulted]; rfl

theorem Silent.append_of_fault {e : Fault} (ht : Silent (some e) t) (he : entries u = []) (hr : refusals u = []) :
    Silent (some e) (t ++ u) where
  logged := by rw [entries_append, ht.logged, he]; rfl
  refused := by rw [refusals_append, ht.refused, hr]; rfl
  faulted := by rw [firstFault_append, ht.faulted]; rfl

theorem Ends.append {x : Exit} (hu : Ends u x) (ht : Silent none t) : Ends (t ++ u) x := by
  cases x with
  | fatal e => exact ⟨ht.append hu.1, hu.2⟩
  | failed f =>
    obtain ⟨he, hl, hf⟩ := hu
    refine ⟨?_, ?_, ?_⟩
    · rw [entries_append, refusals_append, ht.logged, ht.refused, he]
    · rwa [refusals_append, ht.refused]
    · rwa [firstFault_append, ht.faulted]

/-- An attempt may end for a reason of its own where no collaborator has failed. -/
theorem ends_of_silent (h : Silent none t) (f : LoginFailure) : Ends t (.failed f) := by
  refine ⟨by rw [h.logged, h.refused], by rw [h.refused]; exact Nat.zero_le 1, fun e he => ?_⟩
  rw [h.faulted] at he
  cases he

/-- A fault ends an attempt as it should. -/
theorem ends_of_fault {e : Fault} (h : Silent (some e) t) (stage : LoginStage) : Ends t (exitAt stage e) := by
  unfold exitAt
  split
  · next hf => exact ⟨h, hf⟩
  · next hf =>
    refine ⟨by rw [h.logged, h.refused], by rw [h.refused]; exact Nat.zero_le 1, fun e' he => ?_⟩
    rw [h.faulted] at he
    cases he
    simpa using hf

end

/-! ## Step by step -/

theorem Chooses.silent {p : LoginParameters} {submitted : String × Secret} {t : List Exchange}
    {r : Except Fault (String × Secret)} (h : Chooses p submitted t r) : Silent (faultOf r) t := by
  cases h <;> exact ⟨rfl, rfl, rfl⟩

theorem Names.silent {profile : Profile} {name : String} {t : List Exchange} {r : Except Fault String}
    (h : Names profile name t r) : Silent (faultOf r) t := by
  cases h <;> exact ⟨rfl, rfl, rfl⟩

theorem Asks.silent_of_error {profile : Profile} {credentials : String × Secret} {t : List Exchange}
    {e : Fault} (h : Asks profile credentials t (.error e)) : Silent (some e) t := by
  cases h with
  | unnamed hn => exact hn.silent
  | failed hn => exact hn.silent.append ⟨rfl, rfl, rfl⟩

/-- An answered request is silent but for the refusal that the answer may be. -/
theorem Asks.answered_eq {profile : Profile} {credentials : String × Secret} {t : List Exchange}
    {x : Authentication} (h : Asks profile credentials t (.ok x)) :
    entries t = [] ∧ firstFault t = none ∧ refusals t =
      (Exchange.refusal? ⟨.authenticate profile.authenticator ⟨x.mappedUser, credentials.2⟩, .ok x.response⟩).toList := by
  cases h with
  | answered hn =>
    have hs := hn.silent
    refine ⟨?_, ?_, ?_⟩
    · rw [entries_append, hs.logged]
      rfl
    · rw [firstFault_append, hs.faulted]
      rfl
    · rw [refusals_append, hs.refused]
      simp [refusals, List.filterMap_cons]
      split <;> simp_all

theorem Asks.silent_of_success {profile : Profile} {credentials : String × Secret} {t : List Exchange}
    {x : Authentication} (h : Asks profile credentials t (.ok x)) (hx : x.response.result.isSuccess = true) :
    Silent none t := by
  obtain ⟨he, hf, hr⟩ := h.answered_eq
  refine ⟨he, ?_, hf⟩
  rw [hr]
  simp [Exchange.refusal?, hx]

theorem Asks.refused {profile : Profile} {credentials : String × Secret} {t : List Exchange}
    {x : Authentication} (h : Asks profile credentials t (.ok x)) (hx : x.response.result.isSuccess = false)
    (f : LoginFailure) : Ends (t ++ refusalEntry x) (.failed f) := by
  obtain ⟨he, hf, hr⟩ := h.answered_eq
  have hn : refusals (refusalEntry x) = [] ∧ firstFault (refusalEntry x) = none ∧
      entries (refusalEntry x) = refusals t := by
    rw [hr]
    unfold refusalEntry
    cases hv : x.response.result.auditEvent? with
    | none => simp [Exchange.refusal?, hx, hv, refusals, firstFault, entries]
    | some event =>
      by_cases hl : event = .loginFailed <;>
        simp [Exchange.refusal?, hx, hv, hl, refusals, firstFault, entries, Exchange.fault?, Exchange.entry?,
          Option.filter]
  refine ⟨?_, ?_, ?_⟩
  · rw [entries_append, refusals_append, he, hn.1, hn.2.2, List.append_nil, List.nil_append]
  · rw [refusals_append, hn.1, List.append_nil, hr]
    exact Option.length_toList_le
  · rw [firstFault_append, hf, hn.2.1]
    simp

section
variable {profile : Profile} {p : LoginParameters} {a b : Progress} {t : List Exchange}

theorem Proves.silent {evidence : Evidence} (h : Proves profile p a t (.ok evidence) b) : Silent none t := by
  cases h with
  | supplied hp => exact ⟨rfl, rfl, rfl⟩
  | proven _ hc ha hx _ => exact hc.silent.append (ha.silent_of_success hx)

theorem Proves.ends {x : Exit} (h : Proves profile p a t (.error x) b) : Ends t x := by
  cases h with
  | noName | noPassword | unsupported => exact ends_of_silent ⟨rfl, rfl, rfl⟩ _
  | unchosen _ hc => exact ends_of_fault hc.silent _
  | unasked _ hc ha => exact ends_of_fault (hc.silent.append ha.silent_of_error) _
  | refused _ hc ha hx => exact (ha.refused hx _).append hc.silent
  | recordless _ hc ha hx _ => exact ends_of_silent (hc.silent.append (ha.silent_of_success hx)) _

theorem Maps.silent {record : AuthRecord} {r : Except Fault AuthRecord} (h : Maps profile record t r) :
    Silent (faultOf r) t := by
  cases h <;> exact ⟨rfl, rfl, rfl⟩

section
variable {record : AuthRecord} {loginName : Option String}

theorem Finds.silent {principal : PrincipalRecord} (h : Finds profile record loginName a t (.ok principal) b) :
    Silent none t := by
  cases h
  exact ⟨rfl, rfl, rfl⟩

theorem Finds.ends {x : Exit} (h : Finds profile record loginName a t (.error x) b) : Ends t x := by
  cases h with
  | failed => exact ends_of_fault ⟨rfl, rfl, rfl⟩ _
  | unknown => exact ends_of_silent ⟨rfl, rfl, rfl⟩ _

end

section
variable {principal : PrincipalRecord}

/-- A record that cannot become a user is not a fatal fault. -/
theorem isFatal_of_ofPrincipal {id : ObjectId} {authorizer : String} {e : Fault}
    (h : LocalUser.ofPrincipal id authorizer principal = .error e) : e.isFatal = false := by
  unfold LocalUser.ofPrincipal at h
  split at h
  · cases h
    rfl
  · cases h

theorem Syncs.silent {row : LocalUser} (h : Syncs profile principal t (.ok row)) : Silent none t := by
  cases h
  exact ⟨rfl, rfl, rfl⟩

theorem Syncs.ends {e : Fault} (h : Syncs profile principal t (.error e)) (stage : LoginStage) :
    Ends t (exitAt stage e) := by
  cases h with
  | unkeyed hu =>
    rw [exitAt, isFatal_of_ofPrincipal hu]
    exact ends_of_silent ⟨rfl, rfl, rfl⟩ _
  | failed hu => exact ends_of_fault ⟨rfl, rfl, rfl⟩ _

variable {record : AuthRecord} {user : LocalUser}

theorem Permits.silent {user' : LocalUser} (h : Permits profile record principal user a t (.ok user') b) :
    Silent none t := by
  cases h
  exact ⟨rfl, rfl, rfl⟩

theorem Permits.ends {x : Exit} (h : Permits profile record principal user a t (.error x) b) : Ends t x := by
  cases h with
  | failed | adminFailed => exact ends_of_fault ⟨rfl, rfl, rfl⟩ _
  | denied => exact ends_of_silent ⟨rfl, rfl, rfl⟩ _

end

end

theorem Writes.silent {token : String} {es : List Session.Edit} {t : List Exchange} {r : Except Fault Unit}
    (h : Writes token es t r) : Silent (faultOf r) t := by
  induction h with
  | done | failed => exact ⟨rfl, rfl, rfl⟩
  | wrote _ ih => exact Silent.append (t := [_]) ⟨rfl, rfl, rfl⟩ ih

theorem Issues.silent {s : SessionSettings} {g : Grant} {t : List Exchange} {r : Except Fault String}
    (h : Issues s g t r) : Silent (faultOf r) t := by
  cases h with
  | noToken => exact ⟨rfl, rfl, rfl⟩
  | unwritten hw =>
    have hs := hw.silent
    -- Whether the removal fails as well does not matter: the write failed first.
    exact Silent.append (t := [_, _]) ⟨rfl, rfl, rfl⟩ (hs.append_of_fault rfl rfl)
  | issued hw => exact Silent.append (t := [_, _]) ⟨rfl, rfl, rfl⟩ hw.silent

section
variable {s : Setup} {p : LoginParameters} {a b : Progress} {t : List Exchange}

theorem Locates.silent {profile : Profile} {evidence : Evidence} {record : AuthRecord}
    {principal : PrincipalRecord} (h : Locates s p a profile evidence record principal t b) : Silent none t := by
  cases h with
  | intro _ hv hm hf => exact hv.silent.append (hm.silent.append hf.silent)

theorem Admits.silent {x : Findings} (h : Admits s p a x t b) : Silent none t := by
  cases h with
  | intro hl hs hp => exact hl.silent.append (hs.silent.append hp.silent)

theorem Executes.silent {v : String × LocalUser} (h : Executes s p a t (.ok v) b) : Silent none t := by
  cases h with
  | granted ha hi => exact ha.silent.append (Silent.append (t := [_]) ⟨rfl, rfl, rfl⟩ hi.silent)

theorem Executes.ends {x : Exit} (h : Executes s p a t (.error x) b) : Ends t x := by
  cases h with
  | noProfile => exact ends_of_silent ⟨rfl, rfl, rfl⟩ _
  | unproven _ hv => exact hv.ends
  | unmapped _ hv hm => exact ends_of_fault (hv.silent.append hm.silent) _
  | unfound _ hv hm hf => exact (hf.ends.append hm.silent).append hv.silent
  | unsynced hl hs => exact (hs.ends _).append hl.silent
  | unpermitted hl hs hp => exact (hp.ends.append hs.silent).append hl.silent
  | unissued ha hi =>
    exact ends_of_fault (ha.silent.append (Silent.append (t := [_]) ⟨rfl, rfl, rfl⟩ hi.silent)) _

theorem Books.silent {user : LocalUser} (h : Books s user t) : Silent none t := by
  cases h <;> exact ⟨rfl, rfl, rfl⟩

/-- What an attempt with an answer leaves: the refusal's entry, if there is one, and the terminal entry. -/
theorem Course.entries_of_ok {v : LoginResult} (h : Course s p t (.ok v)) :
    (refusals t).length ≤ 1 ∧ (∀ e, firstFault t = some e → e.isFatal = false) ∧
      ∃ who, entries t = refusals t ++ [(who, if v.succeeded then .login else .loginFailed)] := by
  cases h with
  | @granted t u token user b he hb =>
    have hs := he.silent
    have hu : Silent none u := hb.silent
    refine ⟨?_, ?_, b.displayName, ?_⟩
    · rw [refusals_append, hs.refused]
      show (refusals u).length ≤ 1
      rw [hu.refused]
      exact Nat.zero_le 1
    · intro e hf
      rw [firstFault_append, hs.faulted] at hf
      cases hu.faulted.symm.trans hf
    · rw [entries_append, refusals_append, hs.logged, hs.refused]
      show _ :: entries u = refusals u ++ _
      rw [hu.logged, hu.refused]
      rfl
  | @refused t f b he =>
    obtain ⟨hl, hn, hf⟩ := he.ends
    refine ⟨?_, fun e h => hf e ?_, b.displayName, ?_⟩
    · rw [refusals_append, List.length_append]
      exact hn
    · rw [firstFault_append] at h
      exact (Option.or_none (o := firstFault t)).symm.trans h
    · rw [entries_append, refusals_append, hl, List.append_assoc]
      rfl

theorem Course.silent_of_error {e : Fault} (h : Course s p t (.error e)) :
    Silent (some e) t ∧ e.isFatal = true := by
  cases h with
  | aborted he => exact he.ends

end

/-- Whatever the collaborators do, an attempt that answers has logged one terminal entry, which says how the
attempt ended, after at most one entry that tells why the authenticator refused; and an attempt ends with
a fault exactly when the first collaborator that failed had no random numbers, and then logs nothing. -/
theorem login_audits {σ : Type} (s : Setup) (p : LoginParameters) (h : Dialogue.Handler σ) (st : σ) :
    let tr := (login s p).transcript h st
    let r := ((login s p).run h st).1
    (∀ v, r = .ok v →
      (refusals tr).length ≤ 1 ∧ (∀ x ∈ refusals tr, x.2.isTerminal = false) ∧
        ∃ who, entries tr = refusals tr ++ [(who, if v.succeeded then .login else .loginFailed)]) ∧
    (∀ e, r = .error e → entries tr = []) ∧
    ∀ e, r = .error e ↔ firstFault tr = some e ∧ e.kind = .randomSource := by
  intro tr r
  have hc : Course s p tr r := course_of_yields (Dialogue.yields_transcript h _ st)
  clear_value tr r
  refine ⟨?_, ?_, fun e => ⟨?_, ?_⟩⟩
  · rintro v rfl
    obtain ⟨hn, -, hl⟩ := hc.entries_of_ok
    exact ⟨hn, fun x hx => isTerminal_of_mem_refusals hx, hl⟩
  · rintro e rfl
    exact hc.silent_of_error.1.logged
  · rintro rfl
    obtain ⟨hs, hf⟩ := hc.silent_of_error
    exact ⟨hs.faulted, by simpa [Fault.isFatal] using hf⟩
  · rintro ⟨he, hk⟩
    rcases r with e' | v
    · cases hc.silent_of_error.1.faulted.symm.trans he
      rfl
    · obtain ⟨-, hf, -⟩ := hc.entries_of_ok
      cases (show e.isFatal = true by simp [Fault.isFatal, hk]).symm.trans (hf e he)

/-! ## The trail of the program itself -/

/-- What a trail says, without the identifiers and the times of its entries. -/
def said (t : AuditTrail) : List (String × AuditEvent) := t.entries.map fun e => (e.userName, e.event)

section
variable {ρ : Type} (invoke : Remote → Record → StateM ρ (Except Fault Record))

theorem said_reply (r : Request) (st : Services ρ) :
    said (Services.reply invoke r st).2.audit =
      said st.audit ++ (Exchange.entry? ⟨r, (Services.reply invoke r st).1⟩).toList := by
  cases r with
  | audit userName event => exact List.map_append
  | authenticate a q | fetchPrincipal a q => cases a <;> exact (List.append_nil _).symm
  | mapUser m q | mapAuthRecord m q => cases m <;> exact (List.append_nil _).symm
  | submit c =>
    obtain ⟨_, h⟩ := Services.submit_eq c st
    show said (Services.submit c st).2.audit = _
    rw [h]
    exact (List.append_nil _).symm
  | _ => exact (List.append_nil _).symm

theorem said_of_conducts {st st' : Services ρ} {tr : List Exchange}
    (h : Dialogue.Conducts (Services.reply invoke) st tr st') : said st'.audit = said st.audit ++ entries tr := by
  induction h with
  | nil st => exact (List.append_nil _).symm
  | @cons st _ _ r _ ih =>
    rw [ih, said_reply, List.append_assoc]
    cases hx : Exchange.entry? ⟨r, (Services.reply invoke r st).1⟩ <;> simp [entries, hx]

/-- The program's own trail gains the entries of the transcript, in order, and nothing else. -/
theorem said_login (s : Setup) (p : LoginParameters) (st : Services ρ) :
    said ((login s p).run (Services.reply invoke) st).2.audit =
      said st.audit ++ entries ((login s p).transcript (Services.reply invoke) st) :=
  said_of_conducts invoke (Dialogue.conducts_transcript ..)

end

end Gatehouse.Login
