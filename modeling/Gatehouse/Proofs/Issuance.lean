import Gatehouse.Login.Services
import Gatehouse.Proofs.CallOrder
/-!
# Sessions are issued as a whole

An attempt that succeeds leaves one more session in the store, which holds what the attempt found out, and
an attempt that does not succeed leaves the store as it was. Nothing is assumed of the collaborators but
that the store keeps sessions: a write is done or fails, and a removal is done.
-/

namespace Gatehouse

/-- Edits that were made to a session one after the other. -/
inductive Edited : List Session.Edit → Session → Session → Prop
  | nil (x : Session) : Edited [] x x
  | cons {e es x y} (now : Instant) (h : Edited es (x.edit now e) y) : Edited (e :: es) x y

namespace Login

variable {σ : Type}

/-! ## Stores -/

/-- Requests that do not bear on what the session store holds. -/
def Request.sparesStore : Request → Bool
  | .sessions (.write ..) | .sessions (.remove _) | .sessions (.evict ..) => false
  | _ => true

/-- A handler keeps its sessions in a store: a write is done or fails, a removal is done, and nothing else
that a login asks for changes the store. -/
structure KeepsStore (h : Dialogue.Handler σ) (store : σ → SessionStore) : Prop where
  write : ∀ token e st,
    (h (.sessions (.write token e)) st).1 = .ok () ∧
      (∃ now, store (h (.sessions (.write token e)) st).2 = (store st).write now token e) ∨
    (∃ f, (h (.sessions (.write token e)) st).1 = .error f) ∧ store (h (.sessions (.write token e)) st).2 = store st
  remove : ∀ token st, (∃ present, (h (.sessions (.remove token)) st).1 = .ok present) ∧
    store (h (.sessions (.remove token)) st).2 = (store st).remove token
  spare : ∀ r st, r.sparesStore = true → store (h r st).2 = store st

section
variable {h : Dialogue.Handler σ} {store : σ → SessionStore} (hk : KeepsStore h store)
  {st st' : σ} {tr : List Exchange} {token : String} {es : List Session.Edit}
include hk

theorem store_of_spares (hc : Dialogue.Conducts h st tr st') (hs : ∀ x ∈ tr, x.request.sparesStore = true) :
    store st' = store st := by
  induction hc with
  | nil st => rfl
  | cons r _ ih =>
    rw [ih fun x hx => hs x (List.mem_cons_of_mem _ hx)]
    exact hk.spare r _ (hs _ List.mem_cons_self)

/-- A write whose reply is known was done, or it failed. -/
theorem write_cases {e : Session.Edit} {r : Except Fault Unit}
    (hr : r = (h (.sessions (.write token e)) st).1) :
    r = .ok () ∧ (∃ now, store (h (.sessions (.write token e)) st).2 = (store st).write now token e) ∨
      (∃ f, r = .error f) ∧ store (h (.sessions (.write token e)) st).2 = store st :=
  hr ▸ hk.write token e st

/-- Writes under a token change nothing else. -/
theorem Writes.remove_eq {r : Except Fault Unit} (hw : Writes token es tr r) (hc : Dialogue.Conducts h st tr st') :
    (store st').remove token = (store st).remove token := by
  have hstep : ∀ e st, (store (h (.sessions (.write token e)) st).2).remove token = (store st).remove token := by
    intro e st
    rcases hk.write token e st with ⟨-, now, hs⟩ | ⟨-, hs⟩
    · rw [hs]
      exact congrArg SessionStore.mk (Table.erase_insert ..)
    · rw [hs]
  induction hw generalizing st with
  | done =>
    cases Dialogue.conducts_nil.1 hc
    rfl
  | failed =>
    obtain ⟨-, hc⟩ := Dialogue.conducts_cons.1 hc
    cases Dialogue.conducts_nil.1 hc
    exact hstep _ st
  | wrote _ ih =>
    obtain ⟨-, hc⟩ := Dialogue.conducts_cons.1 hc
    rw [ih hc]
    exact hstep _ st

/-- Writes into a session that stands at the end of the store edit it there. -/
theorem Writes.edited {before : List (String × Session)} {x : Session} (hf : token ∉ before.map Prod.fst)
    (hw : Writes token es tr (.ok ())) (hc : Dialogue.Conducts h st tr st')
    (hx : (store st).sessions.entries = before ++ [(token, x)]) :
    ∃ y, Edited es x y ∧ (store st').sessions.entries = before ++ [(token, y)] := by
  generalize hr : (Except.ok () : Except Fault Unit) = r at hw
  induction hw generalizing st x with
  | done =>
    cases Dialogue.conducts_nil.1 hc
    exact ⟨x, .nil x, hx⟩
  | failed => cases hr
  | @wrote e es tr r _ ih =>
    obtain ⟨hreply, hc⟩ := Dialogue.conducts_cons.1 hc
    rcases write_cases hk hreply with ⟨-, now, hs⟩ | ⟨⟨f, hf⟩, -⟩
    · have hfind : (store st).find? token = some x := by
        show Table.lookup token (store st).sessions.entries = some x
        rw [hx]
        exact Table.lookup_append_of_not_mem hf x
      have hy : (store (h (.sessions (.write token e)) st).2).sessions.entries =
          before ++ [(token, x.edit now e)] := by
        rw [hs]
        show Table.put token (((store st).find? token).getD (.new now) |>.edit now e) (store st).sessions.entries = _
        rw [hfind, hx]
        exact Table.put_append_of_not_mem hf ..
      obtain ⟨y, he, hy⟩ := ih hc hy hr
      exact ⟨y, .cons now he, hy⟩
    · cases hf

/-- Writes under a fresh token open one session. -/
theorem Writes.opened {e : Session.Edit} (hf : (store st).find? token = none)
    (hw : Writes token (e :: es) tr (.ok ())) (hc : Dialogue.Conducts h st tr st') :
    ∃ now y, Edited (e :: es) (.new now) y ∧
      (store st').sessions.entries = (store st).sessions.entries ++ [(token, y)] := by
  have hn : token ∉ (store st).sessions.entries.map Prod.fst := Table.find?_eq_none_iff.1 hf
  cases hw with
  | wrote hw =>
    obtain ⟨hreply, hc⟩ := Dialogue.conducts_cons.1 hc
    -- The first write opens the session at the end of the store, and the others find it there.
    rcases write_cases hk hreply with ⟨-, now, hs⟩ | ⟨⟨f, hf⟩, -⟩
    · have hx : (store (h (.sessions (.write token e)) st).2).sessions.entries =
          (store st).sessions.entries ++ [(token, (Session.new now).edit now e)] := by
        rw [hs]
        show Table.put token (((store st).find? token).getD (.new now) |>.edit now e) (store st).sessions.entries = _
        rw [hf]
        exact Table.put_of_not_mem hn _
      obtain ⟨y, he, hy⟩ := hw.edited hk hn hc hx
      exact ⟨now, y, .cons now he, hy⟩
    · cases hf

end

/-! ## What a session holds -/

/-- A session holds what was granted, under the limit that counts from a time. -/
structure Carries (s : SessionSettings) (g : Grant) (now : Instant) (x : Session) : Prop where
  user : x.user = some g.user
  profile : x.profile = some g.profile
  authRecord : x.authRecord = some g.authRecord
  principalRecord : x.principalRecord = some g.principalRecord
  password : x.password = if s.retainPassword then g.password else none
  hardLimit : x.hardLimit = Session.hardLimitFrom now s.hardLimitMinutes g.authRecord

theorem carries_of_edited {s : SessionSettings} {g : Grant} {now opened : Instant} {x : Session}
    (h : Edited (g.edits s now) (.new opened) x) : Carries s g now x := by
  have hf : (g.password.filter fun _ => s.retainPassword) = if s.retainPassword then g.password else none := by
    cases s.retainPassword <;> cases g.password <;> rfl
  unfold Grant.edits at h
  rw [hf] at h
  cases hp : if s.retainPassword then g.password else none with
  | none =>
    rw [hp] at h
    obtain _ | ⟨_, _ | ⟨_, _ | ⟨_, _ | ⟨_, _ | ⟨_, _ | ⟨_, _ | _⟩⟩⟩⟩⟩⟩ := h
    exact ⟨rfl, rfl, rfl, rfl, hp.symm, rfl⟩
  | some password =>
    rw [hp] at h
    obtain _ | ⟨_, _ | ⟨_, _ | ⟨_, _ | ⟨_, _ | ⟨_, _ | ⟨_, _ | ⟨_, _ | _⟩⟩⟩⟩⟩⟩⟩ := h
    exact ⟨rfl, rfl, rfl, rfl, hp.symm, rfl⟩

/-! ## Issuing -/

section
variable {h : Dialogue.Handler σ} {store : σ → SessionStore} (hk : KeepsStore h store)
  {st st' : σ} {tr : List Exchange} {s : SessionSettings} {g : Grant}
include hk

/-- The requests that precede the writes of a session do not bear on the store. -/
theorem store_of_token {token : Except Fault String} {now : Instant} {t : List Exchange}
    (hc : Dialogue.Conducts h st (⟨.newToken, token⟩ :: ⟨.now, now⟩ :: t) st') :
    ∃ m, store m = store st ∧ Dialogue.Conducts h m t st' := by
  obtain ⟨-, hc⟩ := Dialogue.conducts_cons.1 hc
  obtain ⟨-, hc⟩ := Dialogue.conducts_cons.1 hc
  exact ⟨_, by rw [hk.spare _ _ rfl, hk.spare _ _ rfl], hc⟩

theorem Issues.opened {token : String} (hi : Issues s g tr (.ok token)) (hc : Dialogue.Conducts h st tr st')
    (hf : (store st).find? token = none) :
    ∃ now x, ⟨.now, now⟩ ∈ tr ∧ Carries s g now x ∧
      (store st').sessions.entries = (store st).sessions.entries ++ [(token, x)] := by
  cases hi with
  | @issued _ now t hw =>
    obtain ⟨m, hm, hc⟩ := store_of_token hk hc
    obtain ⟨_, x, he, hx⟩ := hw.opened hk (hm ▸ hf) hc
    exact ⟨now, x, by simp, carries_of_edited he, hm ▸ hx⟩

omit hk in
theorem Issues.token_mem {token : String} (hi : Issues s g tr (.ok token)) : ⟨.newToken, .ok token⟩ ∈ tr := by
  cases hi
  exact List.mem_cons_self

/-- A session that could not be issued leaves nothing behind. -/
theorem Issues.undone {e : Fault} (hi : Issues s g tr (.error e)) (hc : Dialogue.Conducts h st tr st')
    (hf : ∀ token, ⟨.newToken, .ok token⟩ ∈ tr → (store st).find? token = none) : store st' = store st := by
  cases hi with
  | noToken => exact store_of_spares hk hc (by simp [Request.sparesStore])
  | @unwritten token now t e removed hw =>
    obtain ⟨m, hm, hc⟩ := store_of_token hk hc
    obtain ⟨m', hc', hr⟩ := Dialogue.conducts_append.1 hc
    obtain ⟨-, hr⟩ := Dialogue.conducts_cons.1 hr
    cases Dialogue.conducts_nil.1 hr
    calc store (h (.sessions (.remove token)) m').2
        = (store m').remove token := (hk.remove token m').2
      _ = (store m).remove token := hw.remove_eq hk hc'
      _ = (store st).remove token := by rw [hm]
      _ = store st := congrArg SessionStore.mk (Table.erase_of_find?_eq_none (hf token List.mem_cons_self))

end

/-! ## The way to the session -/

section
variable {s : Setup} {profile : Profile} {p : LoginParameters} {k k' : Learned} {cs : List Call}
  {tr : List Exchange} {x : Exchange}

theorem sparesStore_of_isIncidental {r : Request} (h : r.isIncidental = true) : r.sparesStore = true := by
  cases r <;> first | rfl | cases h

theorem sparesStore_of_call? {r : Request} {c : Call} (h : r.call? = some c) (hc : ∀ part, c ≠ .write part) :
    r.sparesStore = true := by
  cases r with
  | sessions op =>
    cases op with
    | write token e =>
      cases h
      exact absurd rfl (hc (partOf e))
    | remove | evict => cases h
    | _ => rfl
  | _ => rfl

theorem sparesStore_of_mopsUp {r : Request} {c : Call} (h : k.mopsUp c r) (hc : ∀ part, c ≠ .write part) :
    r.sparesStore = true := by
  cases r with
  | sessions op =>
    cases op with
    | remove token =>
      obtain ⟨-, part, hp⟩ := h
      exact absurd hp (hc part)
    | _ => exact h.elim
  | _ => rfl

theorem sparesStore_of_isBookkeeping {r : Request} (h : r.isBookkeeping = true) : r.sparesStore = true := by
  cases r <;> first | rfl | cases h

/-- Where no write is scheduled, an attempt spares the store. -/
theorem Follows.sparesStore (h : Follows s profile p k cs tr) (hcs : ∀ c ∈ cs, ∀ part, c ≠ .write part)
    (hx : x ∈ tr) : x.request.sparesStore = true := by
  rcases h.mem_cases hx with hi | ⟨c, hm, hc | ⟨k, hc⟩⟩
  · exact sparesStore_of_isIncidental hi
  · exact sparesStore_of_call? hc (hcs c hm)
  · exact sparesStore_of_mopsUp hc (hcs c hm)

theorem ne_write_of_mem_admitSchedule {c : Call} (h : c ∈ admitSchedule profile p) (part : SessionPart) :
    c ≠ .write part := by
  rintro rfl
  revert h
  unfold admitSchedule locateSchedule proofSchedule recallSchedule askSchedule mapSchedule
  repeat' split
  all_goals simp

theorem Admits.sparesStore {a b : Progress} {f : Findings} (h : Admits s p a f tr b) (hx : x ∈ tr) :
    x.request.sparesStore = true := by
  obtain ⟨k, hk, -⟩ := h.passes
  have hf := hk.follows (.ended k [])
  rw [List.append_nil, List.append_nil] at hf
  exact hf.sparesStore (fun _ => ne_write_of_mem_admitSchedule) hx

/-- Everything that was consulted on the way to a session, with what it said. -/
structure Consulted (s : Setup) (p : LoginParameters) (tr : List Exchange) (f : Findings) : Prop where
  profile : s.profiles.find? p.profileName = some f.profile
  /-- The record was supplied, or else the authenticator vouched for it. -/
  proven : p.authRecord = some f.evidence.record ∨ p.authRecord = none ∧
    ∃ q response, ⟨.authenticate f.profile.authenticator q, .ok response⟩ ∈ tr ∧
      response.result.isSuccess = true ∧ response.authRecord = some f.evidence.record
  mapped : f.profile.mapper = none ∧ f.record = f.evidence.record ∨
    ∃ m answer, f.profile.mapper = some m ∧
      ⟨.mapAuthRecord m { authRecord := f.evidence.record }, .ok answer⟩ ∈ tr ∧
      f.record = Wire.MappingResponse.authRecordOr answer f.evidence.record
  found : ⟨.fetchPrincipal f.profile.authorizer { authRecord := f.record },
    .ok { principalRecord := some f.principal }⟩ ∈ tr
  saved : ∃ user, ⟨.saveUser user, .ok f.row⟩ ∈ tr
  permitted : ⟨.checkPermission (.login f.row), .ok true⟩ ∈ tr
  administers : ∃ admin, ⟨.checkAdmin f.row, .ok admin⟩ ∈ tr ∧ f.user = { f.row with admin }

theorem Proves.vouched {a b : Progress} {evidence : Evidence} (h : Proves profile p a tr (.ok evidence) b) :
    p.authRecord = some evidence.record ∨ p.authRecord = none ∧
      ∃ q response, ⟨.authenticate profile.authenticator q, .ok response⟩ ∈ tr ∧
        response.result.isSuccess = true ∧ response.authRecord = some evidence.record := by
  cases h with
  | supplied hp => exact .inl hp
  | proven hs _ ha hx hr =>
    cases ha with
    | answered => exact .inr ⟨hs.unsupplied, _, _, List.mem_append_right _ List.mem_concat_self, hx, hr⟩

theorem Maps.rewritten {record result : AuthRecord} (h : Maps profile record tr (.ok result)) :
    profile.mapper = none ∧ result = record ∨
      ∃ m answer, profile.mapper = some m ∧ ⟨.mapAuthRecord m { authRecord := record }, .ok answer⟩ ∈ tr ∧
        result = Wire.MappingResponse.authRecordOr answer record := by
  cases h with
  | same hm => exact .inl ⟨hm, rfl⟩
  | mapped hm => exact .inr ⟨_, _, hm, List.mem_cons_self, rfl⟩

theorem Permits.eq {a b : Progress} {record : AuthRecord} {principal : PrincipalRecord} {row user : LocalUser}
    (h : Permits profile record principal row a tr (.ok user) b) :
    ∃ admin, tr = [⟨.checkPermission (.login row), .ok true⟩, ⟨.checkAdmin row, .ok admin⟩] ∧
      user = { row with admin } := by
  cases h
  exact ⟨_, rfl, rfl⟩

theorem Admits.consulted {a b : Progress} {f : Findings} (h : Admits s p a f tr b) : Consulted s p tr f := by
  cases h with
  | intro hl hs hp =>
    cases hl with
    | intro hq hv hm hf =>
      refine ⟨hq, ?_, ?_, ?_, ?_, ?_, ?_⟩
      · rcases hv.vouched with hr | ⟨hr, q, response, hx, hv⟩
        · exact .inl hr
        · exact .inr ⟨hr, q, response, by simp [hx], hv⟩
      · rcases hm.rewritten with hr | ⟨m, answer, hm, hx, hr⟩
        · exact .inl hr
        · exact .inr ⟨m, answer, hm, by simp [hx], hr⟩
      · cases hf
        simp
      · cases hs with
        | @saved _ user => exact ⟨user, by simp⟩
      · obtain ⟨admin, rfl, -⟩ := hp.eq
        simp
      · obtain ⟨admin, rfl, hu⟩ := hp.eq
        exact ⟨admin, by simp, hu⟩

theorem Consulted.mono {f : Findings} {t u : List Exchange} (h : Consulted s p t f) (hu : ∀ x ∈ t, x ∈ u) :
    Consulted s p u f := by
  obtain ⟨hq, hv, hm, hf, ⟨user, hs⟩, hp, admin, ha, hx⟩ := h
  refine ⟨hq, ?_, ?_, hu _ hf, ⟨user, hu _ hs⟩, hu _ hp, admin, hu _ ha, hx⟩
  · rcases hv with hr | ⟨hr, q, response, hx, hv⟩
    · exact .inl hr
    · exact .inr ⟨hr, q, response, hu _ hx, hv⟩
  · rcases hm with hr | ⟨m, answer, hm, hx, hr⟩
    · exact .inl hr
    · exact .inr ⟨m, answer, hm, hu _ hx, hr⟩

end

/-! ## When an attempt gets to a session -/

/-- Nothing keeps an attempt from its session: it has something to go by, nobody who was asked failed, refused, denied
or did not know, and whoever was found has an identifier or a name to be kept under. -/
structure Unhindered (s : Setup) (p : LoginParameters) (tr : List Exchange) : Prop where
  started : ¬ Idle s p
  answered : ∀ y ∈ tr, y.stops = false
  keyed : ∀ a q principal, ⟨.fetchPrincipal a q, .ok { principalRecord := some principal }⟩ ∈ tr →
    (principal.id? <|> principal.name?).isSome = true

/-- Somebody who was asked ended the attempt. -/
def Stopped (tr : List Exchange) : Prop := ∃ y ∈ tr, y.stops = true

section
variable {s : Setup} {profile : Profile} {p : LoginParameters} {a b : Progress} {tr t u : List Exchange}

theorem Stopped.last {x : Exchange} (h : x.stops = true) : Stopped (t ++ [x]) := ⟨x, List.mem_concat_self, h⟩

theorem Stopped.of_subset (h : Stopped t) (ht : ∀ y ∈ t, y ∈ tr) : Stopped tr := h.imp fun y hy => ⟨ht y hy.1, hy.2⟩

theorem Unhindered.not_stopped (h : Unhindered s p tr) (ht : ∀ y ∈ t, y ∈ tr) : ¬ Stopped t := by
  rintro ⟨y, hy, hs⟩
  cases hs.symm.trans (h.answered y (ht y hy))

theorem Unhindered.of_subset (h : Unhindered s p tr) (ht : ∀ y ∈ t, y ∈ tr) : Unhindered s p t where
  started := h.started
  answered y hy := h.answered y (ht y hy)
  keyed a q principal hx := h.keyed a q principal (ht _ hx)

/-! A step fails only where somebody stops it, or else for want of something to go by. -/

theorem Chooses.stopped {submitted : String × Secret} {e : Fault} (h : Chooses p submitted t (.error e)) :
    Stopped t := by
  cases h with
  | noUser => exact .last (t := []) rfl
  | noPassword => exact .last (t := [_]) rfl

theorem Asks.stopped {credentials : String × Secret} {e : Fault} (h : Asks profile credentials t (.error e)) :
    Stopped t := by
  cases h with
  | failed => exact .last rfl
  | unnamed hn =>
    cases hn with
    | failed => exact .last (t := []) rfl

theorem Asks.stopped_of_ok {credentials : String × Secret} {x : Authentication}
    (h : Asks profile credentials t (.ok x))
    (hx : x.response.result.isSuccess = false ∨ x.response.authRecord = none) : Stopped t := by
  cases h with
  | answered =>
    refine .last ?_
    rcases hx with hx | hx <;> simp_all [Exchange.stops]

theorem Proves.idle_or_stopped {x : Exit} (hp : s.profiles.find? p.profileName = some profile)
    (h : Proves profile p a t (.error x) b) : Idle s p ∨ Stopped t := by
  cases h with
  | noName hr hn => exact .inl (.noName hr hn)
  | noPassword hr _ hw => exact .inl (.noPassword hr hw)
  | unsupported hr _ _ hc => exact .inl (.unsupported hp hr hc)
  | unchosen _ hc => exact .inr hc.stopped
  | unasked _ _ ha => exact .inr (ha.stopped.of_subset fun _ => List.mem_append_right _)
  | refused _ _ ha hx =>
    exact .inr ((ha.stopped_of_ok (.inl hx)).of_subset fun _ hy => by simp [hy])
  | recordless _ _ ha _ hr =>
    exact .inr ((ha.stopped_of_ok (.inr hr)).of_subset fun _ => List.mem_append_right _)

theorem Maps.stopped {record : AuthRecord} {e : Fault} (h : Maps profile record t (.error e)) : Stopped t := by
  cases h with
  | failed => exact .last (t := []) rfl

theorem Finds.stopped {record : AuthRecord} {name : Option String} {x : Exit}
    (h : Finds profile record name a t (.error x) b) : Stopped t := by
  cases h with
  | failed => exact .last (t := []) rfl
  | unknown => exact ⟨_, List.mem_cons_self, rfl⟩

theorem Syncs.unkeyed_or_stopped {principal : PrincipalRecord} {e : Fault} (h : Syncs profile principal t (.error e)) :
    (principal.id? <|> principal.name?).isSome = false ∨ Stopped t := by
  cases h with
  | unkeyed hu =>
    rw [← Bool.not_eq_true, ← LocalUser.exists_ofPrincipal_iff, hu]
    exact .inl fun ⟨_, h⟩ => nomatch h
  | failed => exact .inr (.last (t := [_]) rfl)

theorem Permits.stopped {record : AuthRecord} {principal : PrincipalRecord} {row : LocalUser} {x : Exit}
    (h : Permits profile record principal row a t (.error x) b) : Stopped t := by
  cases h with
  | failed => exact .last (t := []) rfl
  | denied => exact ⟨_, List.mem_cons_self, rfl⟩
  | adminFailed => exact .last (t := [_]) rfl

theorem Writes.stopped {token : String} {es : List Session.Edit} {e : Fault} (h : Writes token es t (.error e)) :
    Stopped t := by
  generalize hr : (Except.error e : Except Fault Unit) = r at h
  induction h with
  | done => cases hr
  | failed => exact .last (t := []) rfl
  | wrote _ ih => exact (ih hr).of_subset fun _ => List.mem_cons_of_mem _

theorem Issues.stopped {g : Grant} {e : Fault} (h : Issues s.session g t (.error e)) : Stopped t := by
  cases h with
  | noToken => exact .last (t := []) rfl
  | unwritten hw => exact hw.stopped.of_subset fun _ hy => by simp [hy]

theorem Locates.fetched {evidence : Evidence} {record : AuthRecord} {principal : PrincipalRecord}
    (h : Locates s p a profile evidence record principal t b) :
    ⟨.fetchPrincipal profile.authorizer { authRecord := record }, .ok { principalRecord := some principal }⟩ ∈ t := by
  cases h with
  | intro _ _ _ hf =>
    cases hf
    simp

/-- An attempt that ends early was hindered. -/
theorem Executes.not_unhindered {x : Exit} (h : Executes s p a tr (.error x) b) : ¬ Unhindered s p tr := by
  intro hu
  cases h with
  | noProfile hp => exact hu.started (.noProfile hp)
  | unproven hp hv =>
    rcases hv.idle_or_stopped hp with hi | hs
    · exact hu.started hi
    · exact hu.not_stopped (fun _ hy => hy) hs
  | unmapped _ _ hm => exact hu.not_stopped (fun _ hy => by simp [hy]) hm.stopped
  | unfound _ _ _ hf => exact hu.not_stopped (fun _ hy => by simp [hy]) hf.stopped
  | unsynced hl hs =>
    rcases hs.unkeyed_or_stopped with hk | hs
    · cases hk.symm.trans (hu.keyed _ _ _ (List.mem_append_left _ hl.fetched))
    · exact hu.not_stopped (fun _ hy => by simp [hy]) hs
  | unpermitted _ _ hp => exact hu.not_stopped (fun _ hy => by simp [hy]) hp.stopped
  | unissued _ hi => exact hu.not_stopped (fun _ hy => by simp [hy]) hi.stopped

theorem Admits.keyed {f : Findings} (h : Admits s p a f t b) :
    (f.principal.id? <|> f.principal.name?).isSome = true := by
  cases h with
  | intro _ hs =>
    cases hs with
    | saved hu => exact LocalUser.exists_ofPrincipal_iff.1 ⟨_, hu⟩

/-- An attempt that got to a session was not hindered. -/
theorem Course.unhindered {v : LoginResult} (h : Course s p tr (.ok v)) (hv : v.succeeded = true) :
    Unhindered s p tr := by
  have hs : ∀ y ∈ tr, y.stops = false := fun _ => h.stops_of_succeeded hv
  have ho : ∀ {profile}, s.profiles.find? p.profileName = some profile → InOrder s profile p tr := h.inOrder
  cases h with
  | refused => cases hv
  | granted he =>
    refine ⟨fun hi => ?_, hs, fun z q principal hx => ?_⟩
    · obtain ⟨-, f, hr⟩ := he.of_idle hi
      cases hr
    · cases he with
      | @granted f t u _ _ ha =>
        -- Only one principal is fetched, so it is the one that was found.
        have hf := List.mem_append_left (⟨.report f.report, ()⟩ :: u) ha.consulted.found
        cases (ho ha.profile).eq_of_call hx (List.mem_append_left _ hf) rfl rfl
        exact ha.keyed

/-- An attempt succeeds exactly if nothing hinders it. -/
theorem Course.succeeded_iff_unhindered {r : Except Fault LoginResult} (h : Course s p tr r) :
    (∃ v, r = .ok v ∧ v.succeeded = true) ↔ Unhindered s p tr := by
  constructor
  · rintro ⟨v, rfl, hv⟩
    exact h.unhindered hv
  · intro hu
    cases h with
    | granted => exact ⟨_, rfl, rfl⟩
    | refused he => exact (he.not_unhindered (hu.of_subset fun _ => List.mem_append_left _)).elim
    | aborted he => exact (he.not_unhindered hu).elim

end

/-! ## All or nothing -/

/-- An attempt against a handler opens one session, for what everybody consulted said, or changes nothing; and it opens
one exactly if nothing hinders it. -/
structure AllOrNothing (s : Setup) (p : LoginParameters) (h : Dialogue.Handler σ) (store : σ → SessionStore)
    (st : σ) : Prop where
  succeeds : (∃ v, ((login s p).run h st).1 = .ok v ∧ v.succeeded = true) ↔
    Unhindered s p ((login s p).transcript h st)
  opened : ∀ v, ((login s p).run h st).1 = .ok v → v.succeeded = true →
    ∃ (f : Findings) (token : String) (x : Session) (now : Instant),
      Consulted s p ((login s p).transcript h st) f ∧
      (∀ y ∈ (login s p).transcript h st, y.stops = false) ∧
      v.sessionId = some token ∧ v.user = some f.user ∧
      (store ((login s p).run h st).2).sessions.entries = (store st).sessions.entries ++ [(token, x)] ∧
      ⟨.now, now⟩ ∈ (login s p).transcript h st ∧ Carries s.session (f.grant p) now x
  untouched : (∀ v, ((login s p).run h st).1 = .ok v → v.succeeded = false) →
    store ((login s p).run h st).2 = store st

section
variable {h : Dialogue.Handler σ} {store : σ → SessionStore} (hk : KeepsStore h store) {st st' : σ} {s : Setup}
  {p : LoginParameters} {a b : Progress} {tr : List Exchange}
include hk

theorem Executes.undone {x : Exit} (he : Executes s p a tr (.error x) b) (hc : Dialogue.Conducts h st tr st')
    (hf : ∀ token, ⟨.newToken, .ok token⟩ ∈ tr → (store st).find? token = none) : store st' = store st := by
  cases hp : s.profiles.find? p.profileName with
  | none =>
    cases (he.of_idle (.noProfile hp)).1
    cases Dialogue.conducts_nil.1 hc
    rfl
  | some profile =>
    rcases he.stops hp with hs | ⟨f, u, v, e, rfl, ha, hi⟩
    · exact store_of_spares hk hc fun _ => hs.sparesStore fun _ => ne_write_of_mem_admitSchedule
    · obtain ⟨m, hu, hc⟩ := Dialogue.conducts_append.1 hc
      obtain ⟨-, hc⟩ := Dialogue.conducts_cons.1 hc
      have hm : store (h (.report f.report) m).2 = store st := by
        rw [hk.spare _ _ rfl, store_of_spares hk hu fun _ => ha.sparesStore]
      -- Up to here nothing has touched the store, so the token is still fresh in it.
      have hi := hi.undone hk hc fun token ht => hm ▸ hf token (by simp [ht])
      exact hi.trans hm

theorem Course.untouched {r : Except Fault LoginResult} (hy : Course s p tr r) (hc : Dialogue.Conducts h st tr st')
    (hf : ∀ token, ⟨.newToken, .ok token⟩ ∈ tr → (store st).find? token = none)
    (hr : ∀ v, r = .ok v → v.succeeded = false) : store st' = store st := by
  cases hy with
  | granted => cases hr _ rfl
  | refused he =>
    obtain ⟨m, hm, hc⟩ := Dialogue.conducts_append.1 hc
    rw [store_of_spares hk hc (by simp [Request.sparesStore])]
    exact he.undone hk hm fun token ht => hf token (by simp [ht])
  | aborted he => exact he.undone hk hc hf

theorem Course.opened {v : LoginResult} (hy : Course s p tr (.ok v)) (hc : Dialogue.Conducts h st tr st')
    (hf : ∀ token, ⟨.newToken, .ok token⟩ ∈ tr → (store st).find? token = none) (hv : v.succeeded = true) :
    ∃ (f : Findings) (token : String) (x : Session) (now : Instant),
      Consulted s p tr f ∧ (∀ y ∈ tr, y.stops = false) ∧ v.sessionId = some token ∧ v.user = some f.user ∧
      (store st').sessions.entries = (store st).sessions.entries ++ [(token, x)] ∧
      ⟨.now, now⟩ ∈ tr ∧ Carries s.session (f.grant p) now x := by
  have hs : ∀ y ∈ tr, y.stops = false := fun _ => hy.stops_of_succeeded hv
  cases hy with
  | refused => cases hv
  | @granted _ _ token _ _ he hb =>
    cases he with
    | @granted f t u _ _ ha hi =>
      obtain ⟨m, hm, hc⟩ := Dialogue.conducts_append.1 hc
      obtain ⟨n, ht, hu⟩ := Dialogue.conducts_append.1 hm
      obtain ⟨-, hu⟩ := Dialogue.conducts_cons.1 hu
      have hn : store (h (.report f.report) n).2 = store st := by
        rw [hk.spare _ _ rfl, store_of_spares hk ht fun _ => ha.sparesStore]
      obtain ⟨now, x, hnow, hx, hstore⟩ := hi.opened hk hu (hn ▸ hf token (by simp [hi.token_mem]))
      rw [hn] at hstore
      have hlast : store st' = store m := store_of_spares hk hc fun y hy => by
        rcases List.mem_cons.1 hy with rfl | hy
        · rfl
        · exact sparesStore_of_isBookkeeping (hb.isBookkeeping hy)
      refine ⟨f, token, x, now, ha.consulted.mono ?_, hs, rfl, rfl, hlast ▸ hstore, by simp [hnow], hx⟩
      exact fun y hy => by simp [hy]

end

/-- Where the handler keeps its sessions in a store and the token that is drawn is not in it yet, an attempt
opens one session or changes nothing. -/
theorem login_all_or_nothing {h : Dialogue.Handler σ} {store : σ → SessionStore} (hk : KeepsStore h store)
    (s : Setup) (p : LoginParameters) (st : σ)
    (hf : ∀ token, ⟨.newToken, .ok token⟩ ∈ (login s p).transcript h st → (store st).find? token = none) :
    AllOrNothing s p h store st := by
  have hc := Dialogue.conducts_transcript h (login s p) st
  have hy : Course s p _ _ := course_of_yields (Dialogue.yields_transcript h (login s p) st)
  generalize htr : (login s p).transcript h st = tr at hc hy hf
  generalize hr : ((login s p).run h st).1 = r at hy
  generalize hst : ((login s p).run h st).2 = st' at hc
  constructor
  · rw [hr, htr]
    exact hy.succeeded_iff_unhindered
  · intro v hv hs
    rw [hr] at hv
    rw [htr, hst]
    subst hv
    exact hy.opened hk hc hf hs
  · intro hv
    rw [hst]
    rw [hr] at hv
    exact hy.untouched hk hc hf hv

/-! ## The program itself -/

/-- The program keeps its sessions in its store, whatever the remote extensions do. -/
theorem keepsStore_reply {ρ : Type} (invoke : Remote → Record → StateM ρ (Except Fault Record)) :
    KeepsStore (Services.reply invoke) Services.sessions where
  write token e st := .inl ⟨rfl, _, rfl⟩
  remove token st := ⟨⟨_, rfl⟩, rfl⟩
  spare r st hr := by
    cases r with
    | sessions op => cases op <;> first | rfl | cases hr
    | authenticate a q | fetchPrincipal a q => cases a <;> rfl
    | mapUser m q | mapAuthRecord m q => cases m <;> rfl
    | submit c =>
      obtain ⟨_, h⟩ := Services.submit_eq c st
      show (Services.submit c st).2.sessions = _
      rw [h]
    | _ => rfl

/-- Somebody who is authenticated already logs in to a program whose store is empty, and then holds its one session. -/
theorem login_all_or_nothing_supplied :
    let d : Directory := {
      name := "staff", authnName := "staff-authn", authzName := "staff-authz"
      users := .ofList [("ada", { name := "ada", passwordHash := "" })] }
    let s : Setup := { profiles := ⟨.ofList [("main", {
      name := "main", authenticator := .directory d, authorizer := .directory d })]⟩ }
    let p := LoginParameters.ofAuthRecord "main" (.new "ada") .negotiation
    let st : Services Unit := { permissions := { allowEveryone := true }, clock := fun _ => default, outside := () }
    let h := Services.reply fun _ _ => pure (.ok ∅)
    KeepsStore h Services.sessions ∧ Unhindered s p ((login s p).transcript h st) ∧
      ∃ v token x, ((login s p).run h st).1 = .ok v ∧ v.succeeded = true ∧ v.sessionId = some token ∧
        ((login s p).run h st).2.sessions.sessions.entries = [(token, x)] ∧ x.user = v.user := by
  intro d s p st h
  have hall : AllOrNothing s p h Services.sessions st :=
    login_all_or_nothing (keepsStore_reply _) s p st fun _ _ => rfl
  have hok : ((login s p).run h st).1.toOption.map LoginResult.succeeded = some true := by decide +kernel
  obtain ⟨v, hv, hs⟩ : ∃ v, ((login s p).run h st).1 = .ok v ∧ v.succeeded = true := by
    cases hr : ((login s p).run h st).1 with
    | error e => simp [hr, Except.toOption] at hok
    | ok v => exact ⟨v, rfl, by simpa [hr, Except.toOption] using hok⟩
  obtain ⟨f, token, x, now, -, -, htoken, huser, hstore, -, hx⟩ := hall.opened v hv hs
  exact ⟨keepsStore_reply _, hall.succeeds.1 ⟨v, hv, hs⟩, v, token, x, hv, hs, htoken, hstore,
    hx.user.trans huser.symm⟩

end Login

end Gatehouse
