import Gatehouse.Proofs.Issuance
/-!
# How a login finds the store, and how it leaves it

A store tells what it holds, or fails to. What an attempt writes goes under the token that it drew: every
other session stays as it was, and the session under the token holds what the attempt found out, whether or
not there was a session under it before. Nothing here assumes that a drawn token is fresh.
-/

namespace Gatehouse.Login

variable {σ : Type}

/-- A handler keeps its sessions in a store, and tells what users and passwords the store holds unless it
fails to. -/
structure TellsStore (h : Dialogue.Handler σ) (store : σ → SessionStore) : Prop extends KeepsStore h store where
  user : ∀ token st, (h (.sessions (.user? token)) st).1 = .ok ((store st).user? token) ∨
    ∃ f, (h (.sessions (.user? token)) st).1 = .error f
  password : ∀ token st, (h (.sessions (.password? token)) st).1 = .ok ((store st).password? token) ∨
    ∃ f, (h (.sessions (.password? token)) st).1 = .error f

/-- The program tells what is in its store, whatever the remote extensions do. -/
theorem tellsStore_reply {ρ : Type} (invoke : Remote → Record → StateM ρ (Except Fault Record)) :
    TellsStore (Services.reply invoke) Services.sessions where
  toKeepsStore := keepsStore_reply invoke
  user _ _ := .inl rfl
  password _ _ := .inl rfl

/-- The token of the session that an attempt opened, if it did. -/
def opened? : Except Fault LoginResult → Option String
  | .ok v => if v.succeeded then v.sessionId else none
  | .error _ => none

theorem opened?_eq_some {r : Except Fault LoginResult} {token : String} :
    opened? r = some token ↔ ∃ v, r = .ok v ∧ v.succeeded = true ∧ v.sessionId = some token := by
  cases r with
  | error e => simp [opened?]
  | ok v => simp [opened?]

/-! ## Other sessions -/

/-- Requests that leave the session of a token alone. -/
def Request.sparesSession (token : String) : Request → Bool
  | .sessions (.write t _) | .sessions (.remove t) => t ≠ token
  | .sessions (.evict ..) => false
  | _ => true

theorem sparesSession_of_sparesStore {token : String} {r : Request} (h : r.sparesStore = true) :
    r.sparesSession token = true := by
  cases r with
  | sessions op => cases op <;> first | rfl | cases h
  | _ => rfl

section
variable {h : Dialogue.Handler σ} {store : σ → SessionStore} (hk : KeepsStore h store)
include hk

theorem find?_of_sparesSession {token : String} {r : Request} (hr : r.sparesSession token = true) (st : σ) :
    (store (h r st).2).find? token = (store st).find? token := by
  by_cases hs : r.sparesStore = true
  · rw [hk.spare r st hs]
  cases r with
  | sessions op =>
    cases op with
    | write t e =>
      have hne : t ≠ token := of_decide_eq_true hr
      rcases hk.write t e st with ⟨-, now, hw⟩ | ⟨-, hw⟩
      · rw [hw]
        exact Table.find?_insert_of_ne _ _ hne
      · rw [hw]
    | remove t =>
      have hne : t ≠ token := of_decide_eq_true hr
      rw [(hk.remove t st).2]
      exact (Table.find?_erase _ t token).trans (if_neg hne)
    | evict => cases hr
    | _ => exact absurd rfl hs
  | _ => exact absurd rfl hs

theorem find?_of_conducts {token : String} {st st' : σ} {tr : List Exchange}
    (hc : Dialogue.Conducts h st tr st') (hs : ∀ x ∈ tr, x.request.sparesSession token = true) :
    (store st').find? token = (store st).find? token := by
  induction hc with
  | nil => rfl
  | cons r _ ih =>
    rw [ih fun x hx => hs x (List.mem_cons_of_mem _ hx)]
    exact find?_of_sparesSession hk (hs _ List.mem_cons_self) _

end

section
variable {s : Setup} {p : LoginParameters} {a b : Progress} {tr : List Exchange} {x : Exchange} {token : String}

theorem Writes.sparesSession {es : List Session.Edit} {t : String} {r : Except Fault Unit} (h : Writes t es tr r)
    (ht : t ≠ token) (hx : x ∈ tr) : x.request.sparesSession token = true := by
  induction h with
  | done => cases hx
  | failed =>
    cases List.mem_singleton.1 hx
    exact decide_eq_true ht
  | wrote _ ih =>
    rcases List.mem_cons.1 hx with rfl | hx
    · exact decide_eq_true ht
    · exact ih hx

theorem Issues.sparesSession {g : Grant} {r : Except Fault String} (h : Issues s.session g tr r)
    (ht : ⟨.newToken, .ok token⟩ ∉ tr) (hx : x ∈ tr) : x.request.sparesSession token = true := by
  have drawn : ∀ {t : String} {u : List Exchange}, ⟨.newToken, .ok token⟩ ∉ (⟨.newToken, .ok t⟩ : Exchange) :: u →
      t ≠ token := by
    rintro t u hn rfl
    exact hn List.mem_cons_self
  cases h with
  | noToken =>
    cases List.mem_singleton.1 hx
    rfl
  | @unwritten t _ _ _ _ hw =>
    have hne : t ≠ token := drawn ht
    simp only [List.mem_cons, List.mem_append, List.not_mem_nil, or_false] at hx
    rcases hx with rfl | rfl | hx | rfl
    · rfl
    · rfl
    · exact hw.sparesSession hne hx
    · exact decide_eq_true hne
  | issued hw =>
    have hne := drawn ht
    simp only [List.mem_cons] at hx
    rcases hx with rfl | rfl | hx
    · rfl
    · rfl
    · exact hw.sparesSession hne hx

theorem Executes.sparesSession {r : Except Exit (String × LocalUser)} (h : Executes s p a tr r b)
    (ht : ⟨.newToken, .ok token⟩ ∉ tr) (hx : x ∈ tr) : x.request.sparesSession token = true := by
  -- An attempt that gets to a session asks for it last, after requests that spare the whole store.
  have issuing : ∀ {f : Findings} {t u : List Exchange} {r : Except Fault String}, Admits s p a f t b →
      Issues s.session (f.grant p) u r → tr = t ++ (⟨.report f.report, ()⟩ :: u) →
      x.request.sparesSession token = true := by
    rintro f t u r ha hi rfl
    simp only [List.mem_append, List.mem_cons, not_or] at hx ht
    rcases hx with hx | rfl | hx
    · exact sparesSession_of_sparesStore (ha.sparesStore hx)
    · rfl
    · exact hi.sparesSession ht.2.2 hx
  cases r with
  | ok v =>
    cases h with
    | granted ha hi => exact issuing ha hi rfl
  | error e =>
    cases hp : s.profiles.find? p.profileName with
    | none =>
      cases (h.of_idle (.noProfile hp)).1
      cases hx
    | some profile =>
      rcases h.stops hp with hf | ⟨f, t, u, e, htr, ha, hi⟩
      · exact sparesSession_of_sparesStore (hf.sparesStore (fun _ => ne_write_of_mem_admitSchedule) hx)
      · exact issuing ha hi htr

/-- An attempt leaves the sessions of all tokens alone that it does not draw. -/
theorem Course.sparesSession {r : Except Fault LoginResult} (h : Course s p tr r)
    (ht : ⟨.newToken, .ok token⟩ ∉ tr) (hx : x ∈ tr) : x.request.sparesSession token = true := by
  cases h with
  | granted he hb =>
    simp only [List.mem_append, List.mem_cons, not_or] at hx ht
    rcases hx with hx | rfl | hx
    · exact he.sparesSession ht.1 hx
    · rfl
    · exact sparesSession_of_sparesStore (sparesStore_of_isBookkeeping (hb.isBookkeeping hx))
  | refused he =>
    simp only [List.mem_append, List.mem_singleton, not_or] at hx ht
    rcases hx with hx | rfl
    · exact he.sparesSession ht.1 hx
    · rfl
  | aborted he => exact he.sparesSession ht hx

end

/-! ## The session of the token -/

/-- A session was filled with what was granted, under the limit that counts from a time; it may have been in
use before. -/
structure Fills (s : SessionSettings) (g : Grant) (now : Instant) (before after : Session) : Prop where
  user : after.user = some g.user
  password : after.password = (g.password.filter fun _ => s.retainPassword).or before.password
  hardLimit : after.hardLimit = Session.hardLimitFrom now s.hardLimitMinutes g.authRecord

theorem fills_of_edited {s : SessionSettings} {g : Grant} {now : Instant} {x y : Session}
    (h : Edited (g.edits s now) x y) : Fills s g now x y := by
  unfold Grant.edits at h
  cases hp : g.password.filter fun _ => s.retainPassword with
  | none =>
    rw [hp] at h
    obtain _ | ⟨_, _ | ⟨_, _ | ⟨_, _ | ⟨_, _ | ⟨_, _ | ⟨_, _ | _⟩⟩⟩⟩⟩⟩ := h
    exact ⟨rfl, by rw [hp]; rfl, rfl⟩
  | some password =>
    rw [hp] at h
    obtain _ | ⟨_, _ | ⟨_, _ | ⟨_, _ | ⟨_, _ | ⟨_, _ | ⟨_, _ | ⟨_, _ | _⟩⟩⟩⟩⟩⟩⟩ := h
    exact ⟨rfl, by rw [hp]; rfl, rfl⟩

section
variable {h : Dialogue.Handler σ} {store : σ → SessionStore} (hk : KeepsStore h store) {st st' : σ}
  {tr : List Exchange} {token : String} {es : List Session.Edit}
include hk

theorem Writes.edited_of_find? {x : Session} (hw : Writes token es tr (.ok ())) (hc : Dialogue.Conducts h st tr st')
    (hx : (store st).find? token = some x) : ∃ y, Edited es x y ∧ (store st').find? token = some y := by
  generalize hr : (Except.ok () : Except Fault Unit) = r at hw
  induction hw generalizing st x with
  | done =>
    cases Dialogue.conducts_nil.1 hc
    exact ⟨x, .nil x, hx⟩
  | failed => cases hr
  | @wrote e es tr r _ ih =>
    obtain ⟨hreply, hc⟩ := Dialogue.conducts_cons.1 hc
    rcases write_cases hk hreply with ⟨-, now, hs⟩ | ⟨⟨f, hf⟩, -⟩
    · have hy : (store (h (.sessions (.write token e)) st).2).find? token = some (x.edit now e) := by
        rw [hs]
        simp [SessionStore.write, SessionStore.find?, (show (store st).sessions.find? token = some x from hx)]
      obtain ⟨y, he, hy⟩ := ih hc hy hr
      exact ⟨y, .cons now he, hy⟩
    · cases hf

/-- Writes under any token leave a session there that was edited, be it a new one. -/
theorem Writes.filled {e : Session.Edit} (hw : Writes token (e :: es) tr (.ok ()))
    (hc : Dialogue.Conducts h st tr st') : ∃ x y, Edited (e :: es) x y ∧ (store st').find? token = some y := by
  -- The first write opens the session, if there is none; the others edit it.
  cases hw with
  | wrote hw =>
    obtain ⟨hreply, hc⟩ := Dialogue.conducts_cons.1 hc
    rcases write_cases hk hreply with ⟨-, now, hs⟩ | ⟨⟨f, hf⟩, -⟩
    · let x := ((store st).find? token).getD (.new now)
      have hx : (store (h (.sessions (.write token e)) st).2).find? token = some (x.edit now e) := by
        rw [hs]
        exact Table.find?_insert_self ..
      obtain ⟨y, he, hy⟩ := hw.edited_of_find? hk hc hx
      exact ⟨x, y, .cons now he, hy⟩
    · cases hf

theorem Issues.filled {s : SessionSettings} {g : Grant} (hi : Issues s g tr (.ok token))
    (hc : Dialogue.Conducts h st tr st') :
    ∃ now t x y, tr = ⟨.newToken, .ok token⟩ :: ⟨.now, now⟩ :: t ∧ Fills s g now x y ∧
      (store st').find? token = some y := by
  cases hi with
  | @issued _ now t hw =>
    obtain ⟨m, -, hc⟩ := store_of_token hk hc
    obtain ⟨x, y, he, hy⟩ := hw.filled hk hc
    exact ⟨now, t, x, y, rfl, fills_of_edited he, hy⟩

/-- An attempt that succeeds has filled the session of the token that it drew, counting from the time that it
read next. -/
theorem Course.filled {s : Setup} {p : LoginParameters} {v : LoginResult} (hy : Course s p tr (.ok v))
    (hc : Dialogue.Conducts h st tr st') (hv : v.succeeded = true) :
    ∃ (f : Findings) (b : Progress) (token : String) (now : Instant) (t u : List Exchange) (x y : Session),
      Admits s p (.start p) f t b ∧ v.sessionId = some token ∧ v.user = some f.user ∧
      tr = t ++ ⟨.report f.report, ()⟩ :: ⟨.newToken, .ok token⟩ :: ⟨.now, now⟩ :: u ∧
      Fills s.session (f.grant p) now x y ∧ (store st').find? token = some y := by
  cases hy with
  | refused => cases hv
  | @granted _ u token _ b he hb =>
    cases he with
    | @granted f t _ _ _ ha hi =>
      obtain ⟨m, hm, hrest⟩ := Dialogue.conducts_append.1 hc
      obtain ⟨n, -, hu⟩ := Dialogue.conducts_append.1 hm
      obtain ⟨-, hu⟩ := Dialogue.conducts_cons.1 hu
      have hlast : store st' = store m := store_of_spares hk hrest fun y hy => by
        rcases List.mem_cons.1 hy with rfl | hy
        · rfl
        · exact sparesStore_of_isBookkeeping (hb.isBookkeeping hy)
      obtain ⟨now, w, x, y, rfl, hf, hy⟩ := hi.filled hk hu
      refine ⟨f, b, token, now, t, w ++ ⟨.audit b.displayName .login, ()⟩ :: u, x, y, ha, rfl, rfl, ?_, hf, hlast ▸ hy⟩
      simp only [List.append_assoc, List.cons_append]

end

end Gatehouse.Login
