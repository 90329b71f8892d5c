import Gatehouse.Proofs.Lifetime
import Gatehouse.Proofs.WriteLog
/-!
# A session under construction is not torn

A session is built by several writes, and others use the store between them: they write to other tokens, and passes
evict. Main statement: if passes come soon enough after the session was last seen, the session holds all that was
granted once it is issued, even if its limit has come by then, and the others find what they would have found without
it. What carries this is that the limit is written last.
-/

namespace Gatehouse

namespace SessionStore

/-! ## Uses of a store act token by token -/

/-- What a use makes of the session of a token. -/
def Use.touch (token : String) (u : Use) (x : Option Session) : Option Session :=
  match u.op with
  | .write t e => if t = token then some ((x.getD (.new u.now)).edit u.now e) else x
  | .remove t => if t = token then none else x
  | .evict time softLimit => x.filter (keeps time softLimit)
  | _ => x

variable {s s' : SessionStore} {token : String}

theorem find?_perform (hn : s.sessions.keys.Nodup) (u : Use) :
    (s.perform u.now u.op).2.find? token = u.touch token (s.find? token) := by
  obtain ⟨now, op⟩ := u
  cases op with
  | write t e =>
    by_cases ht : t = token
    · subst ht
      exact (Table.find?_insert_self ..).trans (if_pos rfl).symm
    · exact (Table.find?_insert_of_ne _ _ ht).trans (if_neg ht).symm
  | remove t => exact Table.find?_erase _ t token
  | evict time softLimit => exact find?_evict hn time softLimit token
  | _ => rfl

theorem find?_after_congr (hn : s.sessions.keys.Nodup) (hn' : s'.sessions.keys.Nodup)
    (h : s.find? token = s'.find? token) (uses : List Use) :
    (s.after uses).find? token = (s'.after uses).find? token := by
  induction uses generalizing s s' with
  | nil => exact h
  | cons u uses ih =>
    apply ih (nodup_perform hn u.now u.op) (nodup_perform hn' u.now u.op)
    rw [find?_perform hn, find?_perform hn', h]

theorem after_append (s : SessionStore) (u v : List Use) : s.after (u ++ v) = (s.after u).after v := List.foldl_append

/-- A use has its mind on other tokens: it neither writes to the token nor removes it, and a pass with a limit does
not come later after the session was last seen than this limit. -/
def Use.Spares (token : String) (s : SessionStore) (u : Use) : Prop :=
  match u.op with
  | .write t _ | .remove t => t ≠ token
  | .evict time softLimit =>
    softLimit.nanos ≤ 0 ∨ ∀ x, s.find? token = some x → time.since x.lastSeen ≤ softLimit.nanos
  | _ => True

theorem keeps_of_unlimited {x : Session} {time : Instant} {softLimit : Span} (hx : x.hardLimit = none)
    (hi : softLimit.nanos ≤ 0 ∨ time.since x.lastSeen ≤ softLimit.nanos) : keeps time softLimit x = true := by
  have he : x.isExpired time = false := by
    unfold Session.isExpired
    rw [hx]
  have hidle : x.isIdle time softLimit = false := Session.isIdle_eq_false_iff.2 hi
  simp [keeps, he, hidle]

/-- As long as a session has no limit, it is left as it is by whatever spares it. -/
theorem find?_of_spares (hn : s.sessions.keys.Nodup) {u : Use} (hu : u.Spares token s)
    (hx : ∀ x, s.find? token = some x → x.hardLimit = none) :
    (s.perform u.now u.op).2.find? token = s.find? token := by
  rw [find?_perform hn]
  obtain ⟨now, op⟩ := u
  cases op with
  | write t e | remove t => exact if_neg hu
  | evict time softLimit =>
    show (s.find? token).filter _ = _
    cases hs : s.find? token with
    | none => rfl
    | some x =>
      have hkept : keeps time softLimit x = true := keeps_of_unlimited (hx x hs) (hu.imp_right fun h => h x hs)
      simp [Option.filter, hkept]
  | _ => rfl

end SessionStore

namespace Login

open SessionStore (Use)

variable {ρ α β : Type}

/-! ## Amid others -/

/-- The collaborators after others have used the session store. -/
def Services.meanwhile (st : Services ρ) (uses : List Use) : Services ρ :=
  { st with sessions := st.sessions.after uses }

section
variable (invoke : Remote → Record → StateM ρ (Except Fault Record)) (fits : SessionStore → Use → Prop)

/-- A dialogue with the collaborators of this program amid others, who use the session store when they like before
the dialogue's last request, as far as it fits. -/
inductive Amid : Dialogue α → Services ρ → List Use → α → Services ρ → Prop
  | done {a st} : Amid (.done a) st [] a st
  | asks {r next st uses a st'}
      (h : Amid (next (Services.reply invoke r st).1) (Services.reply invoke r st).2 uses a st') :
      Amid (.ask r next) st uses a st'
  | used {r next st u uses a st'} (hu : fits st.sessions u) (h : Amid (.ask r next) (st.meanwhile [u]) uses a st') :
      Amid (.ask r next) st (u :: uses) a st'

/-- A dialogue that is left alone is run. -/
theorem amid_run (x : Dialogue α) (st : Services ρ) :
    Amid invoke fits x st [] (x.run (Services.reply invoke) st).1 (x.run (Services.reply invoke) st).2 := by
  induction x generalizing st with
  | done a => exact .done
  | ask r next ih => exact .asks (ih _ _)

end

section
variable {invoke : Remote → Record → StateM ρ (Except Fault Record)} {fits : SessionStore → Use → Prop}
  {st st' : Services ρ} {uses : List Use}

theorem Amid.bind_cases {x : Dialogue α} {f : α → Dialogue β} {b : β} (h : Amid invoke fits (x >>= f) st uses b st') :
    ∃ a u v m, uses = u ++ v ∧ Amid invoke fits x st u a m ∧ Amid invoke fits (f a) m v b st' := by
  generalize hy : x >>= f = y at h
  induction h generalizing x with
  | @done b st =>
    cases x with
    | done a =>
      have hf : f a = .done b := hy
      exact ⟨a, [], [], st, rfl, .done, hf ▸ .done⟩
    | ask r next => cases hy
  | @asks r next st uses b st' h ih =>
    cases x with
    | done a =>
      have hf : f a = .ask r next := hy
      exact ⟨a, [], uses, st, rfl, .done, hf ▸ .asks h⟩
    | ask r next =>
      cases hy
      obtain ⟨a, u, v, m, rfl, hx, hf⟩ := ih (x := next _) rfl
      exact ⟨a, u, v, m, rfl, .asks hx, hf⟩
  | @used r next st u uses b st' hu h ih =>
    cases x with
    | done a =>
      have hf : f a = .ask r next := hy
      exact ⟨a, [], u :: uses, st, rfl, .done, hf ▸ .used hu h⟩
    | ask r next =>
      cases hy
      obtain ⟨a, v, w, m, rfl, hx, hf⟩ := ih (x := .ask r next) rfl
      exact ⟨a, u :: v, w, m, rfl, .used hu hx, hf⟩

theorem Amid.lift_cases {x : Dialogue α} {r : Except Fault α}
    (h : Amid invoke fits (ExceptT.lift x : Talk α).run st uses r st') :
    ∃ a, Amid invoke fits x st uses a st' ∧ r = .ok a := by
  obtain ⟨a, u, v, m, rfl, hx, hv⟩ := Amid.bind_cases (x := x) (f := fun a => .done (.ok a : Except Fault α)) h
  cases hv
  exact ⟨a, by rwa [List.append_nil], rfl⟩

variable {token : String}

/-- Until a request is asked, others may use the store, but the session of the token stays as it is. -/
theorem Amid.ask_cases {r : Request} {next : r.Reply → Dialogue α} {a : α}
    (h : Amid invoke (Use.Spares token) (.ask r next) st uses a st') (hn : st.sessions.sessions.keys.Nodup)
    (hx : ∀ x, st.sessions.find? token = some x → x.hardLimit = none) :
    ∃ u v, uses = u ++ v ∧ (st.sessions.after u).find? token = st.sessions.find? token ∧
      Amid invoke (Use.Spares token) (next (Services.reply invoke r (st.meanwhile u)).1)
        (Services.reply invoke r (st.meanwhile u)).2 v a st' := by
  generalize hy : Dialogue.ask r next = y at h
  induction h with
  | done => cases hy
  | @asks _ _ _ uses _ _ h =>
    cases hy
    exact ⟨[], uses, rfl, rfl, h⟩
  | @used _ _ st u _ _ _ hu h ih =>
    have hsame : (st.meanwhile [u]).sessions.find? token = st.sessions.find? token :=
      SessionStore.find?_of_spares hn hu hx
    obtain ⟨v, w, rfl, hv, h⟩ := ih (SessionStore.nodup_perform hn u.now u.op) (hsame ▸ hx) hy
    exact ⟨u :: v, w, rfl, hv.trans hsame, h⟩

/-! ## Issuing amid others -/

/-- Of every token but one, two stores have the same session. -/
def Unmoved (token : String) (s s' : SessionStore) : Prop := ∀ t, t ≠ token → s.find? t = s'.find? t

theorem Unmoved.after {s s' s'' : SessionStore} {v : List Use} (h : Unmoved token s (s'.after v))
    (hm : Unmoved token s' s'') (hn : s'.sessions.keys.Nodup) (hn' : s''.sessions.keys.Nodup) :
    Unmoved token s (s''.after v) :=
  fun t ht => (h t ht).trans (SessionStore.find?_after_congr hn hn' (hm t ht) v)

/-- One write, with what the others do before it. -/
theorem Amid.write_cases {e : Session.Edit} {es : List Session.Edit} {r : Except Fault Unit}
    (h : Amid invoke (Use.Spares token) ((e :: es).forM (writeSession token)).run st uses r st')
    (hn : st.sessions.sessions.keys.Nodup)
    (hx : ∀ x, st.sessions.find? token = some x → x.hardLimit = none) :
    ∃ u v m now, uses = u ++ v ∧ m.sessions.sessions.keys.Nodup ∧
      m.sessions.find? token = some (((st.sessions.find? token).getD (.new now)).edit now e) ∧
      Unmoved token m.sessions (st.sessions.after u) ∧
      Amid invoke (Use.Spares token) (es.forM (writeSession token)).run m v r st' := by
  obtain ⟨u, v, rfl, hu, h⟩ := Amid.ask_cases (r := .sessions (.write token e)) h hn hx
  have hnu := SessionStore.nodup_after hn u
  refine ⟨u, v, _, st.clock st.readings, rfl, ?_, ?_, ?_, h⟩
  · exact SessionStore.nodup_perform hnu (st.clock st.readings) (.write token e)
  · rw [← hu]
    exact Table.find?_insert_self ..
  · intro t ht
    exact Table.find?_insert_of_ne _ _ (Ne.symm ht)

/-- Of a list of edits only the last can set a limit. -/
def LimitLast (es : List Session.Edit) : Prop := ∀ e ∈ es.dropLast, ∀ limit, e ≠ .hardLimit limit

theorem LimitLast.tail {e : Session.Edit} {es : List Session.Edit} (h : LimitLast (e :: es)) : LimitLast es := by
  intro e' he'
  have hes : es ≠ [] := fun hes => by simp [hes] at he'
  exact h e' (List.dropLast_cons_of_ne_nil hes ▸ List.mem_cons_of_mem e he')

/-- A session that has no limit gets none before the last edit. -/
theorem LimitLast.edit {e : Session.Edit} {es : List Session.Edit} (h : LimitLast (e :: es)) {x : Session}
    (hx : x.hardLimit = none) (now : Instant) (hes : es ≠ []) : (x.edit now e).hardLimit = none := by
  have he : e ∈ (e :: es).dropLast := List.dropLast_cons_of_ne_nil hes ▸ List.mem_cons_self
  rw [Session.hardLimit_edit (h e he), hx]

theorem limitLast_edits (g : Grant) (s : SessionSettings) (now : Instant) : LimitLast (g.edits s now) := by
  rintro e he limit rfl
  unfold Grant.edits at he
  rw [List.dropLast_concat] at he
  simp at he

/-- Edits of a session that is there are all made to it, whatever the others do between them. -/
theorem Amid.edited {es : List Session.Edit} {r : Except Fault Unit} {x : Session}
    (h : Amid invoke (Use.Spares token) (es.forM (writeSession token)).run st uses r st')
    (hn : st.sessions.sessions.keys.Nodup) (hf : st.sessions.find? token = some x)
    (hx : es ≠ [] → x.hardLimit = none) (hl : LimitLast es) :
    r = .ok () ∧ (∃ y, Edited es x y ∧ st'.sessions.find? token = some y) ∧
      Unmoved token st'.sessions (st.sessions.after uses) := by
  induction es generalizing st x uses with
  | nil =>
    cases h
    exact ⟨rfl, ⟨x, .nil x, hf⟩, fun _ _ => rfl⟩
  | cons e es ih =>
    have hnone : x.hardLimit = none := hx (List.cons_ne_nil e es)
    obtain ⟨u, v, m, now, rfl, hnm, hfm, hu, h⟩ := h.write_cases hn (by simp [hf, hnone])
    rw [hf, Option.getD_some] at hfm
    obtain ⟨rfl, ⟨y, hy, hfy⟩, hv⟩ := ih h hnm hfm (hl.edit hnone now) hl.tail
    refine ⟨rfl, ⟨y, .cons now hy, hfy⟩, ?_⟩
    rw [SessionStore.after_append]
    exact hv.after hu hnm (SessionStore.nodup_after hn u)

/-- Edits under a fresh token open a session. -/
theorem Amid.opened {e : Session.Edit} {l : List Session.Edit} {r : Except Fault Unit}
    (h : Amid invoke (Use.Spares token) ((e :: l).forM (writeSession token)).run st uses r st')
    (hn : st.sessions.sessions.keys.Nodup) (hf : st.sessions.find? token = none) (hl : LimitLast (e :: l)) :
    r = .ok () ∧ (∃ opened x, Edited (e :: l) (.new opened) x ∧ st'.sessions.find? token = some x) ∧
      Unmoved token st'.sessions (st.sessions.after uses) := by
  obtain ⟨u, v, m, now, rfl, hnm, hfm, hu, h⟩ := h.write_cases hn (by simp [hf])
  rw [hf, Option.getD_none] at hfm
  obtain ⟨rfl, ⟨x, hx, hfx⟩, hv⟩ := h.edited hnm hfm (hl.edit rfl now) hl.tail
  refine ⟨rfl, ⟨now, x, .cons now hx, hfx⟩, ?_⟩
  rw [SessionStore.after_append]
  exact hv.after hu hnm (SessionStore.nodup_after hn u)

theorem Amid.attached {s : SessionSettings} {g : Grant} {r : Except Fault Unit}
    (h : Amid invoke (Use.Spares token) (attach s token g).run st uses r st')
    (hn : st.sessions.sessions.keys.Nodup) (hf : st.sessions.find? token = none) :
    r = .ok () ∧ (∃ x, st'.sessions.find? token = some x ∧ Carries s g (st.clock st.readings) x) ∧
      Unmoved token st'.sessions (st.sessions.after uses) := by
  rw [attach_eq] at h
  obtain ⟨u, v, rfl, hu, h⟩ := Amid.ask_cases (r := .now) h hn (by simp [hf])
  obtain ⟨rfl, ⟨opened, x, hx, hfx⟩, hv⟩ := Amid.opened (e := .user g.user)
    (l := (g.edits s (st.clock st.readings)).tail) h (SessionStore.nodup_after hn u) (hu.trans hf)
    (limitLast_edits g s (st.clock st.readings))
  refine ⟨rfl, ⟨x, hfx, carries_of_edited hx⟩, ?_⟩
  rw [SessionStore.after_append]
  exact hv

/-- A session that is issued amid others under a fresh token holds all that was granted when it is issued, if the
others spare it, and they find what they would have found without it. -/
theorem issue_whole_amid {s : SessionSettings} {g : Grant} {r : Except Fault String}
    (hn : st.sessions.sessions.keys.Nodup) (ht : st.tokens st.tokensDrawn = .ok token)
    (hf : st.sessions.find? token = none)
    (h : Amid invoke (Use.Spares token) (issue s g).run st uses r st') :
    r = .ok token ∧ (∃ x, st'.sessions.find? token = some x ∧ Carries s g (st.clock st.readings) x) ∧
      Unmoved token st'.sessions (st.sessions.after uses) := by
  obtain ⟨u, v, rfl, hu, h⟩ := Amid.ask_cases (r := .newToken) h hn (by simp [hf])
  have hreply : (Services.reply invoke .newToken (st.meanwhile u)).1 = .ok token := ht
  rw [hreply] at h
  obtain ⟨w, v, v', m, rfl, hl, h⟩ := Amid.bind_cases (x := (ExceptT.lift (attach s token g).run : Talk _).run) h
  obtain ⟨w, hw, rfl⟩ := hl.lift_cases
  obtain ⟨rfl, hx, hv⟩ := hw.attached (SessionStore.nodup_after hn u) (hu.trans hf)
  -- Nothing failed, so there is nothing to clean up, and no request is left before which the others could come.
  cases h
  refine ⟨rfl, hx, ?_⟩
  rw [SessionStore.after_append, List.append_nil]
  exact hv

end

/-- Ada's limit has come before she is given a session. A pass comes when the session has been opened, and evicts
another one that somebody else had opened meanwhile; Ada's session is issued as a whole nevertheless. -/
theorem issue_whole_amid_expired :
    let record : AuthRecord := ⟨.ofList [
      (AuthRecord.principalKey, .text "ada"), (AuthRecord.validToKey, .text "20000101000000Z")]⟩
    let g : Grant := { profile := "main", user := default, authRecord := record, principalRecord := default }
    let now : Instant := ⟨1700000000, 0⟩
    let st : Services Unit := { clock := fun _ => now, tokens := fun _ => .ok "new", outside := () }
    let uses : List Use := [⟨now, .write "old" (.hardLimit (some now))⟩, ⟨now, .evict ⟨1700000060, 0⟩ (.ofSeconds 60)⟩]
    ∃ r st', Amid (fun _ _ => pure (.ok ∅)) (Use.Spares "new") (issue {} g).run st uses r st' ∧ r = .ok "new" ∧
      (∃ x, st'.sessions.find? "new" = some x ∧ Carries {} g now x ∧ x.isExpired now = true) ∧
      Unmoved "new" st'.sessions (SessionStore.after {} uses) := by
  intro record g now st uses
  have hpass : ∀ m : Services Unit, m.sessions.find? "new" = some ((Session.new now).edit now (.user g.user)) →
      Use.Spares "new" m.sessions ⟨now, .evict ⟨1700000060, 0⟩ (.ofSeconds 60)⟩ := by
    intro m hm
    refine .inr fun x hx => ?_
    cases hm.symm.trans hx
    decide
  have h : Amid (fun _ _ => pure (.ok ∅)) (Use.Spares "new") (issue {} g).run st uses _ _ :=
    .asks (.used (show "old" ≠ "new" by decide) (.asks (.asks (.used (hpass _ rfl) (amid_run _ _ _ _)))))
  obtain ⟨hr, ⟨x, hx, hc⟩, hu⟩ := issue_whole_amid (by decide) rfl rfl h
  have hlimit : (Session.hardLimitFrom now 600 record).any (· ≤ now) = true := by decide +kernel
  obtain ⟨limit, hl, hle⟩ := (Option.any_eq_true _ _).1 hlimit
  have he : x.isExpired now = true := Session.isExpired_iff.2 ⟨limit, hc.hardLimit.trans hl, by simpa using hle⟩
  exact ⟨_, _, h, hr, ⟨x, hx, hc, he⟩, hu⟩

end Login

end Gatehouse
