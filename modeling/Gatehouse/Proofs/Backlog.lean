import Gatehouse.Background.Runner
/-!
# What becomes of accepted tasks

Tasks are submitted, taken, started and ended, and signals are given and heard, in any order. Main
statements: a runner keeps account of every task that it accepted, and when it stops, the tasks that have
not run are those that waited when it heard that it should stop, and those that it does not wait for.
-/

namespace Gatehouse.Background

variable {τ : Type}

namespace TaskEvent

def started? : TaskEvent τ → Option τ
  | started t => some t
  | ended _ => none

def ended? : TaskEvent τ → Option τ
  | started _ => none
  | ended t => some t

end TaskEvent

namespace Runner

/-- The tasks that started, the first one first. -/
def started (r : Runner τ) : List τ := r.log.filterMap TaskEvent.started?

/-- The tasks that ended, the first one first. -/
def ended (r : Runner τ) : List τ := r.log.filterMap TaskEvent.ended?

section
variable {r : Runner τ} {t : τ} {running : List τ} {held : Option τ}

theorem started_of_started :
    started { r with held, running, log := r.log ++ [.started t] } = r.started ++ [t] := by
  simp [started, TaskEvent.started?]

theorem ended_of_started : ended { r with held, running, log := r.log ++ [.started t] } = r.ended := by
  simp [ended, TaskEvent.ended?]

theorem started_of_ended : started { r with running, log := r.log ++ [.ended t] } = r.started := by
  simp [started, TaskEvent.started?]

theorem ended_of_ended : ended { r with running, log := r.log ++ [.ended t] } = r.ended ++ [t] := by
  simp [ended, TaskEvent.ended?]

end

/-! ## What one function does -/

section
variable {r s : Runner τ} {t : τ}

theorem looks_iff : r.looks = true ↔ r.phase = .accepting ∧ r.held = none := by
  simp [looks]

theorem submit_of_accepted (h : (r.submit t).1 = true) :
    r.phase = .accepting ∧ r.queue.length < r.capacity ∧ (r.submit t).2 = { r with queue := r.queue ++ [t] } := by
  unfold submit at h ⊢
  split
  · next ha =>
    obtain ⟨hp, hl⟩ : r.phase = .accepting ∧ r.queue.length < r.capacity := by simpa [accepts] using ha
    exact ⟨hp, hl, rfl⟩
  · next ha =>
    rw [if_neg ha] at h
    cases h

theorem submit_of_refused (h : (r.submit t).1 = false) : (r.submit t).2 = r := by
  unfold submit at h ⊢
  split
  · next ha =>
    rw [if_pos ha] at h
    cases h
  · rfl

theorem hear?_eq_some (h : r.hear? = some s) : r.phase = .accepting ∧ r.held = none ∧
    (r.unheard = true ∧ s = { r with unheard := false, phase := if r.stop then .draining else .accepting } ∨
      r.orphaned = true ∧ s = { r with phase := .draining }) := by
  unfold hear? at h
  split at h
  · next hl =>
    obtain ⟨hp, hn⟩ := looks_iff.1 hl
    refine ⟨hp, hn, ?_⟩
    split at h
    · next hu =>
      cases h
      exact .inl ⟨hu, rfl⟩
    · split at h
      · next ho =>
        cases h
        exact .inr ⟨ho, rfl⟩
      · cases h
  · cases h

theorem take?_eq_some (h : r.take? = some s) : r.phase = .accepting ∧ r.held = none ∧
    ((∃ t rest, r.queue = t :: rest ∧ s = { r with queue := rest, held := some t }) ∨
      r.queue = [] ∧ r.deserted = true ∧ s = { r with phase := .draining }) := by
  unfold take? at h
  split at h
  · next hl =>
    obtain ⟨hp, hn⟩ := looks_iff.1 hl
    refine ⟨hp, hn, ?_⟩
    split at h
    · next t rest hq =>
      cases h
      exact .inl ⟨t, rest, hq, rfl⟩
    · next hq =>
      split at h
      · next hd =>
        cases h
        exact .inr ⟨hq, hd, rfl⟩
      · cases h
  · cases h

theorem begin?_eq_some (h : r.begin? = some s) : ∃ t, r.held = some t ∧ r.running.length < r.concurrency ∧
    s = { r with held := none, running := r.running ++ [t], log := r.log ++ [.started t] } := by
  unfold begin? at h
  split at h
  · next t ht =>
    split at h
    · next hc =>
      cases h
      exact ⟨t, ht, hc, rfl⟩
    · cases h
  · cases h

theorem finish?_eq_some [DecidableEq τ] (h : r.finish? t = some s) :
    t ∈ r.running ∧ s = { r with running := r.running.erase t, log := r.log ++ [.ended t] } := by
  unfold finish? at h
  split at h
  · next hm =>
    cases h
    exact ⟨hm, rfl⟩
  · cases h

theorem rest?_eq_some (h : r.rest? = some s) : r.phase = .draining ∧
    r.running.length + min r.concurrency awaitedTurns ≤ r.concurrency ∧ s = r.halt := by
  unfold rest? at h
  split at h
  · next hd =>
    cases h
    exact ⟨hd.1, hd.2, rfl⟩
  · cases h

end

/-! ## Every accepted task is accounted for -/

/-- What a runner keeps of the tasks that it accepted: they start in their order, run once each, and are lost
only when the runner stops. -/
structure Accounts (accepted : List τ) (r : Runner τ) : Prop where
  order : ∃ lost, accepted = r.started ++ r.held.toList ++ r.queue ++ lost ∧ (r.phase ≠ .stopped → lost = [])
  ran : (r.ended ++ r.running).Perm r.started
  unheld : r.phase ≠ .accepting → r.held = none

namespace Accounts

variable {accepted : List τ} {r s : Runner τ} {t : τ}

theorem eq_append (h : Accounts accepted r) (hp : r.phase ≠ .stopped) :
    accepted = r.started ++ r.held.toList ++ r.queue := by
  obtain ⟨lost, ha, hl⟩ := h.order
  rw [ha, hl hp, List.append_nil]

/-- Nothing changes in the accounts when the tasks stay where they are. -/
theorem congr (h : Accounts accepted r) (hp : s.phase = r.phase) (hq : s.queue = r.queue) (hh : s.held = r.held)
    (hr : s.running = r.running) (hl : s.log = r.log) : Accounts accepted s where
  order := by
    simp only [started, hp, hq, hh, hl]
    exact h.order
  ran := by
    simp only [started, ended, hr, hl]
    exact h.ran
  unheld := by
    rw [hp, hh]
    exact h.unheld

/-- A runner that holds no task may turn to another phase. -/
theorem turn (h : Accounts accepted r) (hp : r.phase ≠ .stopped) (hn : r.held = none) (unheard : Bool) (p : Phase) :
    Accounts accepted { r with unheard, phase := p } where
  order := ⟨[], (h.eq_append hp).trans (List.append_nil _).symm, fun _ => rfl⟩
  ran := h.ran
  unheld _ := hn

theorem submit (h : Accounts accepted r) (ha : (r.submit t).1 = true) :
    Accounts (accepted ++ [t]) (r.submit t).2 := by
  obtain ⟨hp, -, hs⟩ := submit_of_accepted ha
  have he := h.eq_append (by simp [hp])
  rw [hs]
  exact ⟨⟨[], by simp [he, started], fun _ => rfl⟩, h.ran, h.unheld⟩

theorem take (h : Accounts accepted r) (ht : r.take? = some s) : Accounts accepted s := by
  obtain ⟨hp, hn, ⟨t, rest, hq, rfl⟩ | ⟨-, -, rfl⟩⟩ := take?_eq_some ht
  · have he := h.eq_append (by simp [hp])
    refine ⟨⟨[], ?_, fun _ => rfl⟩, h.ran, fun hx => absurd hp hx⟩
    simpa [started, hn, hq] using he
  · exact h.turn (by simp [hp]) hn _ _

theorem begin (h : Accounts accepted r) (hb : r.begin? = some s) : Accounts accepted s := by
  obtain ⟨t, hh, -, rfl⟩ := begin?_eq_some hb
  obtain ⟨lost, he, hl⟩ := h.order
  refine ⟨⟨lost, ?_, hl⟩, ?_, fun _ => rfl⟩
  · rw [started_of_started, he, hh]
    simp
  · rw [started_of_started, ended_of_started, ← List.append_assoc]
    exact h.ran.append_right [t]

theorem finish [DecidableEq τ] (h : Accounts accepted r) (hf : r.finish? t = some s) : Accounts accepted s := by
  obtain ⟨hm, rfl⟩ := finish?_eq_some hf
  refine ⟨?_, ?_, h.unheld⟩
  · rw [started_of_ended]
    exact h.order
  · -- The task that ends goes from the running ones to those that ended.
    rw [started_of_ended, ended_of_ended, List.append_assoc]
    have hp : (t :: r.running.erase t).Perm r.running := (List.perm_cons_erase hm).symm
    exact (hp.append_left r.ended).trans h.ran

theorem halt (h : Accounts accepted r) (hd : r.phase = .draining) : Accounts accepted r.halt where
  order := by
    have he := h.eq_append (by simp [hd])
    exact ⟨r.queue, by simpa [Runner.halt, started] using he, fun hp => absurd rfl hp⟩
  ran := h.ran
  unheld _ := h.unheld (by simp [hd])

theorem ofSettings (s : WorkerSettings) : Accounts [] (ofSettings s : Runner τ) :=
  ⟨⟨[], rfl, fun _ => rfl⟩, .nil, fun _ => rfl⟩

end Accounts

/-! ## Histories -/

section
variable [DecidableEq τ]

/-- Something happens to a runner other than that a task is submitted. -/
inductive Step : Runner τ → Runner τ → Prop
  | signal {r : Runner τ} (stop : Bool) (h : r.orphaned = false) : Step r (r.signal stop).2
  | orphan {r : Runner τ} : Step r r.orphan
  | desert {r : Runner τ} : Step r r.desert
  | elapse {r : Runner τ} (milliseconds : Nat) : Step r (r.elapse milliseconds)
  | hear {r s : Runner τ} (h : r.hear? = some s) : Step r s
  | take {r s : Runner τ} (h : r.take? = some s) : Step r s
  | begin {r s : Runner τ} (h : r.begin? = some s) : Step r s
  | finish {r s : Runner τ} (t : τ) (h : r.finish? t = some s) : Step r s
  | rest {r s : Runner τ} (h : r.rest? = some s) : Step r s

/-- What can have happened to a runner since some time, and the tasks that it accepted meanwhile. -/
inductive History (w : Runner τ) : List τ → Runner τ → Prop
  | here : History w [] w
  | submit {accepted : List τ} {r : Runner τ} (h : History w accepted r) (t : τ) (hd : r.deserted = false)
      (ha : (r.submit t).1 = true) : History w (accepted ++ [t]) (r.submit t).2
  | step {accepted : List τ} {r s : Runner τ} (h : History w accepted r) (hs : Step r s) : History w accepted s

variable {w r s : Runner τ} {accepted late : List τ}

theorem Accounts.step (h : Accounts accepted r) (hs : Step r s) : Accounts accepted s := by
  cases hs with
  | signal stop _ =>
    unfold Runner.signal
    split
    · exact h
    · exact h.congr rfl rfl rfl rfl rfl
  | orphan | desert => exact h.congr rfl rfl rfl rfl rfl
  | elapse milliseconds =>
    unfold Runner.elapse
    split
    · next hd =>
      split
      · exact h.halt hd
      · exact h.congr rfl rfl rfl rfl rfl
    · exact h
  | hear hh =>
    obtain ⟨hp, hn, ⟨-, rfl⟩ | ⟨-, rfl⟩⟩ := hear?_eq_some hh <;> exact h.turn (by simp [hp]) hn _ _
  | take ht => exact h.take ht
  | begin hb => exact h.begin hb
  | finish _ hf => exact h.finish hf
  | rest hr =>
    obtain ⟨hd, -, rfl⟩ := rest?_eq_some hr
    exact h.halt hd

theorem History.trans (h : History w accepted r) (hl : History r late s) : History w (accepted ++ late) s := by
  induction hl with
  | here =>
    rw [List.append_nil]
    exact h
  | submit _ t hd ha ih =>
    rw [← List.append_assoc]
    exact ih.submit t hd ha
  | step _ hs ih => exact ih.step hs

/-- Whatever happens to a runner, the accounts are kept. -/
theorem History.accounts {before : List τ} (hw : Accounts before w) (h : History w accepted r) :
    Accounts (before ++ accepted) r := by
  induction h with
  | here =>
    rw [List.append_nil]
    exact hw
  | submit _ t _ ha ih =>
    rw [← List.append_assoc]
    exact ih.submit ha
  | step _ hs ih => exact ih.step hs

theorem Step.concurrency_eq (h : Step r s) : s.concurrency = r.concurrency := by
  cases h with
  | signal | elapse =>
    simp only [Runner.signal, Runner.elapse]
    repeat' split
    all_goals rfl
  | orphan | desert => rfl
  | hear h => obtain ⟨-, -, ⟨-, rfl⟩ | ⟨-, rfl⟩⟩ := hear?_eq_some h <;> rfl
  | take h => obtain ⟨-, -, ⟨_, _, -, rfl⟩ | ⟨-, -, rfl⟩⟩ := take?_eq_some h <;> rfl
  | begin h =>
    obtain ⟨_, -, -, rfl⟩ := begin?_eq_some h
    rfl
  | finish _ h =>
    obtain ⟨-, rfl⟩ := finish?_eq_some h
    rfl
  | rest h =>
    obtain ⟨-, -, rfl⟩ := rest?_eq_some h
    rfl

theorem History.concurrency_eq (h : History w accepted r) : r.concurrency = w.concurrency := by
  induction h with
  | here => rfl
  | submit _ _ _ ha ih =>
    obtain ⟨-, -, hs⟩ := submit_of_accepted ha
    rw [hs, ← ih]
  | step _ hs ih => rw [hs.concurrency_eq, ih]

/-! ## Draining -/

theorem Step.of_not_accepting (h : Step r s) (hp : r.phase ≠ .accepting) :
    s.phase = .stopped ∨ s.phase = r.phase ∧ s.queue = r.queue := by
  cases h with
  | signal =>
    unfold Runner.signal
    split <;> exact .inr ⟨rfl, rfl⟩
  | orphan | desert => exact .inr ⟨rfl, rfl⟩
  | elapse =>
    unfold Runner.elapse
    repeat' split
    · exact .inl rfl
    · exact .inr ⟨rfl, rfl⟩
    · exact .inr ⟨rfl, rfl⟩
  | hear hh => exact absurd (hear?_eq_some hh).1 hp
  | take ht => exact absurd (take?_eq_some ht).1 hp
  | begin hb =>
    obtain ⟨_, -, -, rfl⟩ := begin?_eq_some hb
    exact .inr ⟨rfl, rfl⟩
  | finish _ hf =>
    obtain ⟨-, rfl⟩ := finish?_eq_some hf
    exact .inr ⟨rfl, rfl⟩
  | rest hr =>
    obtain ⟨-, -, rfl⟩ := rest?_eq_some hr
    exact .inl rfl

/-- A runner that does not look for tasks any more accepts none, and its queue stays as it is until it stops. -/
theorem History.of_not_accepting (h : History w accepted r) (hp : w.phase ≠ .accepting) :
    accepted = [] ∧ (r.phase = .stopped ∨ r.phase = w.phase ∧ r.queue = w.queue) := by
  induction h with
  | here => exact ⟨rfl, .inr ⟨rfl, rfl⟩⟩
  | @submit _ r _ t _ ha ih =>
    have hr : r.phase = .accepting := (submit_of_accepted ha).1
    rcases ih.2 with hs | ⟨hs, -⟩
    · cases hs.symm.trans hr
    · exact absurd (hs.symm.trans hr) hp
  | @step _ r s _ hs ih =>
    obtain ⟨he, ih⟩ := ih
    refine ⟨he, ?_⟩
    have hr : r.phase ≠ .accepting := by
      rcases ih with hr | ⟨hr, -⟩
      · simp [hr]
      · rwa [hr]
    rcases hs.of_not_accepting hr with hs | ⟨hs, hq⟩
    · exact .inl hs
    · rw [hs, hq]
      exact ih

/-- A runner stops looking for tasks. -/
structure Turns (r s : Runner τ) : Prop where
  accepting : r.phase = .accepting
  step : Step r s
  draining : s.phase = .draining

theorem Turns.cases (h : Turns r s) :
    s.queue = r.queue ∧ (r.stop = true ∨ r.orphaned = true ∨ r.deserted = true ∧ r.queue = []) := by
  obtain ⟨ha, hs, hd⟩ := h
  have hne : r.phase ≠ .draining := by simp [ha]
  cases hs with
  | signal =>
    unfold Runner.signal at hd
    split at hd <;> exact absurd hd hne
  | orphan | desert => exact absurd hd hne
  | elapse =>
    unfold Runner.elapse at hd
    split at hd
    · next hp => exact absurd hp hne
    · exact absurd hd hne
  | hear hh =>
    obtain ⟨-, -, ⟨-, rfl⟩ | ⟨ho, rfl⟩⟩ := hear?_eq_some hh
    · refine ⟨rfl, .inl ?_⟩
      cases hx : r.stop with
      | true => rfl
      | false => simp [hx] at hd
    · exact ⟨rfl, .inr (.inl ho)⟩
  | take ht =>
    obtain ⟨-, -, ⟨_, _, -, rfl⟩ | ⟨hq, hx, rfl⟩⟩ := take?_eq_some ht
    · exact absurd hd hne
    · exact ⟨rfl, .inr (.inr ⟨hx, hq⟩)⟩
  | begin hb =>
    obtain ⟨_, -, -, rfl⟩ := begin?_eq_some hb
    exact absurd hd hne
  | finish _ hf =>
    obtain ⟨-, rfl⟩ := finish?_eq_some hf
    exact absurd hd hne
  | rest hr => exact absurd (rest?_eq_some hr).1 hne

/-- A runner that drains has stopped looking for tasks at some time. -/
theorem History.turned {q : Runner τ} (h : History w accepted q) (hw : w.phase = .accepting)
    (hq : q.phase = .draining) : ∃ r s, History w accepted r ∧ Turns r s ∧ History s [] q := by
  induction h with
  | here => cases hw.symm.trans hq
  | @submit _ r _ t _ ha _ =>
    obtain ⟨hp, -, hs⟩ := submit_of_accepted ha
    rw [hs] at hq
    cases hp.symm.trans hq
  | @step _ m q h hs ih =>
    cases hp : m.phase with
    | accepting => exact ⟨m, q, h, ⟨hp, hs, hq⟩, .here⟩
    | draining =>
      obtain ⟨r, s, hr, ht, hm⟩ := ih hp
      exact ⟨r, s, hr, ht, hm.step hs⟩
    | stopped =>
      rcases hs.of_not_accepting (by simp [hp]) with hx | ⟨hx, -⟩
      · cases hx.symm.trans hq
      · cases (hx.trans hp).symm.trans hq

/-! ## Stopping -/

/-- What is left of the tasks of a runner that stops by itself: those that waited when it turned away from its
queue are lost, and every other one ran once. Whatever runs still is not waited for. -/
theorem accepted_of_rest {s : WorkerSettings} {before after : List τ} {r q last : Runner τ}
    (h : History (ofSettings s) before r) (hl : History r after q) (hr : q.rest? = some last) :
    before ++ after = last.started ++ q.queue ∧ (last.ended ++ last.running).Perm last.started ∧
      (before <+: last.started ↔ q.queue.length ≤ after.length) ∧
      (s.concurrency ≤ awaitedTurns → last.running = []) ∧
      ∃ a b, History (ofSettings s) (before ++ after) a ∧ Turns a b ∧ History b [] q ∧ a.queue = q.queue := by
  have hq := h.trans hl
  have hacc : Accounts (before ++ after) q := (hq.accounts (.ofSettings s) :)
  obtain ⟨hd, hfree, rfl⟩ := rest?_eq_some hr
  have he : before ++ after = q.started ++ q.queue := by
    have he := hacc.eq_append (by simp [hd])
    rwa [hacc.unheld (by simp [hd]), Option.toList_none, List.append_nil] at he
  refine ⟨he, hacc.ran, ?_, ?_, ?_⟩
  · change before <+: q.started ↔ _
    have hlen : before.length + after.length = q.started.length + q.queue.length := by
      rw [← List.length_append, he, List.length_append]
    constructor
    · intro hp
      have hle : before.length ≤ q.started.length := hp.length_le
      omega
    · intro hle
      refine List.prefix_of_prefix_length_le (List.prefix_append before after) ?_ (by omega)
      exact he ▸ List.prefix_append ..
  · intro hs
    have hc : q.concurrency = max s.concurrency 1 := hq.concurrency_eq
    have hone : 1 ≤ awaitedTurns := by decide
    have hz : q.running.length = 0 := by omega
    exact List.eq_nil_of_length_eq_zero hz
  · obtain ⟨a, b, ha, ht, hb⟩ := hq.turned rfl hd
    refine ⟨a, b, ha, ht, hb, ?_⟩
    rcases (hb.of_not_accepting (by simp [ht.draining])).2 with hx | ⟨-, hx⟩
    · cases hx.symm.trans hd
    · rw [hx, ht.cases.1]

theorem Step.of_next? {ready : τ → Bool} (h : r.next? ready = some s) : Step r s := by
  simp only [next?, Option.orElse_eq_orElse, Option.orElse_eq_or, Option.or_eq_some_iff, Option.bind_eq_some_iff] at h
  rcases h with ⟨t, _, h⟩ | ⟨_, h | ⟨_, h | ⟨_, h | ⟨_, h⟩⟩⟩⟩
  · exact .finish t h
  · exact .begin h
  · exact .hear h
  · exact .take h
  · exact .rest h

theorem History.settle {ready : τ → Bool} (h : History w accepted r) : History w accepted (r.settle ready) := by
  induction r using settle.induct ready with
  | case1 r s hs ih =>
    rw [Runner.settle, hs]
    exact ih (h.step (.of_next? hs))
  | case2 r hn =>
    rw [Runner.settle, hn]
    exact h

theorem next?_settle (ready : τ → Bool) (r : Runner τ) : (r.settle ready).next? ready = none := by
  induction r using settle.induct ready with
  | case1 r s hs ih =>
    rw [Runner.settle, hs]
    exact ih
  | case2 r hn =>
    rw [Runner.settle, hn]
    exact hn

/-- A runner that drains stops as soon as the running tasks end. -/
theorem stopped_settle (hd : r.phase = .draining) : (r.settle fun _ => true).phase = .stopped := by
  have hs : History r [] (r.settle fun _ => true) := .settle .here
  rcases (hs.of_not_accepting (by simp [hd])).2 with hp | ⟨hp, -⟩
  · exact hp
  · -- Nothing is left to do, so no task is running, and nothing keeps the runner from stopping.
    have hn := next?_settle (fun _ => true) r
    simp only [next?, Option.orElse_eq_orElse, Option.orElse_eq_or, Option.or_eq_none_iff] at hn
    obtain ⟨hf, -, -, -, hr⟩ := hn
    generalize r.settle (fun _ => true) = q at *
    have he : q.running = [] := by
      cases hq : q.running with
      | nil => rfl
      | cons t ts => simp [hq, finish?] at hf
    have hle : q.running.length + min q.concurrency awaitedTurns ≤ q.concurrency := by
      rw [he, List.length_nil, Nat.zero_add]
      exact Nat.min_le_left ..
    rw [rest?, if_pos ⟨hp.trans hd, hle⟩] at hr
    cases hr

end

/-- A runner with one task that runs and one that waits. -/
def waiting : Runner Nat := { (ofSettings { concurrency := 1 } : Runner Nat) with
  queue := [1], running := [0], log := [.started 0] }

theorem accepted_of_rest_waiting : ∃ q last : Runner Nat,
    History (ofSettings { concurrency := 1 }) [0, 1] waiting ∧ History waiting [] q ∧ q.rest? = some last ∧
      [0, 1] = last.started ++ [1] ∧ last.ended = [0] ∧ last.running = [] := by
  have hr : History (ofSettings { concurrency := 1 }) [0] _ :=
    ((History.here.submit 0 rfl rfl).step (.take rfl)).step (.begin rfl)
  have hw : History (ofSettings { concurrency := 1 }) [0, 1] waiting := hr.submit 1 rfl rfl
  have hq : History waiting [] _ :=
    .step (.step (.step .here (.signal true rfl)) (.hear rfl)) (.finish 0 rfl)
  obtain ⟨he, -, -, hn, -⟩ := accepted_of_rest hw hq rfl
  exact ⟨_, _, hw, hq, rfl, he, rfl, hn (by decide)⟩

/-- What was accepted when the stop signal is given has run when the runner stops by itself, as often as it was
accepted. -/
def Drains (s : WorkerSettings) : Prop :=
  ∀ {before after : List Nat} {r q last : Runner Nat}, History (ofSettings s) before r → r.stop = false →
    r.orphaned = false → History (r.signal true).2 after q → q.rest? = some last →
    ∀ t, before.count t ≤ last.ended.count t

/-- A task is lost that waits when the signal is heard, and so is one that runs where so many may run at once
that the runner does not count them all. -/
theorem shutdown_loses_accepted : ¬ Drains { concurrency := 1 } ∧ ¬ Drains { concurrency := UInt32.size } := by
  constructor
  · intro h
    have hw : History (ofSettings { concurrency := 1 }) [0] _ := History.here.submit 0 rfl rfl
    have hs := h hw rfl rfl (.step .here (.hear rfl)) rfl 0
    exact absurd hs (by decide)
  · intro h
    have hw : History (ofSettings { concurrency := UInt32.size }) [0] _ :=
      ((History.here.submit 0 rfl rfl).step (.take rfl)).step (.begin rfl)
    have hs := h hw rfl rfl (.step .here (.hear rfl)) rfl 0
    exact absurd hs (by decide)

end Runner

end Gatehouse.Background
