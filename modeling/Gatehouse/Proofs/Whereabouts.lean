import Gatehouse.Fault
import Gatehouse.Proofs.Backlog
import Mathlib.Data.List.Induction
import Mathlib.Data.List.Nodup
import Mathlib.Data.List.Pairwise
import Mathlib.Logic.ExistsUnique
/-!
# Where tasks are while nobody stops the runner

Tasks are submitted, taken, started and ended in any order, and the stop signal is not given. Submissions are
numbered, so that equal tasks are told apart. Main statement: queue and running tasks keep within their bounds,
every accepted task is in one place at any time and starts in its turn, a refused one is nowhere, and what comes of
a task that ends does not matter.
-/

namespace Gatehouse.Background

variable {τ : Type}

/-- What was submitted, and what was answered. The number of a submission is its place in the list. -/
abbrev Submissions (τ : Type) := List (τ × Bool)

namespace Submissions

/-- The submissions that were accepted, with their numbers. -/
def accepted (subs : Submissions τ) : List (Nat × τ) :=
  subs.zipIdx.filterMap fun x => if x.1.2 then some (x.2, x.1.1) else none

variable {subs : Submissions τ} {n : Nat} {t : τ}

theorem accepted_concat (subs : Submissions τ) (t : τ) (answer : Bool) :
    accepted (subs ++ [(t, answer)]) = accepted subs ++ if answer then [(subs.length, t)] else [] := by
  unfold accepted
  rw [List.zipIdx_append, List.filterMap_append]
  cases answer <;> simp

theorem mem_accepted : (n, t) ∈ accepted subs ↔ subs[n]? = some (t, true) := by
  simp only [accepted, List.mem_filterMap, Prod.exists, List.mem_zipIdx_iff_getElem?]
  constructor
  · rintro ⟨u, answer, k, hk, he⟩
    cases answer with
    | true =>
      cases he
      exact hk
    | false => cases he
  · intro hn
    exact ⟨t, true, n, hn, rfl⟩

theorem lt_length_of_mem_accepted (h : (n, t) ∈ accepted subs) : n < subs.length :=
  (List.getElem?_eq_some_iff.1 (mem_accepted.1 h)).1

/-- No submission is accepted twice. -/
theorem nodup_accepted (subs : Submissions τ) : (accepted subs).Nodup := by
  induction subs using List.reverseRecOn with
  | nil => exact List.nodup_nil
  | append_singleton subs x ih =>
    obtain ⟨t, answer⟩ := x
    rw [accepted_concat]
    cases answer with
    | false =>
      rw [if_neg Bool.false_ne_true, List.append_nil]
      exact ih
    | true =>
      rw [if_pos rfl]
      apply ih.append (List.nodup_singleton _)
      intro y hy hlast
      rw [List.mem_singleton.1 hlast] at hy
      exact absurd (lt_length_of_mem_accepted hy) (Nat.lt_irrefl _)

end Submissions

/-- Where a task can be that was accepted. -/
inductive Place where
  | queued
  /-- The task was taken off the queue and waits for its turn. -/
  | held
  | running
  | finished

namespace Place

/-- Every place. -/
def all : List Place := [queued, held, running, finished]

theorem mem_all (p : Place) : p ∈ all := by
  cases p <;> simp [all]

end Place

namespace Runner

open Submissions (accepted)

/-- The tasks that a runner has in a place. -/
def tasksAt (r : Runner τ) : Place → List τ
  | .queued => r.queue
  | .held => r.held.toList
  | .running => r.running
  | .finished => r.ended

/-! ## Nothing is lost -/

/-- What a runner keeps that nobody signals to stop: all that it accepted. It turns away from its queue only when the
queue is empty and nobody is left to submit tasks. -/
structure Calm (accepted : List τ) (r : Runner τ) : Prop extends Accounts accepted r where
  kept : accepted = r.started ++ r.held.toList ++ r.queue
  unstopped : r.stop = false
  attended : r.orphaned = false
  turned : r.phase ≠ .accepting → r.deserted = true ∧ r.queue = []

namespace Calm

variable {acc : List τ} {r s : Runner τ} {t : τ}

theorem ofSettings (s : WorkerSettings) : Calm [] (ofSettings s : Runner τ) where
  toAccounts := .ofSettings s
  kept := rfl
  unstopped := rfl
  attended := rfl
  turned hp := absurd rfl hp

theorem submit (h : Calm acc r) (ha : (r.submit t).1 = true) : Calm (acc ++ [t]) (r.submit t).2 := by
  have hacc := h.toAccounts.submit ha
  obtain ⟨hp, -, hs⟩ := submit_of_accepted ha
  rw [hs] at hacc ⊢
  refine ⟨hacc, hacc.eq_append ?_, h.unstopped, h.attended, ?_⟩
  · intro hx
    cases hp.symm.trans hx
  · intro hx
    exact absurd hp hx

/-- When the runner stops, its queue is empty. -/
theorem halt (h : Calm acc r) (hd : r.phase = .draining) : Calm acc r.halt := by
  have hq := h.turned (by simp [hd])
  refine ⟨h.toAccounts.halt hd, ?_, h.unstopped, h.attended, fun _ => ⟨hq.1, rfl⟩⟩
  have hkept := h.kept
  rw [hq.2] at hkept
  exact hkept

theorem step [DecidableEq τ] (h : Calm acc r) (hs : Step r s) (hstop : s.stop = false) (ho : s.orphaned = false) :
    Calm acc s := by
  have hacc := h.toAccounts.step hs
  cases hs with
  | signal stop _ =>
    unfold Runner.signal at hacc hstop ho ⊢
    split
    · exact h
    · next hp =>
      rw [if_neg hp] at hacc hstop ho
      exact ⟨hacc, h.kept, hstop, ho, h.turned⟩
  | orphan => cases ho
  | desert => exact ⟨hacc, h.kept, hstop, ho, fun hp => ⟨rfl, (h.turned hp).2⟩⟩
  | elapse milliseconds =>
    unfold Runner.elapse at hacc ⊢
    split
    · next hd =>
      split
      · exact h.halt hd
      · exact ⟨h.toAccounts.congr rfl rfl rfl rfl rfl, h.kept, h.unstopped, h.attended, h.turned⟩
    · exact h
  | hear hh =>
    obtain ⟨hp, -, ⟨-, rfl⟩ | ⟨hx, -⟩⟩ := hear?_eq_some hh
    · refine ⟨hacc, h.kept, h.unstopped, h.attended, ?_⟩
      simp [h.unstopped]
    · cases h.attended.symm.trans hx
  | take ht =>
    obtain ⟨hp, hn, ⟨t, rest, hq, rfl⟩ | ⟨hq, hd, rfl⟩⟩ := take?_eq_some ht
    · refine ⟨hacc, ?_, h.unstopped, h.attended, fun hx => absurd hp hx⟩
      have hkept := h.kept
      simpa [hn, hq, started] using hkept
    · exact ⟨hacc, h.kept, h.unstopped, h.attended, fun _ => ⟨hd, hq⟩⟩
  | begin hb =>
    obtain ⟨t, hh, -, rfl⟩ := begin?_eq_some hb
    refine ⟨hacc, ?_, h.unstopped, h.attended, h.turned⟩
    rw [started_of_started, h.kept, hh]
    simp
  | finish t hf =>
    obtain ⟨-, rfl⟩ := finish?_eq_some hf
    refine ⟨hacc, ?_, h.unstopped, h.attended, h.turned⟩
    rw [started_of_ended]
    exact h.kept
  | rest hr =>
    obtain ⟨hd, -, rfl⟩ := rest?_eq_some hr
    exact h.halt hd

end Calm

/-! ## Bounds -/

theorem submit_accepted_iff {r : Runner τ} {t : τ} :
    (r.submit t).1 = true ↔ r.phase = .accepting ∧ r.queue.length < r.capacity := by
  unfold submit accepts
  split
  · next ha => simpa using ha
  · next ha => simpa using ha

/-- A runner keeps within its bounds. -/
structure Bounded (r : Runner τ) : Prop where
  waiting : r.queue.length ≤ r.capacity
  atOnce : r.running.length ≤ r.concurrency

section
variable {r s : Runner τ} {t : τ}

theorem Bounded.submit (h : r.Bounded) (t : τ) : (r.submit t).2.Bounded := by
  cases ha : (r.submit t).1 with
  | false =>
    rw [submit_of_refused ha]
    exact h
  | true =>
    obtain ⟨-, hl, hs⟩ := submit_of_accepted ha
    rw [hs]
    refine ⟨?_, h.atOnce⟩
    rw [List.length_append]
    exact hl

variable [DecidableEq τ]

theorem Bounded.step (h : r.Bounded) (hs : Step r s) : s.Bounded := by
  have halted : r.halt.Bounded := ⟨Nat.zero_le _, h.atOnce⟩
  cases hs with
  | signal =>
    unfold Runner.signal
    split <;> exact ⟨h.waiting, h.atOnce⟩
  | orphan | desert => exact ⟨h.waiting, h.atOnce⟩
  | elapse =>
    unfold Runner.elapse
    repeat' split
    · exact halted
    · exact ⟨h.waiting, h.atOnce⟩
    · exact h
  | hear hh => obtain ⟨-, -, ⟨-, rfl⟩ | ⟨-, rfl⟩⟩ := hear?_eq_some hh <;> exact ⟨h.waiting, h.atOnce⟩
  | take ht =>
    obtain ⟨-, -, ⟨t, rest, hq, rfl⟩ | ⟨-, -, rfl⟩⟩ := take?_eq_some ht
    · refine ⟨?_, h.atOnce⟩
      have hw := h.waiting
      rw [hq, List.length_cons] at hw
      exact Nat.le_of_succ_le hw
    · exact ⟨h.waiting, h.atOnce⟩
  | begin hb =>
    obtain ⟨t, -, hc, rfl⟩ := begin?_eq_some hb
    refine ⟨h.waiting, ?_⟩
    rw [List.length_append]
    exact hc
  | finish t hf =>
    obtain ⟨-, rfl⟩ := finish?_eq_some hf
    exact ⟨h.waiting, Nat.le_trans (List.length_erase_le ..) h.atOnce⟩
  | rest hr =>
    obtain ⟨-, -, rfl⟩ := rest?_eq_some hr
    exact halted

theorem Step.capacity_eq (h : Step r s) : s.capacity = r.capacity := by
  cases h with
  | signal | elapse =>
    simp only [Runner.signal, Runner.elapse]
    repeat' split
    all_goals rfl
  | orphan | desert => rfl
  | hear h => obtain ⟨-, -, ⟨-, rfl⟩ | ⟨-, rfl⟩⟩ := hear?_eq_some h <;> rfl
  | take h => obtain ⟨-, -, ⟨_, _, -, rfl⟩ | ⟨-, -, rfl⟩⟩ := take?_eq_some h <;> rfl
  | begin h =>
    obtain ⟨_, -, -, rfl⟩ := begin?_eq_some h
    rfl
  | finish _ h =>
    obtain ⟨-, rfl⟩ := finish?_eq_some h
    rfl
  | rest h =>
    obtain ⟨-, -, rfl⟩ := rest?_eq_some h
    rfl

end

/-! ## Every task in its place -/

namespace Calm

variable {acc : List τ} {r : Runner τ} {t : τ}

/-- What a runner accepted is what it has in all places together. -/
theorem perm (h : Calm acc r) : (Place.all.flatMap r.tasksAt).Perm acc := by
  have hall : Place.all.flatMap r.tasksAt = r.queue ++ (r.held.toList ++ (r.running ++ r.ended)) := by
    simp [Place.all, tasksAt]
  have hran : (r.running ++ r.ended).Perm r.started := List.perm_append_comm.trans h.ran
  have hbegun : (r.held.toList ++ (r.running ++ r.ended)).Perm (r.started ++ r.held.toList) :=
    (hran.append_left _).trans List.perm_append_comm
  rw [hall, h.kept]
  exact List.perm_append_comm.trans (hbegun.append_right _)

theorem mem_acc (h : Calm acc r) {p : Place} (ht : t ∈ r.tasksAt p) : t ∈ acc :=
  h.perm.mem_iff.1 (List.mem_flatMap.2 ⟨p, Place.mem_all p, ht⟩)

/-- Where every task is accepted once, it is in one place. -/
theorem existsUnique_place (h : Calm acc r) (hn : acc.Nodup) (ht : t ∈ acc) : ∃! p, t ∈ r.tasksAt p := by
  obtain ⟨p, -, hp⟩ := List.mem_flatMap.1 (h.perm.mem_iff.2 ht)
  refine ⟨p, hp, fun q hq => ?_⟩
  have hapart := (List.nodup_flatMap.1 (h.perm.nodup_iff.2 hn)).2
  have hsymm : Std.Symm (Function.onFun List.Disjoint r.tasksAt) := ⟨fun _ _ hd _ hq hp => hd hp hq⟩
  by_contra hne
  exact hapart.forall (Place.mem_all q) (Place.mem_all p) hne hq hp

theorem started_prefix (h : Calm acc r) : r.started <+: acc := by
  rw [h.kept, List.append_assoc]
  exact List.prefix_append ..

end Calm

/-! ## Runs without a signal -/

variable [DecidableEq τ]

/-- What came of tasks that ended: nothing, or a fault. -/
abbrev Results (τ : Type) := List (τ × Except Fault Unit)

/-- What can have happened to a runner while nobody signals that it should stop: what was submitted since, and what
came of the tasks that ended. -/
inductive Unsignalled (w : Runner (Nat × τ)) : Submissions τ → Results (Nat × τ) → Runner (Nat × τ) → Prop
  | here : Unsignalled w [] [] w
  | submit {subs results r} (h : Unsignalled w subs results r) (t : τ) (hd : r.deserted = false) :
      Unsignalled w (subs ++ [(t, (r.submit (subs.length, t)).1)]) results (r.submit (subs.length, t)).2
  | finish {subs results r s} (h : Unsignalled w subs results r) (t : Nat × τ) (result : Except Fault Unit)
      (hf : r.finish? t = some s) : Unsignalled w subs (results ++ [(t, result)]) s
  | step {subs results r s} (h : Unsignalled w subs results r) (hs : Step r s) (he : s.ended = r.ended)
      (hstop : s.stop = false) (ho : s.orphaned = false) : Unsignalled w subs results s

/-- What holds at any time of a runner with given settings that nobody signals to stop. -/
structure Safe (s : WorkerSettings) (subs : Submissions τ) (results : Results (Nat × τ)) (r : Runner (Nat × τ)) :
    Prop where
  waiting : r.queue.length ≤ max s.queueCapacity 1
  atOnce : r.running.length ≤ max s.concurrency 1
  /-- A task is accepted if there is room in the queue, and the runner has not turned away from it. -/
  room : ∀ t, (r.submit t).1 = true ↔ r.queue.length < max s.queueCapacity 1 ∧ r.phase = .accepting
  /-- The runner turns away only when nobody is left to submit tasks. -/
  goesOn : r.deserted = false → r.phase = .accepting
  /-- A task that was accepted is in one place. -/
  place : ∀ n t, subs[n]? = some (t, true) → ∃! p, (n, t) ∈ r.tasksAt p
  /-- A task that was refused is nowhere, and it has not run. -/
  refused : ∀ n t, subs[n]? = some (t, false) → (n, t) ∉ r.started ∧ ∀ p, (n, t) ∉ r.tasksAt p
  inTurn : r.started <+: accepted subs
  once : r.started.Nodup
  ran : (r.ended ++ r.running).Perm r.started
  /-- Something came of every task that ended, and of no other one. -/
  outcomes : r.ended = results.map Prod.fst
  /-- A running task can end, and gives its turn to the one that waits for a turn. -/
  freed : ∀ t ∈ r.running, ∃ q, r.finish? t = some q ∧ q.running.length + 1 = r.running.length ∧
    ∀ u, r.held = some u → ∃ q', q.begin? = some q' ∧ u ∈ q'.running
  /-- A task that ends leaves every other one where it is. -/
  leaves : ∀ t q, r.finish? t = some q → q.phase = r.phase ∧ q.started = r.started ∧
    ∀ u, u ≠ t → ∀ p, u ∈ q.tasksAt p ↔ u ∈ r.tasksAt p
  /-- Whatever had come of the tasks that ended, the runner would be the same. -/
  unmoved : ∀ results', results'.map Prod.fst = results.map Prod.fst → Unsignalled (ofSettings s) subs results' r

theorem finish?_leaves {r q : Runner τ} {t : τ} (hf : r.finish? t = some q) :
    q.phase = r.phase ∧ q.started = r.started ∧ ∀ u, u ≠ t → ∀ p, u ∈ q.tasksAt p ↔ u ∈ r.tasksAt p := by
  obtain ⟨-, rfl⟩ := finish?_eq_some hf
  refine ⟨rfl, started_of_ended, ?_⟩
  intro u hu p
  cases p with
  | queued | held => exact Iff.rfl
  | running => exact List.mem_erase_of_ne hu
  | finished =>
    simp only [tasksAt, ended_of_ended, List.mem_append, List.mem_singleton, hu, or_false]

/-- Within its bounds, a runner has a turn for another task when one has ended. -/
theorem Bounded.freed {r : Runner τ} {t : τ} (h : r.Bounded) (ht : t ∈ r.running) :
    ∃ q, r.finish? t = some q ∧ q.running.length + 1 = r.running.length ∧
      ∀ u, r.held = some u → ∃ q', q.begin? = some q' ∧ u ∈ q'.running := by
  have hpos := List.length_pos_of_mem ht
  have hlength := List.length_erase_of_mem ht
  have hturn : (r.running.erase t).length < r.concurrency := by
    have := h.atOnce
    omega
  refine ⟨_, if_pos ht, ?_, fun u hu => ⟨{ r with
    held := none, running := r.running.erase t ++ [u], log := r.log ++ [.ended t] ++ [.started u] }, ?_, ?_⟩⟩
  · show (r.running.erase t).length + 1 = _
    omega
  · unfold begin?
    simp only [hu]
    exact if_pos hturn
  · exact List.mem_concat_self

section
variable {s : WorkerSettings} {w r : Runner (Nat × τ)} {subs : Submissions τ} {results : Results (Nat × τ)}

theorem Unsignalled.ended_eq (h : Unsignalled w subs results r) (hw : w.ended = []) :
    r.ended = results.map Prod.fst := by
  induction h with
  | here => exact hw
  | @submit subs results r _ t _ ih =>
    cases ha : (r.submit (subs.length, t)).1 with
    | true =>
      obtain ⟨-, -, hs⟩ := submit_of_accepted ha
      rw [hs]
      exact ih
    | false =>
      rw [submit_of_refused ha]
      exact ih
  | finish _ t result hf ih =>
    obtain ⟨-, rfl⟩ := finish?_eq_some hf
    rw [ended_of_ended, ih, List.map_append, List.map_singleton]
  | step _ _ he _ _ ih => exact he.trans ih

theorem Unsignalled.calm (h : Unsignalled (ofSettings s) subs results r) : Calm (accepted subs) r := by
  induction h with
  | here => exact .ofSettings s
  | @submit subs results r _ t _ ih =>
    rw [Submissions.accepted_concat]
    cases ha : (r.submit (subs.length, t)).1 with
    | true =>
      rw [if_pos rfl]
      exact ih.submit ha
    | false =>
      rw [if_neg Bool.false_ne_true, List.append_nil, submit_of_refused ha]
      exact ih
  | finish _ t _ hf ih =>
    obtain ⟨-, rfl⟩ := finish?_eq_some hf
    exact ih.step (.finish t hf) ih.unstopped ih.attended
  | step _ hs _ hstop ho ih => exact ih.step hs hstop ho

theorem Unsignalled.bounded (h : Unsignalled w subs results r) (hw : w.Bounded) :
    r.Bounded ∧ r.capacity = w.capacity ∧ r.concurrency = w.concurrency := by
  induction h with
  | here => exact ⟨hw, rfl, rfl⟩
  | @submit subs _ r _ t _ ih =>
    obtain ⟨hb, hcap, hcon⟩ := ih
    refine ⟨hb.submit _, ?_⟩
    cases ha : (r.submit (subs.length, t)).1 with
    | true =>
      obtain ⟨-, -, hs⟩ := submit_of_accepted ha
      rw [hs]
      exact ⟨hcap, hcon⟩
    | false =>
      rw [submit_of_refused ha]
      exact ⟨hcap, hcon⟩
  | finish _ t _ hf ih =>
    have hs := Step.finish t hf
    exact ⟨ih.1.step hs, hs.capacity_eq.trans ih.2.1, hs.concurrency_eq.trans ih.2.2⟩
  | step _ hs _ _ _ ih => exact ⟨ih.1.step hs, hs.capacity_eq.trans ih.2.1, hs.concurrency_eq.trans ih.2.2⟩

/-- The runner does not look at what comes of a task. -/
theorem Unsignalled.unmoved (h : Unsignalled w subs results r) {results' : Results (Nat × τ)}
    (hr : results'.map Prod.fst = results.map Prod.fst) : Unsignalled w subs results' r := by
  induction h generalizing results' with
  | here =>
    cases List.map_eq_nil_iff.1 hr
    exact .here
  | submit _ t hd ih => exact (ih hr).submit t hd
  | finish _ t result hf ih =>
    rw [List.map_append] at hr
    obtain ⟨before, last, rfl, hb, hl⟩ := List.map_eq_append_iff.1 hr
    obtain ⟨⟨_, result'⟩, rfl, rfl⟩ := List.map_eq_singleton_iff.1 hl
    exact (ih hb).finish _ result' hf
  | step _ hs he hstop ho ih => exact (ih hr).step hs he hstop ho

end

/-- While nobody signals that a runner should stop, it keeps its bounds and loses no task that it accepted: whatever is
submitted, taken, started and ended in between, and in whatever order. -/
theorem safe_of_unsignalled {s : WorkerSettings} {subs : Submissions τ} {results : Results (Nat × τ)}
    {r : Runner (Nat × τ)} (h : Unsignalled (ofSettings s) subs results r) : Safe s subs results r := by
  have hcalm := h.calm
  obtain ⟨hbounded, hcapacity, hconcurrency⟩ := h.bounded ⟨Nat.zero_le _, Nat.zero_le _⟩
  have hcap : r.capacity = max s.queueCapacity 1 := hcapacity
  have hcon : r.concurrency = max s.concurrency 1 := hconcurrency
  have hnodup := Submissions.nodup_accepted subs
  constructor
  case waiting => exact hcap ▸ hbounded.waiting
  case atOnce => exact hcon ▸ hbounded.atOnce
  case room =>
    intro t
    rw [submit_accepted_iff, hcap, and_comm]
  case goesOn =>
    intro hd
    by_contra hp
    cases hd.symm.trans (hcalm.turned hp).1
  case place =>
    intro n t hn
    exact hcalm.existsUnique_place hnodup (Submissions.mem_accepted.2 hn)
  case refused =>
    intro n t hn
    have hnot : (n, t) ∉ accepted subs := by
      intro ht
      cases hn.symm.trans (Submissions.mem_accepted.1 ht)
    exact ⟨fun ht => hnot (hcalm.started_prefix.subset ht), fun p ht => hnot (hcalm.mem_acc ht)⟩
  case inTurn => exact hcalm.started_prefix
  case once => exact hnodup.sublist hcalm.started_prefix.sublist
  case ran => exact hcalm.ran
  case outcomes => exact h.ended_eq rfl
  case freed =>
    intro t ht
    exact hbounded.freed ht
  case leaves =>
    intro t q hf
    exact finish?_leaves hf
  case unmoved =>
    intro results' hr
    exact h.unmoved hr

/-- One task runs, an equal one waits, and a third one is refused. Then the first one fails. -/
theorem safe_of_unsignalled_crowded : ∃ r : Runner (Nat × String),
    Unsignalled (ofSettings { queueCapacity := 1, concurrency := 1 })
      [("check", true), ("check", true), ("check", false)] [((0, "check"), .error (.internal "boom"))] r ∧
    r.started = [(0, "check")] ∧ (r.submit (3, "check")).1 = false ∧
    Safe { queueCapacity := 1, concurrency := 1 }
      [("check", true), ("check", true), ("check", false)] [((0, "check"), .error (.internal "boom"))] r := by
  have hfirst : Unsignalled (ofSettings { queueCapacity := 1, concurrency := 1 }) [("check", true)] [] _ :=
    Unsignalled.here.submit "check" rfl
  have hruns : Unsignalled _ [("check", true)] [] _ :=
    (hfirst.step (.take rfl) rfl rfl rfl).step (.begin rfl) rfl rfl rfl
  have hfull : Unsignalled _ [("check", true), ("check", true), ("check", false)] [] _ :=
    (hruns.submit "check" rfl).submit "check" rfl
  have hfailed := hfull.finish (0, "check") (.error (.internal "boom")) rfl
  exact ⟨_, hfailed, rfl, rfl, safe_of_unsignalled hfailed⟩

end Runner

end Gatehouse.Background
