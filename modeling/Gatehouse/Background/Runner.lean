import Gatehouse.Settings.Schema
/-!
The background runner: tasks wait in a bounded queue, and a bounded number of them runs at once. A stop
signal makes the runner take no more tasks and wait a while for those that run.

Each thing that can happen to a runner is a function that answers nothing when it cannot happen now.
`settle` lets everything happen that can, until nothing is left to do.
-/

namespace Gatehouse.Background

/-- How far a runner has come. -/
inductive Phase where
  /-- Tasks are submitted and taken. -/
  | accepting
  /-- No task is taken any more; the runner waits for those that run. -/
  | draining
  | stopped
deriving DecidableEq, Repr, Inhabited

namespace Phase

/-- How many phases are still to come. -/
def rank : Phase → Nat
  | .accepting => 2
  | draining => 1
  | stopped => 0

end Phase

/-- What happened to a task. -/
inductive TaskEvent (τ : Type) where
  | started (t : τ)
  | ended (t : τ)
deriving DecidableEq, Repr

/-- A runner of tasks. -/
structure Runner (τ : Type) where
  /-- How many tasks may wait. -/
  capacity : Nat
  /-- How many tasks may run at once. -/
  concurrency : Nat
  phase : Phase := .accepting
  /-- The tasks that wait, the oldest first. -/
  queue : List τ := []
  /-- The task that was taken off the queue and waits for its turn. -/
  held : Option τ := none
  running : List τ := []
  /-- What the stop signal says. -/
  stop : Bool := false
  /-- Whether the signal was given since the runner last listened. -/
  unheard : Bool := false
  /-- Whether there is nobody left to give the signal. -/
  orphaned : Bool := false
  /-- Whether there is nobody left to submit tasks. -/
  deserted : Bool := false
  /-- How long, in milliseconds, the runner still waits for running tasks once it drains. -/
  patience : Nat := 30000
  /-- What happened so far. -/
  log : List (TaskEvent τ) := []
deriving Inhabited

namespace Runner

variable {τ : Type}

/-- A runner with given settings; there is room for one task at least. -/
def ofSettings (s : WorkerSettings) : Runner τ where
  capacity := max s.queueCapacity 1
  concurrency := max s.concurrency 1

/-! ## From outside -/

/-- Whether a submitted task would be accepted. -/
def accepts (r : Runner τ) : Bool := r.phase == .accepting && r.queue.length < r.capacity

/-- Submits a task; it is dropped unless the runner accepts it. -/
def submit (r : Runner τ) (t : τ) : Bool × Runner τ :=
  if r.accepts then (true, { r with queue := r.queue ++ [t] }) else (false, r)

/-- Gives the stop signal, or takes it back; answers whether the runner can still hear it. -/
def signal (r : Runner τ) (stop : Bool) : Bool × Runner τ :=
  if r.phase = .stopped then (false, r) else (true, { r with stop, unheard := true })

/-- From now on nobody gives the signal. -/
def orphan (r : Runner τ) : Runner τ := { r with orphaned := true }

/-- From now on nobody submits tasks. -/
def desert (r : Runner τ) : Runner τ := { r with deserted := true }

/-- Tasks that still wait when the runner stops are lost. -/
def halt (r : Runner τ) : Runner τ := { r with phase := .stopped, queue := [] }

/-- Time goes by; a draining runner stops when its patience is at an end. -/
def elapse (r : Runner τ) (milliseconds : Nat) : Runner τ :=
  if r.phase = .draining then
    if r.patience ≤ milliseconds then r.halt else { r with patience := r.patience - milliseconds }
  else r

/-! ## From inside -/

/-- Whether the runner looks for a signal or a task. -/
def looks (r : Runner τ) : Bool := r.phase == .accepting && r.held.isNone

/-- The runner hears the signal, or that there will be none. -/
def hear? (r : Runner τ) : Option (Runner τ) :=
  if r.looks then
    if r.unheard then
      some { r with unheard := false, phase := if r.stop then .draining else .accepting }
    else if r.orphaned then some { r with phase := .draining }
    else none
  else none

/-- The runner takes the oldest task off the queue, or finds out that there will be none. -/
def take? (r : Runner τ) : Option (Runner τ) :=
  if r.looks then
    match r.queue with
    | t :: rest => some { r with queue := rest, held := some t }
    | [] => if r.deserted then some { r with phase := .draining } else none
  else none

/-- The task that was taken starts. -/
def begin? (r : Runner τ) : Option (Runner τ) :=
  match r.held with
  | some t =>
    if r.running.length < r.concurrency then
      some { r with held := none, running := r.running ++ [t], log := r.log ++ [.started t] }
    else none
  | none => none

/-- A running task ends. -/
def finish? [DecidableEq τ] (r : Runner τ) (t : τ) : Option (Runner τ) :=
  if t ∈ r.running then some { r with running := r.running.erase t, log := r.log ++ [.ended t] } else none

/-- How many turns the runner waits for at most when it drains. -/
def awaitedTurns : Nat := UInt32.size - 1

/-- A draining runner stops once the running tasks have ended. -/
def rest? (r : Runner τ) : Option (Runner τ) :=
  -- As many turns must be free as are awaited.
  if r.phase = .draining ∧ r.running.length + min r.concurrency awaitedTurns ≤ r.concurrency then some r.halt
  else none

/-! ## Until nothing is left to do -/

/-- How much a runner can still do by itself. -/
def weight (r : Runner τ) : Nat :=
  4 * r.queue.length + 3 * r.held.toList.length + 2 * r.running.length + r.unheard.toNat + r.phase.rank

theorem weight_lt_of_hear? {r s : Runner τ} (h : r.hear? = some s) : s.weight < r.weight := by
  unfold hear? at h
  split at h
  · next hl =>
    have ho : r.phase = .accepting := by simp [looks] at hl; exact hl.1
    split at h
    · next hu =>
      cases h
      simp only [weight, hu, ho, Phase.rank]
      split <;> simp
      omega
    · split at h
      · cases h
        simp only [weight, ho, Phase.rank]
        omega
      · cases h
  · cases h

theorem weight_lt_of_take? {r s : Runner τ} (h : r.take? = some s) : s.weight < r.weight := by
  unfold take? at h
  split at h
  · next hl =>
    have ⟨ho, hn⟩ : r.phase = .accepting ∧ r.held = none := by simpa [looks] using hl
    split at h
    · next hq =>
      cases h
      simp [weight, hq, hn, ho]
      omega
    · next hq =>
      split at h
      · cases h
        simp [weight, ho, Phase.rank]
      · cases h
  · cases h

theorem weight_lt_of_begin? {r s : Runner τ} (h : r.begin? = some s) : s.weight < r.weight := by
  unfold begin? at h
  split at h
  · next hh =>
    split at h
    · cases h
      simp only [weight, hh, Option.toList_some, Option.toList_none, List.length_append, List.length_cons,
        List.length_nil]
      omega
    · cases h
  · cases h

theorem weight_lt_of_finish? [DecidableEq τ] {r s : Runner τ} {t : τ} (h : r.finish? t = some s) :
    s.weight < r.weight := by
  unfold finish? at h
  split at h
  · next hm =>
    cases h
    have := List.length_erase_of_mem hm
    have := List.length_pos_of_mem hm
    simp only [weight]
    omega
  · cases h

theorem weight_lt_of_rest? {r s : Runner τ} (h : r.rest? = some s) : s.weight < r.weight := by
  unfold rest? at h
  split at h
  · next hd =>
    cases h
    simp only [weight, halt, hd.1, Phase.rank, List.length_nil]
    omega
  · cases h

variable [DecidableEq τ]

/-- What a runner does next by itself: it lets a task end that is ready to, lets the taken one start,
listens, takes the next one, stops. -/
def next? (ready : τ → Bool) (r : Runner τ) : Option (Runner τ) :=
  (r.running.find? ready).bind r.finish? <|> r.begin? <|> r.hear? <|> r.take? <|> r.rest?

theorem weight_lt_of_next? {ready : τ → Bool} {r s : Runner τ} (h : r.next? ready = some s) :
    s.weight < r.weight := by
  simp only [next?, Option.orElse_eq_orElse, Option.orElse_eq_or, Option.or_eq_some_iff, Option.bind_eq_some_iff] at h
  rcases h with ⟨t, _, h⟩ | ⟨_, h | ⟨_, h | ⟨_, h | ⟨_, h⟩⟩⟩⟩
  · exact weight_lt_of_finish? h
  · exact weight_lt_of_begin? h
  · exact weight_lt_of_hear? h
  · exact weight_lt_of_take? h
  · exact weight_lt_of_rest? h

/-- The runner does what it can by itself; a running task ends when it is ready to. -/
def settle (ready : τ → Bool) (r : Runner τ) : Runner τ :=
  match _h : r.next? ready with
  | some s => settle ready s
  | none => r
termination_by r.weight
decreasing_by exact weight_lt_of_next? _h

end Runner

end Gatehouse.Background
