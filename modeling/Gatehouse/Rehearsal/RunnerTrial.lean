import Gatehouse.Background.Runner
import Gatehouse.Data.ToValue
/-!
A background runner on trial: tasks are submitted, some of them wait at a gate until they are released,
and the runner does what it can after every step but a submission.
-/

namespace Gatehouse.Rehearsal

/-- A task on trial. -/
structure TrialTask where
  number : Nat
  name : String
  /-- Whether the task, once it started, waits for its release. -/
  gated : Bool
deriving DecidableEq

/-- A runner on trial. -/
structure RunnerTrial where
  runner : Background.Runner TrialTask
  /-- The tasks that were submitted, the latest first. -/
  submitted : List TrialTask := []
  /-- The numbers of the tasks that were released. -/
  released : List Nat := []

namespace RunnerTrial

/-- What is done to a runner on trial. -/
inductive Op where
  | submit (name : String) (gated : Bool)
  | release (name : String)
  | signal (stop : Bool)
  /-- From now on nobody gives the stop signal. -/
  | orphan
  /-- From now on nobody submits tasks. -/
  | desert
  | advance (milliseconds : Nat)
  | settle

/-- Whether a task that runs may end. -/
def ready (t : RunnerTrial) (task : TrialTask) : Bool := !task.gated || t.released.contains task.number

/-- Lets the runner do what it can. -/
def settle (t : RunnerTrial) : RunnerTrial := { t with runner := t.runner.settle t.ready }

/-- Does something to a runner on trial; nothing is answered by whoever is not there any more. -/
def perform (t : RunnerTrial) : Op → Value × RunnerTrial
  | .submit name gated =>
    if t.runner.deserted then (.null, t)
    else
      let task : TrialTask := { number := t.submitted.length, name, gated }
      let (accepted, runner) := t.runner.submit task
      (.bool accepted, { t with runner, submitted := task :: t.submitted })
  | .release name =>
    match t.submitted.find? fun task => task.gated && task.name == name with
    | some task => (.bool true, { t with released := task.number :: t.released }.settle)
    | none => (.bool false, t.settle)
  | .signal stop =>
    if t.runner.orphaned then (.null, t.settle)
    else
      let (heard, runner) := t.runner.signal stop
      (.bool heard, { t with runner }.settle)
  | .orphan => (.text "ok", { t with runner := t.runner.orphan }.settle)
  | .desert => (.text "ok", { t with runner := t.runner.desert }.settle)
  | .advance milliseconds =>
    let t := t.settle
    (.text "ok", { t with runner := t.runner.elapse milliseconds }.settle)
  | .settle => (.text "ok", t.settle)

/-- The line of an event in the log of a trial. -/
def line : Background.TaskEvent TrialTask → String
  | .started t => "start " ++ t.name
  | .ended t => "end " ++ t.name

end RunnerTrial

end Gatehouse.Rehearsal
