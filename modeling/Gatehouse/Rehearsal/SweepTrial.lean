import Gatehouse.Data.ToValue
import Gatehouse.Session.Sweep
/-!
A sweep on trial: what it does to seeded sessions while time goes by, the store fails or recovers, and
the stop signal is given.
-/

namespace Gatehouse.Rehearsal

/-- A sweep on trial. -/
structure SweepTrial where
  sweep : Sweep
  /-- What the clock shows at the start. -/
  start : Instant
  store : SessionStore := {}
  /-- The tokens that were seeded. -/
  seeded : NameSet := ∅
  /-- Seconds by which the clock of the passes is put forward. -/
  shift : Int := 0
  /-- How passes fail, if they do. -/
  failing : Option Fault := none
  /-- How many passes were tried. -/
  calls : Nat := 0
  loop : Option SweepLoop := none
  /-- Whether there is somebody to give the stop signal. -/
  attended : Bool := false

namespace SweepTrial

/-- What is done to a sweep on trial. -/
inductive Op where
  | seed (token : String) (limit : Option Instant)
  | shift (seconds : Int)
  | fail (e : Option Fault)
  /-- A pass by itself. -/
  | run
  /-- The sweep starts to go on by itself. -/
  | spawn
  | advance (milliseconds : Nat)
  | signal (stop : Bool)
  /-- From now on nobody gives the stop signal. -/
  | abandon

/-- A pass, which may fail. -/
def pass (t : SweepTrial) : Except Fault Nat × SweepTrial :=
  let t := { t with calls := t.calls + 1 }
  match t.failing with
  | some e => (.error e, t)
  | none =>
    let (evicted, store) := t.sweep.pass t.store (t.start.addSeconds t.shift)
    (.ok evicted, { t with store })

/-- Lets the loop make the passes that are due. -/
def elapse (t : SweepTrial) (l : SweepLoop) (milliseconds : Nat) : SweepTrial :=
  let (l, t) := l.elapse (fun t => t.pass.2) milliseconds t
  { t with loop := some l }

/-- The tokens of the seeded sessions that are still there. -/
def alive (t : SweepTrial) : List String :=
  t.seeded.toList.filter fun token => (t.store.find? token).isSome

/-- What is answered when there is nothing to answer. -/
def done (t : SweepTrial) : Except Fault Value × SweepTrial := (.ok (.text "ok"), t)

/-- Does something to a sweep on trial. -/
def perform (t : SweepTrial) : Op → Except Fault Value × SweepTrial
  | .seed token limit =>
    let store := (t.store.write t.start token .seen).write t.start token (.hardLimit limit)
    done { t with store, seeded := t.seeded.insert token }
  | .shift seconds => done { t with shift := seconds }
  | .fail e => done { t with failing := e }
  | .run =>
    let (evicted, t) := t.pass
    (evicted.map toValue, t)
  | .spawn => done ({ t with attended := true }.elapse { sweep := t.sweep } 0)
  | .advance milliseconds =>
    match t.loop with
    | some l => done (t.elapse l milliseconds)
    | none => done t
  | .signal stop =>
    match t.attended, t.loop with
    | true, some l =>
      let (heard, l) := l.signal stop
      (.ok (.bool heard), { t with loop := some l })
    | _, _ => (.ok .null, t)
  | .abandon => done { t with attended := false, loop := t.loop.map fun l => (l.signal true).2 }

end SweepTrial

end Gatehouse.Rehearsal
