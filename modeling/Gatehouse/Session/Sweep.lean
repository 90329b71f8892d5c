import Gatehouse.Session.Store
import Gatehouse.Settings.Schema
/-!
The sweep: evicting passes over the session store, the first one at once and then one in every interval,
until the sweep is stopped. A pass that fails does not end it.
-/

namespace Gatehouse

/-- What a sweep goes by. -/
structure Sweep where
  /-- How long a session may go without use before it is idle. -/
  softLimit : Span
  /-- Seconds between two passes. -/
  interval : Nat
  interval_pos : 0 < interval

namespace Sweep

def ofSettings (s : SessionSettings) : Sweep where
  softLimit := .ofSeconds (s.softLimitMinutes * 60)
  interval := max s.cleanupIntervalSeconds 1
  interval_pos := by omega

/-- A pass over the store at a time; answers how many sessions were evicted. -/
def pass (w : Sweep) (store : SessionStore) (now : Instant) : Nat × SessionStore :=
  store.perform now (.evict now w.softLimit)

/-- How many passes were due when some milliseconds have gone by. -/
def passesDue (w : Sweep) (milliseconds : Nat) : Nat := milliseconds / (w.interval * 1000) + 1

end Sweep

/-- A sweep that goes on. -/
structure SweepLoop where
  sweep : Sweep
  /-- Milliseconds since the start. -/
  elapsed : Nat := 0
  /-- How many passes were made. -/
  made : Nat := 0
  ended : Bool := false

namespace SweepLoop

/-- The stop signal is given, or taken back; a sweep that has stopped does not hear it. -/
def signal (l : SweepLoop) (stop : Bool) : Bool × SweepLoop :=
  if l.ended then (false, l) else (true, { l with ended := stop })

/-- How many passes are due. -/
def due (l : SweepLoop) : Nat := if l.ended then 0 else l.sweep.passesDue l.elapsed - l.made

/-- Makes the passes that are due once some more milliseconds have gone by. -/
def elapse (pass : σ → σ) (l : SweepLoop) (milliseconds : Nat) (s : σ) : SweepLoop × σ :=
  let l := { l with elapsed := l.elapsed + milliseconds }
  ({ l with made := l.made + l.due }, Nat.repeat pass l.due s)

end SweepLoop

end Gatehouse
