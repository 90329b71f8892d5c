import Gatehouse.Fault
import Gatehouse.Accounting.Report
/-!
Sinks: where accounting reports go. Every sink gets every report, whatever the other sinks answered.
-/

namespace Gatehouse

/-- A sink for reports. -/
structure Sink where
  /-- What the sink answers once it was given some reports, the last of them just now. -/
  verdict : List Report → Except Fault Unit := fun _ => .ok ()
  /-- What the sink was given so far. -/
  received : List Report := []

namespace Sink

/-- A sink that keeps what it is given. -/
def keeping : Sink := {}

/-- A sink that always fails. -/
def failing (e : Fault) : Sink := { verdict := fun _ => .error e }

/-- Gives a report to a sink. -/
def receive (s : Sink) (r : Report) : Except Fault Unit × Sink :=
  let received := s.received ++ [r]
  (s.verdict received, { s with received })

end Sink

/-- The sinks to which reports are made. -/
structure Accounting where
  sinks : List Sink := []
deriving Inhabited

namespace Accounting

/-- One more sink. -/
def withSink (a : Accounting) (s : Sink) : Accounting := ⟨a.sinks ++ [s]⟩

/-- Makes a report to every sink; what the sinks answer is of no consequence. -/
def report (a : Accounting) (r : Report) : Accounting := ⟨a.sinks.map fun s => (s.receive r).2⟩

/-- Every sink has received the report, after what it had received before. -/
theorem received_report (a : Accounting) (r : Report) :
    (a.report r).sinks.map Sink.received = a.sinks.map fun s => s.received ++ [r] := by
  simp [report, Sink.receive, Function.comp_def]

end Accounting

end Gatehouse
