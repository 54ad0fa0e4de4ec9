/-
  StreamCompute.Scenario.Measuring

  Scenarios over the measuring of operations. Spans end as soon as they are
  started.
-/
import StreamCompute.Tracing.Performance

namespace StreamCompute.Scenario

open Performance

inductive MeasureStep
  | configure (enabled : Bool) (threshold : Option Nat)
  | span (name : String) (threshold : Option Nat)
  | spanAroundWait (name : String) (threshold : Option Nat)
  | spanOfExecution (name : String) (execution : Nat)
  | transfer (bytes : Nat) (direction : String) (micros : Nat)
  | wait (operation : String) (polls micros : Nat)
  | event (name register : String) (bytes : Nat)
deriving DecidableEq, Repr

def ended (span : Span) : List Event :=
  (span.finish 0).toList

/-- An event emitted inside a span, which is no span at all if it is inert. -/
def emittedIn (span : Span) (e : Event) : Event :=
  match span.fields with
  | some fields => e.inside fields
  | none => e

def measure (s : Settings) : MeasureStep → Settings × List Event
  | .configure enabled threshold => (.configured enabled threshold, [])
  | .span name threshold => (s, ended (start s (named name) threshold))
  | .spanAroundWait name threshold =>
    let span := start s (named name) threshold
    (s, emittedIn span (waited "calMemCopy" 1 2) :: ended span)
  | .spanOfExecution name execution =>
    (s, ended (start s (named name ++ [("execution", .nat execution)]) none))
  | .transfer bytes direction micros => (s, [transfer bytes direction micros])
  | .wait operation polls micros => (s, [waited operation polls micros])
  | .event name register bytes => (s, [marked name register bytes])

def measureAll (s : Settings) : List MeasureStep → List (Bool × List Event)
  | [] => []
  | step :: rest =>
    let (next, events) := measure s step
    (next.enabled, events) :: measureAll next rest

end StreamCompute.Scenario
