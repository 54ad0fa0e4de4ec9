/-
  StreamCompute.Scenario.Script

  Waiting for something that answers polls from a script. The last answer of
  the script is repeated.
-/
import StreamCompute.Wait

namespace StreamCompute.Scenario

inductive ScriptedPoll
  | answer (done : Bool)
  | failure (message : String)
deriving DecidableEq, Repr

/-- A script under way, and what was logged. -/
structure Scripted where
  script : List ScriptedPoll
  polls : Nat := 0
  journal : List Event := []
deriving DecidableEq, Repr

instance : Journaled Scripted where
  record e s := { s with journal := s.journal ++ [e] }

namespace Scripted

/-- The script without its first answer, unless that is the last one. -/
def advanced : List ScriptedPoll → List ScriptedPoll
  | _ :: b :: rest => b :: rest
  | script => script

/-- Answers a poll. A script without answers never says that it is done. -/
def poll (operation : String) : Fallible DriverError Scripted Bool := do
  let s ← get
  set { s with script := advanced s.script, polls := s.polls + 1 }
  match s.script.head? with
  | some (.answer done) => return done
  | some (.failure message) => throw ⟨operation, message⟩
  | none => return false

/-- Waits for the script. The clock shows this when so many polls were answered. -/
def wait (w : Waiter) (clock : Nat → Nat) (operation : String) (script : List ScriptedPoll)
    (limit : Option Nat) : Except DriverError WaitOutcome × List Event :=
  match (w.wait (clock ·.polls) operation (poll operation) limit
      (script.length + 1)).run.run { script } with
  | (.ok answer, s) => (answer, s.journal)
  | (.error _, s) => (.ok (.timedOut 0), s.journal)

end Scripted

end StreamCompute.Scenario
