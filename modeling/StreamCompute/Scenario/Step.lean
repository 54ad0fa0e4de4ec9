/-
  StreamCompute.Scenario.Step

  The steps of a scenario. Some are common to all scenarios: they control the
  simulated driver, make driver calls past the runtime, write through host
  mappings, set hooks, or cut a hook off. The others, of type `ι`, are the
  instructions of one kind of scenario.
-/
import StreamCompute.Scenario.Outcome

namespace StreamCompute.Scenario

/-- Controls of the simulated driver. The ones about an entry point have none where they were
    given a name that no entry point has; such a one is never called. -/
inductive Control
  | failOn (op : Option Operation) (occurrence : Nat)
  | failAlways (op : Option Operation)
  | clearFailures
  | failToken (op : Option Operation) (message : String)
  | clearCalls
  | callCount (op : Option Operation)
  | operations
  | available
  | isMapped (resource : Ident .resource)
  | resourceBytes (resource : Ident .resource) (offset : Nat) (count : Option Nat)
  | describe
deriving DecidableEq, Repr

/-- Driver calls, and writes of the host through their mappings. -/
inductive DriverStep
  | call (r : Request)
  | poke (resource : Ident .resource) (offset : Nat) (data : Bytes)
deriving DecidableEq, Repr

inductive Step (ι : Type)
  | own (i : ι)
  | control (c : Control)
  | driver (d : DriverStep)
  /-- Before the next call of the entry point, if it is one, take these steps. -/
  | hook (op : Option Operation) (steps : List (Step ι))
  /-- Ends the hook that it stands in, and cuts off whatever the hook interrupted. -/
  | cutOff (reason : String)

mutual

/-- How many hooks a step sets, those set by its hooks included. -/
def Step.hooks {ι : Type} : Step ι → Nat
  | .hook _ steps => 1 + hooksOf steps
  | _ => 0

def hooksOf {ι : Type} : List (Step ι) → Nat
  | [] => 0
  | s :: rest => s.hooks + hooksOf rest

end

/-- What a scenario keeps for itself. -/
structure Stage where
  /-- Reports of the hooks that were run in the current step, as they finished. -/
  reports : List HookReport := []
  /-- How many calls the log had when the current step began. -/
  mark : Nat := 0
  seen : Assoc (Ident .resource) Nat := []
  /-- Resources that were mapped by a step and not unmapped or freed by one since. -/
  mapped : List (Ident .resource) := []

namespace Stage

/-- Whether an address differs from the one seen before; none if none was seen. -/
def moved? (s : Stage) (r : Ident .resource) (address : Nat) : Option Bool :=
  (s.seen.get? r).map (· != address)

def see (s : Stage) (r : Ident .resource) (address : Nat) : Stage :=
  { s with seen := s.seen.set r address }

/-- The stage after a driver call succeeded. -/
def noteMapping (s : Stage) : Request → Stage
  | .mapResource r => { s with mapped := if s.mapped.contains r then s.mapped else s.mapped ++ [r] }
  | .unmapResource r => { s with mapped := s.mapped.filter (· ≠ r) }
  | .freeResource r => { s with mapped := s.mapped.filter (· ≠ r) }
  | _ => s

end Stage

end StreamCompute.Scenario
