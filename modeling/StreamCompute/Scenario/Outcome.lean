/-
  StreamCompute.Scenario.Outcome

  What the steps of a scenario answer.
-/
import StreamCompute.Desk.Shutdown
import StreamCompute.Simulator.Request

namespace StreamCompute.Scenario

/-- A window of a byte sequence, and the length of the whole. -/
structure ByteView where
  size : Nat
  window : Bytes
deriving DecidableEq, Repr

namespace ByteView

def of (bytes : Contents) (offset : Nat) (count : Option Nat) : ByteView :=
  ⟨bytes.size, bytes.window offset count⟩

end ByteView

/-- The answer of a step that succeeded. -/
inductive Value
  | nothing
  | flag (b : Bool)
  | number (n : Nat)
  | text (s : String)
  | texts (ss : List String)
  | bytes (v : ByteView)
  | info (i : DeviceInfo)
  | ident (k : Kind) (i : Ident k)
  /-- A new mapping, and whether the address differs from the one seen before. -/
  | view (pitch : Nat) (moved : Option Bool)
  | status (s : Status)
  | device (d : Device)
  | image (i : Image)
  | localResource (l : Local)
  | remote (r : Remote) (s : RemoteStatus)
  /-- An address, and whether it differs from the one seen before. -/
  | address (moved : Option Bool)
  | bound (t : BindingTable)
  | table (t : BindingTable)
  | binding (b : Option Binding)
  | config (c : Config)
  | launched (e : Execution)
  | joined (s : Summary)
  | stats (s : Summary)
  | pending
  | remoteInfo (i : Desk.RemoteInfo)
  | counts (c : DeskCounts)
  | constants (formats : List Nat) (globalBuffer : Nat)
deriving DecidableEq, Repr

/-- Why a step did not succeed. -/
inductive Fault
  | driver (e : DriverError)
  | runtime (e : Error)
  | desk (e : DeskError)
  | cutOff (reason : String)
  | unusable (detail : String)
  /-- There is no object of this kind and name. -/
  | missing (kind name : String)
deriving DecidableEq, Repr

abbrev Outcome := Except Fault Value

/-- The answers of the steps of a hook that was run for an entry point. -/
structure HookReport where
  operation : Operation
  outcomes : List Outcome

/-- Live objects of a driver. -/
structure LiveCounts where
  resources : Nat
  contexts : Nat
  modules : Nat
  memories : Nat
  images : Nat
deriving DecidableEq, Repr

def LiveCounts.of (s : Simulator) : LiveCounts :=
  ⟨s.resources.length, s.contexts.length, s.modules.length, s.memories.length, s.images.length⟩

/-- All that is known of a step after it was taken. Calls and counts are those
    of the driver that the scenario looks at, if there is one. -/
structure StepReport where
  outcome : Outcome
  driver : Option (List Call × LiveCounts)
  hooks : List HookReport
  events : List Event

end StreamCompute.Scenario
