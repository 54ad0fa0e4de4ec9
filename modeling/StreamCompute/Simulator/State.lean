/-
  StreamCompute.Simulator.State

  The state of a simulated device driver: what it was built with, the tables
  of its live objects, the log and count of its calls, and the failures that
  were injected into it.

  One counter numbers the objects of every kind, so no two of them ever have
  the same number.
-/
import StreamCompute.Data.Contents
import StreamCompute.HostMemory.System
import StreamCompute.Journal
import StreamCompute.Operation
import StreamCompute.Simulator.Kernel

namespace StreamCompute

/-- What a simulated driver is built with. -/
structure Spec where
  info : DeviceInfo := {}
  deviceCount : Nat := 1
  /-- Resources that can be live at once. -/
  capacity : Nat := 64
  /-- How often a completion token answers that it is pending. -/
  pendingPolls : Nat := 0
  /-- What a clock shows, in nanoseconds, when tokens were asked so often. -/
  clock : Nat → Nat := id
  /-- The pitch of a remote resource is a multiple of this; zero counts as one. -/
  pitchAlignment : Nat := 64
  /-- Whether every mapping but the first moves the resource. -/
  relocates : Bool := false
  kernel : Option Kernel := none
  /-- What the system answers to a request for host memory. -/
  system : HostMemory.System := {}

/-- The number that pitches are multiples of. -/
def Spec.alignment (s : Spec) : Nat := max s.pitchAlignment 1

structure Resource where
  place : Placement
  layout : Layout
  format : Format
  pitch : Nat
  bytes : Contents
  /-- How often the bytes were moved; it stands for their address. -/
  moves : Nat := 0
  mapped : Bool := false
  everMapped : Bool := false
deriving DecidableEq, Repr

/-- The completion token of a copy or a run. -/
structure Token where
  context : Ident .context
  /-- How often the token will still answer that it is pending. -/
  pending : Nat
  /-- The error it ends with, if it does not end well. -/
  error : Option String
deriving DecidableEq, Repr

/-- A failure to be given to calls of an entry point. -/
structure Injection where
  operation : Operation
  /-- The number of the call that fails, from one; zero stands for every call. -/
  onCall : Nat
  message : String
deriving DecidableEq, Repr

structure Simulator where
  spec : Spec := {}
  nextNumber : Nat := 1
  started : Bool := false
  /-- The calls since the log was last cleared, the newest first. -/
  calls : List Call := []
  counts : Assoc Operation Nat := []
  injections : List Injection := []
  /-- Errors that the next tokens of an entry point will end with. -/
  tokenErrors : List (Operation × String) := []
  devices : Assoc (Ident .device) Nat := []
  images : Assoc (Ident .image) String := []
  contexts : Assoc (Ident .context) (Ident .device) := []
  modules : Assoc (Ident .module) (Ident .context × Ident .image) := []
  registers : Assoc (Ident .register) String := []
  entries : Assoc (Ident .entry) (Ident .module) := []
  memories : Assoc (Ident .memory) (Ident .context × Ident .resource) := []
  /-- The registers of each live context that have a memory object. -/
  bindings : Assoc (Ident .context) (Assoc String (Ident .memory)) := []
  resources : Assoc (Ident .resource) Resource := []
  tokens : Assoc (Ident .event) Token := []
  /-- Log events that nobody has collected yet. -/
  notices : List Event := []

/-- Log events wait in the simulator until they are collected. -/
instance : Journaled Simulator where
  record e s := { s with notices := s.notices ++ [e] }

/-- Why the simulator refuses a call. -/
inductive Refusal
  | injected (message : String)
  | notStarted
  | noDevice (ordinal : Nat)
  | invalidDevice (device : Ident .device)
  | emptySource
  | invalidImage (image : Ident .image)
  | invalidContext (context : Ident .context)
  | invalidModule (module : Ident .module)
  | undeclared (register : String)
  | invalidResource (resource : Ident .resource)
  | mappedToHost (resource : Ident .resource)
  | alreadyMapped (resource : Ident .resource)
  | notMappable (resource : Ident .resource)
  | notMapped (resource : Ident .resource)
  | invalidMemory (memory : Ident .memory)
  | invalidRegister (register : Ident .register)
  | invalidEntry (entry : Ident .entry)
  | invalidEvent (event : Ident .event)
  | emptyResource
  | outOfMemory
  | hostMemory (message : String)
deriving DecidableEq, Repr

namespace Refusal

def message : Refusal → String
  | injected m => m
  | notStarted => "runtime not initialized"
  | noDevice n => s!"no device {n}"
  | invalidDevice d => s!"invalid device {d.text}"
  | emptySource => "empty kernel source"
  | invalidImage i => s!"invalid image {i.text}"
  | invalidContext c => s!"invalid context {c.text}"
  | invalidModule m => s!"invalid module {m.text}"
  | undeclared r => s!"symbol '{r}' not found in module"
  | invalidResource r => s!"invalid resource {r.text}"
  | mappedToHost r => s!"resource {r.text} is mapped to the host"
  | alreadyMapped r => s!"resource {r.text} already mapped"
  | notMappable r => s!"resource {r.text} is not host-mappable"
  | notMapped r => s!"resource {r.text} is not mapped"
  | invalidMemory m => s!"invalid memory object {m.text}"
  | invalidRegister r => s!"invalid name {r.text}"
  | invalidEntry e => s!"invalid function {e.text}"
  | invalidEvent e => s!"invalid event {e.text}"
  | emptyResource => "zero-sized resource"
  | outOfMemory => "out of device memory"
  | hostMemory m => m

end Refusal

/-- What a call does to the simulator, and its answer. -/
abbrev Sim := Fallible DriverError Simulator

/-- A driver call ready to be made: its entry point, and what it does. -/
structure Command (α : Type) where
  operation : Operation
  run : Sim α

namespace Simulator

/-! ## Observing -/

/-- How often an entry point was called. -/
def callCount (s : Simulator) (op : Operation) : Nat :=
  (s.counts.get? op).getD 0

/-- What the clock shows. -/
def now (s : Simulator) : Nat := s.spec.clock (s.callCount .queryEvent)

def live (s : Simulator) : Nat := s.resources.length

def available (s : Simulator) : Nat := s.spec.capacity - s.live

def isMapped (s : Simulator) (r : Ident .resource) : Bool :=
  (s.resources.get? r).any (·.mapped)

def bytes? (s : Simulator) (r : Ident .resource) : Option Contents :=
  (s.resources.get? r).map (·.bytes)

/-- The first injected failure that hits the given call of an entry point. -/
def injected? (s : Simulator) (op : Operation) (count : Nat) : Option Injection :=
  s.injections.find? fun i => i.operation == op && (i.onCall == 0 || i.onCall == count)

def describe (s : Simulator) : String :=
  s!"FakeDriver \x7b device_count: {s.spec.deviceCount}, capacity: {s.spec.capacity}, " ++
    s!"pending_polls: {s.spec.pendingPolls}, live_resources: {s.live} \x7d"

/-! ## Controlling -/

/-- Makes one call of an entry point fail; calls are numbered from one. -/
def failOn (op : Operation) (occurrence : Nat) (s : Simulator) : Simulator :=
  { s with injections := s.injections ++
      [⟨op, max occurrence 1, s!"injected failure on call {occurrence}"⟩] }

def failAlways (op : Operation) (s : Simulator) : Simulator :=
  { s with injections := s.injections ++ [⟨op, 0, "injected failure"⟩] }

def clearFailures (s : Simulator) : Simulator :=
  { s with injections := [] }

/-- Makes the next token of an entry point end with an error. -/
def failToken (op : Operation) (message : String) (s : Simulator) : Simulator :=
  { s with tokenErrors := s.tokenErrors ++ [(op, message)] }

/-- Forgets the log of calls; the counts stay. -/
def clearCalls (s : Simulator) : Simulator :=
  { s with calls := [] }

/-! ## Parts of a call -/

/-- The failure of a call that is refused. -/
def refuse {α : Type} (op : Operation) (why : Refusal) : Sim α :=
  throw ⟨op.name, why.message⟩

def logged (call : Call) (s : Simulator) : Simulator :=
  { s with
    calls := call :: s.calls
    counts := s.counts.set call.operation (s.callCount call.operation + 1) }

/-- Logs and counts the call, then lets a failure injected for it strike. -/
def enter (call : Call) : Sim Unit := do
  modify (logged call)
  let s ← get
  match s.injected? call.operation (s.callCount call.operation) with
  | some i => refuse call.operation (.injected i.message)
  | none => pure ()

def require (condition : Bool) (op : Operation) (why : Refusal) : Sim Unit :=
  if condition then pure () else refuse op why

/-- The value, or a failure where there is none. -/
def obtain {α : Type} (value : Option α) (op : Operation) (why : Refusal) : Sim α :=
  match value with
  | some a => pure a
  | none => refuse op why

/-- The next number, as the identifier of a new object. -/
def fresh {k : Kind} : Sim (Ident k) := do
  let s ← get
  set { s with nextNumber := s.nextNumber + 1 }
  return ⟨s.nextNumber⟩

def requireStarted (op : Operation) : Sim Unit := do
  require (← get).started op .notStarted

def requireContext (op : Operation) (context : Ident .context) : Sim Unit := do
  require ((← get).contexts.has context) op (.invalidContext context)

/-- The resource behind a memory object of the context. -/
def memoryOf? (s : Simulator) (context : Ident .context) (memory : Ident .memory) :
    Option (Ident .resource) :=
  match s.memories.get? memory with
  | some (owner, resource) => if owner = context then some resource else none
  | none => none

def moduleOf? (s : Simulator) (context : Ident .context) (module : Ident .module) :
    Option (Ident .image) :=
  match s.modules.get? module with
  | some (owner, image) => if owner = context then some image else none
  | none => none

end Simulator

end StreamCompute
