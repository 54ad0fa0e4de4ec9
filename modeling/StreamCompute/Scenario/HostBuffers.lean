/-
  StreamCompute.Scenario.HostBuffers

  Scenarios over host memory: one page-aligned buffer, or one mapping of huge
  pages, at a time.
-/
import StreamCompute.HostMemory.Buffer
import StreamCompute.HostMemory.HugePages

namespace StreamCompute.Scenario

open HostMemory

/-- Why a step over host memory did not succeed. -/
inductive HostFault
  | host (e : HostError)
  | unusable (detail : String)
deriving DecidableEq, Repr

/-! ## Buffers -/

inductive BufferStep
  | zeroed (len : Nat)
  | resize (len : Nat)
  | write (offset : Nat) (data : Bytes)
  | poke (offset : Nat) (value : Nat)
  | read (offset : Nat) (count : Option Nat)
  | describe
deriving DecidableEq, Repr

/-- Answers of steps over a buffer. -/
inductive BufferValue
  | made (size sum : Nat)
  | written (count : Nat)
  | poked (inside : Bool)
  | bytes (size : Nat) (window : Bytes)
  | text (s : String)
deriving DecidableEq, Repr

abbrev BufferOutcome := Except HostFault BufferValue

/-- The buffer that a request gave, if it gave one, and the answer. -/
def requested (r : Except HostError Buffer) : Option Buffer × BufferOutcome :=
  match r with
  | .ok b => (some b, .ok (.made b.size b.sum))
  | .error e => (none, .error (.host e))

def needingBuffer (b : Option Buffer) (step : Buffer → Option Buffer × BufferOutcome) :
    Option Buffer × BufferOutcome :=
  match b with
  | some b => step b
  | none => (none, .error (.unusable "no buffer"))

def bufferStep (sys : System) (b : Option Buffer) : BufferStep → Option Buffer × BufferOutcome
  | .zeroed len => requested (Buffer.zeroed sys len)
  | .resize len => needingBuffer b fun b => requested (b.resized sys len)
  | .write offset data => needingBuffer b fun b =>
    (some (b.write offset data), .ok (.written (b.bytes.room offset data)))
  | .poke offset value => needingBuffer b fun b =>
    (some (b.write offset [(value % 256).toUInt8]), .ok (.poked (offset < b.size)))
  | .read offset count => needingBuffer b fun b =>
    (some b, .ok (.bytes b.size (b.bytes.window offset count)))
  | .describe => needingBuffer b fun b => (some b, .ok (.text b.describe))

def bufferSteps (sys : System) (b : Option Buffer) : List BufferStep → List BufferOutcome
  | [] => []
  | step :: rest =>
    let (next, outcome) := bufferStep sys b step
    outcome :: bufferSteps sys next rest

/-! ## Huge pages -/

inductive HugeStep
  | allocate (len : Nat)
  | resize (len : Nat)
  | write (offset : Nat) (data : Bytes)
  | read (offset count : Nat)
  | drop
  /-- Whether huge pages can be asked for. -/
  | available
  /-- How many files are left behind in the mounted directory. -/
  | files
deriving DecidableEq, Repr

inductive HugeValue
  /-- A mapping: whether it has the length asked for, and its whole pages and the rest. -/
  | made (asAsked : Bool) (isEmpty : Bool) (pages rest : Nat)
  | written (count : Nat)
  | bytes (data : Bytes)
  | nothing
  | flag (b : Bool)
  | number (n : Nat)
deriving DecidableEq, Repr

abbrev HugeOutcome := Except HostFault HugeValue

/-- The mapping that a request for a length gives, if it gives one, and the answer. -/
def mapped (sys : System) (len : Nat) (request : Hosted HugePages) :
    Act Host (Option HugePages × HugeOutcome) := do
  let page ← ExceptT.mk (pure (hugePageSize sys.report))
  match ← request.attempt with
  | .ok h =>
    return (some h, .ok (.made (h.size == len) (h.size == 0) (h.mapped / page) (h.mapped % page)))
  | .error e => return (none, .error (.host e))

def needingMapping (h : Option HugePages)
    (step : HugePages → Act Host (Option HugePages × HugeOutcome)) :
    Act Host (Option HugePages × HugeOutcome) :=
  match h with
  | some h => step h
  | none => return (none, .error (.unusable "no mapping"))

/-- Takes a step. The answer comes with the mapping after it. -/
def hugeStep (sys : System) (h : Option HugePages) :
    HugeStep → Act Host (Option HugePages × HugeOutcome)
  | .allocate len => do
    modify fun s => h.elim s fun h => h.released sys s
    mapped sys len (HugePages.allocate sys len)
  | .resize len => needingMapping h fun h => mapped sys len (h.resized sys len)
  | .write offset data => needingMapping h fun h =>
    return (some (h.write offset data), .ok (.written (h.within offset data.length)))
  | .read offset count => needingMapping h fun h =>
    return (some h, .ok (.bytes (h.read offset count)))
  | .drop => needingMapping h fun h => do
    modify (h.released sys)
    return (none, .ok .nothing)
  | .available => do return (h, .ok (.flag (← hasHugePages sys)))
  | .files => do return (h, .ok (.number (← get).files.length))

def hugeSteps (sys : System) (h : Option HugePages) : List HugeStep → Act Host (List HugeOutcome)
  | [] => return []
  | step :: rest => do
    let (next, outcome) ← hugeStep sys h step
    return outcome :: (← hugeSteps sys next rest)

end StreamCompute.Scenario
