/-
  StreamCompute.Simulator.Calls

  The driver calls. Each one is logged and counted first, then checks its
  arguments, and changes the simulator only when every check has passed. The
  one exception is a copy, whose memory objects are looked up before the call
  is logged, because the log names the resources behind them.
-/
import StreamCompute.HostMemory.Buffer
import StreamCompute.Simulator.State
import StreamCompute.Text.Blank

namespace StreamCompute

/-- A resource as the host sees it while it is mapped. -/
structure HostView where
  pitch : Nat
  /-- How often the bytes were moved; it stands for their address. -/
  moves : Nat
deriving DecidableEq, Repr

/-- What a completion token answers. -/
inductive Status
  | pending
  | done
  | failed (message : String)
deriving DecidableEq, Repr

namespace Simulator

/-! ## The driver and its devices -/

def start : Command Unit where
  operation := .start
  run := do
    enter .start
    modify fun s => { s with started := true }

def stop : Command Unit where
  operation := .stop
  run := do
    enter .stop
    requireStarted .stop
    modify fun s => { s with started := false }

def countDevices : Command Nat where
  operation := .countDevices
  run := do
    enter .countDevices
    requireStarted .countDevices
    return (← get).spec.deviceCount

def describeDevice (ordinal : Nat) : Command DeviceInfo where
  operation := .describeDevice
  run := do
    enter (.describeDevice ordinal)
    requireStarted .describeDevice
    require (ordinal < (← get).spec.deviceCount) .describeDevice (.noDevice ordinal)
    return (← get).spec.info

def openDevice (ordinal : Nat) : Command (Ident .device) where
  operation := .openDevice
  run := do
    enter (.openDevice ordinal)
    requireStarted .openDevice
    require (ordinal < (← get).spec.deviceCount) .openDevice (.noDevice ordinal)
    let device ← fresh
    modify fun s => { s with devices := s.devices.set device ordinal }
    return device

def closeDevice (device : Ident .device) : Command Unit where
  operation := .closeDevice
  run := do
    enter (.closeDevice device)
    require ((← get).devices.has device) .closeDevice (.invalidDevice device)
    modify fun s => { s with devices := s.devices.erase device }

/-! ## Images -/

/-- Compiles a source into an image. The source must not be blank, and any
    failure injected for linking strikes here. -/
def compile (source : String) : Command (Ident .image) where
  operation := .compile
  run := do
    enter .compile
    require (!Text.isAllBlank source) .compile .emptySource
    match (← get).injections.find? (·.operation == .link) with
    | some i => refuse .link (.injected i.message)
    | none =>
      let image ← fresh
      modify fun s => { s with images := s.images.set image source }
      return image

def freeImage (image : Ident .image) : Command Unit where
  operation := .freeImage
  run := do
    enter (.freeImage image)
    require ((← get).images.has image) .freeImage (.invalidImage image)
    modify fun s => { s with images := s.images.erase image }

/-! ## Contexts and modules -/

/-- Creates a context on an open device; none of its registers is bound. -/
def createContext (device : Ident .device) : Command (Ident .context) where
  operation := .createContext
  run := do
    enter (.createContext device)
    requireStarted .createContext
    require ((← get).devices.has device) .createContext (.invalidDevice device)
    let context ← fresh
    modify fun s => { s with
      contexts := s.contexts.set context device
      bindings := s.bindings.set context [] }
    return context

/-- Destroys a context together with its bindings and its tokens. -/
def destroyContext (context : Ident .context) : Command Unit where
  operation := .destroyContext
  run := do
    enter (.destroyContext context)
    requireContext .destroyContext context
    modify fun s => { s with
      contexts := s.contexts.erase context
      bindings := s.bindings.erase context
      tokens := s.tokens.keepValues (·.context ≠ context) }

def loadModule (context : Ident .context) (image : Ident .image) : Command (Ident .module) where
  operation := .loadModule
  run := do
    enter (.loadModule context image)
    requireContext .loadModule context
    require ((← get).images.has image) .loadModule (.invalidImage image)
    let module ← fresh
    modify fun s => { s with modules := s.modules.set module (context, image) }
    return module

def unloadModule (context : Ident .context) (module : Ident .module) : Command Unit where
  operation := .unloadModule
  run := do
    enter (.unloadModule context module)
    require ((← get).moduleOf? context module).isSome .unloadModule (.invalidModule module)
    modify fun s => { s with
      modules := s.modules.erase module
      entries := s.entries.keepValues (· ≠ module) }

/-- True when the source of a live image mentions the register. -/
def declares (s : Simulator) (image : Ident .image) (register : String) : Bool :=
  (s.images.get? image).any fun source => Text.occursIn register.toList source.toList

/-- Looks up a register of a module: one that the source of its image mentions. -/
def findRegister (context : Ident .context) (module : Ident .module) (register : String) :
    Command (Ident .register) where
  operation := .findRegister
  run := do
    enter (.findRegister context register)
    let image ← obtain ((← get).moduleOf? context module) .findRegister (.invalidModule module)
    require ((← get).declares image register) .findRegister (.undeclared register)
    let found ← fresh
    modify fun s => { s with registers := s.registers.set found register }
    return found

/-- Looks up an entry point of a module; every symbol is one. -/
def findEntry (context : Ident .context) (module : Ident .module) (symbol : String) :
    Command (Ident .entry) where
  operation := .findEntry
  run := do
    enter (.findEntry context symbol)
    require ((← get).moduleOf? context module).isSome .findEntry (.invalidModule module)
    let found ← fresh
    modify fun s => { s with entries := s.entries.set found module }
    return found

/-! ## Memory objects -/

/-- Makes an unmapped resource visible to a context. -/
def getMemory (context : Ident .context) (resource : Ident .resource) :
    Command (Ident .memory) where
  operation := .getMemory
  run := do
    enter (.getMemory context resource)
    requireContext .getMemory context
    let r ← obtain ((← get).resources.get? resource) .getMemory (.invalidResource resource)
    require (!r.mapped) .getMemory (.mappedToHost resource)
    let memory ← fresh
    modify fun s => { s with memories := s.memories.set memory (context, resource) }
    return memory

/-- The bindings of a context without those to a memory object. -/
def unbound (s : Simulator) (context : Ident .context) (memory : Ident .memory) :
    Assoc (Ident .context) (Assoc String (Ident .memory)) :=
  match s.bindings.get? context with
  | some bound => s.bindings.set context (bound.keepValues (· ≠ memory))
  | none => s.bindings

/-- Releases a memory object; registers bound to it are bound no longer. -/
def releaseMemory (context : Ident .context) (memory : Ident .memory) : Command Unit where
  operation := .releaseMemory
  run := do
    enter (.releaseMemory context memory)
    require ((← get).memoryOf? context memory).isSome .releaseMemory (.invalidMemory memory)
    modify fun s => { s with
      memories := s.memories.erase memory
      bindings := s.unbound context memory }

def bindMemory (context : Ident .context) (register : Ident .register) (memory : Ident .memory) :
    Command Unit where
  operation := .bindMemory
  run := do
    let name := (← get).registers.get? register
    enter (.bindMemory context (name.getD register.text) memory)
    requireContext .bindMemory context
    require ((← get).memoryOf? context memory).isSome .bindMemory (.invalidMemory memory)
    let name ← obtain name .bindMemory (.invalidRegister register)
    modify fun s => { s with
      bindings := s.bindings.set context (((s.bindings.get? context).getD []).set name memory) }

/-! ## Resources -/

/-- The least multiple of the alignment that holds a row, cut off beyond 32 bits. -/
def alignedPitch (alignment width : Nat) : Sim Nat :=
  mul32 ((width + alignment - 1) / alignment) alignment

/-- Bytes that no resource on a device can have. -/
def deviceLimit : Nat := 1 <<< 63

/-- The zeros that a new resource holds. Host memory can run out; a request that device
    memory could never serve is cut off. -/
def storage (op : Operation) (place : Placement) (len : Nat) : Sim Contents :=
  match place with
  | .onDevice =>
    if len < deviceLimit then pure (Contents.zeros len)
    else throwThe Abort ⟨"capacity overflow"⟩
  | .onHost => do
    let system := (← get).spec.system
    match HostMemory.Buffer.zeroed system len with
    | .error e => refuse op (.hostMemory e.message)
    | .ok b =>
      log (HostMemory.Buffer.allocated system len)
      return b.bytes

def allocate (place : Placement) (device : Ident .device) (layout : Layout) (format : Format)
    (flags : AllocFlags) : Command (Ident .resource) where
  operation := .allocate place layout
  run := do
    let op := Operation.allocate place layout
    enter (.allocate place layout format flags)
    requireStarted op
    require ((← get).devices.has device) op (.invalidDevice device)
    require (layout.width ≠ 0 && layout.height ≠ 0) op .emptyResource
    require ((← get).live < (← get).spec.capacity) op .outOfMemory
    let pitch ← match place with
      | .onDevice => pure layout.width
      | .onHost => alignedPitch (← get).spec.alignment layout.width
    let elements ← mul64 pitch layout.height
    let bytes ← storage op place (← mul64 elements format.elementSize)
    let resource ← fresh
    modify fun s => { s with
      resources := s.resources.set resource { place, layout, format, pitch, bytes } }
    return resource

def freeResource (resource : Ident .resource) : Command Unit where
  operation := .freeResource
  run := do
    enter (.freeResource resource)
    require ((← get).resources.has resource) .freeResource (.invalidResource resource)
    modify fun s => { s with resources := s.resources.erase resource }

/-- Maps a remote resource to the host. Where the driver relocates, every
    mapping but the first moves the bytes to a new buffer. -/
def mapResource (resource : Ident .resource) : Command HostView where
  operation := .mapResource
  run := do
    enter (.mapResource resource)
    let r ← obtain ((← get).resources.get? resource) .mapResource (.invalidResource resource)
    require (!r.mapped) .mapResource (.alreadyMapped resource)
    require (r.place == .onHost) .mapResource (.notMappable resource)
    let moving := (← get).spec.relocates && r.everMapped
    if moving then
      let _ ← storage .mapResource .onHost r.bytes.size
    let moves := if moving then r.moves + 1 else r.moves
    modify fun s => { s with
      resources := s.resources.set resource { r with mapped := true, everMapped := true, moves } }
    return ⟨r.pitch, moves⟩

def unmapResource (resource : Ident .resource) : Command Unit where
  operation := .unmapResource
  run := do
    enter (.unmapResource resource)
    let r ← obtain ((← get).resources.get? resource) .unmapResource (.invalidResource resource)
    require r.mapped .unmapResource (.notMapped resource)
    modify fun s => { s with resources := s.resources.set resource { r with mapped := false } }

/-! ## Work -/

/-- Takes out the first error that waits for a token of this entry point. -/
def takeTokenError (op : Operation) :
    List (Operation × String) → Option String × List (Operation × String)
  | [] => (none, [])
  | (o, message) :: rest =>
    if o = op then (some message, rest)
    else
      let (found, rest) := takeTokenError op rest
      (found, (o, message) :: rest)

/-- Makes the completion token of an accepted copy or run. -/
def newToken (op : Operation) (context : Ident .context) : Sim (Ident .event) := do
  let event ← fresh
  modify fun s =>
    let (error, tokenErrors) := takeTokenError op s.tokenErrors
    { s with
      tokenErrors
      tokens := s.tokens.set event { context, pending := s.spec.pendingPolls, error } }
  return event

/-- Copies as much as fits from the resource of one memory object to that of another. -/
def copyMemory (context : Ident .context) (source target : Ident .memory) :
    Command (Ident .event) where
  operation := .copyMemory
  run := do
    let src ← obtain ((← get).memoryOf? context source) .copyMemory (.invalidMemory source)
    let dst ← obtain ((← get).memoryOf? context target) .copyMemory (.invalidMemory target)
    enter (.copyMemory context src dst)
    let read ← obtain ((← get).resources.get? src) .copyMemory (.invalidResource src)
    let written ← obtain ((← get).resources.get? dst) .copyMemory (.invalidResource dst)
    modify fun s => { s with
      resources := s.resources.set dst { written with bytes := written.bytes.cover read.bytes } }
    newToken .copyMemory context

/-- The registers of a context that are bound to a memory object, with the
    resource behind it. -/
def boundResources (s : Simulator) (context : Ident .context) :
    List (String × Ident .resource) :=
  ((s.bindings.get? context).getD []).filterMap fun (name, memory) =>
    (s.memories.get? memory).map fun (_, resource) => (name, resource)

/-- The contents of the bound registers whose resources are live. -/
def registerContents (s : Simulator) (context : Ident .context) : Registers :=
  (s.boundResources context).filterMap fun (name, resource) =>
    (s.bytes? resource).map fun bytes => (name, bytes.toList)

def storeRegisters (resources : Assoc (Ident .resource) Resource) (contents : Registers) :
    List (String × Ident .resource) → Assoc (Ident .resource) Resource
  | [] => resources
  | (name, resource) :: rest =>
    let next := match contents.get? name, resources.get? resource with
      | some bytes, some r => resources.set resource { r with bytes := r.bytes.overwrite bytes }
      | _, _ => resources
    storeRegisters next contents rest

/-- The resources after the kernel ran over the registers of a context. -/
def executed (s : Simulator) (context : Ident .context) (domain : Domain) :
    Assoc (Ident .resource) Resource :=
  match s.spec.kernel with
  | none => s.resources
  | some kernel =>
    storeRegisters s.resources (kernel.apply domain (s.registerContents context))
      (s.boundResources context)

/-- Runs the kernel over the bound registers of a context. -/
def runProgram (context : Ident .context) (entry : Ident .entry) (domain : Domain) :
    Command (Ident .event) where
  operation := .runProgram
  run := do
    enter (.runProgram context domain)
    requireContext .runProgram context
    require ((← get).entries.has entry) .runProgram (.invalidEntry entry)
    modify fun s => { s with resources := s.executed context domain }
    newToken .runProgram context

/-- Asks a token; each answer that it is pending brings it closer to its end. -/
def queryEvent (context : Ident .context) (event : Ident .event) : Command Status where
  operation := .queryEvent
  run := do
    enter (.queryEvent context event)
    let found := ((← get).tokens.get? event).filter (·.context == context)
    let token ← obtain found .queryEvent (.invalidEvent event)
    match token.pending with
    | n + 1 =>
      modify fun s => { s with tokens := s.tokens.set event { token with pending := n } }
      return .pending
    | 0 =>
      match token.error with
      | some message => return .failed message
      | none => return .done

end Simulator

end StreamCompute
