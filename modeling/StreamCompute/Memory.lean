/-
  StreamCompute.Memory

  Allocating, mapping and freeing resources.

  A remote resource is claimed while it is being mapped, unmapped or freed, so
  that nothing else can claim it meanwhile. A call that fails gives the claim
  back and leaves the record as it was.
-/
import StreamCompute.Discovery

namespace StreamCompute.Memory

variable {κ ω : Type} [Reentry κ ω]

/-! ## Claims and mappings -/

def claim (r : Remote) : Task κ ω Unit := do
  match r.claimRefusal? ((← get).status r) with
  | some e => throw e
  | none => modify (Machine.onStatus r fun s => { s with inFlight := true })

def unclaimed (r : Remote) (m : Machine κ ω) : Machine κ ω :=
  m.onStatus r fun s => { s with inFlight := false }

/-- Ends the mapping of a remote resource if it has one; true when it had. -/
def withdraw (r : Remote) : Drive κ ω Bool := do
  if ((← get).status r).mapped then
    Machine.drive (Simulator.unmapResource r.id)
    modify (Machine.onStatus r fun s => { s with link := none })
    return true
  else return false

/-- Maps a remote resource unless it is mapped already. -/
def restore (r : Remote) : Drive κ ω Unit := do
  if ((← get).status r).mapped then return ()
  else
    let view ← Machine.drive (Simulator.mapResource r.id)
    let old := ((← get).status r).pitch
    if old ≠ view.pitch then
      log (.debug "pitch changed on remap"
        [("resource", .text r.id.text), ("old", .nat old), ("new", .nat view.pitch)])
    let home := (← get).platform.serial
    modify (Machine.onStatus r fun s =>
      { s with pitch := view.pitch, link := some ⟨home, view.moves⟩ })

def claimed {α : Type} (r : Remote) (act : Drive κ ω α) : Task κ ω α := do
  claim r
  let answer ← Fallible.perform act.attempt
  modify (unclaimed r)
  (Fallible.answer answer).mapError .allocation

/-- Maps a remote resource unless it is mapped already. -/
def map (r : Remote) : Task κ ω Unit :=
  claimed r (restore r)

def unmap (r : Remote) : Task κ ω Unit := do
  let _ ← claimed r (withdraw r)

/-! ## Allocating -/

/-- Asks the driver for a resource of this shape. -/
def request (place : Placement) (device : Ident .device) (shape : Shape) (format : Format)
    (flags : AllocFlags) : Command (Ident .resource) :=
  Simulator.allocate place device (.ofShape shape) format flags

/-- Refuses a device that is not current and a shape that it cannot hold. -/
def accept (device : Device) (shape : Shape) : Task κ ω Unit := do
  Devices.check device
  Fallible.answer (shape.validate device.info)

def allocateLocal (device : Device) (shape : Shape) (format : Format) (flags : AllocFlags) :
    Task κ ω Local := do
  accept device shape
  let id ← Machine.driveAs .allocation (request .onDevice device.id shape format flags)
  log (.debug "allocated local resource"
    [("resource", .text id.text), ("device", .text device.id.text), ("shape", .text shape.text),
      ("format", .text format.text)])
  return { id, device := device.id, shape, format, flags }

/-- Maps a new resource, or frees it if it cannot be mapped. -/
def firstMapping (id : Ident .resource) : Task κ ω HostView := do
  match ← Fallible.perform (Machine.tryDrive (Simulator.mapResource id)) with
  | .ok view => return view
  | .error e =>
    match ← Fallible.perform (Machine.tryDrive (Simulator.freeResource id)) with
    | .ok () => pure ()
    | .error f =>
      log (.warn "failed to release unmappable resource"
        [("resource", .text id.text), ("error", .text f.text)])
    throw (.allocation e)

def allocateRemote (device : Device) (shape : Shape) (format : Format) (flags : AllocFlags) :
    Task κ ω Remote := do
  accept device shape
  let id ← Machine.driveAs .allocation (request .onHost device.id shape format flags)
  let view ← firstMapping id
  log (.debug "allocated remote resource"
    [("resource", .text id.text), ("device", .text device.id.text), ("shape", .text shape.text),
      ("format", .text format.text), ("pitch", .nat view.pitch)])
  let home := (← get).platform.serial
  let remote : Remote := { home, id, device := device.id, shape, format, flags }
  modify (Machine.onStatus remote fun _ =>
    { link := some ⟨home, view.moves⟩, pitch := view.pitch })
  return remote

/-! ## Freeing -/

def freeLocal (l : Local) : Task κ ω Unit := do
  Machine.driveAs .allocation (Simulator.freeResource l.id)
  log (.debug "freed local resource" [("resource", .text l.id.text)])

/-- The event that a resource in device memory was lost without being freed. -/
def lostLocal (l : Local) : Event :=
  .warn "local resource dropped without free"
    [("resource", .text l.id.text), ("shape", .text l.shape.text)]

def freeRemote (r : Remote) : Task κ ω Unit := do
  claim r
  let freeing : Drive κ ω Unit := do
    let _ ← withdraw r
    Machine.drive (Simulator.freeResource r.id)
  match ← Fallible.perform freeing.attempt with
  | .error e =>
    modify (unclaimed r)
    throw (.allocation e)
  | .ok () =>
    modify (Machine.onStatus r RemoteStatus.released)
    log (.debug "freed remote resource" [("resource", .text r.id.text)])

/-! ## Host access -/

def bytesAt (m : Machine κ ω) (r : Remote) (link : HostLink) : Contents :=
  ((m.platform? link.home).bind fun p => p.driver.bytes? r.id).getD .empty

/-- The bytes of a remote resource, as far as its record says they reach. -/
def read (r : Remote) : Task κ ω Contents := do
  let m ← get
  let link ← Fallible.answer (r.access (m.status r))
  return (bytesAt m r link).take (r.size (m.status r))

def changed (id : Ident .resource) (f : Contents → Contents) (s : Simulator) : Simulator :=
  match s.resources.get? id with
  | some res => { s with resources := s.resources.set id { res with bytes := f res.bytes } }
  | none => s

def onDriverOf (serial : Nat) (f : Simulator → Simulator) (m : Machine κ ω) : Machine κ ω :=
  if m.platform.serial = serial then m.onDriver f
  else
    match m.parked.get? serial with
    | some p => { m with parked := m.parked.set serial { p with driver := f p.driver } }
    | none => m

/-- Writes bytes into a remote resource from an offset on, as far as there is
    room; how many were written. -/
def write (r : Remote) (offset : Nat) (data : Bytes) : Task κ ω Nat := do
  let m ← get
  let link ← Fallible.answer (r.access (m.status r))
  let bytes := bytesAt m r link
  modify (onDriverOf link.home (changed r.id fun old => old.writeAt offset data))
  return bytes.room offset data

end StreamCompute.Memory
