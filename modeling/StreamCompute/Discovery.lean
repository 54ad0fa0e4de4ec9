/-
  StreamCompute.Discovery

  Finding the devices of a platform and letting go of them.

  Devices are looked for when one is first needed. Whatever comes of it, the
  devices or the failure, is kept until the next shutdown. A device is
  accepted only while the discovery that opened it is the current one.
-/
import StreamCompute.Machine

namespace StreamCompute.Devices

variable {κ ω : Type} [Reentry κ ω]

/-- Closes the devices in the given order, whatever the driver answers. -/
def closeAll (devices : List Device) : Act (Machine κ ω) Unit :=
  devices.forM fun d => do
    let _ ← Machine.tryDrive (Simulator.closeDevice d.id)

/-- Gives a discovery up: closes what was opened, the last first, and stops the driver. -/
def giveUp (opened : List Device) : Act (Machine κ ω) Unit := do
  closeAll opened.reverse
  let _ ← Machine.tryDrive Simulator.stop

/-- Asks for a device's limits and opens it. -/
def openOne (generation index : Nat) : Drive κ ω Device := do
  let info ← Machine.drive (Simulator.describeDevice index)
  let id ← Machine.drive (Simulator.openDevice index)
  return { index, id, info, generation }

def openedEvent (d : Device) : Event :=
  .debug "opened device"
    [("index", .nat d.index), ("device", .text d.id.text), ("target", .nat d.info.target),
      ("max_1d", .nat d.info.maxWidth1D), ("max_2d_width", .nat d.info.maxWidth2D),
      ("max_2d_height", .nat d.info.maxHeight2D)]

/-- Opens the devices with the given indices after those that are open already. -/
def openAll (generation : Nat) : List Nat → List Device → Task κ ω (List Device)
  | [], opened => pure opened
  | index :: rest, opened => do
    match ← Fallible.perform (openOne generation index).attempt with
    | .ok device =>
      log (openedEvent device)
      openAll generation rest (opened ++ [device])
    | .error e =>
      Fallible.perform (giveUp opened)
      throw (.initialization e)

/-- Starts the driver and opens every device. -/
def discover : Task κ ω (List Device) := do
  modify <| Machine.onPlatform fun p => { p with generation := p.generation + 1 }
  let generation := (← get).platform.generation
  Machine.driveAs .initialization Simulator.start
  match ← Fallible.perform (Machine.tryDrive Simulator.countDevices) with
  | .error e =>
    Fallible.perform (giveUp [])
    throw (.initialization e)
  | .ok count =>
    let devices ← openAll generation (List.range count) []
    log (.info "discovered compute devices" [("count", .nat count)])
    return devices

/-- Records what is known about the devices. -/
def setRegistry (r : Registry) (m : Machine κ ω) : Machine κ ω :=
  m.onPlatform fun p => { p with registry := r }

/-- The devices, which are looked for if nobody has looked yet. -/
def devices : Task κ ω (List Device) := do
  match (← get).platform.registry with
  | .ready found => return found
  | .failed e => throw e
  | .uninitialized =>
    match ← Fallible.perform discover.attempt with
    | .ok found =>
      modify (setRegistry (.ready found))
      return found
    | .error e =>
      log (.warn "device discovery failed" [("error", .text e.message)])
      modify (setRegistry (.failed e))
      throw e

def count : Task κ ω Nat := do
  return (← devices).length

def get (index : Nat) : Task κ ω Device := do
  let found ← devices
  match found[index]? with
  | some d => return d
  | none => throw (.invalidDevice index found.length)

def isCurrent (found : List Device) (d : Device) : Bool :=
  found[d.index]?.any fun c => c.generation == d.generation && c.id == d.id

/-- Accepts the devices of the current discovery. -/
def check (d : Device) : Task κ ω Unit := do
  let found ← devices
  if isCurrent found d then return ()
  else throw (.invalidDevice d.index found.length)

/-- Closes the devices in order; the first failure, if there is one. -/
def closeEach : List Device → Act (Machine κ ω) (Option DriverError)
  | [] => pure none
  | d :: rest => do
    match ← Machine.tryDrive (Simulator.closeDevice d.id) with
    | .ok () => closeEach rest
    | .error e =>
      log (.warn "failed to close device"
        [("device", .text d.id.text), ("error", .text e.text)])
      let _ ← closeEach rest
      return some e

/-- Stops the driver; the failure, if there is one. -/
def stopDriver : Act (Machine κ ω) (Option DriverError) := do
  match ← Machine.tryDrive Simulator.stop with
  | .ok () => return none
  | .error e =>
    log (.warn "runtime shutdown failed" [("error", .text e.text)])
    return some e

/-- Closes every device and stops the driver. Every step is taken whatever
    became of the others, and the first failure is the answer. -/
def shutdown : Task κ ω Unit := do
  let before := (← MonadState.get).platform.registry
  modify (setRegistry .uninitialized)
  match before with
  | .ready found =>
    let closing ← Fallible.perform (closeEach found)
    let stopping ← Fallible.perform stopDriver
    log (.info "runtime shut down" [("devices", .nat found.length)])
    match closing.or stopping with
    | some e => throw (.initialization e)
    | none => return ()
  | _ => return ()

end StreamCompute.Devices
