/-
  StreamCompute.Desk.Objects

  Images and resources by handle.

  A remote resource keeps its handle until it is freed. The handles of an
  image and of a local resource are given up before the driver is asked to
  free them.
-/
import StreamCompute.Desk.State

namespace StreamCompute.Desk

variable {κ ρ : Type} [Reentry κ (Desk ρ)]

/-! ## Devices and images -/

def countDevices : DeskTask κ ρ Nat := do
  onRuntime (← platform "get_num_gpus") "get_num_gpus" Devices.count

def compile (source : String) : DeskTask κ ρ Nat := do
  let image ← onRuntime (← platform "compile") "compile" (Images.compile source)
  let handle ← freshHandle
  modify (onDesk fun d => { d with images := d.images.set handle image })
  log (.debug "registered kernel image" [("handle", .nat handle)])
  return handle

/-- Frees an image from which no launch is being set up. -/
def freeImage (handle : Nat) : DeskTask κ ρ Unit := do
  let serial ← platform "free_image"
  match (← desk).images.get? handle with
  | none => refuse "free_image" (.unknownHandle .image handle)
  | some image =>
    if (← desk).held.contains handle then refuse "free_image" .imageInUse
    else
      modify (onDesk fun d => { d with images := d.images.erase handle })
      onRuntime serial "free_image" (Images.free image)

/-! ## Remote resources -/

def remote (call : String) (handle : Nat) : DeskTask κ ρ Remote := do
  match (← desk).remotes.get? handle with
  | some r => return r
  | none => refuse call (.unknownHandle .remote handle)

def allocRemote (device width height formatCode flags : Nat) : DeskTask κ ρ Nat := do
  let serial ← platform "alloc_remote"
  let device ← onRuntime serial "alloc_remote" (Devices.get device)
  let format ← format "alloc_remote" formatCode
  let r ← onRuntime serial "alloc_remote"
    (Memory.allocateRemote device ⟨width, height⟩ format ⟨flags⟩)
  let handle ← freshHandle
  modify (onDesk fun d => { d with remotes := d.remotes.set handle r })
  return handle

/-- Frees a remote resource; its handle is given up only if that succeeds. -/
def freeRemote (handle : Nat) : DeskTask κ ρ Unit := do
  let serial ← platform "free_remote"
  let r ← remote "free_remote" handle
  onRuntime serial "free_remote" (Memory.freeRemote r)
  modify (onDesk fun d => { d with remotes := d.remotes.erase handle })

/-- What a caller may know about a remote resource. -/
structure RemoteInfo where
  width : Nat
  height : Nat
  pitch : Nat
  length : Nat
  formatCode : Nat
  /-- Whether the host may touch the bytes now. -/
  accessible : Bool
deriving DecidableEq, Repr

def remoteInfo (handle : Nat) : DeskTask κ ρ RemoteInfo := do
  let r ← remote "remote_info" handle
  let s := (← get).status r
  return {
    width := r.shape.width
    height := r.shape.height
    pitch := s.pitch
    length := r.size s
    formatCode := r.format.code
    accessible := (r.access s).isOk }

def remoteRead (handle : Nat) : DeskTask κ ρ Contents := do
  let r ← remote "remote_read" handle
  (Memory.read r).mapError fun e => ⟨"remote_read", .runtime e⟩

/-- Writes bytes to the start of a remote resource; they must fit. -/
def remoteWrite (handle : Nat) (data : Bytes) : DeskTask κ ρ Unit := do
  let r ← remote "remote_write" handle
  let room := r.size ((← get).status r)
  if data.length > room then refuse "remote_write" (.tooLong data.length room)
  else
    let _ ← (Memory.write r 0 data).mapError fun e => (⟨"remote_write", .runtime e⟩ : DeskError)

/-! ## Local resources -/

def allocLocal (device width height formatCode flags : Nat) : DeskTask κ ρ Nat := do
  let serial ← platform "alloc_local"
  let device ← onRuntime serial "alloc_local" (Devices.get device)
  let format ← format "alloc_local" formatCode
  let l ← onRuntime serial "alloc_local"
    (Memory.allocateLocal device ⟨width, height⟩ format ⟨flags⟩)
  let handle ← freshHandle
  modify (onDesk fun d => { d with locals := d.locals.set handle l })
  return handle

def freeLocal (handle : Nat) : DeskTask κ ρ Unit := do
  let serial ← platform "free_local"
  match (← desk).locals.get? handle with
  | none => refuse "free_local" (.unknownHandle .localResource handle)
  | some l =>
    modify (onDesk fun d => { d with locals := d.locals.erase handle })
    onRuntime serial "free_local" (Memory.freeLocal l)

end StreamCompute.Desk
