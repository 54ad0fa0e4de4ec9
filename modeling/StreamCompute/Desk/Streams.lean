/-
  StreamCompute.Desk.Streams

  Launches and joins by handle.

  An image cannot be freed while a launch is being set up from it. An
  execution is joined at most once: a join takes it out of its place, and
  every later call on its handle is a misuse.
-/
import StreamCompute.Desk.Objects

namespace StreamCompute.Desk

variable {κ ρ : Type} [Reentry κ (Desk ρ)]

/-- A scratch register of a launch. -/
structure ScratchSpec where
  width : Nat
  height : Nat
  formatCode : Nat
deriving DecidableEq, Repr

/-- A launch by handle: the registers of each group in the order of their names. -/
structure StreamRequest where
  image : Nat
  device : Nat
  domain : Domain
  scratch : List (String × ScratchSpec)
  direct : List (String × Nat)
  copied : List (String × Nat)
deriving DecidableEq, Repr

/-! ## Launching -/

/-- The table with one more entry. -/
def bindNext (call : String) (t : BindingTable) (register : String) (binding : Binding) :
    DeskTask κ ρ BindingTable :=
  (Fallible.answer (t.bind register binding)).mapError fun e => ⟨call, .runtime e⟩

/-- The binding table of a request: scratch registers, those in place, copied ones. -/
def bindings (call : String) (q : StreamRequest) : DeskTask κ ρ BindingTable := do
  let t ← q.scratch.foldlM (fun t (register, spec) => do
    let format ← format call spec.formatCode
    bindNext call t register (.scratch ⟨spec.width, spec.height⟩ format)) ({} : BindingTable)
  let t ← q.direct.foldlM (fun t (register, handle) => do
    bindNext call t register (.direct (← remote call handle))) t
  q.copied.foldlM (fun t (register, handle) => do
    bindNext call t register (.copied (← remote call handle) none)) t

/-- Marks an image as in use by a launch. -/
def hold (handle : Nat) (m : Machine κ (Desk ρ)) : Machine κ (Desk ρ) :=
  onDesk (fun d => { d with held := handle :: d.held }) m

/-- Takes one such mark away. -/
def release (handle : Nat) (m : Machine κ (Desk ρ)) : Machine κ (Desk ρ) :=
  onDesk (fun d => { d with held := d.held.erase handle }) m

/-- Sets a launch up from an image and submits it. -/
def launchImage (call : String) (serial : Nat) (image : Image) (q : StreamRequest) :
    DeskTask κ ρ Execution := do
  let device ← onRuntime serial call (Devices.get q.device)
  let table ← bindings call q
  onRuntime serial call (Launch.launch image { device, domain := q.domain, table })

/-- Launches by handle. The image is in use until the launch is over. -/
def launch (call : String) (q : StreamRequest) : DeskTask κ ρ Execution := do
  let serial ← platform call
  match (← desk).images.get? q.image with
  | none => refuse call (.unknownHandle .image q.image)
  | some image =>
    modify (hold q.image)
    (launchImage call serial image q).ensuring (release q.image)

def runStream (q : StreamRequest) : DeskTask κ ρ Summary := do
  let e ← launch "run_stream" q
  onRuntime e.home "run_stream" e.join

/-- Launches; the handle of the execution. -/
def runStreamAsync (q : StreamRequest) : DeskTask κ ρ Nat := do
  let e ← launch "run_stream_async" q
  let handle ← freshHandle
  modify (onDesk fun d => { d with slots := d.slots.set handle { execution := some e } })
  log (.debug "registered execution"
    [("handle", .nat handle), ("execution", .text e.id.text)])
  return handle

/-! ## Joining -/

/-- The failure of a call on a handle that has no execution to join. -/
def misjoin {α : Type} (call : String) (handle : Nat) : DeskTask κ ρ α :=
  refuse call (.runtime
    (.joinMisuse s!"execution handle {handle} is unknown or already joined"))

/-- The execution in the place of a handle. A place that is marked is used
    nevertheless, with a warning. -/
def occupant (call : String) (handle : Nat) : DeskTask κ ρ Execution := do
  match (← desk).slots.get? handle with
  | none => misjoin call handle
  | some slot =>
    if slot.marked then
      log (.warn "registry mutex was poisoned, recovering data" [])
    match slot.execution with
    | none => misjoin call handle
    | some e => return e

/-- Changes the place of a handle, if the handle is still known. -/
def onSlot (handle : Nat) (f : Slot → Slot) (m : Machine κ (Desk ρ)) : Machine κ (Desk ρ) :=
  onDesk (fun d =>
    match d.slots.get? handle with
    | some slot => { d with slots := d.slots.set handle (f slot) }
    | none => d) m

def retire (handle : Nat) (m : Machine κ (Desk ρ)) : Machine κ (Desk ρ) :=
  onDesk (fun d => { d with slots := d.slots.erase handle }) m

/-- Does something while holding the place of a handle, which is marked if that is cut off. -/
def holding {α : Type} (handle : Nat) (task : DeskTask κ ρ α) : DeskTask κ ρ α :=
  ExceptT.mk (Act.onCutOff task.run (onSlot handle fun slot => { slot with marked := true }))

/-- Asks once whether an execution is done. -/
def pollStream (handle : Nat) : DeskTask κ ρ Bool := do
  let e ← occupant "poll_stream" handle
  holding handle (onRuntime e.home "poll_stream" e.isComplete)

/-- Joins an execution. The handle is forgotten first. -/
def joinStream (handle : Nat) : DeskTask κ ρ Summary := do
  let e ← occupant "join_stream" handle
  modify (retire handle)
  onRuntime e.home "join_stream" e.join

/-- Joins an execution, at most as long as the limit says. The handle is
    forgotten unless the execution is still running. -/
def joinStreamWithin (handle micros : Nat) : DeskTask κ ρ (Option Summary) := do
  let e ← occupant "join_stream_timeout" handle
  modify (onSlot handle fun slot => { slot with execution := none })
  let joining : DeskTask κ ρ (Option Summary) :=
    holding handle (onRuntime e.home "join_stream_timeout" (e.joinWithin (some micros)))
  match ← Fallible.perform joining.attempt with
  | .ok none =>
    modify (onSlot handle fun slot => { slot with execution := some e })
    return none
  | .ok (some summary) =>
    modify (retire handle)
    return some summary
  | .error err =>
    modify (retire handle)
    throw err

end StreamCompute.Desk
