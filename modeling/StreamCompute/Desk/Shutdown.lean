/-
  StreamCompute.Desk.Shutdown

  Giving everything up. A shutdown is refused while executions have not been
  joined. Otherwise the installed platform is let go, and all that the desk
  keeps is freed through it: local resources, remote ones, images, and last
  the devices. Every step is taken whatever became of the others, and the
  first failure is the answer.
-/
import StreamCompute.Desk.Streams

namespace StreamCompute.Desk

variable {κ ρ : Type} [Reentry κ (Desk ρ)]

/-- Takes one step of a shutdown; the first failure so far. -/
def step (serial : Nat) (call : String) (task : Task κ (Desk ρ) Unit) (first : Option DeskError) :
    Act (Machine κ (Desk ρ)) (Option DeskError) := do
  match ← Machine.withPlatform serial task.attempt with
  | .ok () => return first
  | .error e =>
    log (.warn "release during shutdown failed"
      [("operation", .text call), ("error", .text e.message)])
    return first.or (some ⟨call, .runtime e⟩)

/-- Frees local resources. If that is cut off, those that are left are lost. -/
def freeLocals (serial : Nat) : List Local → Option DeskError →
    Act (Machine κ (Desk ρ)) (Option DeskError)
  | [], first => pure first
  | l :: rest, first => do
    let first ← (step serial "free_local" (Memory.freeLocal l) first).onCutOff fun m =>
      rest.foldl (fun m l => Journaled.record (Memory.lostLocal l) m) m
    freeLocals serial rest first

def freeRemotes (serial : Nat) : List Remote → Option DeskError →
    Act (Machine κ (Desk ρ)) (Option DeskError)
  | [], first => pure first
  | r :: rest, first => do
    if ((← get).status r).freed then freeRemotes serial rest first
    else
      let first ← step serial "free_remote" (Memory.freeRemote r) first
      freeRemotes serial rest first

/-- Frees the images from which no launch is being set up. -/
def freeImages (serial : Nat) : List (Nat × Image) → Option DeskError →
    Act (Machine κ (Desk ρ)) (Option DeskError)
  | [], first => pure first
  | (handle, image) :: rest, first => do
    if (← get).host.held.contains handle then freeImages serial rest first
    else
      let first ← step serial "free_image" (Images.free image) first
      freeImages serial rest first

/-- Frees everything and closes the devices of a platform that was let go. -/
def releaseAll (serial : Nat) : Act (Machine κ (Desk ρ)) (Option DeskError) := do
  let locals := (← get).host.locals.values
  modify (onDesk fun d => { d with locals := [] })
  let first ← freeLocals serial locals none
  let remotes := (← get).host.remotes.values
  modify (onDesk fun d => { d with remotes := [] })
  let first ← freeRemotes serial remotes first
  let images := (← get).host.images
  modify (onDesk fun d => { d with images := [] })
  let first ← freeImages serial images first
  step serial "shutdown" Devices.shutdown first

def shutdown : DeskTask κ ρ Unit := do
  let d ← desk
  if d.slots.length > 0 then refuse "shutdown" (.unjoined d.slots.length)
  else
    match d.installed with
    | none => return ()
    | some serial =>
      modify (onDesk fun d => { d with installed := none })
      let first ← Fallible.perform (releaseAll serial)
      log (.info "runtime shut down" [])
      match first with
      | some e => throw e
      | none => return ()

end StreamCompute.Desk
