/-
  StreamCompute.Launch

  Launching kernels. A launch creates a context, loads the image, applies the
  binding table, looks the entry point up and submits the kernel. If a step
  fails, everything acquired so far is given back in reverse, the module is
  unloaded and the context destroyed, and the failure is the answer.
-/
import StreamCompute.Execution
import StreamCompute.Image

namespace StreamCompute

/-- What is to be launched, besides the image. -/
structure LaunchRequest where
  device : Device
  domain : Domain
  table : BindingTable
deriving DecidableEq, Repr

namespace Launch

variable {κ ω : Type} [Reentry κ ω]

def dropModule (context : Ident .context) (module : Ident .module) :
    Act (Machine κ ω) Unit := do
  match ← Machine.tryDrive (Simulator.unloadModule context module) with
  | .ok () => pure ()
  | .error e =>
    log (.warn "failed to unload module after launch failure"
      [("context", .text context.text), ("module", .text module.text), ("error", .text e.text)])

def dropContext (context : Ident .context) : Act (Machine κ ω) Unit := do
  match ← Machine.tryDrive (Simulator.destroyContext context) with
  | .ok () => pure ()
  | .error e =>
    log (.warn "failed to destroy context after launch failure"
      [("context", .text context.text), ("error", .text e.text)])

/-- Takes down a launch that failed once its module was loaded. -/
def undo (site : BindSite) : Act (Machine κ ω) Unit := do
  Arena.rollback site.owner site.context
  dropModule site.context site.module
  dropContext site.context
  modify (Machine.closeArena site.owner)

/-- Creates a context, with which the arena of the execution begins, and loads
    the image into it. -/
def openSite (owner : ExecutionKey) (image : Image) (device : Device) : Task κ ω BindSite := do
  let waiter := Waiter.ofConfig (← get).platform.config
  let context ← Machine.driveAs .execution (Simulator.createContext device.id)
  modify (Machine.openArena owner context)
  match ← Fallible.perform (Machine.tryDrive (Simulator.loadModule context image.id)) with
  | .ok module => return { owner, device := device.id, context, module, waiter }
  | .error e =>
    Fallible.perform (dropContext context)
    modify (Machine.closeArena owner)
    throw (.execution e)

def applyTable (site : BindSite) (t : BindingTable) : Task κ ω Unit := do
  Binder.apply site (← get).platform.config.conventions t

def submit (site : BindSite) (domain : Domain) : Drive κ ω (Ident .event) := do
  let entryPoint := (← get).platform.config.entryPoint
  let entry ← Machine.drive (Simulator.findEntry site.context site.module entryPoint)
  Machine.drive (Simulator.runProgram site.context entry domain)

def submittedEvent (id : ExecutionId) (q : LaunchRequest) (site : BindSite)
    (event : Ident .event) : Event :=
  .debug "kernel submitted"
    [("execution", .text id.text), ("device", .text q.device.text),
      ("context", .text site.context.text), ("event", .text event.text),
      ("domain", .text q.domain.text), ("registers", .text q.table.text)]

def begin (id : ExecutionId) (image : Image) (q : LaunchRequest) : Task κ ω Execution := do
  let home := (← get).platform.serial
  let site ← openSite (home, id) image q.device
  match ← Fallible.perform (applyTable site q.table).attempt with
  | .error e =>
    log (.debug "binding failed; rolling back"
      [("execution", .text id.text), ("error", .text e.message)])
    Fallible.perform (undo site)
    throw e
  | .ok () =>
    match ← Fallible.perform (submit site q.domain).attempt with
    | .error e =>
      Fallible.perform (undo site)
      throw (.execution e)
    | .ok event =>
      log (submittedEvent id q site event)
      return {
        home, id, context := site.context, module := site.module, event
        waiter := site.waiter }

/-- Refuses a table that cannot be applied, before anything is acquired. -/
def preflight (q : LaunchRequest) : Task κ ω Unit := do
  let m ← get
  match BindingTable.refusal? q.device.info m.status q.table.entries [] with
  | some e => throw e
  | none => return ()

def nextId : Task κ ω ExecutionId := do
  let n := (← get).platform.nextExecution
  modify <| Machine.onPlatform fun p => { p with nextExecution := n + 1 }
  return ⟨n⟩

def launch (image : Image) (q : LaunchRequest) : Task κ ω Execution := do
  Devices.check q.device
  preflight q
  let id ← nextId
  Performance.timed
    [("name", .text "launch"), ("execution", .nat id.number), ("registers", .nat q.table.size)]
    (begin id image q)

def run (image : Image) (q : LaunchRequest) : Task κ ω Summary := do
  (← launch image q).join

end Launch

end StreamCompute
