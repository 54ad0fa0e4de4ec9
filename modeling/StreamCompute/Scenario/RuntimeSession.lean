/-
  StreamCompute.Scenario.RuntimeSession

  Scenarios over a runtime. Objects have names; an instruction that makes one
  puts it under a name, in place of the one that had the name before. A local
  resource or an execution that loses its name that way is lost.
-/
import StreamCompute.Scenario.Play

namespace StreamCompute.Scenario

structure ResourceSpec where
  shape : Shape
  format : Format
  flags : AllocFlags
deriving DecidableEq, Repr

/-- What is to be launched, by name. Without a table nothing is bound. -/
structure LaunchSpec where
  image : String
  device : String
  table : Option String
  domain : Domain
deriving DecidableEq, Repr

/-- Instructions of scenarios over a runtime. The first name of an instruction
    that makes an object is the object's. -/
inductive RuntimeStep
  | countDevices
  | device (name : String) (index : Nat)
  | sameDevice (a b : String)
  | shutdown
  | config
  | driverCount
  | describe
  | compile (name source : String) (device : Option String)
  | freeImage (image : String)
  | allocLocal (name device : String) (spec : ResourceSpec)
  | freeLocal (name : String)
  | dropLocal (name : String)
  | allocRemote (name device : String) (spec : ResourceSpec)
  | freeRemote (remote : String)
  | map (remote : String)
  | unmap (remote : String)
  | remoteInfo (remote : String)
  | describeRemote (remote : String)
  | cloneRemote (name remote : String)
  | sameRemote (a b : String)
  | address (remote : String)
  | read (remote : String) (offset : Nat) (count : Option Nat)
  | write (remote : String) (offset : Nat) (data : Bytes)
  | bindScratch (table register : String) (shape : Shape) (format : Format)
  | bindDirect (table register remote : String)
  | bindCopied (table register remote : String) (direction : Option Direction)
  | tableInfo (table : String)
  | tableGet (table register : String)
  | cloneTable (name table : String)
  | sameTable (a b : String)
  | launch (name : String) (spec : LaunchSpec)
  | run (spec : LaunchSpec)
  | poll (execution : String)
  | join (execution : String)
  | joinWithin (execution : String) (micros : Nat)
  | dropExecution (execution : String)
  | describeExecution (execution : String)
deriving DecidableEq, Repr

/-- The named objects of a scenario. -/
structure Cast where
  stage : Stage := {}
  devices : Assoc String Device := []
  images : Assoc String Image := []
  locals : Assoc String Local := []
  remotes : Assoc String Remote := []
  tables : Assoc String BindingTable := []
  executions : Assoc String Execution := []
  /-- Images from which launches are being set up or run. -/
  held : List Image := []

abbrev RuntimeScene := Scene RuntimeStep Cast

/-- An instruction that may fail. -/
abbrev Play := Fallible Fault RuntimeScene

namespace Cast

def change (f : Cast → Cast) (m : RuntimeScene) : RuntimeScene :=
  { m with host := f m.host }

def cast : Play Cast := do
  return (← get).host

/-- The object that a name stands for. -/
def find {α : Type} (kind name : String) (table : Cast → Assoc String α) : Play α := do
  match (table (← cast)).get? name with
  | some a => return a
  | none => throw (.missing kind name)

def device (name : String) : Play Device := find "device" name (·.devices)

def image (name : String) : Play Image := find "image" name (·.images)

def localResource (name : String) : Play Local := find "local" name (·.locals)

def remote (name : String) : Play Remote := find "remote" name (·.remotes)

def table (name : String) : Play BindingTable := find "table" name (·.tables)

def execution (name : String) : Play Execution := find "exec" name (·.executions)

/-- The table with this name; one that nobody has filled is empty. -/
def tableOrEmpty (name : String) : Play BindingTable := do
  return ((← cast).tables.get? name).getD {}

/-- Names a local resource. The one that had the name before is lost. -/
def nameLocal (name : String) (l : Local) : Play Unit := do
  let old := (← cast).locals.get? name
  modify (change fun c => { c with locals := c.locals.set name l })
  match old with
  | some lost => log (Memory.lostLocal lost)
  | none => pure ()

/-- Names an execution. The one that had the name before is lost. -/
def nameExecution (name : String) (e : Execution) : Play Unit := do
  let old := (← cast).executions.get? name
  modify (change fun c => { c with executions := c.executions.set name e })
  match old with
  | some lost => modify lost.abandoned
  | none => pure ()

def takeExecution (name : String) : Play Execution := do
  let e ← execution name
  modify (change fun c => { c with executions := c.executions.erase name })
  return e

def takeLocal (name : String) : Play Local := do
  let l ← localResource name
  modify (change fun c => { c with locals := c.locals.erase name })
  return l

variable [Reentry (List (Step RuntimeStep)) Cast]

def ask {α : Type} (task : Task (List (Step RuntimeStep)) Cast α) : Play α :=
  task.mapError .runtime

def record (r : Remote) : Play Value := do
  return .remote r ((← get).status r)

/-! ## Devices and images -/

/-- Compiles for the named device, or for the first one. -/
def compile (source : String) : Option String → Play Image
  | some name => do
    let d ← device name
    ask (Images.compileFor d source)
  | none => ask (Images.compile source)

/-- Frees an image that is not in use; its name is taken away first. -/
def freeImage (name : String) : Play Value := do
  let i ← image name
  if (← cast).held.contains i then throw (.unusable "image in use")
  else
    modify (change fun c => { c with images := c.images.erase name })
    ask (Images.free i)
    return .nothing

/-! ## Host access -/

/-- Refuses a record whose mapping the driver does not have any more. -/
def checkLink (r : Remote) : Play HostLink := do
  let m ← get
  let link ← ask (Fallible.answer (r.access (m.status r)))
  if m.platform.driver.isMapped r.id then return link
  else throw (.unusable "stale mapping")

/-- The address of a remote resource, which is then seen. -/
def address (name : String) : Play Value := do
  let r ← remote name
  let m ← get
  let link ← ask (Fallible.answer (r.access (m.status r)))
  let moved := m.host.stage.moved? r.id link.moves
  modify (change fun c => { c with stage := c.stage.see r.id link.moves })
  return .address moved

def read (name : String) (offset : Nat) (count : Option Nat) : Play Value := do
  let r ← remote name
  let _ ← checkLink r
  return .bytes (.of (← ask (Memory.read r)) offset count)

def write (name : String) (offset : Nat) (data : Bytes) : Play Value := do
  let r ← remote name
  let _ ← checkLink r
  return .number (← ask (Memory.write r offset data))

/-! ## Tables -/

def bind (name register : String) (binding : Binding) : Play Value := do
  let t ← tableOrEmpty name
  modify (change fun c => { c with tables := c.tables.set name t })
  let next ← ask (Fallible.answer (t.bind register binding))
  modify (change fun c => { c with tables := c.tables.set name next })
  return .bound next

/-! ## Executions -/

def request (spec : LaunchSpec) : Play (Image × LaunchRequest) := do
  let i ← image spec.image
  let d ← device spec.device
  let t ← match spec.table with
    | some name => table name
    | none => pure {}
  return (i, { device := d, domain := spec.domain, table := t })

/-- Does something while an image is in use. -/
def holding {α : Type} (i : Image) (act : Play α) : Play α := do
  modify (change fun c => { c with held := i :: c.held })
  act.ensuring (change fun c => { c with held := c.held.erase i })

def launch (name : String) (spec : LaunchSpec) : Play Value := do
  let (i, q) ← request spec
  let e ← holding i (ask (Launch.launch i q))
  nameExecution name e
  return .launched e

def run (spec : LaunchSpec) : Play Value := do
  let (i, q) ← request spec
  return .joined (← holding i (ask (Launch.run i q)))

/-- Joins with a limit; the execution keeps its name only if it is still running. -/
def joinWithin (name : String) (micros : Nat) : Play Value := do
  let e ← takeExecution name
  match ← ask (e.joinWithin (some micros)) with
  | some summary => return .joined summary
  | none =>
    nameExecution name e
    return .pending

/-! ## Instructions -/

def perform : RuntimeStep → Play Value
  | .countDevices => return .number (← ask Devices.count)
  | .device name index => do
    let d ← ask (Devices.get index)
    modify (change fun c => { c with devices := c.devices.set name d })
    return .device d
  | .sameDevice a b => do
    let x ← device a
    let y ← device b
    return .flag (x == y)
  | .shutdown => do
    ask Devices.shutdown
    return .nothing
  | .config => return .config (← get).platform.config
  | .driverCount => do
    return .number (← (Machine.drive Simulator.countDevices).mapError .driver)
  | .describe => do
    let p := (← get).platform
    return .text <| s!"Runtime \x7b config: {p.config.describe}, " ++
      s!"registry: {Text.quoted p.registry.describe} \x7d"
  | .compile name source device => do
    let i ← compile source device
    modify (change fun c => { c with images := c.images.set name i })
    return .image i
  | .freeImage name => freeImage name
  | .allocLocal name on spec => do
    let d ← device on
    let l ← ask (Memory.allocateLocal d spec.shape spec.format spec.flags)
    nameLocal name l
    return .localResource l
  | .freeLocal name => do
    let l ← takeLocal name
    ask (Memory.freeLocal l)
    return .nothing
  | .dropLocal name => do
    let l ← takeLocal name
    log (Memory.lostLocal l)
    return .nothing
  | .allocRemote name on spec => do
    let d ← device on
    let r ← ask (Memory.allocateRemote d spec.shape spec.format spec.flags)
    modify (change fun c => { c with remotes := c.remotes.set name r })
    record r
  | .freeRemote name => do
    let r ← remote name
    ask (Memory.freeRemote r)
    record r
  | .map name => do
    let r ← remote name
    ask (Memory.map r)
    record r
  | .unmap name => do
    let r ← remote name
    ask (Memory.unmap r)
    record r
  | .remoteInfo name => do record (← remote name)
  | .describeRemote name => do
    let r ← remote name
    return .text (r.describe ((← get).status r))
  | .cloneRemote name source => do
    let r ← remote source
    modify (change fun c => { c with remotes := c.remotes.set name r })
    return .nothing
  | .sameRemote a b => do
    let x ← remote a
    let y ← remote b
    return .flag (x == y)
  | .address name => address name
  | .read name offset count => read name offset count
  | .write name offset data => write name offset data
  | .bindScratch name register shape format => bind name register (.scratch shape format)
  | .bindDirect name register source => do
    bind name register (.direct (← remote source))
  | .bindCopied name register source direction => do
    bind name register (.copied (← remote source) direction)
  | .tableInfo name => return .table (← tableOrEmpty name)
  | .tableGet name register => return .binding ((← tableOrEmpty name).get? register)
  | .cloneTable name source => do
    let t ← table source
    modify (change fun c => { c with tables := c.tables.set name t })
    return .nothing
  | .sameTable a b => do
    let x ← table a
    let y ← table b
    return .flag (x == y)
  | .launch name spec => launch name spec
  | .run spec => run spec
  | .poll name => do
    let e ← execution name
    return .flag (← ask e.isComplete)
  | .join name => do
    let e ← takeExecution name
    return .joined (← ask e.join)
  | .joinWithin name micros => joinWithin name micros
  | .dropExecution name => do
    let e ← takeExecution name
    modify e.abandoned
    return .nothing
  | .describeExecution name => do
    let e ← execution name
    return .text (e.describe (← get))

end Cast

def runtimeSession : Session RuntimeStep Cast where
  stage := (·.stage)
  onStage f c := { c with stage := f c.stage }
  serial? m := some m.platform.serial
  perform i := (Cast.perform i).attempt

/-- Plays a scenario over a runtime with the given driver and settings. -/
def playRuntime (spec : Spec) (config : Config) (steps : List (Step RuntimeStep)) :
    List StepReport :=
  runtimeSession.play { platform := { driver := { spec }, config }, host := {} } steps

end StreamCompute.Scenario
