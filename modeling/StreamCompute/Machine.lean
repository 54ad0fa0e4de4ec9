/-
  StreamCompute.Machine

  The state that a program over a driver works on, and how driver calls are
  made.

  A `Platform` is one driver with its runtime. A `Machine` has the platform
  that is in use, the others, the records of remote resources and executions,
  the journal, and the history of all driver calls. `ω` is whatever the program
  on top keeps.

  Before a driver call is handled, the hooks that wait for its entry point are
  run. A hook of type `κ` may do anything to the machine; what it does is given
  by the instance of `Reentry`.
-/
import StreamCompute.Binding.Acquired
import StreamCompute.Config
import StreamCompute.Device
import StreamCompute.Simulator.Calls

namespace StreamCompute

/-- A driver with its hooks, and the runtime over it. -/
structure Platform (κ : Type) where
  serial : Nat := 0
  driver : Simulator := {}
  /-- What is to be done before the next call of an entry point. -/
  hooks : List (Operation × κ) := []
  config : Config := {}
  registry : Registry := .uninitialized
  /-- How often devices were looked for. -/
  generation : Nat := 0
  nextExecution : Nat := 1

/-- How far an execution has come, as far as its owner has seen. -/
structure Progress where
  polls : Nat := 0
  done : Bool := false
deriving DecidableEq, Repr

/-- How a driver call ended. -/
inductive Verdict
  | accepted
  | refused (error : DriverError)
  | cutOff
deriving DecidableEq, Repr

namespace Verdict

/-- The verdict that an answer amounts to. -/
def of {α : Type} : Except Abort (Except DriverError α) → Verdict
  | .ok (.ok _) => accepted
  | .ok (.error e) => refused e
  | .error _ => cutOff

end Verdict

/-- A driver call at the moment it was handled: the state that it found, and
    what became of it. -/
structure Moment where
  operation : Operation
  /-- The platform whose driver was called. -/
  serial : Nat
  /-- The driver that the call found. -/
  found : Simulator
  left : Simulator
  verdict : Verdict
  remotes : Assoc Remote RemoteStatus
  arenas : Assoc ExecutionKey Arena

namespace Moment

def accepted? (mo : Moment) : Option Call :=
  if mo.verdict = .accepted then mo.left.calls.head? else none

end Moment

/-- The state of a program over a driver. -/
structure Machine (κ ω : Type) where
  platform : Platform κ := {}
  parked : Assoc Nat (Platform κ) := []
  remotes : Assoc Remote RemoteStatus := []
  progress : Assoc ExecutionKey Progress := []
  /-- What each unfinished execution has acquired. -/
  arenas : Assoc ExecutionKey Arena := []
  journal : List Event := []
  /-- The driver calls so far, the newest first. -/
  history : List Moment := []
  host : ω

/-- What a hook does when it is run for an entry point. -/
class Reentry (κ ω : Type) where
  run : Operation → κ → Act (Machine κ ω) Unit

abbrev Drive (κ ω : Type) := Fallible DriverError (Machine κ ω)

abbrev Task (κ ω : Type) := Fallible Error (Machine κ ω)

instance {κ ω : Type} : Journaled (Machine κ ω) where
  record e m := { m with journal := m.journal ++ [e] }

namespace Machine

variable {κ ω α : Type}

/-! ## Parts of the state -/

def onPlatform (f : Platform κ → Platform κ) (m : Machine κ ω) : Machine κ ω :=
  { m with platform := f m.platform }

def onDriver (f : Simulator → Simulator) (m : Machine κ ω) : Machine κ ω :=
  m.onPlatform fun p => { p with driver := f p.driver }

/-- The machine with a new driver state, whose notices go to the journal. -/
def putDriver (driver : Simulator) (m : Machine κ ω) : Machine κ ω :=
  { m with
    platform := { m.platform with driver := { driver with notices := [] } }
    journal := m.journal ++ driver.notices }

def status (m : Machine κ ω) (r : Remote) : RemoteStatus :=
  (m.remotes.get? r).getD .absent

def onStatus (r : Remote) (f : RemoteStatus → RemoteStatus) (m : Machine κ ω) : Machine κ ω :=
  { m with remotes := m.remotes.set r (f (m.status r)) }

def openArena (key : ExecutionKey) (context : Ident .context) (m : Machine κ ω) : Machine κ ω :=
  { m with arenas := m.arenas.set key { context } }

def onArena (key : ExecutionKey) (f : Arena → Arena) (m : Machine κ ω) : Machine κ ω :=
  match m.arenas.get? key with
  | some arena => { m with arenas := m.arenas.set key (f arena) }
  | none => m

def closeArena (key : ExecutionKey) (m : Machine κ ω) : Machine κ ω :=
  { m with arenas := m.arenas.erase key }

def platform? (m : Machine κ ω) (serial : Nat) : Option (Platform κ) :=
  if m.platform.serial = serial then some m.platform else m.parked.get? serial

/-! ## Driver calls -/

/-- Takes the hooks for an entry point out and runs them in order. -/
def fire [Reentry κ ω] (op : Operation) : Act (Machine κ ω) Unit := do
  let due := (← get).platform.hooks.filter (·.1 == op)
  modify <| onPlatform fun p => { p with hooks := p.hooks.filter (·.1 != op) }
  due.forM fun hook => Reentry.run op hook.2

/-- The machine after a driver call: what the call found and left is remembered. -/
def handled (op : Operation) (verdict : Verdict) (driver : Simulator) (m : Machine κ ω) :
    Machine κ ω :=
  let moment : Moment :=
    { operation := op, serial := m.platform.serial, found := m.platform.driver, left := driver,
      verdict, remotes := m.remotes, arenas := m.arenas }
  { m.putDriver driver with history := moment :: m.history }

def handle (c : Command α) : Drive κ ω α :=
  ExceptT.mk fun m =>
    let (answer, driver) := c.run.run m.platform.driver
    (answer, handled c.operation (.of answer) driver m)

/-- The machine after a hook has cut a driver call off. -/
def interrupted (op : Operation) (m : Machine κ ω) : Machine κ ω :=
  let moment : Moment :=
    { operation := op, serial := m.platform.serial, found := m.platform.driver,
      left := m.platform.driver, verdict := .cutOff, remotes := m.remotes, arenas := m.arenas }
  { m with history := moment :: m.history }

/-- Makes a driver call: the hooks first, then the call itself. -/
def drive [Reentry κ ω] (c : Command α) : Drive κ ω α := do
  Fallible.perform ((fire c.operation).onCutOff (interrupted c.operation))
  handle c

/-- Makes a driver call and gives its answer, success or failure, as a value. -/
def tryDrive [Reentry κ ω] (c : Command α) : Act (Machine κ ω) (Except DriverError α) :=
  (drive c).attempt

/-- Makes a driver call whose failure becomes an error of the runtime. -/
def driveAs [Reentry κ ω] (wrap : DriverError → Error) (c : Command α) : Task κ ω α :=
  (drive c).mapError wrap

/-! ## Other platforms -/

/-- The machine with the given platform in use; the one in use before is parked. -/
def focus (serial : Nat) (m : Machine κ ω) : Machine κ ω :=
  if m.platform.serial = serial then m
  else
    match m.parked.get? serial with
    | none => m
    | some p =>
      { m with
        platform := p
        parked := (m.parked.erase serial).set m.platform.serial m.platform }

/-- Does something with another platform in use, and then goes back. -/
def withPlatform (serial : Nat) (act : Act (Machine κ ω) α) : Act (Machine κ ω) α := do
  let before := (← get).platform.serial
  modify (focus serial)
  act.ensuring (focus before)

end Machine

end StreamCompute
