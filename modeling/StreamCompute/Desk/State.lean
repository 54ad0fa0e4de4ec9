/-
  StreamCompute.Desk.State

  A desk hands out numbers for objects and keeps the objects itself. Images,
  remote resources, local resources and executions have a table each; one
  counter numbers all of them, from one.

  A machine with a desk can have several platforms, of which at most one is
  installed. Calls work on the installed one; an execution stays with the
  platform that launched it.
-/
import StreamCompute.Desk.Error
import StreamCompute.Launch

namespace StreamCompute

/-- The place of an execution. A join takes the execution out; a call that is
    cut off while it holds the place leaves it marked. -/
structure Slot where
  execution : Option Execution
  marked : Bool := false
deriving DecidableEq, Repr

/-- The tables of a desk. `ρ` is whatever the program on top keeps. -/
structure Desk (ρ : Type) where
  images : Assoc Nat Image := []
  remotes : Assoc Nat Remote := []
  locals : Assoc Nat Local := []
  slots : Assoc Nat Slot := []
  nextHandle : Nat := 1
  /-- Handles of the images from which launches are being set up. -/
  held : List Nat := []
  installed : Option Nat := none
  /-- The platform that was installed last. -/
  latest : Option Nat := none
  nextSerial : Nat := 1
  client : ρ

/-- How many objects of each kind a desk keeps. -/
structure DeskCounts where
  images : Nat
  remotes : Nat
  locals : Nat
  executions : Nat
deriving DecidableEq, Repr

abbrev DeskTask (κ ρ : Type) := Fallible DeskError (Machine κ (Desk ρ))

namespace Desk

variable {κ ρ α : Type}

def counts (d : Desk ρ) : DeskCounts :=
  ⟨d.images.length, d.remotes.length, d.locals.length, d.slots.length⟩

def onDesk (f : Desk ρ → Desk ρ) (m : Machine κ (Desk ρ)) : Machine κ (Desk ρ) :=
  { m with host := f m.host }

def desk : DeskTask κ ρ (Desk ρ) := do
  return (← get).host

def freshHandle : DeskTask κ ρ Nat := do
  let handle := (← desk).nextHandle
  modify (onDesk fun d => { d with nextHandle := handle + 1 })
  return handle

def refuse (call : String) (cause : DeskCause) : DeskTask κ ρ α :=
  throw ⟨call, cause⟩

/-- The serial number of the installed platform. -/
def platform (call : String) : DeskTask κ ρ Nat := do
  match (← desk).installed with
  | some serial => return serial
  | none => refuse call .notInitialized

def onRuntime (serial : Nat) (call : String) (task : Task κ (Desk ρ) α) : DeskTask κ ρ α :=
  ExceptT.mk (Machine.withPlatform serial (task.mapError fun e => ⟨call, .runtime e⟩).run)

def format (call : String) (code : Nat) : DeskTask κ ρ Format :=
  match Format.ofCode? code with
  | some f => pure f
  | none => refuse call (.unknownFormat code)

/-! ## Installing a platform -/

/-- Installs a new platform over a driver, in place of the one installed before. -/
def install (driver : Simulator) (config : Config) : Act (Machine κ (Desk ρ)) Unit := do
  let before := (← get).host
  let serial := before.nextSerial
  let fresh : Platform κ := { serial, driver, config }
  modify fun m =>
    { m with
      parked := m.parked.set serial fresh
      host := { m.host with
        installed := some serial
        latest := some serial
        nextSerial := serial + 1 } }
  if before.installed.isSome then
    log (.warn "replaced an installed runtime" [])

/-- Installs the vendor's driver, of which there is none. -/
def installVendor : DeskTask κ ρ Unit :=
  refuse "init" .noVendorDriver

/-- Sends log events where the environment says. They go somewhere already, so
    this fails even if the filter is in order. -/
def startTracing (env : Environment) : DeskTask κ ρ Unit :=
  match ((Tracing.Settings.ofEnvironment env).readFilter env).run with
  | .error abort => throwThe Abort abort
  | .ok (.error e) => refuse "init_tracing" (.badFilter e)
  | .ok (.ok _) => refuse "init_tracing" .alreadyTracing

end Desk

end StreamCompute
