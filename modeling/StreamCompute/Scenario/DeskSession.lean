/-
  StreamCompute.Scenario.DeskSession

  Scenarios over a desk. A scenario starts without a driver, and installs one
  or several; the common steps are about the one that was installed last.
-/
import StreamCompute.Scenario.Play

namespace StreamCompute.Scenario

/-- Instructions of scenarios over a desk. -/
inductive DeskStep
  | install (spec : Spec) (config : Config)
  | installVendor
  | startTracing (env : Environment)
  | countDevices
  | compile (source : String)
  | freeImage (handle : Nat)
  | shutdown
  | allocRemote (device width height formatCode flags : Nat)
  | allocLocal (device width height formatCode flags : Nat)
  | freeRemote (handle : Nat)
  | freeLocal (handle : Nat)
  | remoteInfo (handle : Nat)
  | remoteRead (handle offset : Nat) (count : Option Nat)
  | remoteWrite (handle : Nat) (data : Bytes)
  | runStream (q : Desk.StreamRequest)
  | runStreamAsync (q : Desk.StreamRequest)
  | pollStream (handle : Nat)
  | joinStream (handle : Nat)
  | joinStreamWithin (handle micros : Nat)
  | counts
  | version
  | constants

def deskVersion : String := "0.3.0"

abbrev DeskScene := Scene DeskStep (Desk Stage)

abbrev DeskPlay := DeskTask (List (Step DeskStep)) Stage

section Instructions

variable [Reentry (List (Step DeskStep)) (Desk Stage)]

/-- Installs a driver that was built as given. Its log of calls starts here. -/
def installDriver (spec : Spec) (config : Config) : DeskPlay Value := do
  Fallible.perform (Desk.install { spec } config)
  modify (Desk.onDesk fun d => { d with client := { d.client with mark := 0 } })
  return .nothing

def performAtDesk : DeskStep → DeskPlay Value
  | .install spec config => installDriver spec config
  | .installVendor => do
    Desk.installVendor
    return .nothing
  | .startTracing env => do
    Desk.startTracing env
    return .nothing
  | .countDevices => return .number (← Desk.countDevices)
  | .compile source => return .number (← Desk.compile source)
  | .freeImage handle => do
    Desk.freeImage handle
    return .nothing
  | .shutdown => do
    Desk.shutdown
    return .nothing
  | .allocRemote device width height code flags =>
    return .number (← Desk.allocRemote device width height code flags)
  | .allocLocal device width height code flags =>
    return .number (← Desk.allocLocal device width height code flags)
  | .freeRemote handle => do
    Desk.freeRemote handle
    return .nothing
  | .freeLocal handle => do
    Desk.freeLocal handle
    return .nothing
  | .remoteInfo handle => return .remoteInfo (← Desk.remoteInfo handle)
  | .remoteRead handle offset count =>
    return .bytes (.of (← Desk.remoteRead handle) offset count)
  | .remoteWrite handle data => do
    Desk.remoteWrite handle data
    return .nothing
  | .runStream q => return .stats (← Desk.runStream q)
  | .runStreamAsync q => return .number (← Desk.runStreamAsync q)
  | .pollStream handle => return .flag (← Desk.pollStream handle)
  | .joinStream handle => return .stats (← Desk.joinStream handle)
  | .joinStreamWithin handle micros => do
    match ← Desk.joinStreamWithin handle micros with
    | some summary => return .stats summary
    | none => return .pending
  | .counts => return .counts (← Desk.desk).counts
  | .version => return .text deskVersion
  | .constants => return .constants (Format.all.map (·.code)) AllocFlags.globalBuffer.bits

end Instructions

def deskSession : Session DeskStep (Desk Stage) where
  stage := (·.client)
  onStage f d := { d with client := f d.client }
  serial? m := m.host.latest
  perform i := outcomeOf .desk id (performAtDesk i)

def playDesk (steps : List (Step DeskStep)) : List StepReport :=
  deskSession.play { host := { client := {} } } steps

end StreamCompute.Scenario
