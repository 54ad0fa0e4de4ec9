/-
  StreamCompute.Scenario.Play

  Playing scenarios. A step that is cut off answers so, and the next step is
  taken; what was done before stays done. A hook is played in the middle of
  the driver call that it waits for, and its steps may set hooks in turn.

  Each hook is set by a step and run at most once, so the number of hook steps
  in a scenario bounds how deeply hooks can be nested. That number is the fuel
  of `Session.runHook`.
-/
import StreamCompute.Scenario.Step

namespace StreamCompute.Scenario

abbrev Scene (ι ω : Type) := Machine (List (Step ι)) ω

/-- A kind of scenario: its instructions, and what it keeps. -/
structure Session (ι ω : Type) where
  /-- The stage within what the scenario keeps. -/
  stage : ω → Stage
  onStage : (Stage → Stage) → ω → ω
  /-- The platform whose driver the common steps are about. -/
  serial? : Scene ι ω → Option Nat
  perform : [Reentry (List (Step ι)) ω] → ι → Act (Scene ι ω) Outcome

/-- The value of an answer, or its fault. -/
def outcomeOf {σ ε α : Type} (fault : ε → Fault) (value : α → Value) (act : Fallible ε σ α) :
    Act σ Outcome := do
  match ← act.attempt with
  | .ok a => return .ok (value a)
  | .error e => return .error (fault e)

namespace Session

variable {ι ω : Type}

def changeStage (session : Session ι ω) (f : Stage → Stage) (m : Scene ι ω) : Scene ι ω :=
  { m with host := session.onStage f m.host }

def driver? (session : Session ι ω) (m : Scene ι ω) : Option Simulator :=
  (session.serial? m).bind fun serial => (m.platform? serial).map (·.driver)

/-! ## Common steps -/

/-- Changes the driver that the common steps are about. -/
def changeDriver (session : Session ι ω) (f : Simulator → Simulator) (m : Scene ι ω) :
    Scene ι ω :=
  match session.serial? m with
  | some serial => Memory.onDriverOf serial f m
  | none => m

/-- Changes the driver and answers nothing. -/
def command (session : Session ι ω) (f : Simulator → Simulator) : Act (Scene ι ω) Outcome := do
  modify (session.changeDriver f)
  return .ok .nothing

/-- Applies a control to a driver in the given state. -/
def controlOn (session : Session ι ω) (s : Simulator) : Control → Act (Scene ι ω) Outcome
  | .failOn op occurrence =>
    session.command ((op.map fun op => Simulator.failOn op occurrence).getD id)
  | .failAlways op => session.command ((op.map Simulator.failAlways).getD id)
  | .clearFailures => session.command Simulator.clearFailures
  | .failToken op message =>
    session.command ((op.map fun op => Simulator.failToken op message).getD id)
  | .clearCalls => do
    modify (session.changeStage fun stage => { stage with mark := 0 })
    session.command Simulator.clearCalls
  | .callCount op => return .ok (.number ((op.map s.callCount).getD 0))
  | .operations => return .ok (.texts (s.calls.reverse.map (·.operation.name)))
  | .available => return .ok (.number s.available)
  | .isMapped r => return .ok (.flag (s.isMapped r))
  | .resourceBytes r offset count =>
    match s.bytes? r with
    | some bytes => return .ok (.bytes (.of bytes offset count))
    | none => return .ok .nothing
  | .describe => return .ok (.text s.describe)

/-- The answer to a common step when there is no driver. -/
def noDriver : Outcome := .error (.unusable "no driver installed")

def control (session : Session ι ω) (c : Control) : Act (Scene ι ω) Outcome := do
  match session.driver? (← get) with
  | none => return noDriver
  | some s => session.controlOn s c

/-- The value of a driver's answer. The address of a new mapping is seen. -/
def valueOf (session : Session ι ω) : Answer → Act (Scene ι ω) Value
  | .done => return .nothing
  | .count n => return .number n
  | .info i => return .info i
  | .made k i => return .ident k i
  | .status s => return .status s
  | .view r v => do
    let moved := (session.stage (← get).host).moved? r v.moves
    modify (session.changeStage fun stage => stage.see r v.moves)
    return .view v.pitch moved

def call [Reentry (List (Step ι)) ω] (session : Session ι ω) (r : Request) :
    Act (Scene ι ω) Outcome := do
  match session.serial? (← get) with
  | none => return noDriver
  | some serial =>
    match ← Machine.withPlatform serial (Machine.tryDrive r.command) with
    | .error e => return .error (.driver e)
    | .ok answer =>
      modify (session.changeStage fun stage => stage.noteMapping r)
      return .ok (← session.valueOf answer)

/-- Writes through a mapping that a step made. -/
def poke (session : Session ι ω) (r : Ident .resource) (offset : Nat) (data : Bytes) :
    Act (Scene ι ω) Outcome := do
  let m ← get
  let bytes := ((session.driver? m).bind fun s => s.bytes? r).getD .empty
  if !(session.stage m.host).mapped.contains r then
    return .error (.unusable "not mapped")
  else if offset + data.length > bytes.size then
    return .error (.unusable "out of range")
  else
    session.command (Memory.changed r fun old => old.writeAt offset data)

def setHook (session : Session ι ω) (op : Option Operation) (steps : List (Step ι)) :
    Act (Scene ι ω) Outcome := do
  match session.serial? (← get) with
  | none => return noDriver
  | some serial =>
    Machine.withPlatform serial <| modify <| Machine.onPlatform fun p =>
      { p with hooks := p.hooks ++ (op.map fun op => (op, steps)).toList }
    return .ok .nothing

/-! ## Playing -/

def take [Reentry (List (Step ι)) ω] (session : Session ι ω) : Step ι → Act (Scene ι ω) Outcome
  | .own i => session.perform i
  | .control c => session.control c
  | .driver (.call r) => session.call r
  | .driver (.poke r offset data) => session.poke r offset data
  | .hook op steps => session.setHook op steps
  | .cutOff reason => Act.cutOff reason

/-- Takes a step; being cut off is an answer. -/
def takeWhole [Reentry (List (Step ι)) ω] (session : Session ι ω) (step : Step ι) :
    Act (Scene ι ω) Outcome := do
  match ← (session.take step).observe with
  | .ok outcome => return outcome
  | .error abort => return .error (.cutOff abort.reason)

/-- Records the answers of a hook's steps. -/
def report (session : Session ι ω) (op : Operation) (outcomes : List Outcome) :
    Act (Scene ι ω) Unit :=
  modify (session.changeStage fun stage =>
    { stage with reports := stage.reports ++ [⟨op, outcomes⟩] })

def playHook [Reentry (List (Step ι)) ω] (session : Session ι ω) (op : Operation) :
    List (Step ι) → List Outcome → Act (Scene ι ω) Unit
  | [], outcomes => session.report op outcomes
  | .cutOff reason :: _, outcomes => do
    session.report op outcomes
    Act.cutOff reason
  | step :: rest, outcomes => do
    let outcome ← session.takeWhole step
    playHook session op rest (outcomes ++ [outcome])

/-- What hooks do, nested as deeply as the fuel allows. -/
def runHook (session : Session ι ω) :
    Nat → Operation → List (Step ι) → Act (Scene ι ω) Unit
  | 0, _, _ => pure ()
  | fuel + 1, op, steps => @playHook ι ω ⟨session.runHook fuel⟩ session op steps []

/-- Takes one step of the scenario itself, and all that is known of it afterwards. -/
def playStep (session : Session ι ω) (fuel : Nat) (step : Step ι) :
    Act (Scene ι ω) StepReport := do
  modify fun m => session.changeStage (fun stage =>
    { stage with reports := [], mark := ((session.driver? m).map (·.calls.length)).getD 0 })
    { m with journal := [] }
  let outcome ← @takeWhole ι ω ⟨session.runHook fuel⟩ session step
  let m ← get
  let stage := session.stage m.host
  return {
    outcome
    driver := (session.driver? m).map fun s => (s.calls.reverse.drop stage.mark, .of s)
    hooks := stage.reports
    events := m.journal }

def playAll (session : Session ι ω) (fuel : Nat) :
    List (Step ι) → Act (Scene ι ω) (List StepReport)
  | [] => pure []
  | step :: rest => do
    let r ← session.playStep fuel step
    let rs ← playAll session fuel rest
    return r :: rs

def play (session : Session ι ω) (start : Scene ι ω) (steps : List (Step ι)) :
    List StepReport :=
  match (session.playAll (hooksOf steps) steps).run.run start with
  | (.ok reports, _) => reports
  | (.error _, _) => []

end Session

end StreamCompute.Scenario
