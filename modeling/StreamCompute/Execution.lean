/-
  StreamCompute.Execution

  Executions in flight. An execution owns its context, its module and all that
  its launch wrote down in its arena. Joining it waits for the kernel and then
  takes everything down in a fixed order:

  1. results are copied back to the remote resources,
  2. memory objects are released,
  3. the module is unloaded and the context destroyed,
  4. resources made for the launch are freed,
  5. remote resources are mapped again and the claims on them given back.

  Every step is taken whatever became of the others; the first failure is the
  answer.
-/
import StreamCompute.Binding.Arena

namespace StreamCompute

structure Execution where
  /-- The platform that it runs on. -/
  home : Nat
  id : ExecutionId
  context : Ident .context
  module : Ident .module
  event : Ident .event
  waiter : Waiter
deriving DecidableEq, Repr

/-- What is known of an execution that has ended well. -/
structure Summary where
  execution : ExecutionId
  polls : Nat
  /-- Registers whose remote resource was mapped again. -/
  remapped : List String
  /-- Registers whose results were copied back. -/
  copiedOut : List String
deriving DecidableEq, Repr

namespace Execution

variable {κ ω : Type}

/-- The execution among those of all platforms. -/
def key (e : Execution) : ExecutionKey := (e.home, e.id)

def progress (m : Machine κ ω) (e : Execution) : Progress :=
  (m.progress.get? e.key).getD {}

def onProgress (e : Execution) (f : Progress → Progress) (m : Machine κ ω) : Machine κ ω :=
  { m with progress := m.progress.set e.key (f (e.progress m)) }

def arena (m : Machine κ ω) (e : Execution) : Arena :=
  (m.arenas.get? e.key).getD { context := e.context }

def describe (m : Machine κ ω) (e : Execution) : String :=
  s!"ExecutionHandle \x7b id: ExecutionId({e.id.number}), " ++
    s!"context: ContextId({e.context.number}), module: ModuleId({e.module.number}), " ++
    s!"event: EventId({e.event.number}), polls: {(e.progress m).polls} \x7d"

/-- The event that an execution was lost without being joined, with the number
    of things that it still held. -/
def lost (e : Execution) (held : Nat) : Event :=
  .warn "execution handle dropped without join; device resources leaked"
    [("execution", .text e.id.text), ("context", .text e.context.text), ("resources", .nat held)]

/-- Records that an execution is given up while it holds everything it acquired. -/
def abandoned (e : Execution) (m : Machine κ ω) : Machine κ ω :=
  Journaled.record (e.lost (e.arena m).acquired.length) m

variable [Reentry κ ω]

/-- Asks once whether the kernel is done. The poll counts whatever the answer is. -/
def isComplete (e : Execution) : Task κ ω Bool := do
  if (e.progress (← get)).done then return true
  else
    modify (e.onProgress fun p => { p with polls := p.polls + 1 })
    let done ← (Completion.check .runProgram e.context e.event).mapError .execution
    modify (e.onProgress fun p => { p with done })
    return done

/-! ## Taking down -/

/-- Logs the error of a step that failed. -/
def noting {α : Type} (step : Task κ ω α) : Task κ ω α := do
  match ← Fallible.perform step.attempt with
  | .ok a => return a
  | .error e =>
    log (.warn "finalize step failed" [("error", .text e.message)])
    throw e

/-- Takes the step for every item, whatever becomes of the others. The answers
    that were given, and the first error, counting one from before. -/
def attemptAll {α β : Type} (step : α → Task κ ω β) :
    List α → Option Error → Act (Machine κ ω) (List β × Option Error)
  | [], first => pure ([], first)
  | a :: rest, first => do
    match ← (noting (step a)).attempt with
    | .ok b =>
      let (bs, first) ← attemptAll step rest first
      return (b :: bs, first)
    | .error e => attemptAll step rest (first.or (some e))

/-- Copies a register's results back. -/
def copyOut (e : Execution) (c : CopyRecord) : Task κ ω String := do
  (Completion.copy e.waiter e.context c.transientMemory c.remoteMemory).mapError .execution
  log (Performance.transfer (c.remote.size ((← get).status c.remote)) "D2H" 0)
  log (.debug "copied register back to host"
    [("register", .text c.register), ("local", .text c.transient.text),
      ("remote", .text c.remote.id.text)])
  return c.register

/-- Copies back every register that is copied out. -/
def copyAllOut (e : Execution) :
    List CopyRecord → Option Error → Act (Machine κ ω) (List String × Option Error)
  | [], first => pure ([], first)
  | c :: rest, first => do
    let answer ← (Performance.timed (Binder.copySpan "copy_out" c.register)
      (noting (copyOut e c))).attempt
    match answer with
    | .ok register =>
      let (registers, first) ← copyAllOut e rest first
      return (register :: registers, first)
    | .error err => copyAllOut e rest (first.or (some err))

/-- Unloads the module and destroys the context. -/
def dropContext (e : Execution) (first : Option Error) :
    Act (Machine κ ω) (Option Error) := do
  let (_, first) ← attemptAll
    (fun _ : Unit => Machine.driveAs .execution (Simulator.unloadModule e.context e.module))
    [()] first
  let (_, first) ← attemptAll
    (fun _ : Unit => Machine.driveAs .execution (Simulator.destroyContext e.context)) [()] first
  return first

/-- Maps a remote resource again for a register. -/
def remap (register : String) (r : Remote) : Task κ ω String := do
  (Memory.restore r).mapError (.binding register)
  log (.debug "re-mapped remote resource"
    [("register", .text register), ("remote", .text r.id.text)])
  return register

/-- Takes everything down. If the kernel failed, nothing is copied back and its
    failure is the answer. -/
def takeDown (e : Execution) (failure : Option Error) : Task κ ω Summary := do
  let arena := e.arena (← get)
  let outgoing := if failure.isSome then [] else arena.copies.filter (·.direction.copiesOut)
  let (copiedOut, first) ← Fallible.perform (copyAllOut e outgoing failure)
  let (_, first) ← Fallible.perform <| attemptAll
    (fun m => Machine.driveAs .execution (Simulator.releaseMemory e.context m)) arena.memories first
  let first ← Fallible.perform (dropContext e first)
  let (_, first) ← Fallible.perform <| attemptAll
    (fun t => Machine.driveAs (.binding t.1) (Simulator.freeResource t.2)) arena.transients first
  let (remapped, first) ← Fallible.perform <| attemptAll
    (fun u => remap u.1 u.2) arena.unmapped first
  arena.claims.forM fun r => modify (Memory.unclaimed r)
  modify (Machine.closeArena e.key)
  let polls := (e.progress (← get)).polls
  log (.debug "execution finalized" [("execution", .text e.id.text), ("polls", .nat polls)])
  match first with
  | some err => throw err
  | none => return { execution := e.id, polls, remapped, copiedOut }

/-- Takes everything down; if that is cut off, the execution is lost, and what
    it held is not accounted for any more. -/
def finalize (e : Execution) (failure : Option Error) : Task κ ω Summary :=
  ExceptT.mk (Act.onCutOff (takeDown e failure).run (Journaled.record (e.lost 0)))

/-! ## Joining -/

/-- Waits for the kernel; if that is cut off, the execution is lost. -/
def await (e : Execution) (limit : Option Nat) : Drive κ ω WaitOutcome :=
  ExceptT.mk <| Act.onCutOff
    (Performance.timed [("name", .text "join_wait"), ("execution", .nat e.id.number)]
      (Completion.wait e.waiter .runProgram e.context e.event limit)).run
    e.abandoned

/-- Waits for the kernel, at most as long as the limit says, and takes the
    execution down. None if the kernel is still running. -/
def joinWithin (e : Execution) (limit : Option Nat) : Task κ ω (Option Summary) := do
  if (e.progress (← get)).done then some <$> e.finalize none
  else
    match ← Fallible.perform (e.await limit).attempt with
    | .ok (.completed polls) =>
      modify (e.onProgress fun p => { polls := p.polls + polls, done := true })
      some <$> e.finalize none
    | .ok (.timedOut polls) =>
      modify (e.onProgress fun p => { p with polls := p.polls + polls })
      log (.debug "join timed out"
        [("execution", .text e.id.text), ("polls", .nat (e.progress (← get)).polls)])
      return none
    | .error err =>
      log (.warn "execution failed" [("execution", .text e.id.text), ("error", .text err.text)])
      some <$> e.finalize (some (.execution err))

/-- Waits for the kernel, however long it takes, and takes the execution down. -/
def join (e : Execution) : Task κ ω Summary := do
  match ← e.joinWithin none with
  | some summary => return summary
  | none => throw (.waitTimeout Operation.runProgram.name 0)

end Execution

end StreamCompute
