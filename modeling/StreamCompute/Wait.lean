/-
  StreamCompute.Wait

  Waiting for completion by polling.

  A wait looks at the clock when it starts and after every poll. The clock is
  not part of the program: it is some function of the state, of which nothing
  is supposed. A pending poll ends the wait if its limit has passed by then, so
  a limit of zero ends it at the first one. A wait that has become slow is
  reported, and again whenever another while has passed.
-/
import StreamCompute.Machine
import StreamCompute.Tracing.Performance

namespace StreamCompute

/-- How a wait ended, and after how many polls. -/
inductive WaitOutcome
  | completed (polls : Nat)
  | timedOut (polls : Nat)
deriving DecidableEq, Repr

namespace WaitOutcome

def polls : WaitOutcome → Nat
  | completed n => n
  | timedOut n => n

end WaitOutcome

/-- When a wait that is pending counts as slow. -/
structure Waiter where
  slowAfterSeconds : Nat
deriving DecidableEq, Repr

namespace Waiter

def ofConfig (c : Config) : Waiter := ⟨c.slowWaitSeconds⟩

def nanosPerSecond : Nat := 1000000000

/-- A slow wait is reported again when this has passed. -/
def repeatSeconds : Nat := 30

def slowEvent (operation : String) (seconds polls : Nat) : Event :=
  .warn "completion still pending"
    [("operation", .text operation), ("elapsed_secs", .nat seconds), ("polls", .nat polls)]

/-- Whether a wait that started then is to be reported as slow now, if it was
    last reported at the given time. -/
def slow (w : Waiter) (started now : Nat) (reported : Option Nat) : Bool :=
  w.slowAfterSeconds * nanosPerSecond < now - started &&
    reported.all (repeatSeconds * nanosPerSecond < now - ·)

variable {σ : Type} [Journaled σ]

/-- Polls until the check answers, after `polls` polls so far. The clock shows
    nanoseconds, the limit is in microseconds. The fuel bounds the number of
    polls; a wait that runs out of it counts as timed out. -/
def pollOn (w : Waiter) (clock : σ → Nat) (operation : String)
    (check : Fallible DriverError σ Bool) (limit : Option Nat) (started : Nat) :
    Nat → Nat → Option Nat → Fallible DriverError σ WaitOutcome
  | 0, polls, _ => pure (.timedOut polls)
  | fuel + 1, polls, reported => do
    let done ← check
    let now := clock (← get)
    if done then
      log (Performance.waited operation (polls + 1) ((now - started) / 1000))
      return .completed (polls + 1)
    else if limit.any (· * 1000 ≤ now - started) then
      return .timedOut (polls + 1)
    else if w.slow started now reported then
      log (slowEvent operation ((now - started) / nanosPerSecond) (polls + 1))
      pollOn w clock operation check limit started fuel (polls + 1) (some now)
    else
      pollOn w clock operation check limit started fuel (polls + 1) reported

/-- Polls the check, at most `fuel` times. -/
def wait (w : Waiter) (clock : σ → Nat) (operation : String)
    (check : Fallible DriverError σ Bool) (limit : Option Nat) (fuel : Nat) :
    Fallible DriverError σ WaitOutcome := do
  pollOn w clock operation check limit (clock (← get)) fuel 0 none

end Waiter

namespace Completion

variable {κ ω : Type} [Reentry κ ω]

/-- Asks a token whether its work is done. An error that the token reports is
    one of the entry point that made it. -/
def check (op : Operation) (context : Ident .context) (event : Ident .event) :
    Drive κ ω Bool := do
  match ← Machine.drive (Simulator.queryEvent context event) with
  | .pending => return false
  | .done => return true
  | .failed message => throw ⟨op.name, message⟩

/-- The greatest number of polls that a token can take. -/
def pollsLeft (s : Simulator) (event : Ident .event) : Nat :=
  match s.tokens.get? event with
  | some t => t.pending + 1
  | none => 1

def wait (w : Waiter) (op : Operation) (context : Ident .context) (event : Ident .event)
    (limit : Option Nat) : Drive κ ω WaitOutcome := do
  w.wait (·.platform.driver.now) op.name (check op context event) limit
    (pollsLeft (← get).platform.driver event)

/-- Copies between memory objects and waits until it is done. -/
def copy (w : Waiter) (context : Ident .context) (source target : Ident .memory) :
    Drive κ ω Unit := do
  let event ← Machine.drive (Simulator.copyMemory context source target)
  let _ ← wait w .copyMemory context event none

end Completion

end StreamCompute
