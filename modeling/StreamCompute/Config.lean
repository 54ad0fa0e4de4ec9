/-
  StreamCompute.Config

  Settings of a runtime, and how they are read from environment variables. A
  variable that is unset or cannot be read leaves its setting alone.
-/
import StreamCompute.Data.Assoc
import StreamCompute.Journal
import StreamCompute.Text.Ascii
import StreamCompute.Text.Blank
import StreamCompute.Text.Duration
import StreamCompute.Text.Quoted
import StreamCompute.Text.Unsigned

namespace StreamCompute

/-- Environment variables with their values. -/
abbrev Environment := Assoc String String

/-- What is done between two polls of a completion token. -/
inductive PollStrategy
  | spin
  | yield
  | sleep (micros : Nat)
deriving DecidableEq, Repr

namespace PollStrategy

/-- Reads `spin`, `yield`, or `sleep:` and a number of microseconds, with
    blanks around it and in any case. -/
def read? (text : String) : Option PollStrategy :=
  let text := Text.lower (Text.trim text)
  if text = "spin" then some spin
  else if text = "yield" then some yield
  else if "sleep:".toList.isPrefixOf text.toList then
    (Text.readUnsigned 10 UInt64.size (text.toList.drop "sleep:".length)).map sleep
  else none

def describe : PollStrategy → String
  | spin => "Spin"
  | yield => "Yield"
  | sleep micros => s!"Sleep({Text.durationText (1000 * micros)})"

end PollStrategy

structure Config where
  entryPoint : String := "main"
  poll : PollStrategy := .yield
  /-- A wait is slow once it has been pending for longer than this. -/
  slowWaitSeconds : Nat := 60
  /-- Whether a register's name decides which way it is copied. -/
  conventions : Bool := true
deriving DecidableEq, Repr

namespace Config

def describe (c : Config) : String :=
  s!"RuntimeConfig \x7b entry_point: {Text.quoted c.entryPoint}, poll: {c.poll.describe}, " ++
    s!"slow_wait_warning: {Text.durationText (1000000000 * c.slowWaitSeconds)}, " ++
    s!"register_conventions: {c.conventions} \x7d"

/-- The entry point named by a variable that is not blank, without the blanks around it. -/
def entryPointOf (env : Environment) (old : String) : String :=
  match env.get? "CAL_RUNTIME_ENTRY_POINT" with
  | some text => if Text.isAllBlank text then old else Text.trim text
  | none => old

/-- The number of seconds named by a variable. -/
def slowWaitOf (env : Environment) (old : Nat) : Nat :=
  match env.get? "CAL_RUNTIME_SLOW_WAIT_SECS" with
  | some text => (Text.readUnsigned64 (Text.trim text)).getD old
  | none => old

/-- Only `false`, `no` and `0`, without blanks around them, turn the conventions off. -/
def conventionsOf (env : Environment) (old : Bool) : Bool :=
  match env.get? "CAL_RUNTIME_REGISTER_CONVENTIONS" with
  | some text =>
    !(Text.equalsIgnoringCase text "false" || text == "0" || Text.equalsIgnoringCase text "no")
  | none => old

/-- The settings that the environment asks for. A strategy that cannot be read
    is ignored with a warning. -/
def ofEnvironment {σ : Type} [Journaled σ] (env : Environment) : Act σ Config := do
  let base : Config := {}
  let poll ← match env.get? "CAL_RUNTIME_POLL" with
    | none => pure base.poll
    | some text =>
      match PollStrategy.read? text with
      | some poll => pure poll
      | none => do
        log (.warn "ignoring unrecognized CAL_RUNTIME_POLL" [("value", .text text)])
        pure base.poll
  return {
    entryPoint := entryPointOf env base.entryPoint
    poll := poll
    slowWaitSeconds := slowWaitOf env base.slowWaitSeconds
    conventions := conventionsOf env base.conventions }

end Config

end StreamCompute
