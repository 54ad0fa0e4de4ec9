/-
  StreamCompute.Tracing.Performance

  Timing of operations. A span is started when an operation begins and
  finished when it ends; finishing reports the span unless it was shorter
  than its threshold. A span that has no threshold of its own takes the one
  that is set for the whole process at the moment it starts.

  The process-wide threshold is kept in one 64-bit word, of which the greatest
  value stands for "none".
-/
import StreamCompute.Journal

namespace StreamCompute.Performance

/-- The word that stands for "no threshold". -/
def noThreshold : Nat := UInt64.size - 1

structure Settings where
  enabled : Bool := true
  /-- The least reported duration in microseconds, or `noThreshold`. -/
  thresholdWord : Nat := noThreshold
deriving DecidableEq, Repr

namespace Settings

/-- Spans are reported whatever they took. -/
def initial : Settings := {}

def configured (enabled : Bool) (threshold : Option Nat) : Settings :=
  { enabled := enabled, thresholdWord := threshold.getD noThreshold }

def threshold? (s : Settings) : Option Nat :=
  if s.thresholdWord = noThreshold then none else some s.thresholdWord

end Settings

/-- A started span: what is reported with it, unless it is inert, and its threshold. -/
structure Span where
  fields : Option Fields
  threshold : Option Nat
deriving DecidableEq, Repr

/-- Starts a span; `own` is its own threshold. It is inert where spans are off. -/
def start (s : Settings) (fields : Fields) (own : Option Nat) : Span :=
  { fields := if s.enabled then some fields else none
    threshold := own.or s.threshold? }

/-- The report of a span that took this many microseconds, if it gives one. -/
def Span.finish (span : Span) (micros : Nat) : Option Event :=
  match span.fields with
  | none => none
  | some fields =>
    if span.threshold.all (· ≤ micros) then
      some ((Event.debug "performance_span_complete" []).inside fields)
    else none

def named (name : String) : Fields :=
  [("name", .text name)]

/-- Megabytes per second, as the bits of a double; zero for no time at all. -/
def bandwidth (bytes micros : Nat) : UInt64 :=
  if micros = 0 then (0.0 : Float).toBits
  else ((bytes.toUInt64.toFloat / micros.toUInt64.toFloat) * 1000000.0 / (1024.0 * 1024.0)).toBits

/-- The report of a transfer between host and device. -/
def transfer (bytes : Nat) (direction : String) (micros : Nat) : Event :=
  .debug "data_transfer"
    [("event", .text "transfer"), ("bytes", .nat bytes), ("direction", .text direction),
      ("duration_us", .nat micros), ("bandwidth_mbps", .real (bandwidth bytes micros))]

def waited (operation : String) (polls micros : Nat) : Event :=
  .debug "completion_observed"
    [("event", .text "wait"), ("operation", .text operation), ("polls", .nat polls),
      ("duration_us", .nat micros)]

def marked (name register : String) (bytes : Nat) : Event :=
  ⟨.debug, none, [("event", .text name), ("register", .text register), ("bytes", .nat bytes)], none⟩

variable {σ α ε : Type} [Journaled σ]

/-- Records the report of a span that ends now, if it gives one. The clock of a
    state does not move, so every span takes no time. -/
def close (span : Span) (s : σ) : σ :=
  match span.finish 0 with
  | some e => Journaled.record e s
  | none => s

/-- Runs the act inside a span, which is finished however the act ends. -/
def timed (fields : Fields) (act : Fallible ε σ α) : Fallible ε σ α :=
  act.ensuring (close (start .initial fields none))

end StreamCompute.Performance
