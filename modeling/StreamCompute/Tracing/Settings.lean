/-
  StreamCompute.Tracing.Settings

  How log events are filtered and written: profiles, and what the environment
  changes in them.
-/
import StreamCompute.Config
import StreamCompute.Tracing.Directive

namespace StreamCompute.Tracing

/-- The form in which events are written. -/
inductive Output
  | pretty
  | compact
  | json
deriving DecidableEq, Repr

namespace Output

def name : Output → String
  | pretty => "pretty"
  | compact => "compact"
  | json => "json"

def ofName? (text : String) : Option Output :=
  [pretty, compact, json].find? fun o => o.name == text

def read? (text : String) : Option Output :=
  ofName? (Text.lower (Text.trim text))

end Output

/-- Moments in the life of a span that are reported. -/
inductive SpanEvent
  | new
  | enter
  | exit
  | close
deriving DecidableEq, Repr

namespace SpanEvent

def name : SpanEvent → String
  | new => "new"
  | enter => "enter"
  | exit => "exit"
  | close => "close"

end SpanEvent

structure Settings where
  /-- The filter, where one is asked for explicitly. -/
  directives : Option String := none
  /-- The filter where none is asked for. -/
  defaultDirective : String := "info"
  includeTargets : Bool := true
  ansi : Bool := true
  spanEvents : List SpanEvent := []
  output : Output := .pretty
  performance : Bool := true
  thresholdMicros : Option Nat := none
deriving DecidableEq, Repr

namespace Settings

/-- For work at a terminal. -/
def forLocal : Settings := {}

def forAutomation : Settings :=
  { ansi := false, output := .json, performance := false }

def forMeasuring : Settings :=
  { directives := some "cal_runtime=debug,cal_ffi=debug,cal_hostmem=debug"
    ansi := false
    spanEvents := [.enter, .exit, .close]
    output := .json }

/-- The profile with this name; any other name stands for the local one. -/
def profile (name : String) : Settings :=
  if name = "ci" then forAutomation
  else if name = "performance" then forMeasuring
  else forLocal

/-- The settings with another form of output. The structured form is never colored. -/
def withOutput (s : Settings) (o : Output) : Settings :=
  { s with output := o, ansi := if o = .json then false else s.ansi }

/-- True for `true`, `1` and `yes`, without blanks around them. -/
def isYes (text : String) : Bool :=
  Text.equalsIgnoringCase text "true" || text == "1" || Text.equalsIgnoringCase text "yes"

def filterOf (env : Environment) (old : Option String) : Option String :=
  match env.get? "CAL_TRACING_DIRECTIVES" with
  | some text => if Text.isAllBlank text then old else some text
  | none => old

/-- The settings with the form of output that a variable names. -/
def outputOf (env : Environment) (s : Settings) : Settings :=
  match (env.get? "CAL_TRACING_FORMAT").bind Output.read? with
  | some o => s.withOutput o
  | none => s

/-- Whether a variable turns measuring on or off. -/
def performanceOf (env : Environment) (old : Bool) : Bool :=
  match env.get? "CAL_PERF_TRACING" with
  | some text => isYes text
  | none => old

def thresholdOf (env : Environment) (old : Option Nat) : Option Nat :=
  match (env.get? "CAL_PERF_THRESHOLD_US").bind fun t => Text.readUnsigned64 (Text.trim t) with
  | some n => some n
  | none => old

def ofEnvironment (env : Environment) : Settings :=
  let base := profile (Text.lower ((env.get? "CAL_TRACING_PROFILE").getD "local"))
  let formatted := outputOf env { base with directives := filterOf env base.directives }
  { formatted with
    performance := performanceOf env formatted.performance
    thresholdMicros := thresholdOf env formatted.thresholdMicros }

/-- Reads the filter of the settings. One that is asked for explicitly must be in order.
    Otherwise a variable holds the filter, and where it is not set or not in order the default
    counts, as far as that is in order. -/
def readFilter (s : Settings) (env : Environment) : Reads Unit :=
  match s.directives, env.get? "RUST_LOG" with
  | some filter, _ => Tracing.readFilter filter
  | none, some filter =>
    tryCatch (Tracing.readFilter filter) fun _ => readLeniently s.defaultDirective
  | none, none => readLeniently s.defaultDirective

end Settings

end StreamCompute.Tracing
