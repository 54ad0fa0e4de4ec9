/-
  StreamCompute.Tracing.Directive

  The grammar of filter directives. A filter is a list of directives with
  commas between; empty ones do not count. A directive is a level, or a
  target, or a target with a span in brackets, each optionally followed by an
  equals sign and a level:

      level | target? ('[' span ('{' field '}')? ']')? ('=' level)?

  A field is a name, or a name, an equals sign and a value. A value is a
  number or a pattern.

  Blanks around a directive are skipped while it is scanned, but positions
  found that way are positions of the directive with its blanks. So a level
  with a blank after it is not a level, blanks in front shift what is read,
  and reading is cut off when a shifted position is inside a character.
-/
import StreamCompute.Text.Real
import StreamCompute.Text.Slice
import StreamCompute.Text.Unsigned
import StreamCompute.Tracing.Pattern

namespace StreamCompute.Tracing

/-- Why a filter is refused. -/
inductive DirectiveError
  /-- It is not of the form of a directive. -/
  | malformed
  | level
  /-- The value of a field is neither a number nor a pattern. -/
  | field (error : PatternError)
deriving DecidableEq, Repr

namespace DirectiveError

def message : DirectiveError → String
  | malformed => "invalid filter directive"
  | level =>
    "error parsing level filter: expected one of \"off\", \"error\", \"warn\", \"info\", " ++
      "\"debug\", \"trace\", or a number 0-5"
  | field error => s!"invalid field filter: {error.message}"

end DirectiveError

/-- Reading that may be refused and may be cut off. -/
abbrev Reads := ExceptT DirectiveError (Except Abort)

def levelNames : List String := ["off", "error", "warn", "info", "debug", "trace"]

/-- A level is a number from 0 to 5 or a name in any case. -/
def isLevel (text : String) : Bool :=
  (Text.readUnsigned64 text).any (· ≤ 5) || levelNames.any (Text.equalsIgnoringCase text)

/-- Why a field is refused, if it is. The value stands between the first and the second
    equals sign; what follows the second one does not count. -/
def fieldRefusal? (field : List Char) : Option DirectiveError :=
  match Text.splitAtEach (· == '=') field with
  | _ :: value :: _ => if Text.isReal value then none else (Pattern.refusal? value).map .field
  | _ => if field.isEmpty then some .malformed else none

/-- Where the scan of a directive stands. -/
inductive Scan
  | start
  | word
  | span (begun : Nat)
  | field (begun : Nat)
  | fields
  | target
  | level (begun : Nat)
deriving DecidableEq, Repr

/-- The characters that a directive may start with, apart from a bracket. -/
def startsWord (c : Char) : Bool :=
  c == '-' || c == ':' || c == '_' || Text.isAlphanumeric c

/-- The part of a directive between two positions. -/
def part (directive : List Char) (first last : Nat) : Reads (List Char) :=
  liftM (Text.slice directive first last)

def Scan.step (directive : List Char) (position : Nat) (c : Char) : Scan → Reads Scan
  | start =>
    if c = '[' then pure (span (position + 1))
    else if startsWord c then pure word
    else throw .malformed
  | word => do
    if c = '=' || c = '[' then
      let _target ← part directive 0 position
      return if c = '=' then level (position + 1) else span (position + 1)
    return word
  | span begun => do
    if c = ']' || c = '\x7b' then
      let _name ← part directive begun position
      return if c = ']' then target else field (position + 1)
    return span begun
  | field begun => do
    if c = '\x7d' then
      match fieldRefusal? (← part directive begun position) with
      | some e => throw e
      | none => return fields
    return field begun
  | fields => if c = ']' then pure target else throw .malformed
  | target => if c = '=' then pure (level (position + 1)) else throw .malformed
  | level begun => pure (level begun)

/-- The scan of characters from a position on; positions count octets. -/
def Scan.run (directive : List Char) : List Char → Nat → Scan → Reads Scan
  | [], _, s => pure s
  | c :: rest, position, s => do
    let next ← s.step directive position c
    run directive rest (position + c.utf8Size) next

def readDirective (directive : List Char) : Reads Unit := do
  match ← Scan.run directive (Text.trimChars directive) 0 .start with
  | .word => return
  | .target => return
  | .level begun =>
    let level ← part directive begun (Text.octets directive)
    if level.isEmpty || isLevel (String.ofList level) then return
    throw .level
  | _ => throw .malformed

def directivesOf (filter : String) : List (List Char) :=
  (Text.splitAtEach (· == ',') filter.toList).filter fun d => !d.isEmpty

/-- Reads a filter; the first directive that is refused counts. -/
def readFilter (filter : String) : Reads Unit :=
  (directivesOf filter).forM readDirective

/-- Reads a filter and passes over the directives that are refused. -/
def readLeniently (filter : String) : Reads Unit :=
  (directivesOf filter).forM fun d => tryCatch (readDirective d) fun _ => pure ()

end StreamCompute.Tracing
