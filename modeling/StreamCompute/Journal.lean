/-
  StreamCompute.Journal

  Structured log events. An event has a level, a message, named fields, and,
  when it was emitted inside a span, the fields of that span. A state that
  keeps events is an instance of `Journaled`.
-/
import StreamCompute.Act

namespace StreamCompute

/-- Severity of an event, the most severe first. -/
inductive Level
  | warn
  | info
  | debug
  | trace
deriving DecidableEq, Repr

namespace Level

/-- Position in the order of severity. -/
def rank : Level → Nat
  | warn => 0
  | info => 1
  | debug => 2
  | trace => 3

/-- True when an event of level `l` is kept by a journal that asks for `limit`. -/
def admits (limit l : Level) : Bool :=
  l.rank ≤ limit.rank

end Level

/-- Value of a field. A real number is given by the bits of its double. -/
inductive Field
  | text (s : String)
  | nat (n : Nat)
  | real (bits : UInt64)
deriving DecidableEq, Repr

/-- Named values in the order in which they were given. -/
abbrev Fields := List (String × Field)

structure Event where
  level : Level
  message : Option String
  fields : Fields := []
  span : Option Fields := none
deriving DecidableEq, Repr

namespace Event

def warn (message : String) (fields : Fields) : Event :=
  ⟨.warn, some message, fields, none⟩

def info (message : String) (fields : Fields) : Event :=
  ⟨.info, some message, fields, none⟩

def debug (message : String) (fields : Fields) : Event :=
  ⟨.debug, some message, fields, none⟩

def trace (message : String) (fields : Fields) : Event :=
  ⟨.trace, some message, fields, none⟩

def inside (e : Event) (span : Fields) : Event :=
  { e with span := some span }

end Event

/-- States that keep the events emitted so far. -/
class Journaled (σ : Type) where
  record : Event → σ → σ

instance : Journaled (List Event) where
  record e es := es ++ [e]

def log {σ : Type} {m : Type → Type} [Journaled σ] [MonadState σ m] (e : Event) : m Unit :=
  modify (Journaled.record e)

end StreamCompute
