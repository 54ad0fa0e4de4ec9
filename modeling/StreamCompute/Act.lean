/-
  StreamCompute.Act

  The two monads in which the library's effects are written.

  * `Act σ` reads and writes a state and may be cut off. The state survives a
    cut: what was done before it stays done.
  * `Fallible ε σ` is an `Act σ` that answers with a value or an error. The
    state survives an error too.

  An error is an answer, so callers may look at it and go on; a cut ends every
  call up to the one that observes it with `Act.observe`.
-/

namespace StreamCompute

/-- Why a call was cut off before it could answer. -/
structure Abort where
  reason : String
deriving DecidableEq, Repr

/-- State that survives being cut off. -/
abbrev Act (σ : Type) := ExceptT Abort (StateM σ)

/-- An act that answers with a value or an error. -/
abbrev Fallible (ε σ : Type) := ExceptT ε (Act σ)

namespace Act

variable {σ τ α β : Type}

def cutOff (reason : String) : Act σ α :=
  throw ⟨reason⟩

/-- Runs the act and changes the state once more, however the act ended. -/
def ensuring (act : Act σ α) (after : σ → σ) : Act σ α :=
  fun s =>
    let (r, s) := act s
    (r, after s)

/-- Runs the act and changes the state once more if it was cut off. -/
def onCutOff (act : Act σ α) (after : σ → σ) : Act σ α :=
  fun s =>
    match act s with
    | (.ok a, s) => (.ok a, s)
    | (.error reason, s) => (.error reason, after s)

/-- Runs the act and makes being cut off an answer. -/
def observe (act : Act σ α) : Act σ (Except Abort α) :=
  fun s =>
    let (r, s) := act s
    (.ok r, s)

def within (part : σ → τ) (put : τ → σ → σ) (act : Act τ α) : Act σ α :=
  fun s =>
    let (r, t) := act (part s)
    (r, put t s)

end Act

/-! ## Bounded products -/

section Products

variable {m : Type → Type} [Monad m] [MonadExceptOf Abort m]

/-- The product, cut off when it is not below the bound. -/
def mulBelow (bound a b : Nat) : m Nat :=
  if a * b < bound then pure (a * b)
  else throwThe Abort ⟨"attempt to multiply with overflow"⟩

def mul32 (a b : Nat) : m Nat :=
  mulBelow UInt32.size a b

def mul64 (a b : Nat) : m Nat :=
  mulBelow UInt64.size a b

end Products

namespace Fallible

variable {ε ε' σ τ α : Type}

/-- The answer, value or error, as a value. -/
def attempt (act : Fallible ε σ α) : Act σ (Except ε α) :=
  act.run

/-- An act that has no error to answer with. -/
def perform (act : Act σ α) : Fallible ε σ α :=
  ExceptT.mk (Except.ok <$> act)

/-- Gives an answer that was looked at. -/
def answer (r : Except ε α) : Fallible ε σ α :=
  ExceptT.mk (pure r)

/-- Answers with another error in place of each. -/
def mapError (f : ε → ε') (act : Fallible ε σ α) : Fallible ε' σ α :=
  ExceptT.adapt f act

/-- Runs the act and changes the state once more, however the act ended. -/
def ensuring (act : Fallible ε σ α) (after : σ → σ) : Fallible ε σ α :=
  ExceptT.mk (Act.ensuring act.run after)

def within (part : σ → τ) (put : τ → σ → σ) (act : Fallible ε τ α) : Fallible ε σ α :=
  ExceptT.mk (Act.within part put act.run)

end Fallible

end StreamCompute
