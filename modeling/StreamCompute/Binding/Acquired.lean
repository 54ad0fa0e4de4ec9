/-
  StreamCompute.Binding.Acquired

  What an execution holds. Everything that a launch acquires is written down
  in the arena of its execution, in order, and stays there until it is given
  back.
-/
import StreamCompute.Binding.Table

namespace StreamCompute

/-- Something that a launch has acquired. -/
inductive Acquired
  /-- The claim on a remote resource. -/
  | flight (remote : Remote)
  /-- The mapping of a remote resource, which was ended. -/
  | unmapped (register : String) (remote : Remote)
  | memory (memory : Ident .memory)
  /-- A resource in device memory, made for the launch. -/
  | transient (register : String) (resource : Ident .resource)
deriving DecidableEq, Repr

namespace Acquired

@[simp] def memory? : Acquired → Option (Ident .memory)
  | flight _ => none
  | unmapped .. => none
  | memory m => some m
  | transient .. => none

/-- The resource made for the launch, if it is one, with its register. -/
@[simp] def transient? : Acquired → Option (String × Ident .resource)
  | flight _ => none
  | unmapped .. => none
  | memory _ => none
  | transient register resource => some (register, resource)

/-- The remote resource whose mapping was ended, if it is that, with its register. -/
@[simp] def unmapped? : Acquired → Option (String × Remote)
  | flight _ => none
  | unmapped register r => some (register, r)
  | memory _ => none
  | transient .. => none

@[simp] def claim? : Acquired → Option Remote
  | flight r => some r
  | unmapped .. => none
  | memory _ => none
  | transient .. => none

end Acquired

/-- A register that is copied. -/
structure CopyRecord where
  register : String
  remote : Remote
  remoteMemory : Ident .memory
  transient : Ident .resource
  transientMemory : Ident .memory
  direction : Direction
deriving DecidableEq, Repr

/-- What an execution has acquired in its context so far, the oldest first. -/
structure Arena where
  context : Ident .context
  acquired : List Acquired := []
  copies : List CopyRecord := []
deriving DecidableEq, Repr

namespace Arena

def grown (a : Arena) (x : Acquired) : Arena :=
  { a with acquired := a.acquired ++ [x] }

/-- The arena without what was acquired last. -/
def shrunk (a : Arena) : Arena :=
  { a with acquired := a.acquired.dropLast }

/-- The arena with one more register copied. -/
def copying (a : Arena) (c : CopyRecord) : Arena :=
  { a with copies := a.copies ++ [c] }

def memories (a : Arena) : List (Ident .memory) :=
  a.acquired.filterMap Acquired.memory?

/-- The resources that were made for the execution, with their registers. -/
def transients (a : Arena) : List (String × Ident .resource) :=
  a.acquired.filterMap Acquired.transient?

/-- The remote resources that the launch unmapped, with their registers. -/
def unmapped (a : Arena) : List (String × Remote) :=
  a.acquired.filterMap Acquired.unmapped?

def claims (a : Arena) : List Remote :=
  a.acquired.filterMap Acquired.claim?

/-! ## Views of a changed arena -/

section Views

variable {a : Arena} {x : Acquired} {context : Ident .context}

@[simp] theorem context_grown : (a.grown x).context = a.context := rfl
@[simp] theorem copies_grown : (a.grown x).copies = a.copies := rfl

@[simp] theorem memories_empty : ({ context } : Arena).memories = [] := rfl
@[simp] theorem transients_empty : ({ context } : Arena).transients = [] := rfl
@[simp] theorem unmapped_empty : ({ context } : Arena).unmapped = [] := rfl
@[simp] theorem claims_empty : ({ context } : Arena).claims = [] := rfl

@[simp] theorem memories_grown : (a.grown x).memories = a.memories ++ x.memory?.toList := by
  cases x <;> simp [memories, grown]

@[simp] theorem transients_grown :
    (a.grown x).transients = a.transients ++ x.transient?.toList := by
  cases x <;> simp [transients, grown]

@[simp] theorem unmapped_grown : (a.grown x).unmapped = a.unmapped ++ x.unmapped?.toList := by
  cases x <;> simp [unmapped, grown]

@[simp] theorem claims_grown : (a.grown x).claims = a.claims ++ x.claim?.toList := by
  cases x <;> simp [claims, grown]

theorem mem_claims_flight {r r' : Remote} :
    r' ∈ (a.grown (.flight r)).claims ↔ r' ∈ a.claims ∨ r' = r := by
  simp

/-- Taking back the last thing acquired undoes acquiring it. -/
@[simp] theorem shrunk_grown : (a.grown x).shrunk = a := by
  simp [grown, shrunk]

end Views

end Arena

end StreamCompute
