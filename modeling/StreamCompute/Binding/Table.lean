/-
  StreamCompute.Binding.Table

  Tables that say what each register of a kernel is bound to. The entries are
  kept in the order of their register names, so that a table does not depend
  on the order in which it was filled. A register has at most one entry, and a
  table carries the proof of that.
-/
import StreamCompute.Remote

namespace StreamCompute

/-- Which way a copied register is copied: before the kernel runs, after it, both or neither. -/
inductive Direction
  | into
  | outOf
  | both
  | neither
deriving DecidableEq, Repr

namespace Direction

def globalBuffer : String := "g[]"

/-- The direction that a register's name stands for: the global buffer goes both
    ways, inputs start with `i` and outputs with `o`. -/
def ofRegister (register : String) : Direction :=
  if register = globalBuffer then both
  else
    match register.toList.head? with
    | some 'i' => into
    | some 'o' => outOf
    | _ => neither

/-- True when the remote bytes are copied in before the kernel runs. -/
def copiesIn : Direction → Bool
  | into => true
  | both => true
  | _ => false

/-- True when the results are copied out after the kernel ran. -/
def copiesOut : Direction → Bool
  | outOf => true
  | both => true
  | _ => false

def describe : Direction → String
  | into => "In"
  | outOf => "Out"
  | both => "InOut"
  | neither => "None"

def standard (conventions : Bool) (register : String) : Direction :=
  if conventions then ofRegister register else both

end Direction

/-- What a register is bound to. -/
inductive Binding
  /-- A remote resource, used in place. -/
  | direct (remote : Remote)
  /-- A resource in device memory, made for the launch and gone after it. -/
  | scratch (shape : Shape) (format : Format)
  /-- A remote resource, copied to device memory and back. -/
  | copied (remote : Remote) (direction : Option Direction)
deriving DecidableEq, Repr

namespace Binding

def remote? : Binding → Option Remote
  | direct r => some r
  | copied r _ => some r
  | scratch .. => none

end Binding

/-- The bindings of a launch, ordered by register. -/
structure BindingTable where
  entries : List (String × Binding) := []
  distinct : (entries.map Prod.fst).Nodup := by exact List.nodup_nil
deriving DecidableEq, Repr

namespace BindingTable

/-- The entries with a new one put in its place. -/
def insertSorted (register : String) (binding : Binding) :
    List (String × Binding) → List (String × Binding)
  | [] => [(register, binding)]
  | e :: rest =>
    if register < e.1 then (register, binding) :: e :: rest
    else e :: insertSorted register binding rest

def get? (t : BindingTable) (register : String) : Option Binding :=
  (t.entries.find? (·.1 == register)).map (·.2)

theorem insertSorted_perm (register : String) (binding : Binding)
    (entries : List (String × Binding)) :
    (insertSorted register binding entries).Perm ((register, binding) :: entries) := by
  induction entries with
  | nil => exact .refl _
  | cons e rest ih =>
    unfold insertSorted
    split
    · exact .refl _
    · exact (ih.cons e).trans (.swap ..)

theorem distinct_insertSorted {t : BindingTable} {register : String} (binding : Binding)
    (h : ¬ (t.get? register).isSome) :
    ((insertSorted register binding t.entries).map Prod.fst).Nodup := by
  have hnew : register ∉ t.entries.map Prod.fst := by
    intro hin
    obtain ⟨e, he, rfl⟩ := List.mem_map.mp hin
    simp only [get?, Option.isSome_map, List.find?_isSome, not_exists, not_and] at h
    exact h e he (beq_self_eq_true e.1)
  have hperm := (insertSorted_perm register binding t.entries).map Prod.fst
  exact hperm.nodup_iff.mpr (List.nodup_cons.mpr ⟨hnew, t.distinct⟩)

/-- The table with one more entry; a register can be bound only once. -/
def bind (t : BindingTable) (register : String) (binding : Binding) :
    Except Error BindingTable :=
  if h : (t.get? register).isSome then .error (.duplicateRegister register)
  else .ok ⟨insertSorted register binding t.entries, distinct_insertSorted binding h⟩

def size (t : BindingTable) : Nat := t.entries.length

/-- The bound registers in brackets. -/
def text (t : BindingTable) : String :=
  "[" ++ String.intercalate ", " (t.entries.map (·.1)) ++ "]"

def scratchRefusal? (info : DeviceInfo) (register : String) : Binding → Option Error
  | .scratch shape _ =>
    (shape.refusal? info).map fun detail => .invalidShape s!"register '{register}': {detail}"
  | _ => none

/-- Why the entries cannot be applied, given the statuses of the remote resources
    and those that earlier entries use; none if they can. -/
def refusal? (info : DeviceInfo) (status : Remote → RemoteStatus) :
    List (String × Binding) → List Remote → Option Error
  | [], _ => none
  | (register, binding) :: rest, seen =>
    match scratchRefusal? info register binding with
    | some e => some e
    | none =>
      match binding.remote? with
      | none => refusal? info status rest seen
      | some r =>
        if (status r).freed then some (.resourceFreed r.id)
        else if (status r).inFlight || seen.contains r then some (.resourceBusy r.id)
        else refusal? info status rest (seen ++ [r])

end BindingTable

end StreamCompute
