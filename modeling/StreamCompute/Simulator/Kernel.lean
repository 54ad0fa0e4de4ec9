/-
  StreamCompute.Simulator.Kernel

  Kernels. A kernel is a function from the domain and the contents of the
  bound registers to new contents of the same lengths. It finds registers by
  their names, so it cannot tell in which order they were bound; a `Kernel`
  carries the proofs of both.

  `Action` is a small language of kernels; a list of actions is run in order,
  and an action that names a register that is not bound does nothing.
-/
import StreamCompute.Data.Assoc
import StreamCompute.Data.Bytes
import StreamCompute.Extent
import StreamCompute.Text.Utf8

namespace StreamCompute

/-- Bound registers with their contents. -/
abbrev Registers := Assoc String Bytes

/-- The effect of a kernel on the registers. -/
structure Kernel where
  apply : Domain → Registers → Registers
  /-- The order of the registers makes no difference. -/
  extensional : ∀ d regs regs', regs.keys.Nodup → regs'.keys.Nodup →
    (∀ name, regs.get? name = regs'.get? name) →
    ∀ name, (apply d regs).get? name = (apply d regs').get? name
  lengths : ∀ d regs name, regs.keys.Nodup →
    ((apply d regs).get? name).map List.length = (regs.get? name).map List.length

namespace Kernel

def idle : Kernel where
  apply _ regs := regs
  extensional _ _ _ _ _ hsame := hsame
  lengths _ _ _ _ := rfl

/-- One step of a kernel. Each writes to the start of register `target`. -/
inductive Action
  /-- Sets every byte. -/
  | fill (target : String) (value : Nat)
  /-- Copies the bytes of `source`. -/
  | copy (source target : String)
  /-- Adds to each whole 32-bit number of `source`. -/
  | add (source target : String) (value : Nat)
  /-- Writes the names of the bound registers, sorted, with commas between. -/
  | names (target : String)
  /-- Writes the four numbers of the domain. -/
  | domain (target : String)
deriving DecidableEq, Repr

namespace Action

/-- The register that is written. -/
def target : Action → String
  | fill t _ => t
  | copy _ t => t
  | add _ t _ => t
  | names t => t
  | domain t => t

def sortedNames (regs : Registers) : List String :=
  regs.keys.mergeSort fun a b => decide (a ≤ b)

/-- The bytes that an action computes for a target with contents `old`, unless
    its source is not bound. -/
def output? (d : Domain) (regs : Registers) (old : Bytes) : Action → Option Bytes
  | fill _ value => some (List.replicate old.length (value % 256).toUInt8)
  | copy source _ => regs.get? source
  | add source _ value => (regs.get? source).map (Bytes.mapWords (· + value))
  | names _ => some (Text.encodeUtf8 (String.intercalate "," (sortedNames regs)))
  | domain _ =>
    some (Bytes.word32 d.x ++ Bytes.word32 d.y ++ Bytes.word32 d.width ++ Bytes.word32 d.height)

def run (d : Domain) (regs : Registers) (a : Action) : Registers :=
  match regs.get? a.target with
  | none => regs
  | some old =>
    match a.output? d regs old with
    | none => regs
    | some new => regs.set a.target (Bytes.overwrite old new)

variable {d : Domain} {regs regs' : Registers}

theorem nodup_keys_run (a : Action) (h : regs.keys.Nodup) : (a.run d regs).keys.Nodup := by
  unfold run
  split
  · exact h
  · split
    · exact h
    · exact Assoc.nodup_keys_set h

theorem length_get?_run (a : Action) (name : String) :
    ((a.run d regs).get? name).map List.length = (regs.get? name).map List.length := by
  unfold run
  split
  · rfl
  · rename_i old hold
    split
    · rfl
    · rw [Assoc.get?_set]
      split
      · rename_i heq
        rw [← heq, hold, Option.map_some, Option.map_some, Bytes.length_overwrite]
      · rfl

/-- Sorted names do not depend on the order of the registers. -/
theorem sortedNames_congr (h : regs.keys.Nodup) (h' : regs'.keys.Nodup)
    (hsame : ∀ name, regs.get? name = regs'.get? name) : sortedNames regs = sortedNames regs' := by
  have hkeys : regs.keys.Perm regs'.keys := by
    rw [List.perm_ext_iff_of_nodup h h']
    intro name
    rw [Assoc.mem_keys_iff, Assoc.mem_keys_iff, hsame]
  have hsorted (l : List String) :
      (l.mergeSort fun a b => decide (a ≤ b)).Pairwise fun a b => decide (a ≤ b) = true := by
    refine List.pairwise_mergeSort (fun a b c hab hbc => ?_) (fun a b => ?_) l
    · exact decide_eq_true (String.le_trans (of_decide_eq_true hab) (of_decide_eq_true hbc))
    · simpa using String.le_total a b
  refine List.Perm.eq_of_pairwise (fun a b _ _ hab hba => ?_) (hsorted _) (hsorted _)
    ((List.mergeSort_perm ..).trans (hkeys.trans (List.mergeSort_perm ..).symm))
  exact String.le_antisymm (of_decide_eq_true hab) (of_decide_eq_true hba)

theorem get?_run_congr (a : Action) (h : regs.keys.Nodup) (h' : regs'.keys.Nodup)
    (hsame : ∀ name, regs.get? name = regs'.get? name) (name : String) :
    (a.run d regs).get? name = (a.run d regs').get? name := by
  have houtput : ∀ old, a.output? d regs old = a.output? d regs' old := by
    intro old
    cases a with
    | fill target value => rfl
    | copy source target => exact hsame source
    | add source target value => simp only [output?, hsame source]
    | names target => simp only [output?, sortedNames_congr h h' hsame]
    | domain target => rfl
  unfold run
  rw [← hsame a.target]
  split
  · exact hsame name
  · rw [← houtput]
    split
    · exact hsame name
    · rw [Assoc.get?_set, Assoc.get?_set, hsame name]

end Action

def ofActions (actions : List Action) : Kernel where
  apply d regs := actions.foldl (Action.run d) regs
  extensional d regs regs' h h' hsame := by
    induction actions generalizing regs regs' with
    | nil => exact hsame
    | cons a rest ih =>
      exact ih _ _ (a.nodup_keys_run h) (a.nodup_keys_run h') (a.get?_run_congr h h' hsame)
  lengths d regs name h := by
    induction actions generalizing regs with
    | nil => rfl
    | cons a rest ih => exact (ih _ (a.nodup_keys_run h)).trans (a.length_get?_run name)

end Kernel

end StreamCompute
