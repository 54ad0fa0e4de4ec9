/-
  StreamCompute.Text.Unsigned

  Reading unsigned numbers: an optional plus sign, then at least one digit of
  the base and nothing else, with a value below a given bound. There is no
  minus sign, no blank and no digit separator.
-/

namespace StreamCompute.Text

def digitBelow (base : Nat) (c : Char) : Option Nat :=
  if '0' ≤ c ∧ c ≤ '9' ∧ c.toNat - '0'.toNat < base then some (c.toNat - '0'.toNat) else none

/-- The value of a run of digits, most significant first. -/
def digitsValue (base : Nat) (cs : List Char) : Option Nat :=
  cs.foldlM (fun n c => (digitBelow base c).map (n * base + ·)) 0

/-- The digits after an optional plus sign. -/
def unsignedDigits : List Char → List Char
  | '+' :: cs => cs
  | cs => cs

/-- The number that the characters spell in the base, if it is below the bound. -/
def readUnsigned (base bound : Nat) (cs : List Char) : Option Nat :=
  match unsignedDigits cs with
  | [] => none
  | ds =>
    match digitsValue base ds with
    | none => none
    | some n => if n < bound then some n else none

/-- A decimal number that fits in 64 bits. -/
def readUnsigned64 (s : String) : Option Nat :=
  readUnsigned 10 UInt64.size s.toList

/-! ## Small facts -/

/-- The digits of a base, which is ten at most. -/
def IsDigit (base : Nat) (c : Char) : Prop :=
  '0' ≤ c ∧ c ≤ '9' ∧ c.toNat - '0'.toNat < base

instance (base : Nat) (c : Char) : Decidable (IsDigit base c) :=
  inferInstanceAs (Decidable (_ ∧ _ ∧ _))

/-- The number that digits spell after those of `high`, most significant first. -/
def spelled (base : Nat) (ds : List Char) (high : Nat) : Nat :=
  ds.foldl (fun n d => n * base + (d.toNat - '0'.toNat)) high

theorem foldlM_digitBelow {base n high : Nat} {ds : List Char} :
    ds.foldlM (fun n c => (digitBelow base c).map (n * base + ·)) high = some n ↔
      (∀ d ∈ ds, IsDigit base d) ∧ n = spelled base ds high := by
  induction ds generalizing high with
  | nil => simp [spelled, eq_comm]
  | cons d ds ih =>
    by_cases hd : IsDigit base d
    · have hvalue : digitBelow base d = some (d.toNat - '0'.toNat) := if_pos hd
      simp [hvalue, hd, ih, spelled]
    · have hnone : digitBelow base d = none := if_neg hd
      simp [hnone, hd]

theorem readUnsigned_eq_some_iff {base bound n : Nat} {cs : List Char} :
    readUnsigned base bound cs = some n ↔ unsignedDigits cs ≠ [] ∧
      (∀ d ∈ unsignedDigits cs, IsDigit base d) ∧ n = spelled base (unsignedDigits cs) 0 ∧
        n < bound := by
  rw [← and_assoc (a := ∀ d ∈ _, _), ← foldlM_digitBelow, ← digitsValue]
  unfold readUnsigned
  split
  · simp [*]
  · cases digitsValue base (unsignedDigits cs) <;> grind

end StreamCompute.Text
