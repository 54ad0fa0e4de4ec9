/-
  StreamCompute.Text.Ranges

  Classes of characters as lists of closed ranges of code points. Tables that
  come from the Unicode Character Database are those of version 17.0.
-/

namespace StreamCompute.Text

/-- Closed ranges of code points. -/
abbrev Ranges := List (Nat × Nat)

namespace Ranges

/-- The ranges of a long table, from the gap in front of each range and its length by turns. The
    first gap begins at `next`. -/
def ofRuns (next : Nat) : List Nat → Ranges
  | gap :: length :: runs =>
    (next + gap, next + gap + length - 1) :: ofRuns (next + gap + length) runs
  | _ => []

def hold (ranges : Ranges) (c : Char) : Bool :=
  ranges.any fun r => r.1 ≤ c.toNat && c.toNat ≤ r.2

end Ranges

end StreamCompute.Text
