/-
  StreamCompute.Text.Duration

  The text of a length of time: the largest of `s`, `ms`, `µs` and `ns` of
  which there is at least one whole, with as many decimal places as are
  needed to be exact and no trailing zero.
-/

namespace StreamCompute.Text

def paddedDigits (width n : Nat) : List Char :=
  let ds := Nat.toDigits 10 n
  List.replicate (width - ds.length) '0' ++ ds

def dropTrailingZeros (ds : List Char) : List Char :=
  (ds.reverse.dropWhile (· == '0')).reverse

/-- `whole` and the part `rest` of a unit of `10 ^ places`, then the unit's sign. -/
def decimalText (whole rest places : Nat) (unit : String) : String :=
  let fraction := dropTrailingZeros (paddedDigits places rest)
  let point := if fraction.isEmpty then "" else "."
  toString whole ++ point ++ String.ofList fraction ++ unit

def durationText (nanos : Nat) : String :=
  if nanos ≥ 1000000000 then decimalText (nanos / 1000000000) (nanos % 1000000000) 9 "s"
  else if nanos ≥ 1000000 then decimalText (nanos / 1000000) (nanos % 1000000) 6 "ms"
  else if nanos ≥ 1000 then decimalText (nanos / 1000) (nanos % 1000) 3 "µs"
  else decimalText nanos 0 0 "ns"

end StreamCompute.Text
