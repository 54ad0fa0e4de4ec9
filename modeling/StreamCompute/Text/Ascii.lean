/-
  StreamCompute.Text.Ascii

  Case folding of the twenty-six ASCII letters. Every other character,
  letters outside ASCII included, is left alone.
-/

namespace StreamCompute.Text

/-- The lower-case form of an ASCII capital; any other character itself. -/
def lowerChar (c : Char) : Char :=
  if 'A' ≤ c ∧ c ≤ 'Z' then Char.ofNat (c.toNat + 32) else c

/-- The text with its ASCII capitals made small. -/
def lower (s : String) : String :=
  String.ofList (s.toList.map lowerChar)

/-- Equality up to the case of ASCII letters. -/
def equalsIgnoringCase (s t : String) : Bool :=
  lower s == lower t

end StreamCompute.Text
