/-
  StreamCompute.Text.Blank

  Blank characters, and the three ways texts are cut at them: trimming both
  ends, splitting into words and splitting into lines.

  A character is blank when it has the Unicode property `White_Space`; the
  property has twenty-five code points.
-/
import StreamCompute.Text.Ranges

namespace StreamCompute.Text

/-- The code points with the property `White_Space`. -/
def blankRanges : Ranges :=
  [(0x09, 0x0D), (0x20, 0x20), (0x85, 0x85), (0xA0, 0xA0), (0x1680, 0x1680), (0x2000, 0x200A),
    (0x2028, 0x2029), (0x202F, 0x202F), (0x205F, 0x205F), (0x3000, 0x3000)]

def isBlank (c : Char) : Bool := blankRanges.hold c

/-- The characters without the blanks at either end. -/
def trimChars (cs : List Char) : List Char :=
  ((cs.dropWhile isBlank).reverse.dropWhile isBlank).reverse

def trim (s : String) : String :=
  String.ofList (trimChars s.toList)

/-- True when the text has no character but blanks. -/
def isAllBlank (s : String) : Bool :=
  s.toList.all isBlank

/-- The pieces between the separators; `n` separators give `n + 1` pieces. -/
def splitAtEach (isSeparator : Char → Bool) : List Char → List (List Char)
  | [] => [[]]
  | c :: cs =>
    if isSeparator c then [] :: splitAtEach isSeparator cs
    else
      match splitAtEach isSeparator cs with
      | [] => [[c]]
      | piece :: pieces => (c :: piece) :: pieces

/-- The nonempty runs of characters that are not blank. -/
def words (cs : List Char) : List (List Char) :=
  (splitAtEach isBlank cs).filter fun w => !w.isEmpty

def lines (cs : List Char) : List (List Char) :=
  splitAtEach (· == '\n') cs

/-- True when `needle` stands somewhere in the text. -/
def occursIn (needle : List Char) : List Char → Bool
  | [] => needle.isEmpty
  | c :: cs => needle.isPrefixOf (c :: cs) || occursIn needle cs

end StreamCompute.Text
