/-
  StreamCompute.Text.Alphanumeric

  Letters and number characters together.
-/
import StreamCompute.Text.Alphabetic
import StreamCompute.Text.Numeric

namespace StreamCompute.Text

/-- True for letters and number characters. -/
def isAlphanumeric (c : Char) : Bool := isAlphabetic c || isNumeric c

end StreamCompute.Text
