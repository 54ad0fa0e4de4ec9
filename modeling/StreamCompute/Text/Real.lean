/-
  StreamCompute.Text.Real

  Decimal fractions: an optional sign, digits with at most one point among
  them, and an optional exponent, or one of the names of what is not finite.
-/
import StreamCompute.Text.Ascii

namespace StreamCompute.Text

def afterSign : List Char → List Char
  | '+' :: cs => cs
  | '-' :: cs => cs
  | cs => cs

/-- True for an exponent or nothing. -/
def isExponent : List Char → Bool
  | [] => true
  | mark :: cs =>
    let digits := afterSign cs
    (mark == 'e' || mark == 'E') && !digits.isEmpty && digits.all Char.isDigit

/-- True for at least one digit with at most one point among them, and an optional exponent. -/
def isMagnitude (cs : List Char) : Bool :=
  let whole := cs.takeWhile Char.isDigit
  match cs.dropWhile Char.isDigit with
  | '.' :: rest =>
    !(whole.isEmpty && (rest.takeWhile Char.isDigit).isEmpty) &&
      isExponent (rest.dropWhile Char.isDigit)
  | rest => !whole.isEmpty && isExponent rest

/-- True for a decimal fraction, and for an infinity or a missing number in any case. -/
def isReal (cs : List Char) : Bool :=
  let body := afterSign cs
  isMagnitude body ||
    ["inf", "infinity", "nan"].any fun name => equalsIgnoringCase (String.ofList body) name

end StreamCompute.Text
