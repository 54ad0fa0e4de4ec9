/-
  StreamCompute.Tracing.Pattern.Escape

  What flags change in the reading of a pattern, and what a backslash in a
  pattern stands for.

  Automata are made without tables of characters. So no pattern may ask for a
  class of Unicode characters, or for letters in either case, unless it turns
  Unicode off; with Unicode off it may match nothing outside ASCII but
  characters that it spells out.
-/
import StreamCompute.Text.Blank

namespace StreamCompute.Tracing.Pattern

/-! ## Modes -/

/-- What flags turn on and off. -/
structure Modes where
  /-- Blanks and comments do not count. -/
  extended : Bool := false
  /-- Letters match in either case. -/
  folding : Bool := false
  /-- Characters are matched, not octets. -/
  unicode : Bool := true
deriving DecidableEq, Repr

/-- The characters without the blanks and comments in front. A comment goes from a number
    sign to the end of the line. -/
def skipBlanks : (inComment : Bool) → List Char → List Char
  | _, [] => []
  | true, c :: cs => skipBlanks (c != '\n') cs
  | false, c :: cs =>
    if Text.isBlank c then skipBlanks false cs
    else if c = '#' then skipBlanks true cs
    else c :: cs

namespace Modes

/-- The characters from the next one that counts. -/
def skip (m : Modes) (cs : List Char) : List Char :=
  if m.extended then skipBlanks false cs else cs

/-- The next character that is not blank; the sign of one comment is passed over too. -/
def peek? (m : Modes) (cs : List Char) : Option Char :=
  if m.extended then
    match cs.dropWhile Text.isBlank with
    | '#' :: rest => (rest.dropWhile Text.isBlank).head?
    | rest => rest.head?
  else cs.head?

/-- Whether a character may be spelled out. One that is given by its octet must be ASCII
    where octets are matched. -/
def admitsLiteral (m : Modes) (c : Char) (asOctet : Bool) : Bool :=
  if m.unicode then !m.folding else !asOctet || c.toNat < 128

/-- Whether a character may be spelled out in a set. -/
def admitsMember (m : Modes) (c : Char) : Bool :=
  if m.unicode then !m.folding else c.toNat < 128

/-- Whether a named set of ASCII characters may stand in a set. -/
def admitsNamed (m : Modes) (negated : Bool) : Bool :=
  if m.unicode then !m.folding else !negated

/-- Whether the class of digits, blanks or word characters may be asked for. -/
def admitsClass (m : Modes) (negated : Bool) : Bool :=
  !m.unicode && !negated

def admitsNegation (m : Modes) : Bool := m.unicode

def turn (m : Modes) (flag : Char) (on : Bool) : Modes :=
  if flag = 'x' then { m with extended := on }
  else if flag = 'i' then { m with folding := on }
  else if flag = 'u' then { m with unicode := on }
  else m

end Modes

/-! ## Escapes -/

/-- What a backslash and the characters after it stand for. -/
inductive Escape
  | literal (c : Char) (asOctet : Bool)
  /-- Digits, blanks or word characters, or all others. -/
  | category (negated : Bool)
  /-- The beginning or end of a word, or neither. -/
  | boundary
  /-- The beginning or end of the text. -/
  | anchor
deriving DecidableEq, Repr

def hexDigit? (c : Char) : Option Nat :=
  if c.isDigit then some (c.toNat - '0'.toNat)
  else if 'a' ≤ c ∧ c ≤ 'f' then some (c.toNat - 'a'.toNat + 10)
  else if 'A' ≤ c ∧ c ≤ 'F' then some (c.toNat - 'A'.toNat + 10)
  else none

/-- The number of a given count of hexadecimal digits that follow those of `value`. -/
def readHex (m : Modes) : (count value : Nat) → List Char → Option (Nat × List Char)
  | 0, value, cs => some (value, cs)
  | count + 1, value, cs =>
    match m.skip cs with
    | [] => none
    | c :: rest => (hexDigit? c).bind fun digit => readHex m count (16 * value + digit) rest

def charAt? (n : Nat) : Option Char :=
  if n < 0xD800 ∨ (0xDFFF < n ∧ n < 0x110000) then some (Char.ofNat n) else none

def readCodePoint (m : Modes) (count : Nat) (asOctet : Bool) (cs : List Char) :
    Option (Escape × List Char) :=
  (readHex m count 0 cs).bind fun (n, rest) =>
    (charAt? n).map fun c => (.literal c asOctet, rest)

def controls : List (Char × Nat) :=
  [('a', 7), ('t', 9), ('n', 10), ('v', 11), ('f', 12), ('r', 13)]

/-- ASCII characters that stand for themselves after a backslash. -/
def isEscapable (c : Char) : Bool :=
  c.toNat < 128 && !c.isAlphanum && c != '<' && c != '>'

def readEscape (m : Modes) : List Char → Option (Escape × List Char)
  | [] => none
  | c :: rest =>
    if c = 'x' then readCodePoint m 2 true rest
    else if c = 'u' then readCodePoint m 4 false rest
    else if c = 'U' then readCodePoint m 8 false rest
    else if ['d', 's', 'w'].contains c then some (.category false, rest)
    else if ['D', 'S', 'W'].contains c then some (.category true, rest)
    else if ['b', 'B', '<', '>'].contains c then some (.boundary, rest)
    else if ['A', 'z'].contains c then some (.anchor, rest)
    else
      match controls.lookup c with
      | some n => some (.literal (Char.ofNat n) false, rest)
      | none => if isEscapable c then some (.literal c false, rest) else none

end StreamCompute.Tracing.Pattern
