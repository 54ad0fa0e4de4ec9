/-
  StreamCompute.Tracing.Pattern.Set

  Sets of characters between brackets in a pattern:

      set      '^'? part (operator part)*
      part     (member | member '-' member | '[:' name ':]' | '[' set ']')*
      operator '&&' | '--' | '~~'

  Dashes at the very beginning, and a closing bracket there, are members.
-/
import StreamCompute.Tracing.Pattern.Escape

namespace StreamCompute.Tracing.Pattern

/-- How deeply parts that stand side by side are nested: a level more than the deepest,
    except that a single part counts as itself. -/
def joined : List Nat → Nat
  | [] => 0
  | [depth] => depth
  | depths => 1 + depths.foldl max 0

structure OpenSet where
  /-- How deeply the members after the last operator are nested, the newest first. -/
  members : List Nat := []
  /-- How deeply what stands in front of the last operator is nested. -/
  left : Option Nat := none
  /-- Nothing was read but dashes. -/
  fresh : Bool := true
deriving DecidableEq, Repr

namespace OpenSet

/-- How deeply the set is nested so far, its brackets not counted. -/
def depth (s : OpenSet) : Nat :=
  match s.left with
  | none => joined s.members
  | some d => 1 + max d (joined s.members)

def add (s : OpenSet) (depth : Nat) : OpenSet :=
  { s with members := depth :: s.members, fresh := false }

def operator (s : OpenSet) : OpenSet :=
  { members := [], left := some s.depth, fresh := false }

end OpenSet

def setNames : List String :=
  ["alnum", "alpha", "ascii", "blank", "cntrl", "digit", "graph", "lower", "print", "punct",
    "space", "upper", "word", "xdigit"]

/-- A named set after its opening bracket: whether it is negated, and the rest. -/
def namedSet? : List Char → Option (Bool × List Char)
  | ':' :: cs =>
    let negated := cs.head? == some '^'
    let body := if negated then cs.tail else cs
    match body.dropWhile (· != ':') with
    | ':' :: ']' :: rest =>
      if setNames.contains (String.ofList (body.takeWhile (· != ':'))) then some (negated, rest)
      else none
    | _ => none
  | _ => none

/-- The characters after the opening of a set: a bracket that was read, and a caret. -/
def openedSet (m : Modes) (cs : List Char) : Option (List Char) :=
  match m.skip cs with
  | '^' :: rest => if m.admitsNegation then some rest else none
  | rest => some rest

def readMember (m : Modes) : List Char → Option (Escape × List Char)
  | [] => none
  | '\\' :: rest => readEscape m rest
  | c :: rest => some (.literal c false, rest)

/-- Whether a set may have the escape as a member. -/
def admitsAlone (m : Modes) : Escape → Bool
  | .literal c asOctet => m.admitsLiteral c asOctet && m.admitsMember c
  | .category negated => m.admitsClass negated
  | _ => false

/-- Whether a set may have the range from one escape to another as a member. -/
def admitsRange (m : Modes) : Escape → Escape → Bool
  | .literal low a, .literal high b =>
    low ≤ high && admitsAlone m (.literal low a) && admitsAlone m (.literal high b)
  | _, _ => false

/-- The characters after a member or a range of a set. A dash in front of another dash or of
    the closing bracket makes no range. -/
def afterRange (m : Modes) (cs : List Char) : Option (List Char) :=
  (readMember m cs).bind fun (first, rest) =>
    let alone := if admitsAlone m first then some (m.skip rest) else none
    match m.skip rest with
    | [] => none
    | '-' :: after =>
      if m.peek? after == some ']' || m.peek? after == some '-' then alone
      else
        (readMember m (m.skip after)).bind fun (second, rest) =>
          if admitsRange m first second then some rest else none
    | _ => alone

/-- Reads a set that was opened: how deeply it is nested, and the characters after it. The
    sets around it are `outer`, the innermost first. -/
def readSet (m : Modes) :
    (fuel : Nat) → (outer : List OpenSet) → OpenSet → List Char → Option (Nat × List Char)
  | 0, _, _, _ => none
  | fuel + 1, outer, s, cs =>
    let go := readSet m fuel outer
    match m.skip cs with
    | [] => none
    | '[' :: rest =>
      match namedSet? rest with
      | some (negated, rest) => if m.admitsNamed negated then go (s.add 0) rest else none
      | none => (openedSet m rest).bind (readSet m fuel (s :: outer) {})
    | ']' :: rest =>
      if s.fresh && s.members.isEmpty then
        if m.admitsMember ']' then go (s.add 0) rest else none
      else
        match outer with
        | [] => some (1 + s.depth, rest)
        | around :: outer => readSet m fuel outer (around.add (1 + s.depth)) rest
    | c :: rest =>
      if s.fresh && c == '-' then
        if m.admitsMember '-' then go { s with members := 0 :: s.members } rest else none
      else if (c == '&' || c == '-' || c == '~') && rest.head? == some c then
        go s.operator rest.tail
      else (afterRange m (c :: rest)).bind (go (s.add 0))

end StreamCompute.Tracing.Pattern
