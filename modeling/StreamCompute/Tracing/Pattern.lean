/-
  StreamCompute.Tracing.Pattern

  Regular expressions as values of fields. All that is asked of one is whether
  an automaton can be made of it, so it is only checked, in one pass:

      pattern     branch ('|' branch)*
      branch      (item ('*' | '+' | '?') '?'? | item | '(?' flags ')')*
      item        '.' | '^' | '$' | '\' escape | '[' set ']' | group | character
      group       '(' pattern ')' | '(?' flags ':' pattern ')'
                | '(?<' name '>' pattern ')' | '(?P<' name '>' pattern ')'

  A pattern stands between braces itself. The forms that need a closing brace,
  such as counted repetitions, are therefore never complete, and an opening
  brace outside a set is refused.
-/
import StreamCompute.Text.Alphanumeric
import StreamCompute.Tracing.Pattern.Set

namespace StreamCompute.Tracing

/-- Why a pattern is refused. -/
inductive PatternError
  /-- It is not well formed, or it needs tables of characters. -/
  | unreadable
  /-- It asks where words of Unicode characters begin or end. -/
  | wordBoundary
deriving DecidableEq, Repr

namespace PatternError

def message : PatternError → String
  | unreadable => "error building NFA"
  | wordBoundary =>
    "unsupported regex feature for DFAs: cannot build DFAs for regexes with Unicode word " ++
      "boundaries; switch to ASCII word boundaries, or heuristically enable Unicode word " ++
      "boundaries or use a different regex engine"

end PatternError

namespace Pattern

/-- A part of a branch. -/
structure Item where
  depth : Nat := 0
  /-- Whether it can be repeated; flags cannot. -/
  repeatable : Bool := true
deriving DecidableEq, Repr

structure OpenGroup where
  modes : Modes
  items : List Item
  branches : List Nat
deriving DecidableEq, Repr

/-- A pattern under way. -/
structure Reading where
  modes : Modes := {}
  /-- The parts of the current branch, the newest first. -/
  items : List Item := []
  /-- How deeply the branches before it are nested. -/
  branches : List Nat := []
  /-- The groups around it, the innermost first. -/
  outer : List OpenGroup := []
  /-- The names of the groups so far. -/
  names : List (List Char) := []
  /-- A boundary of Unicode words was asked for. -/
  boundary : Bool := false
deriving DecidableEq, Repr

def startsName (c : Char) : Bool := c == '_' || Text.isAlphabetic c

def continuesName (c : Char) : Bool :=
  c == '_' || c == '.' || c == '[' || c == ']' || Text.isAlphanumeric c

def isName : List Char → Bool
  | [] => false
  | c :: cs => startsName c && cs.all continuesName

/-- Flags with whether each was turned on, the newest first. -/
structure Flags where
  items : List (Char × Bool) := []
  /-- A minus sign was read. -/
  negated : Bool := false
  /-- A minus sign was read last. -/
  dangling : Bool := false
deriving DecidableEq, Repr

def flagNames : List Char := ['i', 'm', 's', 'U', 'u', 'R', 'x']

/-- Reads flags up to the colon or parenthesis that ends them. No flag is given twice, and
    something follows the minus sign. -/
def readFlags : Flags → List Char → Option (Flags × Char × List Char)
  | _, [] => none
  | f, c :: rest =>
    if c = ':' || c = ')' then if f.dangling then none else some (f, c, rest)
    else if c = '-' then
      if f.negated then none else readFlags { f with negated := true, dangling := true } rest
    else if flagNames.contains c && !f.items.any (·.1 == c) then
      readFlags { f with items := (c, !f.negated) :: f.items, dangling := false } rest
    else none

def Flags.apply (f : Flags) (m : Modes) : Modes :=
  f.items.foldl (fun m (flag, on) => m.turn flag on) m

namespace Reading

def add (r : Reading) (depth : Nat) : Reading :=
  { r with items := { depth } :: r.items }

def depth (r : Reading) : Nat :=
  joined (joined (r.items.map (·.depth)) :: r.branches)

def openGroup (r : Reading) (modes : Modes) : Reading :=
  { r with
    modes
    items := []
    branches := []
    outer := ⟨r.modes, r.items, r.branches⟩ :: r.outer }

def closeGroup? (r : Reading) : Option Reading :=
  match r.outer with
  | [] => none
  | g :: outer =>
    some { r with
      modes := g.modes
      items := { depth := 1 + r.depth } :: g.items
      branches := g.branches
      outer }

/-- The pattern after the end of a branch. -/
def closeBranch (r : Reading) : Reading :=
  { r with items := [], branches := joined (r.items.map (·.depth)) :: r.branches }

/-- The pattern after the last part of the branch was marked as repeated. -/
def repeated? (r : Reading) : Option Reading :=
  match r.items with
  | [] => none
  | item :: items =>
    if item.repeatable then some { r with items := { depth := 1 + item.depth } :: items } else none

/-- Opens a group with a name that no other has. -/
def openNamed? (r : Reading) (cs : List Char) : Option (Reading × List Char) :=
  let name := cs.takeWhile (· != '>')
  match cs.dropWhile (· != '>') with
  | [] => none
  | _ :: rest =>
    if isName name && !r.names.contains name then
      some ({ r.openGroup r.modes with names := name :: r.names }, rest)
    else none

/-- Opens a group with flags, or sets flags for the rest of the group. -/
def openFlagged? (r : Reading) (cs : List Char) : Option (Reading × List Char) :=
  (readFlags {} cs).bind fun (flags, closing, rest) =>
    let modes := flags.apply r.modes
    if closing = ':' then some (r.openGroup modes, rest)
    else if flags.items.isEmpty then none
    else some ({ r with modes, items := { repeatable := false } :: r.items }, rest)

/-- What an opening parenthesis begins. Groups that look ahead or back are refused. -/
def opened? (r : Reading) (cs : List Char) : Option (Reading × List Char) :=
  match r.modes.skip cs with
  | '?' :: '=' :: _ => none
  | '?' :: '!' :: _ => none
  | '?' :: '<' :: '=' :: _ => none
  | '?' :: '<' :: '!' :: _ => none
  | '?' :: 'P' :: '<' :: rest => r.openNamed? rest
  | '?' :: '<' :: rest => r.openNamed? rest
  | '?' :: rest => r.openFlagged? rest
  | rest => some (r.openGroup r.modes, rest)

/-- The pattern with an escape more. -/
def escaped? (r : Reading) : Escape → Option Reading
  | .literal c asOctet => if r.modes.admitsLiteral c asOctet then some (r.add 0) else none
  | .category negated => if r.modes.admitsClass negated then some (r.add 0) else none
  | .boundary => some { r.add 0 with boundary := r.boundary || r.modes.unicode }
  | .anchor => some (r.add 0)

/-- The pattern after its next part or sign, and the characters that follow. -/
def step? (r : Reading) : List Char → Option (Reading × List Char)
  | [] => none
  | '(' :: rest => r.opened? rest
  | ')' :: rest => r.closeGroup?.map (·, rest)
  | '|' :: rest => some (r.closeBranch, rest)
  | '[' :: rest =>
    ((openedSet r.modes rest).bind (readSet r.modes (rest.length + 1) [] {})).map
      fun (depth, rest) => (r.add depth, rest)
  | '\x7b' :: _ => none
  | '\\' :: rest =>
    (readEscape r.modes rest).bind fun (e, rest) => (r.escaped? e).map (·, rest)
  | '.' :: rest => if r.modes.unicode then some (r.add 0, rest) else none
  | c :: rest =>
    if c = '*' || c = '+' || c = '?' then
      r.repeated?.map (·, if rest.head? == some '?' then rest.tail else rest)
    else if c = '^' || c = '$' then some (r.add 0, rest)
    else (r.escaped? (.literal c false)).map (·, rest)

def run : (fuel : Nat) → Reading → List Char → Option Reading
  | 0, _, _ => none
  | fuel + 1, r, cs =>
    match r.modes.skip cs with
    | [] => some r
    | cs => (r.step? cs).bind fun (r, rest) => run fuel r rest

end Reading

/-- How deeply a pattern may be nested. -/
def deepest : Nat := 250

/-- Why a pattern is refused, if it is. Every step of the reading takes at least one
    character, so the length of the pattern is fuel enough. -/
def refusal? (cs : List Char) : Option PatternError :=
  match Reading.run (cs.length + 1) {} cs with
  | none => some .unreadable
  | some r =>
    if !r.outer.isEmpty || deepest < r.depth then some .unreadable
    else if r.boundary then some .wordBoundary
    else none

end Pattern

end StreamCompute.Tracing
