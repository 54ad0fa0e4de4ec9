/-
  StreamCompute.Text.Slice

  Cutting texts at positions that count octets. A position lies between two
  characters or inside one; only at the former can a text be cut.
-/
import StreamCompute.Act
import StreamCompute.Text.Quoted

namespace StreamCompute.Text

def octets : List Char → Nat
  | [] => 0
  | c :: cs => c.utf8Size + octets cs

/-- The character that a position lies inside of, with the position at which the character
    begins; none between characters. The characters begin at position `begun`, from which
    `ahead` is counted. -/
def around? (begun ahead : Nat) : List Char → Option (Char × Nat)
  | [] => none
  | c :: rest =>
    if ahead = 0 then none
    else if ahead < c.utf8Size then some (c, begun)
    else around? (begun + c.utf8Size) (ahead - c.utf8Size) rest

def dropOctets : Nat → List Char → List Char
  | 0, cs => cs
  | _, [] => []
  | n, c :: cs => dropOctets (n - c.utf8Size) cs

/-- The characters in front of a position. -/
def takeOctets : Nat → List Char → List Char
  | 0, _ => []
  | _, [] => []
  | n, c :: cs => c :: takeOctets (n - c.utf8Size) cs

/-- What is said of an end of a slice that lies inside a character. -/
def insideCharacter (which : String) (position : Nat) (c : Char) (begun : Nat) : Abort :=
  ⟨s!"{which} byte index {position} is not a char boundary; it is inside {quotedChar c} " ++
    s!"(bytes {begun}..{begun + c.utf8Size} of string)"⟩

/-- The characters between two positions, cut off when one of them lies inside a character. -/
def slice (cs : List Char) (first last : Nat) : Except Abort (List Char) :=
  match around? 0 first cs, around? 0 last cs with
  | some (c, begun), _ => .error (insideCharacter "start" first c begun)
  | none, some (c, begun) => .error (insideCharacter "end" last c begun)
  | none, none => .ok (dropOctets first (takeOctets last cs))

end StreamCompute.Text
