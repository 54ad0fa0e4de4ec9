/-
  StreamCompute.HostMemory.Mounts

  Finding the huge-page file system in a mount table. Each line of the table
  has fields with blanks between: a source, a directory, a type and more. A
  character that could be taken for a blank is written as a backslash and three
  octal digits.
-/
import StreamCompute.Data.Bytes
import StreamCompute.Text.Blank
import StreamCompute.Text.Unsigned
import StreamCompute.Text.Utf8

namespace StreamCompute.HostMemory

/-- The byte that three characters of an escape stand for: an octal number
    below 256, where the first character may be a plus sign. -/
def octalByte? (a b c : UInt8) : Option UInt8 :=
  let digits := [a, b, c].map fun byte => Char.ofNat byte.toNat
  (Text.readUnsigned 8 256 digits).map Nat.toUInt8

/-- The bytes with every escape replaced by the byte it stands for. What is not
    an escape is copied. -/
def unescapeBytes : Bytes → Bytes
  | 92 :: a :: b :: c :: rest =>
    match octalByte? a b c with
    | some byte => byte :: unescapeBytes rest
    | none => 92 :: unescapeBytes (a :: b :: c :: rest)
  | byte :: rest => byte :: unescapeBytes rest
  | [] => []

/-- A field of a mount table with its escapes replaced. Bytes that are then no
    text are replaced too. -/
def unescape (field : String) : String :=
  String.ofList (Text.decodeUtf8 (unescapeBytes (Text.encodeUtf8 field)))

def hugeDirectory? (line : List Char) : Option String :=
  match Text.words line with
  | _ :: directory :: type :: _ =>
    if type = "hugetlbfs".toList then some (unescape (String.ofList directory)) else none
  | _ => none

/-- The directory of the first line that mounts huge pages. -/
def findHugePages? (table : String) : Option String :=
  (Text.lines table.toList).findSome? hugeDirectory?

end StreamCompute.HostMemory
