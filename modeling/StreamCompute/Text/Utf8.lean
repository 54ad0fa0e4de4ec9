/-
  StreamCompute.Text.Utf8

  Decoding octets as UTF-8 where the octets may be ill formed. Each longest
  start of a character that cannot be continued is replaced by one U+FFFD, so
  a broken character of `n` octets gives one replacement and an octet that
  starts no character gives one of its own.
-/

namespace StreamCompute.Text

/-- What the first octet of a character asks for: how many octets follow, the
    closed range of the first of them, and the high bits that the octet
    itself contributes. The other octets that follow are in `0x80 … 0xBF`. -/
structure Lead where
  following : Nat
  low : Nat
  high : Nat
  bits : Nat
deriving DecidableEq, Repr

/-- The lead of an octet, or `none` if no character starts with it. -/
def lead? (b : Nat) : Option Lead :=
  if b ≤ 0x7F then some ⟨0, 0x80, 0xBF, b⟩
  else if 0xC2 ≤ b ∧ b ≤ 0xDF then some ⟨1, 0x80, 0xBF, b - 0xC0⟩
  else if b = 0xE0 then some ⟨2, 0xA0, 0xBF, 0⟩
  else if b = 0xED then some ⟨2, 0x80, 0x9F, 0xD⟩
  else if 0xE1 ≤ b ∧ b ≤ 0xEF then some ⟨2, 0x80, 0xBF, b - 0xE0⟩
  else if b = 0xF0 then some ⟨3, 0x90, 0xBF, 0⟩
  else if 0xF1 ≤ b ∧ b ≤ 0xF3 then some ⟨3, 0x80, 0xBF, b - 0xF0⟩
  else if b = 0xF4 then some ⟨3, 0x80, 0x8F, 4⟩
  else none

/-- The octets from the front that can follow a lead, at most `following`. -/
def continuation (following low high : Nat) : List UInt8 → List UInt8
  | [] => []
  | b :: bs =>
    match following with
    | 0 => []
    | n + 1 =>
      if low ≤ b.toNat ∧ b.toNat ≤ high then b :: continuation n 0x80 0xBF bs else []

/-- The code point of a lead's bits and the six low bits of each octet after it. -/
def codePoint (bits : Nat) (octets : List UInt8) : Nat :=
  octets.foldl (fun n b => n * 64 + (b.toNat - 0x80)) bits

/-- The character that stands for octets that are not UTF-8. -/
def replacement : Char := Char.ofNat 0xFFFD

/-- The characters of the octets, ill-formed parts replaced. -/
def decodeUtf8 : List UInt8 → List Char
  | [] => []
  | b :: bs =>
    match lead? b.toNat with
    | none => replacement :: decodeUtf8 bs
    | some l =>
      let tail := continuation l.following l.low l.high bs
      let c := if tail.length = l.following then Char.ofNat (codePoint l.bits tail) else replacement
      c :: decodeUtf8 (bs.drop tail.length)
termination_by bs => bs.length
decreasing_by
  · simp
  · simp only [List.length_cons, List.length_drop]
    omega

def encodeUtf8 (s : String) : List UInt8 :=
  s.toUTF8.toList

end StreamCompute.Text
