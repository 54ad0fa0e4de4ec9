/-
  StreamCompute.Data.Bytes

  Byte sequences and the writes that keep their length. Every write is cut to
  the room there is, so writing never makes a sequence longer or shorter.
-/

namespace StreamCompute

abbrev Bytes := List UInt8

namespace Bytes

def zeros (n : Nat) : Bytes :=
  List.replicate n 0

/-- `old` with its first bytes replaced by those of `new`, as far as both reach. -/
def overwrite (old new : Bytes) : Bytes :=
  new.take old.length ++ old.drop new.length

/-- `old` with `data` written from `offset` on, cut to the room there is. -/
def writeAt (old : Bytes) (offset : Nat) (data : Bytes) : Bytes :=
  old.take offset ++ overwrite (old.drop offset) data

def window (bytes : Bytes) (offset : Nat) (count : Option Nat) : Bytes :=
  match count with
  | none => bytes.drop offset
  | some n => (bytes.drop offset).take n

/-- The four bytes of a number modulo `2 ^ 32`, least significant first. -/
def word32 (n : Nat) : Bytes :=
  [(n % 256).toUInt8, (n / 256 % 256).toUInt8, (n / 65536 % 256).toUInt8,
    (n / 16777216 % 256).toUInt8]

/-- The number of four bytes, least significant first. -/
def ofWord32 (a b c d : UInt8) : Nat :=
  a.toNat + 256 * b.toNat + 65536 * c.toNat + 16777216 * d.toNat

/-- Applies a function to each whole four-byte number; what is left over is dropped. -/
def mapWords (f : Nat → Nat) : Bytes → Bytes
  | a :: b :: c :: d :: rest => word32 (f (ofWord32 a b c d)) ++ mapWords f rest
  | _ => []

/-! ## Lengths -/

@[simp] theorem length_zeros (n : Nat) : (zeros n).length = n := by
  simp [zeros]

@[simp] theorem length_overwrite (old new : Bytes) : (overwrite old new).length = old.length := by
  simp only [overwrite, List.length_append, List.length_take, List.length_drop]
  omega

@[simp] theorem length_writeAt (old : Bytes) (offset : Nat) (data : Bytes) :
    (writeAt old offset data).length = old.length := by
  simp only [writeAt, List.length_append, List.length_take, length_overwrite, List.length_drop]
  omega

/-- Bytes of the same length replace everything. -/
theorem overwrite_of_length_eq {old new : Bytes} (h : new.length = old.length) :
    overwrite old new = new := by
  simp [overwrite, ← h]

/-! ## Positions -/

/-- An overwritten sequence has the new bytes where both reach, and the old ones elsewhere. -/
theorem getElem?_overwrite (old new : Bytes) (i : Nat) :
    (overwrite old new)[i]? = if i < new.length ∧ i < old.length then new[i]? else old[i]? := by
  simp only [overwrite, List.getElem?_append, List.length_take, List.getElem?_take,
    List.getElem?_drop]
  grind

/-- A write changes the bytes that it reaches and no others. -/
theorem getElem?_writeAt (old : Bytes) (offset : Nat) (data : Bytes) (i : Nat) :
    (writeAt old offset data)[i]? =
      if offset ≤ i ∧ i < offset + data.length ∧ i < old.length then data[i - offset]?
      else old[i]? := by
  simp only [writeAt, List.getElem?_append, List.length_take, List.getElem?_take,
    getElem?_overwrite, List.getElem?_drop, List.length_drop]
  grind

end Bytes

end StreamCompute
