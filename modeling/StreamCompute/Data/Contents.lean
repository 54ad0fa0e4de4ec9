/-
  StreamCompute.Data.Contents

  The contents of a piece of memory. New memory holds zeros, and most of it is
  never written, so only the front part that was is kept; the rest is zero.

  `toList` is what the contents stand for, and each operation comes with a
  lemma that says what it does to that.
-/
import StreamCompute.Data.Bytes

namespace StreamCompute

/-- `size` bytes: those of `front` as far as they reach, then zeros. -/
structure Contents where
  size : Nat
  front : Bytes
deriving DecidableEq, Repr

namespace Contents

def empty : Contents := ⟨0, []⟩

def zeros (n : Nat) : Contents := ⟨n, []⟩

def toList (c : Contents) : Bytes :=
  c.front.take c.size ++ Bytes.zeros (c.size - c.front.length)

/-- The first bytes, at most `n` of them. -/
def take (c : Contents) (n : Nat) : Contents :=
  ⟨min n c.size, c.front⟩

/-- The contents with the first bytes replaced by those of `new`, as far as both reach. -/
def overwrite (c : Contents) (new : Bytes) : Contents :=
  ⟨c.size, (new ++ c.front.drop new.length).take c.size⟩

/-- The contents with the first bytes replaced by those of other contents, as far as both
    reach. -/
def cover (c new : Contents) : Contents :=
  if c.front.length ≤ new.size then ⟨c.size, (new.front.take new.size).take c.size⟩
  else c.overwrite new.toList

/-- The front part made at least `n` bytes long. -/
def padded (c : Contents) (n : Nat) : Bytes :=
  c.front ++ Bytes.zeros (n - c.front.length)

/-- The contents with `data` written from `offset` on, cut to the room there is. -/
def writeAt (c : Contents) (offset : Nat) (data : Bytes) : Contents :=
  if c.size ≤ offset then c
  else ⟨c.size, (Bytes.writeAt (c.padded (offset + data.length)) offset data).take c.size⟩

def room (c : Contents) (offset : Nat) (data : Bytes) : Nat :=
  min data.length (c.size - offset)

def window (c : Contents) (offset : Nat) (count : Option Nat) : Bytes :=
  let n := min (count.getD c.size) (c.size - offset)
  let written := (c.front.drop offset).take n
  written ++ Bytes.zeros (n - written.length)

def sum (c : Contents) : Nat :=
  (c.front.take c.size).foldl (fun n byte => n + byte.toNat) 0

/-! ## What the operations do to the bytes -/

@[simp] theorem length_toList (c : Contents) : c.toList.length = c.size := by
  simp only [toList, List.length_append, List.length_take, Bytes.length_zeros]
  omega

@[simp] theorem toList_zeros (n : Nat) : (zeros n).toList = Bytes.zeros n := by
  simp [zeros, toList]

/-- The byte at a position is that of the front part, or zero. -/
theorem getElem?_toList (c : Contents) (i : Nat) :
    c.toList[i]? = if i < c.size then some (c.front[i]?.getD 0) else none := by
  simp only [toList, Bytes.zeros, List.getElem?_append, List.length_take, List.getElem?_take,
    List.getElem?_replicate]
  grind

@[simp] theorem toList_take (c : Contents) (n : Nat) : (c.take n).toList = c.toList.take n := by
  apply List.ext_getElem?
  intro i
  simp only [getElem?_toList, List.getElem?_take, take]
  grind

theorem toList_overwrite (c : Contents) (new : Bytes) :
    (c.overwrite new).toList = Bytes.overwrite c.toList new := by
  apply List.ext_getElem?
  intro i
  simp only [Bytes.getElem?_overwrite, getElem?_toList, length_toList, overwrite,
    List.getElem?_take, List.getElem?_append, List.getElem?_drop]
  grind

theorem toList_cover (c new : Contents) :
    (c.cover new).toList = Bytes.overwrite c.toList new.toList := by
  unfold cover
  split
  · apply List.ext_getElem?
    intro i
    simp only [Bytes.getElem?_overwrite, getElem?_toList, length_toList, List.getElem?_take]
    grind
  · exact toList_overwrite c new.toList

theorem toList_writeAt (c : Contents) (offset : Nat) (data : Bytes) :
    (c.writeAt offset data).toList = Bytes.writeAt c.toList offset data := by
  have hpad (i : Nat) : (c.padded (offset + data.length))[i]?.getD 0 = c.front[i]?.getD 0 := by
    simp only [padded, Bytes.zeros, List.getElem?_append, List.getElem?_replicate]
    grind
  have hlong : offset + data.length ≤ (c.padded (offset + data.length)).length := by
    simp only [padded, List.length_append, Bytes.length_zeros]
    omega
  unfold writeAt
  split
  · apply List.ext_getElem?
    intro i
    simp only [Bytes.getElem?_writeAt, getElem?_toList, length_toList]
    grind
  · apply List.ext_getElem?
    intro i
    have hi := hpad i
    simp only [Bytes.getElem?_writeAt, getElem?_toList, length_toList, List.getElem?_take]
    grind

theorem window_eq (c : Contents) (offset : Nat) (count : Option Nat) :
    c.window offset count = Bytes.window c.toList offset count := by
  apply List.ext_getElem?
  intro i
  cases count with
  | none =>
    simp only [window, Bytes.window, Bytes.zeros, getElem?_toList, List.getElem?_append,
      List.getElem?_take, List.getElem?_drop, List.length_take, List.length_drop,
      List.getElem?_replicate, Option.getD_none]
    grind
  | some n =>
    simp only [window, Bytes.window, Bytes.zeros, getElem?_toList, List.getElem?_append,
      List.getElem?_take, List.getElem?_drop, List.length_take, List.length_drop,
      List.getElem?_replicate, Option.getD_some]
    grind

end Contents

end StreamCompute
