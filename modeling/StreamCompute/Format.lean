/-
  StreamCompute.Format

  Layout of a resource's elements, and the flags of an allocation.
-/

namespace StreamCompute

/-- The type of one 32-bit component. -/
inductive Component
  | float32
  | signedInt32
  | unsignedInt32
deriving DecidableEq, Repr

/-- The number of components of an element. -/
inductive Lanes
  | one
  | two
  | four
deriving DecidableEq, Repr

/-- Layout of an element: one, two or four components of one type. -/
structure Format where
  component : Component
  lanes : Lanes
deriving DecidableEq, Repr

namespace Lanes

def count : Lanes → Nat
  | one => 1
  | two => 2
  | four => 4

def index : Lanes → Nat
  | one => 0
  | two => 1
  | four => 2

end Lanes

namespace Component

def index : Component → Nat
  | float32 => 0
  | signedInt32 => 1
  | unsignedInt32 => 2

def capitals : Component → String
  | float32 => "FLOAT32"
  | signedInt32 => "SIGNED_INT32"
  | unsignedInt32 => "UNSIGNED_INT32"

def mixedCase : Component → String
  | float32 => "Float32"
  | signedInt32 => "SignedInt32"
  | unsignedInt32 => "UnsignedInt32"

end Component

namespace Format

/-- All formats in the order of their codes. -/
def all : List Format :=
  [⟨.float32, .one⟩, ⟨.float32, .two⟩, ⟨.float32, .four⟩,
    ⟨.signedInt32, .one⟩, ⟨.signedInt32, .two⟩, ⟨.signedInt32, .four⟩,
    ⟨.unsignedInt32, .one⟩, ⟨.unsignedInt32, .two⟩, ⟨.unsignedInt32, .four⟩]

/-- The number that stands for the format. -/
def code (f : Format) : Nat :=
  3 * f.component.index + f.lanes.index

def ofCode? (n : Nat) : Option Format :=
  all[n]?

def components (f : Format) : Nat :=
  f.lanes.count

def elementSize (f : Format) : Nat :=
  4 * f.components

/-- The name shown to callers, `FLOAT32_1`. -/
def text (f : Format) : String :=
  f.component.capitals ++ "_" ++ toString f.lanes.count

/-- The name inside a description of a value, `Float32x1`. -/
def describe (f : Format) : String :=
  f.component.mixedCase ++ "x" ++ toString f.lanes.count

theorem elementSize_pos (f : Format) : 0 < f.elementSize := by
  rcases f with ⟨c, l⟩
  cases l <;> simp [elementSize, components, Lanes.count]

end Format

structure AllocFlags where
  bits : Nat
deriving DecidableEq, Repr

namespace AllocFlags

def plain : AllocFlags := ⟨0⟩

/-- The resource behind a kernel's global buffer. -/
def globalBuffer : AllocFlags := ⟨1⟩

/-- True when every flag of `other` is set. -/
def contains (flags other : AllocFlags) : Bool :=
  flags.bits &&& other.bits == other.bits

def union (flags other : AllocFlags) : AllocFlags :=
  ⟨flags.bits ||| other.bits⟩

end AllocFlags

end StreamCompute
