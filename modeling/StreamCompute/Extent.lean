/-
  StreamCompute.Extent

  Sizes: the shape of a resource, the domain of a launch, and the limits that
  a device sets on shapes. Extents are 32-bit numbers.
-/
import StreamCompute.Error

namespace StreamCompute

structure DeviceInfo where
  /-- The instruction set that kernels are compiled for. -/
  target : Nat := 5
  /-- The greatest width of a resource of one row. -/
  maxWidth1D : Nat := 8192
  /-- The greatest width of a resource of several rows. -/
  maxWidth2D : Nat := 8192
  /-- The greatest height of a resource of several rows. -/
  maxHeight2D : Nat := 8192
deriving DecidableEq, Repr

/-- Extent of a resource in elements. -/
structure Shape where
  width : Nat
  height : Nat
deriving DecidableEq, Repr

namespace Shape

def row (width : Nat) : Shape := ⟨width, 1⟩

/-- True for a single row. -/
def isRow (s : Shape) : Bool := s.height == 1

def elements (s : Shape) : Nat := s.width * s.height

/-- Width and height with an `x` between. -/
def text (s : Shape) : String :=
  s!"{s.width}x{s.height}"

def refusal? (s : Shape) (info : DeviceInfo) : Option String :=
  if s.width = 0 ∨ s.height = 0 then some s!"{s.text} has a zero extent"
  else if s.isRow then
    if s.width > info.maxWidth1D then
      some s!"1-D width {s.width} exceeds device limit {info.maxWidth1D}"
    else none
  else if s.width > info.maxWidth2D ∨ s.height > info.maxHeight2D then
    some s!"2-D shape {s.text} exceeds device limit {info.maxWidth2D}x{info.maxHeight2D}"
  else none

def validate (s : Shape) (info : DeviceInfo) : Except Error Unit :=
  match s.refusal? info with
  | some detail => .error (.invalidShape detail)
  | none => .ok ()

end Shape

/-- The rectangle of work items that a kernel is run over. -/
structure Domain where
  x : Nat
  y : Nat
  width : Nat
  height : Nat
deriving DecidableEq, Repr

namespace Domain

/-- A rectangle at the origin. -/
def sized (width height : Nat) : Domain := ⟨0, 0, width, height⟩

def workItems (d : Domain) : Nat := d.width * d.height

/-- Corner, then extent. -/
def text (d : Domain) : String :=
  s!"({d.x}, {d.y}) {d.width}x{d.height}"

end Domain

end StreamCompute
