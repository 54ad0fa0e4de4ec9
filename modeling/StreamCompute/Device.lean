/-
  StreamCompute.Device

  Opened devices, and what a runtime knows about them.
-/
import StreamCompute.Extent

namespace StreamCompute

/-- An opened device. Devices of different discoveries are different, even
    where the driver gave them the same identifier. -/
structure Device where
  index : Nat
  id : Ident .device
  info : DeviceInfo
  /-- The number of the discovery that opened it. -/
  generation : Nat
deriving DecidableEq, Repr

namespace Device

def text (d : Device) : String :=
  s!"device{d.index} ({d.id.text})"

end Device

/-- What a runtime knows about its devices. -/
inductive Registry
  /-- Nobody has looked yet. -/
  | uninitialized
  | ready (devices : List Device)
  /-- Discovery failed; the failure is repeated until the next shutdown. -/
  | failed (error : Error)
deriving DecidableEq, Repr

namespace Registry

def describe : Registry → String
  | uninitialized => "uninitialized"
  | ready devices => s!"ready ({devices.length} devices)"
  | failed e => s!"failed ({e.message})"

end Registry

end StreamCompute
