/-
  StreamCompute.Image

  Compiled kernels.
-/
import StreamCompute.Discovery

namespace StreamCompute

/-- A compiled kernel and the instruction set it was compiled for. -/
structure Image where
  id : Ident .image
  target : Nat
deriving DecidableEq, Repr

namespace Images

variable {κ ω : Type} [Reentry κ ω]

def compileFor (device : Device) (source : String) : Task κ ω Image := do
  Devices.check device
  let id ← Machine.driveAs .execution (Simulator.compile source)
  log (.debug "compiled kernel image"
    [("image", .text id.text), ("target", .nat device.info.target),
      ("bytes", .nat source.utf8ByteSize)])
  return { id, target := device.info.target }

def compile (source : String) : Task κ ω Image := do
  compileFor (← Devices.get 0) source

def free (image : Image) : Task κ ω Unit := do
  Machine.driveAs .execution (Simulator.freeImage image.id)
  log (.debug "freed kernel image" [("image", .text image.id.text)])

end Images

end StreamCompute
