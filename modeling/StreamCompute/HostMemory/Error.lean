/-
  StreamCompute.HostMemory.Error

  Why host memory could not be had.
-/

namespace StreamCompute.HostMemory

/-- A failed request for host memory. -/
inductive HostError
  | allocation (size : Nat) (detail : String)
  /-- There is no usable source of huge pages. -/
  | hugePagesUnavailable (detail : String)
  | system (operation : String) (detail : String)
deriving DecidableEq, Repr

namespace HostError

def message : HostError → String
  | allocation size detail => s!"failed to allocate {size} bytes: {detail}"
  | hugePagesUnavailable detail => s!"huge pages unavailable: {detail}"
  | system operation detail => s!"{operation} failed: {detail}"

end HostError

end StreamCompute.HostMemory
