/-
  StreamCompute.Error

  What can go wrong. A `DriverError` is the answer of a driver call that
  failed; an `Error` is the answer of a runtime operation. The wording of both
  is in one place, `DriverError.message` and `Error.message`.
-/
import StreamCompute.Ident
import StreamCompute.Text.Duration

namespace StreamCompute

/-- A driver call that failed: the entry point and its diagnostic. -/
structure DriverError where
  operation : String
  message : String
deriving DecidableEq, Repr

namespace DriverError

def text (e : DriverError) : String :=
  s!"{e.operation}: {e.message}"

end DriverError

/-- A runtime operation that failed. -/
inductive Error
  /-- The driver or its devices could not be brought up or down. -/
  | initialization (cause : DriverError)
  /-- A resource could not be allocated, mapped, unmapped or freed. -/
  | allocation (cause : DriverError)
  /-- An entry of a binding table could not be applied. -/
  | binding (register : String) (cause : DriverError)
  /-- A kernel could not be compiled, submitted, awaited or torn down. -/
  | execution (cause : DriverError)
  /-- An execution was joined that does not exist or was joined already. -/
  | joinMisuse (detail : String)
  | notMapped (resource : Ident .resource)
  | resourceFreed (resource : Ident .resource)
  /-- A resource is claimed by an execution in flight. -/
  | resourceBusy (resource : Ident .resource)
  /-- There is no device with this index, or it is from an earlier discovery. -/
  | invalidDevice (index count : Nat)
  | duplicateRegister (register : String)
  /-- A wait ended before the work did. -/
  | waitTimeout (operation : String) (nanos : Nat)
deriving DecidableEq, Repr

namespace Error

/-- A shape that is refused before the driver is asked. -/
def invalidShape (detail : String) : Error :=
  allocation ⟨"validate_shape", detail⟩

def message : Error → String
  | initialization c => s!"runtime initialization failed in {c.operation}: {c.message}"
  | allocation c => s!"allocation failed in {c.operation}: {c.message}"
  | binding r c => s!"binding register '{r}' failed in {c.operation}: {c.message}"
  | execution c => s!"execution failed in {c.operation}: {c.message}"
  | joinMisuse d => s!"invalid join: {d}"
  | notMapped r => s!"resource {r.text} is not mapped"
  | resourceFreed r => s!"resource {r.text} has been freed"
  | resourceBusy r => s!"resource {r.text} is bound to an in-flight execution"
  | invalidDevice i n => s!"device index {i} out of range (device count {n})"
  | duplicateRegister r => s!"register '{r}' is bound more than once"
  | waitTimeout op n => s!"{op} still pending after {Text.durationText n}"

def cause? : Error → Option DriverError
  | initialization c => some c
  | allocation c => some c
  | binding _ c => some c
  | execution c => some c
  | _ => none

/-- The entry point that failed, where the error names one. -/
def operation? : Error → Option String
  | waitTimeout op _ => some op
  | e => e.cause?.map (·.operation)

/-- True when the caller, and not the driver, is at fault. -/
def isMisuse : Error → Bool
  | joinMisuse _ => true
  | notMapped _ => true
  | resourceFreed _ => true
  | resourceBusy _ => true
  | invalidDevice .. => true
  | duplicateRegister _ => true
  | _ => false

end Error

end StreamCompute
