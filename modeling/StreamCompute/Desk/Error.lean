/-
  StreamCompute.Desk.Error

  What can go wrong at the desk. An error names the call that failed; where a
  driver call is behind it, that one is named instead.
-/
import StreamCompute.Error
import StreamCompute.Tracing.Settings

namespace StreamCompute

/-- The kinds of object that a caller can name by a handle, executions apart. -/
inductive HandleKind
  | image
  | remote
  | localResource
deriving DecidableEq, Repr

namespace HandleKind

def text : HandleKind → String
  | image => "image"
  | remote => "remote"
  | localResource => "local"

end HandleKind

inductive DeskCause
  | runtime (error : Error)
  /-- No runtime is installed. -/
  | notInitialized
  /-- There is no driver to install without being given one. -/
  | noVendorDriver
  | unknownHandle (kind : HandleKind) (handle : Nat)
  | unknownFormat (code : Nat)
  /-- More bytes than a resource has. -/
  | tooLong (given room : Nat)
  | imageInUse
  | unjoined (count : Nat)
  | badFilter (error : Tracing.DirectiveError)
  | alreadyTracing
deriving DecidableEq, Repr

/-- A call at the desk that failed. -/
structure DeskError where
  call : String
  cause : DeskCause
deriving DecidableEq, Repr

namespace DeskError

/-- The driver entry point behind the error, or else the call itself. -/
def operation (e : DeskError) : String :=
  match e.cause with
  | .runtime err => err.operation?.getD e.call
  | _ => e.call

def runtimeMessage : Error → String
  | .initialization c => c.message
  | .allocation c => c.message
  | .execution c => c.message
  | .binding register c => s!"register '{register}': {c.message}"
  | e => e.message

def message (e : DeskError) : String :=
  match e.cause with
  | .runtime err => runtimeMessage err
  | .notInitialized => "runtime not initialized"
  | .noVendorDriver => "built without the vendor runtime; call install_driver"
  | .unknownHandle kind handle => s!"unknown {kind.text} handle {handle}"
  | .unknownFormat code => s!"unknown format code {code}"
  | .tooLong given room => s!"{given} bytes do not fit in {room} mapped bytes"
  | .imageInUse => "image is in use by a launch"
  | .unjoined count => s!"{count} executions have not been joined"
  | .badFilter err => s!"invalid tracing directive: {err.message}"
  | .alreadyTracing =>
    "failed to install global tracing subscriber: " ++
      "a global default trace dispatcher has already been set"

/-- True when the caller is at fault. -/
def isMisuse (e : DeskError) : Bool :=
  match e.cause with
  | .runtime err => err.isMisuse
  | .badFilter _ => false
  | .alreadyTracing => false
  | _ => true

def text (e : DeskError) : String :=
  s!"{e.operation}: {e.message}"

end DeskError

end StreamCompute
