/-
  StreamCompute.Binding.Arena

  Applying a binding table to a context. Everything that is acquired on the
  way is written down in the arena of the execution, so that it can be given
  back in reverse if a later step fails.

  Copied registers come first, then those used in place, then scratch ones,
  each group in the order of the table.
-/
import StreamCompute.Memory
import StreamCompute.Wait

namespace StreamCompute

/-- Where the registers are bound, and the execution that they are bound for. -/
structure BindSite where
  owner : ExecutionKey
  device : Ident .device
  context : Ident .context
  module : Ident .module
  waiter : Waiter
deriving DecidableEq, Repr

namespace Binder

variable {κ ω : Type}

def acquire (site : BindSite) (x : Acquired) : Task κ ω Unit :=
  modify (Machine.onArena site.owner fun arena => arena.grown x)

def noteCopy (site : BindSite) (c : CopyRecord) : Task κ ω Unit :=
  modify (Machine.onArena site.owner fun arena => arena.copying c)

variable [Reentry κ ω]

/-- Claims a remote resource for a register and takes it away from the host. -/
def claim (site : BindSite) (register : String) (r : Remote) : Task κ ω Unit := do
  Memory.claim r
  acquire site (.flight r)
  if ← (Memory.withdraw r).mapError (.binding register) then
    acquire site (.unmapped register r)

/-- Makes a resource visible to the context. -/
def getMemory (site : BindSite) (register : String) (resource : Ident .resource) :
    Task κ ω (Ident .memory) := do
  let memory ← Machine.driveAs (.binding register) (Simulator.getMemory site.context resource)
  acquire site (.memory memory)
  return memory

def transientFlags (register : String) : AllocFlags :=
  if register = Direction.globalBuffer then .globalBuffer else .plain

/-- Allocates a resource in device memory for a register. -/
def allocate (site : BindSite) (register : String) (shape : Shape) (format : Format) :
    Task κ ω (Ident .resource) := do
  let resource ← Machine.driveAs .allocation
    (Memory.request .onDevice site.device shape format (transientFlags register))
  acquire site (.transient register resource)
  return resource

def bindRegister (site : BindSite) (register : String) (memory : Ident .memory) :
    Task κ ω Unit := do
  let found ← Machine.driveAs (.binding register)
    (Simulator.findRegister site.context site.module register)
  Machine.driveAs (.binding register) (Simulator.bindMemory site.context found memory)

def copySpan (name register : String) : Fields :=
  [("name", .text name), ("register", .text register)]

/-- Copies the bytes of a remote resource in. -/
def copyIn (site : BindSite) (register : String) (r : Remote) (source target : Ident .memory) :
    Task κ ω Unit :=
  Performance.timed (copySpan "copy_in" register) do
    (Completion.copy site.waiter site.context source target).mapError (.binding register)
    log (Performance.transfer (r.size ((← get).status r)) "H2D" 0)

/-- Binds a copied register. The resource in device memory is as wide as the
    pitch of the remote one, so that the two have the same bytes. -/
def bindCopied (site : BindSite) (register : String) (r : Remote) (direction : Direction) :
    Task κ ω Unit := do
  claim site register r
  let remoteMemory ← getMemory site register r.id
  let pitch := ((← get).status r).pitch
  let transient ← allocate site register ⟨pitch, r.shape.height⟩ r.format
  let transientMemory ← getMemory site register transient
  bindRegister site register transientMemory
  if direction.copiesIn then
    copyIn site register r remoteMemory transientMemory
  log (.debug "bound copy-through register"
    [("register", .text register), ("remote", .text r.id.text), ("local", .text transient.text),
      ("direction", .text direction.describe)])
  noteCopy site { register, remote := r, remoteMemory, transient, transientMemory, direction }

def bindDirect (site : BindSite) (register : String) (r : Remote) : Task κ ω Unit := do
  claim site register r
  let memory ← getMemory site register r.id
  bindRegister site register memory
  log (.debug "bound remote register"
    [("register", .text register), ("remote", .text r.id.text)])

def bindScratch (site : BindSite) (register : String) (shape : Shape) (format : Format) :
    Task κ ω Unit := do
  let resource ← allocate site register shape format
  let memory ← getMemory site register resource
  bindRegister site register memory
  log (.debug "bound local register"
    [("register", .text register), ("local", .text resource.text), ("shape", .text shape.text)])

def ifCopied (site : BindSite) (conventions : Bool) (register : String) :
    Binding → Task κ ω Unit
  | .copied r direction =>
    bindCopied site register r (direction.getD (.standard conventions register))
  | _ => pure ()

/-- Applies a binding if it is one in place. -/
def ifDirect (site : BindSite) (register : String) : Binding → Task κ ω Unit
  | .direct r => bindDirect site register r
  | _ => pure ()

def ifScratch (site : BindSite) (register : String) : Binding → Task κ ω Unit
  | .scratch shape format => bindScratch site register shape format
  | _ => pure ()

/-- Applies a table: copied registers, those in place, scratch ones. -/
def apply (site : BindSite) (conventions : Bool) (t : BindingTable) : Task κ ω Unit := do
  t.entries.forM fun e => ifCopied site conventions e.1 e.2
  t.entries.forM fun e => ifDirect site e.1 e.2
  t.entries.forM fun e => ifScratch site e.1 e.2

end Binder

namespace Arena

variable {κ ω : Type} [Reentry κ ω]

def giveBack (context : Ident .context) : Acquired → Drive κ ω Unit
  | .memory m => Machine.drive (Simulator.releaseMemory context m)
  | .transient _ resource => Machine.drive (Simulator.freeResource resource)
  | .unmapped _ r => Memory.restore r
  | .flight r => modify (Memory.unclaimed r)

/-- Gives back what was acquired last; it leaves the arena whatever becomes of that. -/
def giveBackLast (owner : ExecutionKey) (context : Ident .context) (x : Acquired) :
    Act (Machine κ ω) Unit := do
  match ← (giveBack context x).attempt with
  | .ok () => pure ()
  | .error e =>
    log (.warn "rollback step failed"
      [("context", .text context.text), ("error", .text e.text)])
  modify (Machine.onArena owner shrunk)

/-- Gives everything back, the newest first, whatever becomes of each step. -/
def rollback (owner : ExecutionKey) (context : Ident .context) : Act (Machine κ ω) Unit := do
  let acquired := ((← get).arenas.get? owner).elim [] (·.acquired)
  acquired.reverse.forM (giveBackLast owner context)

end Arena

end StreamCompute
