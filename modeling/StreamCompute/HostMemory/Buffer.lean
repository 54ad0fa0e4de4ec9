/-
  StreamCompute.HostMemory.Buffer

  Page-aligned host buffers. A new buffer holds zeros; resizing keeps the
  common front part. Whether there is memory for a buffer is up to the system.
-/
import StreamCompute.Data.Contents
import StreamCompute.HostMemory.Error
import StreamCompute.HostMemory.System
import StreamCompute.Journal

namespace StreamCompute.HostMemory

structure Buffer where
  bytes : Contents
deriving DecidableEq, Repr

namespace Buffer

/-- Why the system has no block of this size, if it has none. -/
def refusal? (sys : System) (size : Nat) : Option String :=
  match sys.block sys.pageSize size with
  | .error 12 => some "out of memory"
  | .error 22 => some s!"invalid alignment {sys.pageSize}"
  | .error code => some s!"posix_memalign returned {code}"
  | .ok 0 => some "posix_memalign returned null"
  | .ok _ => none

/-- A buffer of `len` zeros. A request for nothing still takes one byte. -/
def zeroed (sys : System) (len : Nat) : Except HostError Buffer :=
  match refusal? sys (max len 1) with
  | none => .ok ⟨Contents.zeros len⟩
  | some detail => .error (.allocation (max len 1) detail)

/-- A buffer of `len` bytes that starts like `b` and goes on with zeros. -/
def resized (b : Buffer) (sys : System) (len : Nat) : Except HostError Buffer :=
  match zeroed sys len with
  | .error e => .error e
  | .ok next => .ok ⟨next.bytes.cover b.bytes⟩

def size (b : Buffer) : Nat := b.bytes.size

def sum (b : Buffer) : Nat := b.bytes.sum

/-- The buffer with `data` written from `offset` on, cut to the room there is. -/
def write (b : Buffer) (offset : Nat) (data : Bytes) : Buffer :=
  ⟨b.bytes.writeAt offset data⟩

/-- The description of a buffer, with its address left open. -/
def describe (b : Buffer) : String :=
  s!"PageAlignedBuffer \x7b ptr: PTR, len: {b.size} \x7d"

def allocated (sys : System) (len : Nat) : Event :=
  .trace "allocated page-aligned buffer" [("len", .nat len), ("alignment", .nat sys.pageSize)]

end Buffer

end StreamCompute.HostMemory
