/-
  StreamCompute.HostMemory.System

  What the system answers to the calls that host memory takes. The answers are
  not up to the program, and nothing is supposed of them. A system that is not
  described any further grants every call.
-/

namespace StreamCompute.HostMemory

/-- A system call that failed: the number of the error, and its text. -/
structure SystemError where
  code : Nat
  text : String
deriving DecidableEq, Repr

/-- True of errors that may have passed at the next try: there was no access, no resource, or no
    room for another open file. -/
def SystemError.isTransient (e : SystemError) : Bool :=
  [13, 11, 23].contains e.code

structure System where
  /-- Bytes in a page of memory; they are not known if this is not positive. -/
  pageBytes : Int := 4096
  /-- The address of a new block with this alignment and size, or the number of an error. -/
  block : Nat → Nat → Except Nat Nat := fun alignment _ => .ok alignment
  /-- What the mount table is at each of the tries to read it. -/
  mounts : Nat → Except SystemError String := fun _ => .ok "none /huge hugetlbfs rw 0 0"
  /-- The memory report, if it can be read. -/
  report : Option String := none
  /-- The descriptor and the path of a new file, which is named after a template. -/
  create : String → Except SystemError (Nat × String) := fun template => .ok (3, template)
  /-- Whether a file can be removed. -/
  remove : String → Bool := fun _ => true
  /-- The address at which the file with this descriptor is mapped at this length. -/
  map : Nat → Nat → Except SystemError Nat := fun _ _ => .ok 4096
  /-- Why the mapping at this address of this length stays, if it does. -/
  unmap : Nat → Nat → Option SystemError := fun _ _ => none

/-- Bytes in a page of memory. -/
def System.pageSize (sys : System) : Nat :=
  if 0 < sys.pageBytes then sys.pageBytes.toNat else 4096

end StreamCompute.HostMemory
