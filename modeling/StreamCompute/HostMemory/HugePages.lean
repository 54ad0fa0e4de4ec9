/-
  StreamCompute.HostMemory.HugePages

  Memory backed by huge pages. A mapping is made from a file that is created
  in the mounted file system and removed at once, and it is a whole number of
  pages long.

  The mount is looked up in the mount table of the system until it is found
  there, and is remembered from then on.
-/
import StreamCompute.Data.Bytes
import StreamCompute.HostMemory.Error
import StreamCompute.HostMemory.Mounts
import StreamCompute.HostMemory.PageSize
import StreamCompute.HostMemory.System
import StreamCompute.Journal

namespace StreamCompute.HostMemory

/-- What a process knows of huge pages: the mount once it was found, the files that it has left
    there, and what was logged. -/
structure Host where
  mount : Option String := none
  files : List String := []
  journal : List Event := []
deriving DecidableEq, Repr

instance : Journaled Host where
  record e s := { s with journal := s.journal ++ [e] }

/-- What is done on a host, and its answer. -/
abbrev Hosted := Fallible HostError Host

/-! ## The mount -/

/-- How often the mount table is read at most. -/
def mountTableTries : Nat := 512

def unreadable (attempts : Nat) (e : SystemError) : Hosted String := do
  log (.warn "could not read mount table" [("attempts", .nat attempts), ("error", .text e.text)])
  throw (.system "read mount table" e.text)

/-- Reads the mount table, after so many attempts. As long as there are tries left, an error that
    may have passed by then is followed by another one. -/
def readMounts (sys : System) (attempts left : Nat) : Hosted String :=
  match sys.mounts attempts, left with
  | .ok table, _ => return table
  | .error e, left + 1 =>
    if e.isTransient then readMounts sys (attempts + 1) left else unreadable (attempts + 1) e
  | .error e, 0 => unreadable (attempts + 1) e

/-- The directory where huge pages are mounted. -/
def findMount (sys : System) : Hosted String := do
  match (← get).mount with
  | some path => return path
  | none =>
    let table ← readMounts sys 0 (mountTableTries - 1)
    match findHugePages? table with
    | none => throw (.hugePagesUnavailable "no hugetlbfs entry in the mount table")
    | some path =>
      log (.debug "found hugetlbfs mount" [("mount", .text path)])
      modify fun s => { s with mount := some path }
      return path

/-- Whether huge pages can be asked for. -/
def hasHugePages (sys : System) : Act Host Bool :=
  Except.isOk <$> (findMount sys).attempt

/-! ## Mappings -/

/-- The template for the name of a file in a directory. -/
def fileIn (directory : String) : String :=
  if directory = "" || directory.toList.getLast? == some '/' then directory ++ "XXXXXX"
  else directory ++ "/XXXXXX"

/-- True when the text has the character that ends paths. -/
def hasNul (path : String) : Bool := path.toList.any (·.toNat == 0)

/-- A mapping: the length asked for, the length mapped, its address, the descriptor of its file,
    and what was written, the newest first. What was never written is zero. -/
structure HugePages where
  size : Nat
  mapped : Nat
  address : Nat
  file : Nat
  writes : List (Nat × Bytes) := []
deriving DecidableEq, Repr

namespace HugePages

/-- The size of the pages, as the system reports it. -/
def pageSize (sys : System) : Hosted Nat :=
  Fallible.perform (ExceptT.mk (pure (hugePageSize sys.report)))

/-- A new file in the mounted directory, which is removed at once. -/
def newFile (sys : System) (mount : String) : Hosted Nat := do
  if hasNul (fileIn mount) then
    throw (.hugePagesUnavailable s!"mount path {mount} contains NUL")
  match sys.create (fileIn mount) with
  | .error e => throw (.system "mkstemp" e.text)
  | .ok (file, path) =>
    if !sys.remove path then modify fun s => { s with files := path :: s.files }
    return file

/-- A mapping of at least `len` bytes in whole pages. -/
def allocate (sys : System) (len : Nat) : Hosted HugePages := do
  if len = 0 then throw (.allocation len "huge page mapping of zero bytes")
  let mount ← findMount sys
  match roundUp? len (← pageSize sys) with
  | none => throw (.allocation len "huge page mapping length overflows")
  | some mapped =>
    let file ← newFile sys mount
    match sys.map file mapped with
    | .error e => throw (.system "mmap" e.text)
    | .ok 0 => throw (.allocation len "mmap returned null")
    | .ok address =>
      log (.debug "mapped huge-page memory"
        [("len", .nat len), ("mapped_len", .nat mapped), ("fd", .nat file)])
      return { size := len, mapped, address, file }

/-- The host after the mapping was given back. -/
def released (h : HugePages) (sys : System) (s : Host) : Host :=
  match sys.unmap h.address h.mapped with
  | none => s
  | some e => Journaled.record (.warn "munmap of huge-page memory failed"
      [("mapped_len", .nat h.mapped), ("error", .text e.text)]) s

/-- A mapping of another length with the bytes that both have. The old one is given back in any
    case. -/
def resized (h : HugePages) (sys : System) (len : Nat) : Hosted HugePages :=
  let kept := h.writes.map fun (offset, data) => (offset, data.take (len - offset))
  Fallible.ensuring ((fun next => { next with writes := kept }) <$> allocate sys len)
    (h.released sys)

def byteAt (h : HugePages) (position : Nat) : UInt8 :=
  (h.writes.findSome? fun (offset, data) =>
    if offset ≤ position then data[position - offset]? else none).getD 0

def within (h : HugePages) (offset count : Nat) : Nat :=
  min count (h.size - offset)

def read (h : HugePages) (offset count : Nat) : Bytes :=
  (List.range (h.within offset count)).map fun i => h.byteAt (offset + i)

def write (h : HugePages) (offset : Nat) (data : Bytes) : HugePages :=
  { h with writes := (offset, data.take (h.within offset data.length)) :: h.writes }

end HugePages

end StreamCompute.HostMemory
