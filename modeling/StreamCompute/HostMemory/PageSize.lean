/-
  StreamCompute.HostMemory.PageSize

  The size of huge pages, as the memory report of the system states it, and
  rounding to whole pages.
-/
import StreamCompute.Act
import StreamCompute.Text.Blank
import StreamCompute.Text.Unsigned

namespace StreamCompute.HostMemory

/-- Bytes in a huge page where the system does not say. -/
def defaultHugePage : Nat := 16 * 1024 * 1024

/-- Bytes in a unit of the memory report; a unit that is not known counts single bytes. -/
def unitScale (unit : Option (List Char)) : Nat :=
  match unit.map String.ofList with
  | some "kB" => 1024
  | some "KB" => 1024
  | some "MB" => 1024 * 1024
  | _ => 1

def pageSizeLine? (report : String) : Option (List Char) :=
  (Text.lines report.toList).find? fun line => "Hugepagesize:".toList.isPrefixOf line

/-- The size of huge pages that a memory report states, if it states one. A
    size beyond 64 bits cuts the call off. -/
def readPageSize (report : String) : Except Abort (Option Nat) :=
  match (pageSizeLine? report).map Text.words with
  | some (_ :: number :: rest) =>
    match Text.readUnsigned 10 UInt64.size number with
    | some n => some <$> mul64 n (unitScale rest.head?)
    | none => .ok none
  | _ => .ok none

/-- The size of huge pages, from the memory report of the system if there is one. -/
def hugePageSize (report : Option String) : Except Abort Nat :=
  match report with
  | some report => (·.getD defaultHugePage) <$> readPageSize report
  | none => .ok defaultHugePage

/-- The length rounded up to whole pages, if that fits in 64 bits. Pages of no
    size leave the length alone. -/
def roundUp? (len page : Nat) : Option Nat :=
  if page = 0 then some len
  else if len + (page - 1) < UInt64.size then some ((len + (page - 1)) / page * page)
  else none

end StreamCompute.HostMemory
