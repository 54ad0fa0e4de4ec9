/-
  StreamCompute.Remote

  Remote resources as callers hold them. A `Remote` is what is fixed when the
  resource is allocated; a `RemoteStatus` is what changes, and is kept in one
  place, so that every holder of the same `Remote` sees the same status.

  The host may touch the bytes only while the resource is mapped, is not
  claimed by an execution, and has not been freed.
-/
import StreamCompute.Extent
import StreamCompute.Format

namespace StreamCompute

structure Remote where
  /-- The platform that allocated it. -/
  home : Nat
  id : Ident .resource
  device : Ident .device
  shape : Shape
  format : Format
  flags : AllocFlags
deriving DecidableEq, Repr

/-- Where the host finds the bytes of a mapped resource. -/
structure HostLink where
  /-- The platform whose driver made the mapping. -/
  home : Nat
  /-- How often the bytes had been moved by then; it stands for their address. -/
  moves : Nat
deriving DecidableEq, Repr

/-- The changing part of a remote resource. -/
structure RemoteStatus where
  link : Option HostLink
  /-- Elements from one row to the next. -/
  pitch : Nat
  /-- Whether an execution, or a call that is under way, claims the resource. -/
  inFlight : Bool := false
  freed : Bool := false
deriving DecidableEq, Repr

namespace RemoteStatus

/-- The status of a resource that is not on record. -/
def absent : RemoteStatus := { link := none, pitch := 0, freed := true }

def mapped (s : RemoteStatus) : Bool := s.link.isSome

/-- The status after the resource was freed. -/
def released (s : RemoteStatus) : RemoteStatus :=
  { s with link := none, inFlight := false, freed := true }

end RemoteStatus

namespace Remote

/-- The mapping through which the host may touch the resource. -/
def access (r : Remote) (s : RemoteStatus) : Except Error HostLink :=
  if s.freed then .error (.resourceFreed r.id)
  else if s.inFlight then .error (.resourceBusy r.id)
  else
    match s.link with
    | some link => .ok link
    | none => .error (.notMapped r.id)

/-- Why the resource cannot be claimed, if it cannot. -/
def claimRefusal? (r : Remote) (s : RemoteStatus) : Option Error :=
  if s.freed then some (.resourceFreed r.id)
  else if s.inFlight then some (.resourceBusy r.id)
  else none

def rowBytes (r : Remote) (s : RemoteStatus) : Nat :=
  s.pitch * r.format.elementSize

/-- Bytes of the whole resource, the gaps at the ends of rows included. -/
def size (r : Remote) (s : RemoteStatus) : Nat :=
  r.rowBytes s * r.shape.height

/-- The description of the resource, with its address left open. -/
def describe (r : Remote) (s : RemoteStatus) : String :=
  let mapped := if s.mapped then "Some(PTR)" else "None"
  s!"RemoteResource \x7b id: ResourceId({r.id.number}), " ++
    s!"shape: Shape \x7b width: {r.shape.width}, height: {r.shape.height} \x7d, " ++
    s!"format: {r.format.describe}, pitch: {s.pitch}, mapped: {mapped}, " ++
    s!"in_flight: {s.inFlight}, freed: {s.freed} \x7d"

end Remote

/-- A resource in device memory. It is owned by whoever holds it, and losing it
    without freeing it is worth a warning. -/
structure Local where
  id : Ident .resource
  device : Ident .device
  shape : Shape
  format : Format
  flags : AllocFlags
deriving DecidableEq, Repr

end StreamCompute
