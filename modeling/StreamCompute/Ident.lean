/-
  StreamCompute.Ident

  Names of driver objects. One counter numbers the objects of every kind; an
  identifier carries its kind in its type, so that a context can never be
  given where a resource is meant.
-/

namespace StreamCompute

/-- The kinds of object that a driver hands out. -/
inductive Kind
  | device
  /-- An execution context on one device. -/
  | context
  | module
  /-- An allocation, device-local or host-remote. -/
  | resource
  /-- A resource made visible to one context. -/
  | memory
  /-- A register looked up in a module. -/
  | register
  /-- An entry point looked up in a module. -/
  | entry
  /-- The completion token of a copy or a run. -/
  | event
  | image
deriving DecidableEq, Repr

namespace Kind

/-- The letters in front of an identifier's number. -/
def tag : Kind → String
  | device => "dev"
  | context => "ctx"
  | module => "mod"
  | resource => "res"
  | memory => "mem"
  | register => "name"
  | entry => "func"
  | event => "evt"
  | image => "img"

end Kind

structure Ident (k : Kind) where
  number : Nat
deriving DecidableEq, Repr

namespace Ident

def text {k : Kind} (i : Ident k) : String :=
  k.tag ++ toString i.number

end Ident

/-- The number of a launch; launches are numbered apart from driver objects. -/
structure ExecutionId where
  number : Nat
deriving DecidableEq, Repr

namespace ExecutionId

def text (e : ExecutionId) : String :=
  "exec" ++ toString e.number

end ExecutionId

/-- An execution among those of all platforms: the serial number of its platform, then its own. -/
abbrev ExecutionKey := Nat × ExecutionId

end StreamCompute
