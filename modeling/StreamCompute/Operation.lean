/-
  StreamCompute.Operation

  The entry points of a driver, and the calls made through them. An
  `Operation` is an entry point without arguments, by which failures are
  injected and calls are counted; a `Call` is what the log keeps of one call.
-/
import StreamCompute.Extent
import StreamCompute.Format

namespace StreamCompute

/-- Where a resource lives: on the device, or in host memory the device can reach. -/
inductive Placement
  | onDevice
  | onHost
deriving DecidableEq, Repr

/-- Whether an allocation asks for one row or for several. -/
inductive Layout
  | linear (width : Nat)
  | planar (width height : Nat)
deriving DecidableEq, Repr

namespace Layout

def width : Layout → Nat
  | linear w => w
  | planar w _ => w

def height : Layout → Nat
  | linear _ => 1
  | planar _ h => h

/-- A single row is laid out linearly, anything else in a plane. -/
def ofShape (s : Shape) : Layout :=
  if s.isRow then linear s.width else planar s.width s.height

def shape (l : Layout) : Shape := ⟨l.width, l.height⟩

@[simp] theorem shape_ofShape (s : Shape) : (ofShape s).shape = s := by
  rcases s with ⟨w, h⟩
  by_cases hh : h = 1 <;> simp [ofShape, shape, Shape.isRow, width, height, hh]

end Layout

/-- The entry points of a driver. -/
inductive Operation
  | start
  | stop
  | countDevices
  | describeDevice
  | openDevice
  | closeDevice
  | compile
  | link
  | freeImage
  | createContext
  | destroyContext
  | loadModule
  | unloadModule
  | findRegister
  | findEntry
  | getMemory
  | releaseMemory
  | bindMemory
  | allocLocal1D
  | allocLocal2D
  | allocRemote1D
  | allocRemote2D
  | freeResource
  | mapResource
  | unmapResource
  | copyMemory
  | runProgram
  | queryEvent
deriving DecidableEq, Repr

namespace Operation

def name : Operation → String
  | start => "calInit"
  | stop => "calShutdown"
  | countDevices => "calDeviceGetCount"
  | describeDevice => "calDeviceGetInfo"
  | openDevice => "calDeviceOpen"
  | closeDevice => "calDeviceClose"
  | compile => "calclCompile"
  | link => "calclLink"
  | freeImage => "calclFreeImage"
  | createContext => "calCtxCreate"
  | destroyContext => "calCtxDestroy"
  | loadModule => "calModuleLoad"
  | unloadModule => "calModuleUnload"
  | findRegister => "calModuleGetName"
  | findEntry => "calModuleGetEntry"
  | getMemory => "calCtxGetMem"
  | releaseMemory => "calCtxReleaseMem"
  | bindMemory => "calCtxSetMem"
  | allocLocal1D => "calResAllocLocal1D"
  | allocLocal2D => "calResAllocLocal2D"
  | allocRemote1D => "calResAllocRemote1D"
  | allocRemote2D => "calResAllocRemote2D"
  | freeResource => "calResFree"
  | mapResource => "calResMap"
  | unmapResource => "calResUnmap"
  | copyMemory => "calMemCopy"
  | runProgram => "calCtxRunProgram"
  | queryEvent => "calCtxIsEventDone"

def all : List Operation :=
  [start, stop, countDevices, describeDevice, openDevice, closeDevice, compile, link, freeImage,
    createContext, destroyContext, loadModule, unloadModule, findRegister, findEntry, getMemory,
    releaseMemory, bindMemory, allocLocal1D, allocLocal2D, allocRemote1D, allocRemote2D,
    freeResource, mapResource, unmapResource, copyMemory, runProgram, queryEvent]

def ofName? (s : String) : Option Operation :=
  all.find? fun op => op.name == s

def allocate : Placement → Layout → Operation
  | .onDevice, .linear _ => allocLocal1D
  | .onDevice, .planar .. => allocLocal2D
  | .onHost, .linear _ => allocRemote1D
  | .onHost, .planar .. => allocRemote2D

end Operation

/-- One logged driver call. A copy is logged by the resources it copies
    between and a binding by the register's name. -/
inductive Call
  | start
  | stop
  | countDevices
  | describeDevice (ordinal : Nat)
  | openDevice (ordinal : Nat)
  | closeDevice (device : Ident .device)
  | compile
  | freeImage (image : Ident .image)
  | createContext (device : Ident .device)
  | destroyContext (context : Ident .context)
  | loadModule (context : Ident .context) (image : Ident .image)
  | unloadModule (context : Ident .context) (module : Ident .module)
  | findRegister (context : Ident .context) (register : String)
  | findEntry (context : Ident .context) (symbol : String)
  | getMemory (context : Ident .context) (resource : Ident .resource)
  | releaseMemory (context : Ident .context) (memory : Ident .memory)
  | bindMemory (context : Ident .context) (register : String) (memory : Ident .memory)
  | allocate (place : Placement) (layout : Layout) (format : Format) (flags : AllocFlags)
  | freeResource (resource : Ident .resource)
  | mapResource (resource : Ident .resource)
  | unmapResource (resource : Ident .resource)
  | copyMemory (context : Ident .context) (source target : Ident .resource)
  | runProgram (context : Ident .context) (domain : Domain)
  | queryEvent (context : Ident .context) (event : Ident .event)
deriving DecidableEq, Repr

namespace Call

def operation : Call → Operation
  | start => .start
  | stop => .stop
  | countDevices => .countDevices
  | describeDevice _ => .describeDevice
  | openDevice _ => .openDevice
  | closeDevice _ => .closeDevice
  | compile => .compile
  | freeImage _ => .freeImage
  | createContext _ => .createContext
  | destroyContext _ => .destroyContext
  | loadModule .. => .loadModule
  | unloadModule .. => .unloadModule
  | findRegister .. => .findRegister
  | findEntry .. => .findEntry
  | getMemory .. => .getMemory
  | releaseMemory .. => .releaseMemory
  | bindMemory .. => .bindMemory
  | allocate place layout _ _ => .allocate place layout
  | freeResource _ => .freeResource
  | mapResource _ => .mapResource
  | unmapResource _ => .unmapResource
  | copyMemory .. => .copyMemory
  | runProgram .. => .runProgram
  | queryEvent .. => .queryEvent

end Call

end StreamCompute
