/-
  StreamCompute.Simulator.Request

  Driver calls as data: a request names an entry point and its arguments, and
  `Request.command` is the call it stands for.
-/
import StreamCompute.Simulator.Calls

namespace StreamCompute

/-- A driver call with its arguments. -/
inductive Request
  | start
  | stop
  | countDevices
  | describeDevice (ordinal : Nat)
  | openDevice (ordinal : Nat)
  | closeDevice (device : Ident .device)
  | compile (source : String)
  | freeImage (image : Ident .image)
  | createContext (device : Ident .device)
  | destroyContext (context : Ident .context)
  | loadModule (context : Ident .context) (image : Ident .image)
  | unloadModule (context : Ident .context) (module : Ident .module)
  | findRegister (context : Ident .context) (module : Ident .module) (register : String)
  | findEntry (context : Ident .context) (module : Ident .module) (symbol : String)
  | getMemory (context : Ident .context) (resource : Ident .resource)
  | releaseMemory (context : Ident .context) (memory : Ident .memory)
  | bindMemory (context : Ident .context) (register : Ident .register) (memory : Ident .memory)
  | allocate (place : Placement) (device : Ident .device) (layout : Layout) (format : Format)
      (flags : AllocFlags)
  | freeResource (resource : Ident .resource)
  | mapResource (resource : Ident .resource)
  | unmapResource (resource : Ident .resource)
  | copyMemory (context : Ident .context) (source target : Ident .memory)
  | runProgram (context : Ident .context) (entry : Ident .entry) (domain : Domain)
  | queryEvent (context : Ident .context) (event : Ident .event)
deriving DecidableEq, Repr

/-- What a driver call answers when it succeeds. -/
inductive Answer
  | done
  | count (n : Nat)
  | info (i : DeviceInfo)
  | made (k : Kind) (i : Ident k)
  | view (resource : Ident .resource) (v : HostView)
  | status (s : Status)
deriving DecidableEq, Repr

def Command.map {α β : Type} (f : α → β) (c : Command α) : Command β :=
  ⟨c.operation, f <$> c.run⟩

namespace Request

def command : Request → Command Answer
  | start => Simulator.start.map fun _ => .done
  | stop => Simulator.stop.map fun _ => .done
  | countDevices => Simulator.countDevices.map .count
  | describeDevice n => (Simulator.describeDevice n).map .info
  | openDevice n => (Simulator.openDevice n).map (.made .device)
  | closeDevice d => (Simulator.closeDevice d).map fun _ => .done
  | compile source => (Simulator.compile source).map (.made .image)
  | freeImage i => (Simulator.freeImage i).map fun _ => .done
  | createContext d => (Simulator.createContext d).map (.made .context)
  | destroyContext c => (Simulator.destroyContext c).map fun _ => .done
  | loadModule c i => (Simulator.loadModule c i).map (.made .module)
  | unloadModule c m => (Simulator.unloadModule c m).map fun _ => .done
  | findRegister c m register => (Simulator.findRegister c m register).map (.made .register)
  | findEntry c m symbol => (Simulator.findEntry c m symbol).map (.made .entry)
  | getMemory c r => (Simulator.getMemory c r).map (.made .memory)
  | releaseMemory c m => (Simulator.releaseMemory c m).map fun _ => .done
  | bindMemory c r m => (Simulator.bindMemory c r m).map fun _ => .done
  | allocate place d layout format flags =>
    (Simulator.allocate place d layout format flags).map (.made .resource)
  | freeResource r => (Simulator.freeResource r).map fun _ => .done
  | mapResource r => (Simulator.mapResource r).map (.view r)
  | unmapResource r => (Simulator.unmapResource r).map fun _ => .done
  | copyMemory c source target => (Simulator.copyMemory c source target).map (.made .event)
  | runProgram c entry domain => (Simulator.runProgram c entry domain).map (.made .event)
  | queryEvent c e => (Simulator.queryEvent c e).map .status

end Request

end StreamCompute
