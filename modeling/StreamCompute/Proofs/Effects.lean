/-
  StreamCompute.Proofs.Effects

  What a driver call does, said once for all of them. `Effect s r a t` says that
  the request `r` is granted in `s` with the answer `a`, and that it makes `t` of
  the driver, but for what every call does: it is logged and counted. A call that
  is not granted is logged and does nothing else.

  Every entry point is the call of a request, so what holds of the effects of
  requests holds of all entry points.
-/
import StreamCompute.Proofs.Driving
import StreamCompute.Simulator.Request

namespace StreamCompute

open Fallible

namespace Simulator

/-- What becomes of the driver when a request is granted. -/
inductive Effect (s : Simulator) : Request → Answer → Simulator → Prop
  | start : Effect s .start .done { s with started := true }
  | stop : Effect s .stop .done { s with started := false }
  | countDevices : Effect s .countDevices (.count s.spec.deviceCount) s
  | describeDevice {ordinal : Nat} : Effect s (.describeDevice ordinal) (.info s.spec.info) s
  | openDevice {ordinal : Nat} : Effect s (.openDevice ordinal) (.made .device ⟨s.nextNumber⟩)
      { s with
        nextNumber := s.nextNumber + 1
        devices := s.devices.set ⟨s.nextNumber⟩ ordinal }
  | closeDevice {device : Ident .device} : Effect s (.closeDevice device) .done
      { s with devices := s.devices.erase device }
  | compile {source : String} : Effect s (.compile source) (.made .image ⟨s.nextNumber⟩)
      { s with
        nextNumber := s.nextNumber + 1
        images := s.images.set ⟨s.nextNumber⟩ source }
  | freeImage {image : Ident .image} : Effect s (.freeImage image) .done
      { s with images := s.images.erase image }
  | createContext {device : Ident .device} :
      Effect s (.createContext device) (.made .context ⟨s.nextNumber⟩)
        { s with
          nextNumber := s.nextNumber + 1
          contexts := s.contexts.set ⟨s.nextNumber⟩ device
          bindings := s.bindings.set ⟨s.nextNumber⟩ [] }
  | destroyContext {context : Ident .context} : Effect s (.destroyContext context) .done
      { s with
        contexts := s.contexts.erase context
        bindings := s.bindings.erase context
        tokens := s.tokens.keepValues (·.context ≠ context) }
  | loadModule {context : Ident .context} {image : Ident .image} :
      Effect s (.loadModule context image) (.made .module ⟨s.nextNumber⟩)
        { s with
          nextNumber := s.nextNumber + 1
          modules := s.modules.set ⟨s.nextNumber⟩ (context, image) }
  | unloadModule {context : Ident .context} {module : Ident .module} :
      Effect s (.unloadModule context module) .done
        { s with
          modules := s.modules.erase module
          entries := s.entries.keepValues (· ≠ module) }
  | findRegister {context : Ident .context} {module : Ident .module} {register : String} :
      Effect s (.findRegister context module register) (.made .register ⟨s.nextNumber⟩)
        { s with
          nextNumber := s.nextNumber + 1
          registers := s.registers.set ⟨s.nextNumber⟩ register }
  | findEntry {context : Ident .context} {module : Ident .module} {symbol : String}
      {image : Ident .image} (hmodule : s.modules.get? module = some (context, image)) :
      Effect s (.findEntry context module symbol) (.made .entry ⟨s.nextNumber⟩)
        { s with
          nextNumber := s.nextNumber + 1
          entries := s.entries.set ⟨s.nextNumber⟩ module }
  | getMemory {context : Ident .context} {resource : Ident .resource} :
      Effect s (.getMemory context resource) (.made .memory ⟨s.nextNumber⟩)
        { s with
          nextNumber := s.nextNumber + 1
          memories := s.memories.set ⟨s.nextNumber⟩ (context, resource) }
  | releaseMemory {context : Ident .context} {memory : Ident .memory} {resource : Ident .resource}
      (hmemory : s.memories.get? memory = some (context, resource)) :
      Effect s (.releaseMemory context memory) .done
        { s with
          memories := s.memories.erase memory
          bindings := s.unbound context memory }
  | bindMemory {context : Ident .context} {register : Ident .register} {memory : Ident .memory}
      {name : String} {resource : Ident .resource} (hcontext : s.contexts.has context = true)
      (hmemory : s.memories.get? memory = some (context, resource)) :
      Effect s (.bindMemory context register memory) .done
        { s with
          bindings := s.bindings.set context
            (((s.bindings.get? context).getD []).set name memory) }
  | allocate {place : Placement} {device : Ident .device} {layout : Layout} {format : Format}
      {flags : AllocFlags} {notices : List Event} (hroom : s.live < s.spec.capacity) :
      Effect s (.allocate place device layout format flags) (.made .resource ⟨s.nextNumber⟩)
        { s with
          notices
          nextNumber := s.nextNumber + 1
          resources := s.resources.set ⟨s.nextNumber⟩ (newResource s.spec place layout format) }
  | freeResource {resource : Ident .resource} : Effect s (.freeResource resource) .done
      { s with resources := s.resources.erase resource }
  | mapResource {resource : Ident .resource} {r : Resource} {moves : Nat} {notices : List Event}
      (hresource : s.resources.get? resource = some r) (hplace : r.place = .onHost) :
      Effect s (.mapResource resource) (.view resource ⟨r.pitch, moves⟩)
        { s with
          notices
          resources := s.resources.set resource
            { r with mapped := true, everMapped := true, moves } }
  | unmapResource {resource : Ident .resource} {r : Resource}
      (hresource : s.resources.get? resource = some r) :
      Effect s (.unmapResource resource) .done
        { s with resources := s.resources.set resource { r with mapped := false } }
  | copyMemory {context : Ident .context} {source target : Ident .memory}
      {dst : Ident .resource} (read : Resource) {written : Resource}
      (hwritten : s.resources.get? dst = some written) :
      Effect s (.copyMemory context source target) (.made .event ⟨s.nextNumber⟩)
        (tokenMade .copyMemory context { s with
          resources := s.resources.set dst
            { written with bytes := written.bytes.cover read.bytes } })
  | runProgram {context : Ident .context} {entry : Ident .entry} {domain : Domain} :
      Effect s (.runProgram context entry domain) (.made .event ⟨s.nextNumber⟩)
        (tokenMade .runProgram context { s with resources := s.executed context domain })
  | stillPending {context : Ident .context} {event : Ident .event} {token : Token} {n : Nat}
      (htoken : s.tokens.get? event = some token) (hpending : token.pending = n + 1) :
      Effect s (.queryEvent context event) (.status .pending)
        { s with tokens := s.tokens.set event { token with pending := n } }
  | ended {context : Ident .context} {event : Ident .event} {token : Token}
      (htoken : s.tokens.get? event = some token) (hpending : token.pending = 0) :
      Effect s (.queryEvent context event) (.status (token.error.elim .done .failed)) s

end Simulator

namespace Request

/-- What the request is logged as. A copy between unknown memory objects is not logged. -/
def call? (s : Simulator) : Request → Option Call
  | start => some .start
  | stop => some .stop
  | countDevices => some .countDevices
  | describeDevice n => some (.describeDevice n)
  | openDevice n => some (.openDevice n)
  | closeDevice d => some (.closeDevice d)
  | compile _ => some .compile
  | freeImage i => some (.freeImage i)
  | createContext d => some (.createContext d)
  | destroyContext c => some (.destroyContext c)
  | loadModule c i => some (.loadModule c i)
  | unloadModule c m => some (.unloadModule c m)
  | findRegister c _ register => some (.findRegister c register)
  | findEntry c _ symbol => some (.findEntry c symbol)
  | getMemory c r => some (.getMemory c r)
  | releaseMemory c m => some (.releaseMemory c m)
  | bindMemory c r m => some (.bindMemory c ((s.registers.get? r).getD r.text) m)
  | allocate place _ layout format flags => some (.allocate place layout format flags)
  | freeResource r => some (.freeResource r)
  | mapResource r => some (.mapResource r)
  | unmapResource r => some (.unmapResource r)
  | copyMemory c source target =>
    (s.memoryOf? c source).bind fun src => (s.memoryOf? c target).map (.copyMemory c src)
  | runProgram c _ domain => some (.runProgram c domain)
  | queryEvent c e => some (.queryEvent c e)

/-- Where and how large the resource is that the request asks for, if it asks for one. -/
def asks? : Request → Option (Placement × Layout)
  | allocate place _ layout _ _ => some (place, layout)
  | _ => none

end Request

namespace Simulator

/-- The state with the request logged, and nothing else done. -/
def noted (r : Request) (s : Simulator) : Simulator :=
  (r.call? s).elim s fun call => logged call s

theorem noted_eq (r : Request) (s : Simulator) :
    ∃ calls counts, s.noted r = relogged calls counts s := by
  unfold noted
  cases r.call? s with
  | none => exact ⟨s.calls, s.counts, rfl⟩
  | some call => exact ⟨_, _, rfl⟩

/-- The request was granted with this answer, and has led to the second state. -/
inductive Granted (s : Simulator) (r : Request) (a : Answer) (s' : Simulator) : Prop
  | intro {call : Call} {t : Simulator} (logged : r.call? s = some call)
    (effect : s.Effect r a t) (left : s' = Simulator.logged call t)

end Simulator

open Simulator

/-- A call that is granted has its effect; any other call is logged at most. Only an allocation is
    ever cut off. -/
theorem Request.command_leads (r : Request) (s : Simulator) :
    r.command.run.Leads s (s.Granted r) (fun _ s' => s' = s.noted r)
      fun s' => s' = s.noted r ∧ r.asks?.isSome = true := by
  cases r <;> refine leads_map.mpr ?_
  case start => exact start_leads (fun _ => rfl) (.intro rfl .start rfl)
  case stop => exact stop_leads (fun _ => rfl) fun _ => .intro rfl .stop rfl
  case countDevices => exact countDevices_leads (fun _ => rfl) (.intro rfl .countDevices rfl)
  case describeDevice => exact describeDevice_leads (fun _ => rfl) (.intro rfl .describeDevice rfl)
  case openDevice => exact openDevice_leads (fun _ => rfl) (.intro rfl .openDevice rfl)
  case closeDevice => exact closeDevice_leads (fun _ => rfl) (.intro rfl .closeDevice rfl)
  case compile => exact compile_leads (fun _ => rfl) (.intro rfl .compile rfl)
  case freeImage => exact freeImage_leads (fun _ => rfl) (.intro rfl .freeImage rfl)
  case createContext => exact createContext_leads (fun _ => rfl) (.intro rfl .createContext rfl)
  case destroyContext => exact destroyContext_leads (fun _ => rfl) (.intro rfl .destroyContext rfl)
  case loadModule => exact loadModule_leads (fun _ => rfl) fun _ => .intro rfl .loadModule rfl
  case unloadModule => exact unloadModule_leads (fun _ => rfl) (.intro rfl .unloadModule rfl)
  case findRegister => exact findRegister_leads (fun _ => rfl) (.intro rfl .findRegister rfl)
  case findEntry => exact findEntry_leads (fun _ => rfl) fun _ hm => .intro rfl (.findEntry hm) rfl
  case getMemory => exact getMemory_leads (fun _ => rfl) fun _ _ _ => .intro rfl .getMemory rfl
  case releaseMemory =>
    exact releaseMemory_leads (fun _ => rfl) fun _ hm => .intro rfl (.releaseMemory hm) rfl
  case bindMemory =>
    refine bindMemory_leads (fun _ => rfl) fun name _ hc hname hm => ?_
    exact .intro (by rw [call?, hname, Option.getD_some]) (.bindMemory hc hm) rfl
  case allocate =>
    exact allocate_leads (fun _ => rfl) ⟨rfl, rfl⟩ fun _ hroom _ => .intro rfl (.allocate hroom) rfl
  case freeResource =>
    exact freeResource_leads (fun _ => rfl) fun _ _ => .intro rfl .freeResource rfl
  case mapResource =>
    exact mapResource_leads (fun _ => rfl) fun _ _ _ hr _ hp => .intro rfl (.mapResource hr hp) rfl
  case unmapResource =>
    exact unmapResource_leads (fun _ => rfl) fun _ hr _ => .intro rfl (.unmapResource hr) rfl
  -- A copy looks its memory objects up before it is logged.
  case copyMemory c source target =>
    have hunknown : call? s (.copyMemory c source target) = none →
        s = s.noted (.copyMemory c source target) := fun hnone => by rw [noted, hnone]; rfl
    simp only [Simulator.copyMemory, leads_bind, leads_get]
    cases hs : s.memoryOf? c source with
    | none => exact hunknown (by rw [call?, hs]; rfl)
    | some src =>
      change (Simulator.obtain (s.memoryOf? c target) _ _).Leads s _ _ _
      cases ht : s.memoryOf? c target with
      | none => exact hunknown (by rw [call?, hs, ht]; rfl)
      | some dst =>
        have hcall : call? s (.copyMemory c source target) = some (.copyMemory c src dst) := by
          rw [call?, hs, ht]
          rfl
        rw [show s.noted (.copyMemory c source target) = logged (.copyMemory c src dst) s by
          rw [noted, hcall]; rfl]
        refine enter_leads (fun _ => rfl) (obtain_leads (fun _ => rfl) fun read _ => ?_)
        exact obtain_leads (fun _ => rfl) fun _ hw => .intro hcall (.copyMemory read hw) rfl
  case runProgram => exact runProgram_leads (fun _ => rfl) (.intro rfl .runProgram rfl)
  case queryEvent =>
    exact queryEvent_leads (fun _ => rfl) (fun _ _ ht _ hn => .intro rfl (.stillPending ht hn) rfl)
      fun _ ht _ hn => .intro rfl (.ended ht hn) rfl

namespace Simulator

/-- Only the logging of a call is seen in the log. -/
theorem Effect.calls {s t : Simulator} {r : Request} {a : Answer} (h : s.Effect r a t) :
    t.calls = s.calls := by
  cases h <;> rfl

theorem Effect.nextNumber_le {s t : Simulator} {r : Request} {a : Answer} (h : s.Effect r a t) :
    s.nextNumber ≤ t.nextNumber := by
  cases h <;> first | exact Nat.le_refl _ | exact Nat.le_succ _

theorem Granted.calls {s s' : Simulator} {r : Request} {a : Answer} {call : Call}
    (h : s.Granted r a s') (hcall : r.call? s = some call) : s'.calls = call :: s.calls := by
  cases h with
  | intro hlogged he hleft =>
    cases hlogged.symm.trans hcall
    rw [hleft]
    exact congrArg _ he.calls

end Simulator

/-! ## Entry points -/

/-- The command is the call of a request, up to what is made of the answer. -/
class Command.Requested {α : Type} (c : Command α) where
  request : Request
  answer : α → Answer
  command_eq : request.command = c.map answer

namespace Simulator

instance : start.Requested := ⟨.start, _, rfl⟩

instance : stop.Requested := ⟨.stop, _, rfl⟩

instance : countDevices.Requested := ⟨.countDevices, _, rfl⟩

instance {n : Nat} : (describeDevice n).Requested := ⟨.describeDevice n, _, rfl⟩

instance {n : Nat} : (openDevice n).Requested := ⟨.openDevice n, _, rfl⟩

instance {d : Ident .device} : (closeDevice d).Requested := ⟨.closeDevice d, _, rfl⟩

instance {source : String} : (compile source).Requested := ⟨.compile source, _, rfl⟩

instance {i : Ident .image} : (freeImage i).Requested := ⟨.freeImage i, _, rfl⟩

instance {d : Ident .device} : (createContext d).Requested := ⟨.createContext d, _, rfl⟩

instance {place : Placement} {d : Ident .device} {layout : Layout} {format : Format}
    {flags : AllocFlags} : (allocate place d layout format flags).Requested :=
  ⟨.allocate place d layout format flags, _, rfl⟩

instance {place : Placement} {d : Ident .device} {shape : Shape} {format : Format}
    {flags : AllocFlags} : (Memory.request place d shape format flags).Requested :=
  inferInstanceAs (allocate place d (.ofShape shape) format flags).Requested

section Resources

variable {r : Ident .resource}

instance : (freeResource r).Requested := ⟨.freeResource r, _, rfl⟩

instance : (mapResource r).Requested := ⟨.mapResource r, _, rfl⟩

instance : (unmapResource r).Requested := ⟨.unmapResource r, _, rfl⟩

end Resources

section Contexts

variable {c : Ident .context} {m : Ident .module} {x y : Ident .memory}

instance : (destroyContext c).Requested := ⟨.destroyContext c, _, rfl⟩

instance {i : Ident .image} : (loadModule c i).Requested := ⟨.loadModule c i, _, rfl⟩

instance : (unloadModule c m).Requested := ⟨.unloadModule c m, _, rfl⟩

instance {name : String} : (findRegister c m name).Requested := ⟨.findRegister c m name, _, rfl⟩

instance {name : String} : (findEntry c m name).Requested := ⟨.findEntry c m name, _, rfl⟩

instance {r : Ident .resource} : (getMemory c r).Requested := ⟨.getMemory c r, _, rfl⟩

instance : (releaseMemory c x).Requested := ⟨.releaseMemory c x, _, rfl⟩

instance {r : Ident .register} : (bindMemory c r x).Requested := ⟨.bindMemory c r x, _, rfl⟩

instance : (copyMemory c x y).Requested := ⟨.copyMemory c x y, _, rfl⟩

instance {e : Ident .entry} {domain : Domain} : (runProgram c e domain).Requested :=
  ⟨.runProgram c e domain, _, rfl⟩

instance {e : Ident .event} : (queryEvent c e).Requested := ⟨.queryEvent c e, _, rfl⟩

end Contexts

end Simulator

namespace Command

variable {α : Type}

abbrev request (c : Command α) [h : c.Requested] : Request := h.request

theorem operation_request (c : Command α) [c.Requested] :
    c.request.command.operation = c.operation :=
  congrArg operation Requested.command_eq

/-- Whatever comes of a command is what comes of its request. -/
theorem leads_request (c : Command α) [h : c.Requested] (s : Simulator) :
    c.run.Leads s (fun a => s.Granted c.request (h.answer a)) (fun _ s' => s' = s.noted c.request)
      fun s' => s' = s.noted c.request ∧ c.request.asks?.isSome = true := by
  have hleads := c.request.command_leads s
  rw [h.command_eq] at hleads
  exact leads_map.mp hleads

variable {c : Command α} [c.Requested] {s : Simulator}

/-- However the command ends, it leaves what its request leaves, up to the logs. -/
theorem leads_effect {P : Simulator → Prop}
    (hlogs : ∀ t calls counts, P t → P (relogged calls counts t)) (hs : P s)
    (heffect : ∀ a t, s.Effect c.request a t → P t) :
    c.run.Leads s (fun _ => P) (fun _ => P) P := by
  have hnoted : P (s.noted c.request) := by
    obtain ⟨calls, counts, hnoted⟩ := s.noted_eq c.request
    rw [hnoted]
    exact hlogs s calls counts hs
  refine (c.leads_request s).mono (fun a s' h => ?_) (fun _ _ h => h ▸ hnoted) fun _ h => h.1 ▸ hnoted
  cases h with
  | @intro _ t _ he hleft =>
    rw [hleft]
    exact hlogs t _ _ (heffect _ t he)

theorem leads_numbers : c.run.Leads s (fun _ s' => s.nextNumber ≤ s'.nextNumber)
    (fun _ s' => s.nextNumber ≤ s'.nextNumber) fun s' => s.nextNumber ≤ s'.nextNumber :=
  leads_effect (P := fun s' => s.nextNumber ≤ s'.nextNumber) (fun _ _ _ h => h) (Nat.le_refl _)
    fun _ _ h => h.nextNumber_le

end Command

/-! ## Calls that fail -/

variable {κ ω : Type} [Reentry κ ω] {m m' : Machine κ ω}

/-- A driver call that fails is logged and counted, and changes nothing else of the driver; the log
    events that waited there are handed on. -/
theorem failed_call_is_only_logged (hooks : m.platform.hooks = []) (r : Request) {e : DriverError}
    (h : (Machine.drive r.command).run m = (.ok (.error e), m')) :
    ∃ calls counts, m'.platform = { m.platform with
        driver := { m.platform.driver with calls, counts, notices := [] } } ∧
      m'.journal = m.journal ++ m.platform.driver.notices := by
  have hunhooked : m.Unhooked fun _ => true := .of_nil hooks
  have hleads : (Machine.drive r.command).Leads m (fun _ _ => True)
      (fun e m' => m' = m.handled r.command.operation (.refused e) (m.platform.driver.noted r))
      fun _ => True := by
    rw [Machine.leads_drive hunhooked rfl]
    exact (r.command_leads _).mono (fun _ _ _ => trivial) (fun _ _ hs => by rw [hs])
      fun _ _ => trivial
  obtain ⟨calls, counts, hnoted⟩ := m.platform.driver.noted_eq r
  rw [hleads.of_eq_error h, hnoted]
  exact ⟨calls, counts, rfl, rfl⟩

/-- There are no hooks to be run. -/
instance {ω : Type} : Reentry Empty ω := ⟨nofun⟩

/-- Mapping a resource of the device is refused, which leaves the resource as it is. -/
theorem refused_mapping_is_only_logged :
    let driver : Simulator :=
      { resources := [(⟨1⟩, newResource {} .onDevice (.planar 4 4) ⟨.float32, .one⟩)] }
    let m : Machine Empty Unit := { platform := { driver }, host := () }
    ∃ e m', (Machine.drive (Request.mapResource ⟨1⟩).command).run m = (.ok (.error e), m') ∧
      ∃ calls counts, m'.platform =
        { m.platform with driver := { driver with calls, counts, notices := [] } } ∧
        m'.journal = [] := by
  refine ⟨_, _, rfl, ?_⟩
  exact failed_call_is_only_logged rfl (.mapResource ⟨1⟩) rfl

end StreamCompute
