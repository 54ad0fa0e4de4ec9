/-
  StreamCompute.Proofs.Commands

  What each driver call leads to. A call that is refused changes the log and
  the counts and nothing else; a call that is accepted changes the tables as
  its lemma says, and the lemma also gives the checks that it has passed.
-/
import StreamCompute.Proofs.Tables
import StreamCompute.Proofs.Triple
import StreamCompute.Simulator.Calls

namespace StreamCompute.Simulator

open Fallible

variable {s : Simulator} {α : Type} {op : Operation} {ok : Unit → Simulator → Prop}
  {err : DriverError → Simulator → Prop} {cut : Simulator → Prop}

/-- The state with another log of calls and other counts. -/
def relogged (calls : List Call) (counts : Assoc Operation Nat) (s : Simulator) : Simulator :=
  { s with calls, counts }

theorem callCount_logged (call : Call) (s : Simulator) (op : Operation) :
    (logged call s).callCount op =
      if call.operation = op then s.callCount op + 1 else s.callCount op := by
  unfold callCount logged
  rw [Assoc.get?_set]
  split
  · rename_i heq
    rw [← heq]
    rfl
  · rfl

/-! ## Parts of a call -/

theorem enter_leads {call : Call}
    (herr : ∀ e, err e (logged call s)) (hok : ok () (logged call s)) :
    (enter call).Leads s ok err cut := by
  unfold enter
  simp only [leads_bind, leads_modify, leads_get]
  split
  · exact herr _
  · exact hok

/-- No failure is injected into the entry point. -/
def Spared (s : Simulator) (op : Operation) : Prop :=
  ∀ i ∈ s.injections, i.operation ≠ op

theorem Spared.injected?_eq_none (h : s.Spared op) (n : Nat) :
    s.injected? op n = none := by
  simp only [injected?, List.find?_eq_none, Bool.and_eq_true, beq_iff_eq, not_and]
  intro i hi hop
  exact absurd hop (h i hi)

theorem enter_spared {call : Call} (h : s.Spared call.operation)
    (hok : ok () (logged call s)) : (enter call).Leads s ok err cut := by
  have hnone : (logged call s).injected? call.operation
      ((logged call s).callCount call.operation) = none := h.injected?_eq_none _
  unfold enter
  simp only [leads_bind, leads_modify, leads_get, hnone]
  exact hok

theorem require_leads {condition : Bool} {why : Refusal}
    (herr : ∀ e, err e s) (hok : condition = true → ok () s) :
    (require condition op why).Leads s ok err cut := by
  unfold require
  split
  · exact hok ‹_›
  · exact herr _

theorem obtain_leads {value : Option α} {why : Refusal}
    {ok : α → Simulator → Prop} (herr : ∀ e, err e s) (hok : ∀ a, value = some a → ok a s) :
    (obtain value op why).Leads s ok err cut := by
  cases value with
  | some a => exact hok a rfl
  | none => exact herr _

theorem requireStarted_leads (herr : ∀ e, err e s) (hok : s.started = true → ok () s) :
    (requireStarted op).Leads s ok err cut := by
  unfold requireStarted
  rw [leads_bind, leads_get]
  exact require_leads herr hok

variable {context : Ident .context} {module : Ident .module} {resource : Ident .resource}
  {image : Ident .image} {device : Ident .device} {memory : Ident .memory}

theorem requireContext_leads (herr : ∀ e, err e s) (hok : s.contexts.has context = true → ok () s) :
    (requireContext op context).Leads s ok err cut := by
  unfold requireContext
  rw [leads_bind, leads_get]
  exact require_leads herr hok

/-! ## The driver and its devices -/

theorem start_leads (herr : ∀ e, err e (logged .start s))
    (hok : ok () { logged .start s with started := true }) :
    start.run.Leads s ok err cut := by
  simp only [start, leads_bind]
  exact enter_leads herr hok

theorem stop_leads (herr : ∀ e, err e (logged .stop s))
    (hok : s.started = true → ok () { logged .stop s with started := false }) :
    stop.run.Leads s ok err cut := by
  simp only [stop, leads_bind]
  refine enter_leads herr ?_
  exact requireStarted_leads herr hok

theorem countDevices_leads {ok : Nat → Simulator → Prop}
    (herr : ∀ e, err e (logged .countDevices s))
    (hok : ok s.spec.deviceCount (logged .countDevices s)) :
    countDevices.run.Leads s ok err cut := by
  simp only [countDevices, leads_bind]
  refine enter_leads herr ?_
  exact requireStarted_leads herr fun _ => hok

theorem describeDevice_leads {ordinal : Nat} {ok : DeviceInfo → Simulator → Prop}
    (herr : ∀ e, err e (logged (.describeDevice ordinal) s))
    (hok : ok s.spec.info (logged (.describeDevice ordinal) s)) :
    (describeDevice ordinal).run.Leads s ok err cut := by
  simp only [describeDevice, leads_bind, leads_get]
  refine enter_leads herr ?_
  refine requireStarted_leads herr fun _ => ?_
  exact require_leads herr fun _ => hok

theorem openDevice_leads {ordinal : Nat} {ok : Ident .device → Simulator → Prop}
    (herr : ∀ e, err e (logged (.openDevice ordinal) s))
    (hok : ok ⟨s.nextNumber⟩ { logged (.openDevice ordinal) s with
      nextNumber := s.nextNumber + 1
      devices := s.devices.set ⟨s.nextNumber⟩ ordinal }) :
    (openDevice ordinal).run.Leads s ok err cut := by
  simp only [openDevice, leads_bind, leads_get]
  refine enter_leads herr ?_
  refine requireStarted_leads herr fun _ => ?_
  exact require_leads herr fun _ => hok

theorem closeDevice_leads (herr : ∀ e, err e (logged (.closeDevice device) s))
    (hok : ok () { logged (.closeDevice device) s with devices := s.devices.erase device }) :
    (closeDevice device).run.Leads s ok err cut := by
  simp only [closeDevice, leads_bind, leads_get]
  refine enter_leads herr ?_
  exact require_leads herr fun _ => hok

/-! ## Images -/

theorem compile_leads {source : String} {ok : Ident .image → Simulator → Prop}
    (herr : ∀ e, err e (logged .compile s))
    (hok : ok ⟨s.nextNumber⟩ { logged .compile s with
      nextNumber := s.nextNumber + 1
      images := s.images.set ⟨s.nextNumber⟩ source }) :
    (compile source).run.Leads s ok err cut := by
  simp only [compile, leads_bind, leads_get]
  refine enter_leads herr ?_
  refine require_leads herr fun _ => ?_
  split
  · exact herr _
  · exact hok

theorem freeImage_leads (herr : ∀ e, err e (logged (.freeImage image) s))
    (hok : ok () { logged (.freeImage image) s with images := s.images.erase image }) :
    (freeImage image).run.Leads s ok err cut := by
  simp only [freeImage, leads_bind, leads_get]
  refine enter_leads herr ?_
  exact require_leads herr fun _ => hok

/-! ## Contexts and modules -/

theorem createContext_leads {ok : Ident .context → Simulator → Prop}
    (herr : ∀ e, err e (logged (.createContext device) s))
    (hok : ok ⟨s.nextNumber⟩ { logged (.createContext device) s with
      nextNumber := s.nextNumber + 1
      contexts := s.contexts.set ⟨s.nextNumber⟩ device
      bindings := s.bindings.set ⟨s.nextNumber⟩ [] }) :
    (createContext device).run.Leads s ok err cut := by
  simp only [createContext, leads_bind, leads_get]
  refine enter_leads herr ?_
  refine requireStarted_leads herr fun _ => ?_
  exact require_leads herr fun _ => hok

theorem destroyContext_leads (herr : ∀ e, err e (logged (.destroyContext context) s))
    (hok : ok () { logged (.destroyContext context) s with
      contexts := s.contexts.erase context
      bindings := s.bindings.erase context
      tokens := s.tokens.keepValues (·.context ≠ context) }) :
    (destroyContext context).run.Leads s ok err cut := by
  simp only [destroyContext, leads_bind]
  refine enter_leads herr ?_
  exact requireContext_leads herr fun _ => hok

theorem loadModule_leads {ok : Ident .module → Simulator → Prop}
    (herr : ∀ e, err e (logged (.loadModule context image) s))
    (hok : s.images.has image = true → ok ⟨s.nextNumber⟩ { logged (.loadModule context image) s with
      nextNumber := s.nextNumber + 1
      modules := s.modules.set ⟨s.nextNumber⟩ (context, image) }) :
    (loadModule context image).run.Leads s ok err cut := by
  simp only [loadModule, leads_bind, leads_get]
  refine enter_leads herr ?_
  refine requireContext_leads herr fun _ => ?_
  exact require_leads herr hok

theorem unloadModule_leads (herr : ∀ e, err e (logged (.unloadModule context module) s))
    (hok : ok () { logged (.unloadModule context module) s with
      modules := s.modules.erase module
      entries := s.entries.keepValues (· ≠ module) }) :
    (unloadModule context module).run.Leads s ok err cut := by
  simp only [unloadModule, leads_bind, leads_get]
  refine enter_leads herr ?_
  exact require_leads herr fun _ => hok

theorem findRegister_leads
    {register : String} {ok : Ident .register → Simulator → Prop}
    (herr : ∀ e, err e (logged (.findRegister context register) s))
    (hok : ok ⟨s.nextNumber⟩ { logged (.findRegister context register) s with
      nextNumber := s.nextNumber + 1
      registers := s.registers.set ⟨s.nextNumber⟩ register }) :
    (findRegister context module register).run.Leads s ok err cut := by
  simp only [findRegister, leads_bind, leads_get]
  refine enter_leads herr ?_
  refine obtain_leads herr fun image _ => ?_
  exact require_leads herr fun _ => hok

theorem moduleOf?_eq_some_iff :
    s.moduleOf? context module = some image ↔
      s.modules.get? module = some (context, image) := by
  unfold moduleOf?
  split
  · rename_i owner found h
    rw [h]
    by_cases ho : owner = context <;> simp [ho]
  · rename_i h
    rw [h]
    simp

theorem findEntry_leads {symbol : String}
    {ok : Ident .entry → Simulator → Prop}
    (herr : ∀ e, err e (logged (.findEntry context symbol) s))
    (hok : ∀ image, s.modules.get? module = some (context, image) →
      ok ⟨s.nextNumber⟩ { logged (.findEntry context symbol) s with
        nextNumber := s.nextNumber + 1
        entries := s.entries.set ⟨s.nextNumber⟩ module }) :
    (findEntry context module symbol).run.Leads s ok err cut := by
  simp only [findEntry, leads_bind, leads_get]
  refine enter_leads herr ?_
  refine require_leads herr fun hm => ?_
  obtain ⟨image, hi⟩ := Option.isSome_iff_exists.mp hm
  exact hok image (moduleOf?_eq_some_iff.mp hi)

/-! ## Memory objects -/

theorem getMemory_leads
    {ok : Ident .memory → Simulator → Prop}
    (herr : ∀ e, err e (logged (.getMemory context resource) s))
    (hok : ∀ r, s.resources.get? resource = some r → r.mapped = false →
      ok ⟨s.nextNumber⟩ { logged (.getMemory context resource) s with
        nextNumber := s.nextNumber + 1
        memories := s.memories.set ⟨s.nextNumber⟩ (context, resource) }) :
    (getMemory context resource).run.Leads s ok err cut := by
  simp only [getMemory, leads_bind, leads_get]
  refine enter_leads herr ?_
  refine requireContext_leads herr fun _ => ?_
  refine obtain_leads herr fun r hr => ?_
  exact require_leads herr fun hm => hok r hr (by simpa using hm)

theorem memoryOf?_eq_some_iff :
    s.memoryOf? context memory = some resource ↔
      s.memories.get? memory = some (context, resource) := by
  unfold memoryOf?
  split
  · rename_i owner found h
    rw [h]
    by_cases ho : owner = context <;> simp [ho]
  · rename_i h
    rw [h]
    simp

theorem releaseMemory_leads (herr : ∀ e, err e (logged (.releaseMemory context memory) s))
    (hok : ∀ resource, s.memories.get? memory = some (context, resource) →
      ok () { logged (.releaseMemory context memory) s with
        memories := s.memories.erase memory
        bindings := s.unbound context memory }) :
    (releaseMemory context memory).run.Leads s ok err cut := by
  simp only [releaseMemory, leads_bind, leads_get]
  refine enter_leads herr ?_
  refine require_leads herr fun hm => ?_
  obtain ⟨resource, hr⟩ := Option.isSome_iff_exists.mp hm
  exact hok resource (memoryOf?_eq_some_iff.mp hr)

theorem bindMemory_leads {register : Ident .register}
    (herr : ∀ e, err e (logged (.bindMemory context
      ((s.registers.get? register).getD register.text) memory) s))
    (hok : ∀ name resource, s.contexts.has context = true →
      s.registers.get? register = some name → s.memories.get? memory = some (context, resource) →
      ok () { logged (.bindMemory context name memory) s with
        bindings := s.bindings.set context
          (((s.bindings.get? context).getD []).set name memory) }) :
    (bindMemory context register memory).run.Leads s ok err cut := by
  simp only [bindMemory, leads_bind, leads_get]
  refine enter_leads herr ?_
  refine requireContext_leads herr fun hcontext => ?_
  refine require_leads herr fun hm => ?_
  refine obtain_leads herr fun name hn => ?_
  obtain ⟨resource, hr⟩ := Option.isSome_iff_exists.mp hm
  have hok' := hok name resource hcontext hn (memoryOf?_eq_some_iff.mp hr)
  rw [hn]
  exact hok'

/-! ## Resources -/

/-- Elements from one row to the next in a new resource. -/
def newPitch (spec : Spec) (place : Placement) (layout : Layout) : Nat :=
  match place with
  | .onDevice => layout.width
  | .onHost => (layout.width + spec.alignment - 1) / spec.alignment * spec.alignment

def newSize (spec : Spec) (place : Placement) (layout : Layout) (format : Format) : Nat :=
  newPitch spec place layout * layout.height * format.elementSize

def newResource (spec : Spec) (place : Placement) (layout : Layout) (format : Format) :
    Resource :=
  { place, layout, format, pitch := newPitch spec place layout
    bytes := .zeros (newSize spec place layout format) }

theorem mulBelow_leads {bound a b : Nat} {ok : Nat → Simulator → Prop} (hcut : cut s)
    (hok : a * b < bound → ok (a * b) s) :
    (mulBelow bound a b : Sim Nat).Leads s ok err cut := by
  unfold mulBelow
  split
  · exact hok ‹_›
  · exact hcut

theorem storage_leads {place : Placement} {len : Nat}
    {ok : Contents → Simulator → Prop} (herr : ∀ e, err e s) (hcut : place = .onDevice → cut s)
    (hok : ∀ notices, ok (.zeros len) { s with notices }) :
    (storage op place len).Leads s ok err cut := by
  unfold storage
  cases place with
  | onDevice =>
    simp only
    split
    · exact hok s.notices
    · exact hcut rfl
  | onHost =>
    dsimp only
    rw [leads_bind, leads_get]
    unfold HostMemory.Buffer.zeroed
    cases HostMemory.Buffer.refusal? s.spec.system (max len 1) with
    | none => exact hok _
    | some detail => exact herr _

theorem allocate_leads {place : Placement} {layout : Layout}
    {format : Format} {flags : AllocFlags} {ok : Ident .resource → Simulator → Prop}
    (herr : ∀ e, err e (logged (.allocate place layout format flags) s))
    (hcut : cut (logged (.allocate place layout format flags) s))
    (hok : ∀ notices, s.live < s.spec.capacity → newSize s.spec place layout format < UInt64.size →
      ok ⟨s.nextNumber⟩ { logged (.allocate place layout format flags) s with
        notices
        nextNumber := s.nextNumber + 1
        resources := s.resources.set ⟨s.nextNumber⟩ (newResource s.spec place layout format) }) :
    (allocate place device layout format flags).run.Leads s ok err cut := by
  simp only [allocate, leads_bind, leads_get]
  refine enter_leads herr ?_
  refine requireStarted_leads herr fun _ => ?_
  refine require_leads herr fun _ => ?_
  refine require_leads herr fun _ => ?_
  refine require_leads herr fun hlt => ?_
  have hroom : s.live < s.spec.capacity := of_decide_eq_true hlt
  cases place with
  | onDevice =>
    simp only [leads_bind, leads_pure]
    refine mulBelow_leads hcut fun _ => ?_
    refine mulBelow_leads hcut fun hsize => ?_
    exact storage_leads herr (fun _ => hcut) fun notices => hok notices hroom hsize
  | onHost =>
    simp only [leads_bind, leads_get]
    refine mulBelow_leads hcut fun _ => ?_
    refine mulBelow_leads hcut fun _ => ?_
    refine mulBelow_leads hcut fun hsize => ?_
    exact storage_leads herr (fun _ => hcut) fun notices => hok notices hroom hsize

theorem freeResource_leads (herr : ∀ e, err e (logged (.freeResource resource) s))
    (hok : ∀ r, s.resources.get? resource = some r →
      ok () { logged (.freeResource resource) s with
        resources := s.resources.erase resource }) :
    (freeResource resource).run.Leads s ok err cut := by
  simp only [freeResource, leads_bind, leads_get]
  refine enter_leads herr ?_
  refine require_leads herr fun h => ?_
  obtain ⟨r, hr⟩ := Assoc.has_iff.mp h
  exact hok r hr

theorem mapResource_leads {ok : HostView → Simulator → Prop}
    (herr : ∀ e, err e (logged (.mapResource resource) s))
    (hok : ∀ r moves notices, s.resources.get? resource = some r → r.mapped = false →
      r.place = .onHost →
      ok ⟨r.pitch, moves⟩ { logged (.mapResource resource) s with
        notices
        resources := s.resources.set resource
          { r with mapped := true, everMapped := true, moves } }) :
    (mapResource resource).run.Leads s ok err cut := by
  simp only [mapResource, leads_bind, leads_get]
  refine enter_leads herr ?_
  refine obtain_leads herr fun r hr => ?_
  refine require_leads herr fun hm => ?_
  refine require_leads herr fun hp => ?_
  have hm' : r.mapped = false := by simpa using hm
  have hp' : r.place = .onHost := by simpa using hp
  split
  · rw [leads_bind]
    exact storage_leads herr (by simp) fun notices => hok r _ notices hr hm' hp'
  · exact hok r _ s.notices hr hm' hp'

theorem unmapResource_leads (herr : ∀ e, err e (logged (.unmapResource resource) s))
    (hok : ∀ r, s.resources.get? resource = some r → r.mapped = true →
      ok () { logged (.unmapResource resource) s with
        resources := s.resources.set resource { r with mapped := false } }) :
    (unmapResource resource).run.Leads s ok err cut := by
  simp only [unmapResource, leads_bind, leads_get]
  refine enter_leads herr ?_
  refine obtain_leads herr fun r hr => ?_
  exact require_leads herr fun hm => hok r hr hm

/-! ## Work -/

def tokenMade (op : Operation) (context : Ident .context) (s : Simulator) : Simulator :=
  { s with
    nextNumber := s.nextNumber + 1
    tokenErrors := (takeTokenError op s.tokenErrors).2
    tokens := s.tokens.set ⟨s.nextNumber⟩
      { context, pending := s.spec.pendingPolls, error := (takeTokenError op s.tokenErrors).1 } }

theorem copyMemory_leads {source target : Ident .memory}
    {ok : Ident .event → Simulator → Prop}
    (herr : ∀ e calls counts, err e (relogged calls counts s))
    (hok : ∀ src dst read written, s.memories.get? source = some (context, src) →
      s.memories.get? target = some (context, dst) →
      s.resources.get? src = some read → s.resources.get? dst = some written →
      ok ⟨s.nextNumber⟩ (tokenMade .copyMemory context { logged (.copyMemory context src dst) s with
        resources := s.resources.set dst
          { written with bytes := written.bytes.cover read.bytes } })) :
    (copyMemory context source target).run.Leads s ok err cut := by
  simp only [copyMemory, leads_bind, leads_get]
  refine obtain_leads (fun e => herr e s.calls s.counts) fun src hsrc => ?_
  refine obtain_leads (fun e => herr e s.calls s.counts) fun dst hdst => ?_
  refine enter_leads (fun e => herr e _ _) ?_
  refine obtain_leads (fun e => herr e _ _) fun read hread => ?_
  refine obtain_leads (fun e => herr e _ _) fun written hwritten => ?_
  exact hok src dst read written (memoryOf?_eq_some_iff.mp hsrc) (memoryOf?_eq_some_iff.mp hdst)
    hread hwritten

theorem runProgram_leads {entry : Ident .entry} {domain : Domain}
    {ok : Ident .event → Simulator → Prop}
    (herr : ∀ e, err e (logged (.runProgram context domain) s))
    (hok : ok ⟨s.nextNumber⟩ (tokenMade .runProgram context
      { logged (.runProgram context domain) s with resources := s.executed context domain })) :
    (runProgram context entry domain).run.Leads s ok err cut := by
  simp only [runProgram, leads_bind, leads_get]
  refine enter_leads herr ?_
  refine requireContext_leads herr fun _ => ?_
  exact require_leads herr fun _ => hok

theorem queryEvent_leads {event : Ident .event}
    {ok : Status → Simulator → Prop}
    (herr : ∀ e, err e (logged (.queryEvent context event) s))
    (hpending : ∀ token n, s.tokens.get? event = some token → token.context = context →
      token.pending = n + 1 →
      ok .pending { logged (.queryEvent context event) s with
        tokens := s.tokens.set event { token with pending := n } })
    (hended : ∀ token, s.tokens.get? event = some token → token.context = context →
      token.pending = 0 →
      ok (token.error.elim .done .failed) (logged (.queryEvent context event) s)) :
    (queryEvent context event).run.Leads s ok err cut := by
  simp only [queryEvent, leads_bind, leads_get]
  refine enter_leads herr ?_
  refine obtain_leads herr fun token htoken => ?_
  obtain ⟨hget, hctx⟩ : s.tokens.get? event = some token ∧ token.context = context := by
    simpa [Option.filter_eq_some_iff, logged] using htoken
  split
  · rename_i n hn
    exact hpending token n hget hctx hn
  · rename_i hn
    have hend := hended token hget hctx hn
    split
    · rename_i message hmessage
      rw [hmessage] at hend
      exact hend
    · rename_i hnone
      rw [hnone] at hend
      exact hend

/-! ## Numbers -/

/-- Every number that the driver's tables mention has been given out. -/
structure Numbered (s : Simulator) : Prop where
  contexts : Below s.nextNumber s.contexts
  modules : Below s.nextNumber s.modules
  entries : Below s.nextNumber s.entries
  memories : Below s.nextNumber s.memories
  bindings : Below s.nextNumber s.bindings
  resources : Below s.nextNumber s.resources
  tokens : Below s.nextNumber s.tokens
  entryModules : ∀ e ∈ s.entries, e.2.number < s.nextNumber
  tokenContexts : ∀ e ∈ s.tokens, e.2.context.number < s.nextNumber

namespace Numbered

/-- Once a number is given out, all numbers are below the one after it. -/
theorem next (h : s.Numbered) : { s with nextNumber := s.nextNumber + 1 }.Numbered where
  contexts := h.contexts.mono (Nat.le_succ _)
  modules := h.modules.mono (Nat.le_succ _)
  entries := h.entries.mono (Nat.le_succ _)
  memories := h.memories.mono (Nat.le_succ _)
  bindings := h.bindings.mono (Nat.le_succ _)
  resources := h.resources.mono (Nat.le_succ _)
  tokens := h.tokens.mono (Nat.le_succ _)
  entryModules e he := Nat.lt_succ_of_lt (h.entryModules e he)
  tokenContexts e he := Nat.lt_succ_of_lt (h.tokenContexts e he)

theorem unloadModule (h : s.Numbered) {module : Ident .module} :
    Numbered { s with
      modules := s.modules.erase module
      entries := s.entries.keepValues (· ≠ module) } :=
  { h with
    modules := h.modules.erase
    entries := h.entries.keepValues (p := (· ≠ module))
    entryModules := fun e he => h.entryModules e (List.mem_filter.mp he).1 }

theorem destroyContext (h : s.Numbered) {context : Ident .context} :
    Numbered { s with
      contexts := s.contexts.erase context
      bindings := s.bindings.erase context
      tokens := s.tokens.keepValues (·.context ≠ context) } :=
  { h with
    contexts := h.contexts.erase
    bindings := h.bindings.erase
    tokens := h.tokens.keepValues (p := (·.context ≠ context))
    tokenContexts := fun e he => h.tokenContexts e (List.mem_filter.mp he).1 }

theorem unbound (h : s.Numbered) {context : Ident .context} {memory : Ident .memory} :
    Below s.nextNumber (s.unbound context memory) := by
  unfold Simulator.unbound
  split
  · rename_i hbound
    exact h.bindings.reset hbound
  · exact h.bindings

/-- A new token of a known context leaves all numbers below the next. -/
theorem tokenMade (h : s.Numbered) {op : Operation} {context : Ident .context}
    (hc : context.number < s.nextNumber) : (Simulator.tokenMade op context s).Numbered :=
  { h.next with
    tokens := h.tokens.set_next
    tokenContexts := fun e he => by
      rcases Assoc.mem_set he with rfl | he
      · exact Nat.lt_succ_of_lt hc
      · exact Nat.lt_succ_of_lt (h.tokenContexts e he) }

end Numbered

end StreamCompute.Simulator
