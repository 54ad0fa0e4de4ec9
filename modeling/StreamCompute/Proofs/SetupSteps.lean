/-
  StreamCompute.Proofs.SetupSteps

  The steps of binding registers while nobody interferes. Each of them keeps
  the comparison with the machine before the launch, `Setup`, whether it is
  accepted or refused. A step that is accepted also leaves alone what the
  steps before it have bound.
-/
import StreamCompute.Proofs.Setup

namespace StreamCompute

open Fallible

/-- The bytes of a live resource, written out. -/
def Simulator.held? (s : Simulator) (id : Ident .resource) : Option Bytes :=
  (s.bytes? id).map (·.toList)

section Held

variable {s s' : Simulator} {id : Ident .resource} {res old : Resource}

theorem Simulator.held?_of_get? (h : s.resources.get? id = some res) :
    s.held? id = some res.bytes.toList := by
  simp [held?, bytes?, h]

theorem Simulator.held?_eq_some {bytes : Bytes} (h : s.held? id = some bytes) :
    ∃ res, s.resources.get? id = some res ∧ res.bytes.toList = bytes := by
  simpa [held?, bytes?] using h

/-- What is held after one resource was set. -/
theorem Simulator.held?_of_set (h : s'.resources = s.resources.set id res)
    (id' : Ident .resource) :
    s'.held? id' = if id = id' then some res.bytes.toList else s.held? id' := by
  unfold held? bytes?
  rw [h, Assoc.get?_set]
  split <;> rfl

/-- Mapping and unmapping make no difference to the bytes. -/
theorem Simulator.held?_of_map (hold : s.resources.get? id = some old) {moves : Nat}
    {mapped everMapped : Bool}
    (h : s'.resources = s.resources.set id { old with moves, mapped, everMapped })
    (id' : Ident .resource) : s'.held? id' = s.held? id' := by
  rw [held?_of_set h]
  split
  · rename_i heq
    rw [← heq, held?_of_get? hold]
  · rfl

end Held

theorem Remote.claimable_of_refusal?_eq_none {r : Remote} {s : RemoteStatus}
    (h : r.claimRefusal? s = none) : s.freed = false ∧ s.inFlight = false := by
  unfold claimRefusal? at h
  cases hf : s.freed <;> cases hi : s.inFlight <;> simp_all

namespace Machine

variable {κ ω : Type} {m m' m'' : Machine κ ω}

/-- The registers of a context with their memory objects. -/
def wiring (context : Ident .context) (m : Machine κ ω) : Assoc String (Ident .memory) :=
  (m.platform.driver.bindings.get? context).getD []

/-- Memory objects, the bytes of resources and the recorded pitches are still there. -/
structure Intact (m m' : Machine κ ω) : Prop where
  memories : ∀ memory v, m.platform.driver.memories.get? memory = some v →
    m'.platform.driver.memories.get? memory = some v
  held : ∀ id bytes, m.platform.driver.held? id = some bytes →
    m'.platform.driver.held? id = some bytes
  pitch : ∀ r, (m'.status r).pitch = (m.status r).pitch

namespace Intact

theorem refl : m.Intact m :=
  ⟨fun _ _ h => h, fun _ _ h => h, fun _ => rfl⟩

theorem trans (h : m.Intact m') (h' : m'.Intact m'') : m.Intact m'' where
  memories memory v hv := h'.memories memory v (h.memories memory v hv)
  held id bytes hb := h'.held id bytes (h.held id bytes hb)
  pitch r := (h'.pitch r).trans (h.pitch r)

theorem handled {op : Operation} {verdict : Verdict} {s : Simulator}
    (hmemories : ∀ memory v, m.platform.driver.memories.get? memory = some v →
      s.memories.get? memory = some v)
    (hheld : ∀ id bytes, m.platform.driver.held? id = some bytes → s.held? id = some bytes) :
    m.Intact (m.handled op verdict s) :=
  ⟨hmemories, hheld, fun _ => rfl⟩

theorem journal (h : m.Intact m') {journal : List Event} : m.Intact { m' with journal } :=
  ⟨h.memories, h.held, h.pitch⟩

theorem onStatus (h : m.Intact m') (r : Remote) {f : RemoteStatus → RemoteStatus}
    (hf : ∀ s, (f s).pitch = s.pitch) : m.Intact (m'.onStatus r f) where
  memories := h.memories
  held := h.held
  pitch r' := by
    rw [status_onStatus]
    split
    · exact (hf _).trans (h.pitch r')
    · exact h.pitch r'

theorem onArena (h : m.Intact m') (key : ExecutionKey) (f : Arena → Arena) :
    m.Intact (m'.onArena key f) where
  memories := by simpa using h.memories
  held := by simpa using h.held
  pitch := by simpa [status] using h.pitch

end Intact

@[simp] theorem wiring_onArena {context : Ident .context} {key : ExecutionKey}
    {f : Arena → Arena} : (m.onArena key f).wiring context = m.wiring context := by
  simp [wiring]

end Machine

variable {κ ω : Type}

/-- The launch at the site is set up as far as the arena says. -/
abbrev Underway (base : Machine κ ω) (site : BindSite) : Arena → Machine κ ω → Prop :=
  Setup base site.owner [site.context] [site.module]

/-- What a step that fails leaves. -/
def Halted (base : Machine κ ω) (site : BindSite) (m : Machine κ ω) : Prop :=
  ∃ a, Underway base site a m

/-- A step has come to arena `a'` and has kept what was bound before. -/
structure Reached (base : Machine κ ω) (site : BindSite) (a' : Arena) (m m' : Machine κ ω) :
    Prop where
  setup : Underway base site a' m'
  intact : m.Intact m'
  wiring : m'.wiring site.context = m.wiring site.context

variable {base m m' m'' : Machine κ ω} {site : BindSite} {a a' a'' : Arena}

namespace Reached

theorem refl (h : Underway base site a m) : Reached base site a m m :=
  ⟨h, .refl, rfl⟩

theorem trans (h : Reached base site a' m m') (h' : Reached base site a'' m' m'') :
    Reached base site a'' m m'' :=
  ⟨h'.setup, h.intact.trans h'.intact, h'.wiring.trans h.wiring⟩

theorem halted (h : Reached base site a m m') : Halted base site m' :=
  ⟨a, h.setup⟩

end Reached

namespace Binder

variable [Reentry κ ω]

variable {register : String}

variable (h : Underway base site a m)

include h

theorem withdraw_reached {r : Remote} :
    (do if ← (Memory.withdraw r).mapError (.binding register) then
          acquire site (.unmapped register r) : Task κ ω Unit).Leads m
      (fun _ m' => ∃ a', a'.copies = a.copies ∧ Reached base site a' m m')
      (fun _ => Halted base site) fun _ => True := by
  unfold Memory.withdraw acquire
  rw [leads_bind, leads_mapError, leads_bind, leads_get]
  split
  · rename_i hmapped
    rw [leads_bind, Machine.leads_drive h.hooks rfl]
    refine Simulator.unmapResource_leads (fun e => ⟨a, h.refused⟩) fun res hres hdriver => ?_
    refine ⟨a.grown (.unmapped register r), rfl, ?_, ?_, Machine.wiring_onArena⟩
    · exact h.unmapped (Machine.recorded_of_mapped hmapped) hmapped nofun
        { h.driver.unmapResource h.numbered hres hdriver with }
        { h.numbered with
          resources := h.numbered.resources.reset hres }
        (Nat.le_refl _) rfl
    · refine .onArena (.onStatus (.handled ?_ ?_) r ?_) _ _
      · exact fun _ _ hv => hv
      · intro id bytes hbytes
        rw [Simulator.held?_of_map hres rfl, hbytes]
      · exact fun _ => rfl
  · exact ⟨a, rfl, .refl h⟩

theorem claim_reached {r : Remote} :
    (claim site register r).Leads m
      (fun _ m' => ∃ a', a'.copies = a.copies ∧ Reached base site a' m m')
      (fun _ => Halted base site) fun _ => True := by
  unfold claim Memory.claim
  rw [leads_bind, leads_bind, leads_get]
  split
  · exact ⟨a, h⟩
  · rename_i hnone
    obtain ⟨hfreed, hflight⟩ := Remote.claimable_of_refusal?_eq_none hnone
    have hclaimed : Reached base site (a.grown (.flight r)) m _ :=
      ⟨h.claimed hfreed hflight, .onArena (.onStatus .refl r (by exact fun _ => rfl)) _ _,
        Machine.wiring_onArena⟩
    refine (withdraw_reached hclaimed.setup).mono ?_ (fun _ _ hm => hm) fun _ hm => hm
    exact fun _ m' ⟨a', hcopies, hm'⟩ => ⟨a', hcopies, hclaimed.trans hm'⟩

theorem getMemory_reached {resource : Ident .resource} :
    (getMemory site register resource).Leads m
      (fun memory m' => Reached base site (a.grown (.memory memory)) m m' ∧
        m'.platform.driver.memories.get? memory = some (site.context, resource))
      (fun _ => Halted base site) fun _ => True := by
  unfold getMemory acquire
  rw [leads_bind, Machine.leads_driveAs,
    Machine.leads_drive h.hooks rfl]
  refine Simulator.getMemory_leads (fun e => ⟨a, h.refused⟩) fun res hres hidle => ?_
  refine ⟨⟨?_, ?_, Machine.wiring_onArena⟩, ?_⟩
  · exact h.acquired (by simp) (by simp) nofun nofun { h.driver.getMemory h.numbered with }
      { h.numbered.next with memories := h.numbered.memories.set_next } (Nat.le_succ _) rfl
  · refine .onArena (.handled ?_ ?_) _ _
    · intro memory v hv
      have hne : (⟨m.platform.driver.nextNumber⟩ : Ident .memory) ≠ memory :=
        (Ident.ne_of_number_lt (h.numbered.memories.lt_of_get? hv)).symm
      exact (Assoc.get?_set_of_ne _ _ hne).trans hv
    · exact fun _ _ hb => hb
  · rw [Machine.platform_onArena]
    exact Assoc.get?_set_self ..

theorem allocate_reached {shape : Shape} {format : Format} :
    (allocate site register shape format).Leads m
      (fun resource m' => Reached base site (a.grown (.transient register resource)) m m' ∧
        resource.number = m.platform.driver.nextNumber ∧
        m'.platform.driver.held? resource = some (Bytes.zeros
          (Simulator.newSize base.platform.driver.spec .onDevice (.ofShape shape) format)))
      (fun _ => Halted base site) fun _ => True := by
  unfold allocate acquire
  rw [leads_bind, Machine.leads_driveAs, Memory.request,
    Machine.leads_drive h.hooks (Operation.ofLaunch_allocate _)]
  refine Simulator.allocate_leads (fun e => ⟨a, h.refused⟩) trivial
    fun notices _ hsize => ?_
  refine ⟨⟨?_, ?_, Machine.wiring_onArena⟩, rfl, ?_⟩
  · exact h.acquired (by simp) (by simp) (fun t ht => by cases ht; exact h.grown)
      (Operation.allocate_ne_runProgram _ _) { h.driver.allocate h.numbered with }
      { h.numbered.next with resources := h.numbered.resources.set_next } (Nat.le_succ _) rfl
  · refine .onArena (.handled ?_ ?_) _ _
    · exact fun _ _ hv => hv
    · intro id bytes hb
      have hne : (⟨m.platform.driver.nextNumber⟩ : Ident .resource) ≠ id := by
        obtain ⟨res, hres, -⟩ := Simulator.held?_eq_some hb
        exact (Ident.ne_of_number_lt (h.numbered.resources.lt_of_get? hres)).symm
      rw [Simulator.held?_of_set rfl, if_neg hne, hb]
  · rw [Machine.platform_onArena, ← h.spec]
    refine (Simulator.held?_of_set rfl _).trans ?_
    rw [if_pos rfl, Simulator.newResource, Contents.toList_zeros]

theorem findRegister_reached :
    (Machine.driveAs (.binding register)
        (Simulator.findRegister site.context site.module register)).Leads m
      (fun found m' => Reached base site a m m' ∧
        m'.platform.driver.registers.get? found = some register)
      (fun _ => Halted base site) fun _ => True := by
  rw [Machine.leads_driveAs, Machine.leads_drive h.hooks rfl]
  refine Simulator.findRegister_leads (fun e => ⟨a, h.refused⟩) ⟨⟨?_, ?_, rfl⟩, ?_⟩
  · exact h.handled (Or.inl nofun) { h.driver with } { h.numbered.next with } (Nat.le_succ _)
      (fun c hc => Nat.lt_succ_of_lt (h.contexts c hc)) rfl
  · exact .handled (fun _ _ hv => hv) fun _ _ hb => hb
  · exact Assoc.get?_set_self ..

theorem bindMemory_wires {found : Ident .register} {memory : Ident .memory}
    (hfound : m.platform.driver.registers.get? found = some register) :
    (Machine.driveAs (.binding register) (Simulator.bindMemory site.context found memory)).Leads m
      (fun _ m' => Underway base site a m' ∧ m.Intact m' ∧
        m'.wiring site.context = (m.wiring site.context).set register memory)
      (fun _ => Halted base site) fun _ => True := by
  have hcontext : site.context.number < m.platform.driver.nextNumber :=
    h.contexts site.context List.mem_cons_self
  rw [Machine.leads_driveAs, Machine.leads_drive h.hooks rfl]
  refine Simulator.bindMemory_leads (fun e => ⟨a, h.refused⟩) fun name resource _ hname _ => ?_
  cases hfound.symm.trans hname
  refine ⟨?_, ?_, ?_⟩
  · exact h.handled (Or.inl nofun) { h.driver.bindMemory List.mem_cons_self with }
      { h.numbered with bindings := h.numbered.bindings.set hcontext } (Nat.le_refl _)
      h.contexts rfl
  · exact .handled (fun _ _ hv => hv) fun _ _ hb => hb
  · exact congrArg (Option.getD · [])
      (Assoc.get?_set_self m.platform.driver.bindings site.context _)

/-- The register is bound to the memory object, and nothing else that matters happens. -/
theorem bindRegister_wires {memory : Ident .memory} :
    (bindRegister site register memory).Leads m (fun _ m' => Underway base site a m' ∧ m.Intact m' ∧
        m'.wiring site.context = (m.wiring site.context).set register memory)
      (fun _ => Halted base site) fun _ => True := by
  unfold bindRegister
  refine .bind (findRegister_reached h) fun found m₁ ⟨h₁, hfound⟩ => ?_
  refine (bindMemory_wires h₁.setup hfound).imp fun _ m' ⟨h', hintact, hwiring⟩ => ?_
  exact ⟨h', h₁.intact.trans hintact, h₁.wiring ▸ hwiring⟩

end Binder

/-! ## Copying -/

/-- Apart from the bytes of resources, nothing has changed that an execution relies on. -/
structure Machine.Steady (m m' : Machine κ ω) : Prop where
  memories : m'.platform.driver.memories = m.platform.driver.memories
  bindings : m'.platform.driver.bindings = m.platform.driver.bindings
  remotes : m'.remotes = m.remotes
  arenas : m'.arenas = m.arenas
  hooks : m'.platform.hooks = m.platform.hooks
  runs : m'.history.filter Moment.isRun = m.history.filter Moment.isRun

namespace Machine.Steady

theorem refl : m.Steady m :=
  ⟨rfl, rfl, rfl, rfl, rfl, rfl⟩

theorem unhooked (h : m.Steady m') {kind : Operation → Bool} (hm : m.Unhooked kind) :
    m'.Unhooked kind := by
  unfold Machine.Unhooked
  rw [h.hooks]
  exact hm

theorem journal (h : m.Steady m') {journal : List Event} : m.Steady { m' with journal } :=
  { h with }

theorem handled (h : m.Steady m') {op : Operation} {verdict : Verdict} {s : Simulator}
    (hrun : op ≠ .runProgram ∨ verdict ≠ .accepted)
    (hmemories : s.memories = m'.platform.driver.memories)
    (hbindings : s.bindings = m'.platform.driver.bindings) :
    m.Steady (m'.handled op verdict s) where
  memories := hmemories.trans h.memories
  bindings := hbindings.trans h.bindings
  remotes := h.remotes
  arenas := h.arenas
  hooks := h.hooks
  runs := (Machine.runs_handled hrun).trans h.runs

end Machine.Steady

/-- The bytes behind the first memory object were copied to those behind the second. -/
structure Machine.Copied (context : Ident .context) (source target : Ident .memory)
    (m m' : Machine κ ω) : Prop where
  steady : m.Steady m'
  bytes : ∀ src dst, m.platform.driver.memories.get? source = some (context, src) →
    m.platform.driver.memories.get? target = some (context, dst) →
    ∃ old new, m.platform.driver.held? dst = some old ∧ m.platform.driver.held? src = some new ∧
      ∀ id, m'.platform.driver.held? id =
        if dst = id then some (Bytes.overwrite old new) else m.platform.driver.held? id

theorem Machine.Copied.journal {context : Ident .context} {source target : Ident .memory}
    (h : m.Copied context source target m') {journal : List Event} :
    m.Copied context source target { m' with journal } :=
  ⟨h.steady.journal, h.bytes⟩

namespace Completion

variable [Reentry κ ω] {w : Waiter} {context : Ident .context} {source target : Ident .memory}

/-- Waiting leaves everything alone but the token. -/
theorem wait_steady (hooks : m.Unhooked Operation.ofLaunch) {op : Operation}
    {event : Ident .event} {limit : Option Nat} :
    (wait w op context event limit).Leads m
      (fun _ m' => m.Steady m' ∧ m'.platform.driver.resources = m.platform.driver.resources)
      (fun _ m' => m.Steady m' ∧ m'.platform.driver.resources = m.platform.driver.resources)
      fun _ => True := by
  refine wait_leads rfl (fun m' hm' => hm'.1.unhooked hooks) (fun m' _ hm' => ⟨hm'.1.journal, hm'.2⟩)
    (fun m' verdict s hm' hs => ?_) ⟨.refl, rfl⟩
  obtain ⟨calls, counts, tokens, rfl, -⟩ := hs
  exact ⟨hm'.1.handled (Or.inl nofun) rfl rfl, hm'.2⟩

theorem copy_copied (hooks : m.Unhooked Operation.ofLaunch) :
    (copy w context source target).Leads m (fun _ m' => m.Copied context source target m')
      (fun _ _ => True) fun _ => True := by
  unfold copy
  rw [leads_bind, Machine.leads_drive hooks rfl]
  refine Simulator.copyMemory_leads (fun _ _ _ => trivial)
    fun src dst read written hsource htarget hread hwritten => ?_
  rw [leads_bind]
  refine (wait_steady (by exact hooks)).mono (fun _ m' hm' => ?_) (fun _ _ _ => trivial)
    fun _ _ => trivial
  have hsteady : m.Steady m' := {
    memories := hm'.1.memories
    bindings := hm'.1.bindings
    remotes := hm'.1.remotes
    arenas := hm'.1.arenas
    hooks := hm'.1.hooks
    runs := hm'.1.runs.trans (Machine.runs_handled (Or.inl nofun)) }
  refine ⟨hsteady, fun src' dst' hsource' htarget' => ?_⟩
  cases hsource.symm.trans hsource'
  cases htarget.symm.trans htarget'
  refine ⟨_, _, Simulator.held?_of_get? hwritten, Simulator.held?_of_get? hread, fun id => ?_⟩
  rw [Simulator.held?_of_set hm'.2, ← Contents.toList_cover]

/-- Copying into a resource that was made for the launch. -/
theorem copy_setup {owner : ExecutionKey} {opened : List (Ident .context)}
    {loaded : List (Ident .module)} (h : Setup base owner opened loaded a m)
    (hin : context ∈ opened) (hmade : ∀ dst,
      m.platform.driver.memories.get? target = some (context, dst) → a.made dst = true) :
    (copy w context source target).Leads m (fun _ => Setup base owner opened loaded a)
      (fun _ => Setup base owner opened loaded a) fun _ => True := by
  unfold copy
  rw [leads_bind, Machine.leads_drive h.hooks rfl]
  refine Simulator.copyMemory_leads (fun _ _ _ => h.refused)
    fun src dst read written _ htarget _ hwritten => ?_
  rw [leads_bind]
  exact wait_leads rfl (fun _ hm => hm.hooks) (fun _ _ hm => hm.journal)
    (fun _ _ _ hm hs => hm.polled hin hs) (h.copied hin (hmade dst htarget) hwritten)

end Completion

/-- The bytes of the remote resource reach the resource that was made for the register. -/
theorem Binder.copyIn_copies [Reentry κ ω] (h : Underway base site a m) {register : String}
    {r : Remote} {source target : Ident .memory} {dst : Ident .resource}
    (htarget : m.platform.driver.memories.get? target = some (site.context, dst))
    (hmade : a.made dst = true) :
    (copyIn site register r source target).Leads m
      (fun _ m' => Underway base site a m' ∧ m.Copied site.context source target m')
      (fun _ => Halted base site) fun _ => True := by
  unfold copyIn
  rw [leads_timed, leads_bind, leads_mapError]
  have hdst : ∀ id, m.platform.driver.memories.get? target = some (site.context, id) →
      a.made id = true := fun id hid => by
    cases htarget.symm.trans hid
    exact hmade
  refine ((Completion.copy_setup h List.mem_cons_self hdst).and
    (Completion.copy_copied h.hooks)).mono (fun _ m' hm' => ?_) (fun _ m' hm' => ?_)
    fun _ _ => trivial
  · rw [leads_bind, leads_get, leads_log]
    exact ⟨hm'.1.journal, hm'.2.journal⟩
  · exact ⟨a, hm'.1.record⟩

end StreamCompute
