/-
  StreamCompute.Proofs.LaunchOutcome

  How a launch ends while nobody interferes. Either the kernel was submitted
  when every register held what it was to start with, or the launch has failed
  and was taken down.
-/
import Mathlib.Data.List.Nodup
import StreamCompute.Proofs.CustodyLaunch
import StreamCompute.Proofs.Rollback

namespace StreamCompute

open Fallible

variable {κ ω : Type} {base m : Machine κ ω} {owner : ExecutionKey} {site : BindSite} {a : Arena}
  {ties : List Tie}

/-! ## Opening -/

/-- A new context, with which the arena begins. -/
theorem Setup.opened (hn : base.platform.driver.Numbered)
    (hooks : base.Unhooked Operation.ofLaunch) {calls : List Call} {counts : Assoc Operation Nat}
    {device : Ident .device} :
    Setup base owner [⟨base.platform.driver.nextNumber⟩] []
      { context := ⟨base.platform.driver.nextNumber⟩ }
      ((base.handled .createContext .accepted { base.platform.driver with
        calls, counts
        nextNumber := base.platform.driver.nextNumber + 1
        contexts := base.platform.driver.contexts.set ⟨base.platform.driver.nextNumber⟩ device
        bindings := base.platform.driver.bindings.set ⟨base.platform.driver.nextNumber⟩ [] }
        ).openArena owner ⟨base.platform.driver.nextNumber⟩) where
  driver := { Simulator.Extends.refl.createContext hn with }
  numbered := { hn.next with
    contexts := hn.contexts.set_next
    bindings := hn.bindings.set_next }
  grown := Nat.le_succ _
  contexts := by
    rintro c hc
    rw [List.mem_singleton.mp hc]
    exact Nat.lt_succ_self _
  spec := rfl
  young := nofun
  marks r := by
    congr 1
    funext status
    simp [Arena.marks, RemoteStatus.marks]
  recorded := nofun
  withdrawn := nofun
  once := List.nodup_nil
  hooks := hooks
  config := rfl
  arena := Assoc.get?_set_self ..
  progress := rfl
  history := List.suffix_cons ..
  runs := Machine.runs_handled (Or.inl nofun)

theorem Restored.refused {op : Operation} {e : DriverError} {calls : List Call}
    {counts : Assoc Operation Nat} :
    Restored base
      (base.handled op (.refused e) (base.platform.driver.relogged calls counts)) where
  driver := ⟨rfl, rfl, rfl, rfl, rfl, rfl, rfl, rfl, rfl⟩
  marks _ := rfl
  history := List.suffix_cons ..

theorem Loaded.nil (h : Underway base site { context := site.context } m)
    (hwiring : m.wiring site.context = []) (hremotes : m.remotes = base.remotes) :
    Loaded base site [] { context := site.context } m where
  setup := h
  wiring := hwiring
  copies := rfl
  memories := by simp
  held := by simp
  right := by simp
  sources := by simp
  distinct := List.nodup_nil
  pitch r := by rw [Machine.status, Machine.status, hremotes]

namespace Launch

variable [Reentry κ ω]

theorem loadModule_loads {context : Ident .context} {device : Ident .device} {waiter : Waiter}
    (h : Setup base owner [context] [] { context } m) (hwiring : m.wiring context = [])
    (hremotes : m.remotes = base.remotes) {image : Ident .image} :
    (Machine.drive (Simulator.loadModule context image)).Leads m
      (fun module m' => Loaded base ⟨owner, device, context, module, waiter⟩ [] { context } m')
      (fun _ => Setup base owner [context] [] { context }) fun _ => True := by
  rw [Machine.leads_drive h.hooks rfl]
  refine Simulator.loadModule_leads (fun _ => h.refused) fun _ => ?_
  refine Loaded.nil (show Underway base ⟨owner, device, context, _, waiter⟩ _ _ from ?_) hwiring
    hremotes
  exact h.handled (Or.inl nofun) { h.driver.loadModule h.numbered with }
    { h.numbered.next with modules := h.numbered.modules.set_next } (Nat.le_succ _)
    (fun c hc => Nat.lt_succ_of_lt (h.contexts c hc)) rfl

theorem openSite_loads (hn : base.platform.driver.Numbered)
    (hooks : base.Unhooked Operation.ofLaunch) {image : Image} {device : Device} :
    (openSite owner image device).Leads base
      (fun site m' => site.owner = owner ∧ Loaded base site [] { context := site.context } m')
      (fun _ => Undone base) fun _ => True := by
  unfold openSite Machine.tryDrive
  rw [leads_bind, leads_get, leads_bind, Machine.leads_driveAs, Machine.leads_drive hooks rfl]
  refine Simulator.createContext_leads (fun e => Or.inr .refused) ?_
  rw [leads_bind, leads_modify, leads_bind, leads_perform,
    leads_attempt]
  refine (loadModule_loads (Setup.opened hn hooks) ?_ rfl).mono
    (fun module m' hm' => ⟨rfl, hm'⟩) (fun e m' hm' => ?_) fun _ hm => hm
  · exact congrArg (Option.getD · []) (Assoc.get?_set_self base.platform.driver.bindings _ [])
  · refine .perform_bind (dropContext_falling (Or.inr hm')) fun _ m'' hm'' => ?_
    exact hm''.imp (fun hf => ⟨hf.hooks, hf.failed⟩) fun hs => hs.restored rfl

end Launch

/-! ## Submitting -/

/-- The machine after the kernel was run over the registers of a context. -/
def Machine.ran (context : Ident .context) (domain : Domain) (m : Machine κ ω) : Machine κ ω :=
  m.handled .runProgram .accepted
    (Simulator.tokenMade .runProgram context
      { m.platform.driver.logged (.runProgram context domain) with
        resources := m.platform.driver.executed context domain })

/-- The kernel was run when all entries of a table that fits were bound. -/
def Submitted (base : Machine κ ω) (t : BindingTable) (domain : Domain) (e : Execution)
    (m' : Machine κ ω) : Prop :=
  base.Fit t.entries ∧ ∃ site ties a m journal, e.key = site.owner ∧ e.context = site.context ∧
    (ties.map Tie.entry).Perm t.entries ∧ Loaded base site ties a m ∧
    m' = { m.ran site.context domain with journal }

theorem Submitted.journal {t : BindingTable} {domain : Domain} {e : Execution}
    (h : Submitted base t domain e m) {journal : List Event} :
    Submitted base t domain e { m with journal } := by
  obtain ⟨hfit, site, ties, a, m₀, _, howner, hcontext, hties, hm₀, rfl⟩ := h
  exact ⟨hfit, site, ties, a, m₀, journal, howner, hcontext, hties, hm₀, rfl⟩

theorem Undone.journal (h : Undone base m) {journal : List Event} :
    Undone base { m with journal } :=
  h.imp (fun hf => hf.journal) fun hr => ⟨hr.driver, hr.marks, hr.history⟩

namespace Launch

variable [Reentry κ ω] {domain : Domain}

theorem findEntry_reached (h : Underway base site a m) {symbol : String} :
    (Machine.drive (Simulator.findEntry site.context site.module symbol)).Leads m
      (fun _ => Reached base site a m) (fun _ => Halted base site) fun _ => True := by
  rw [Machine.leads_drive h.hooks rfl]
  refine Simulator.findEntry_leads (fun _ => ⟨a, h.refused⟩) fun image himage => ⟨?_, ?_, rfl⟩
  · refine h.handled (Or.inl nofun) { h.driver.findEntry h.numbered List.mem_cons_self with }
      { h.numbered.next with
        entries := h.numbered.entries.set_next
        entryModules := fun e he => ?_ } (Nat.le_succ _)
      (fun c hc => Nat.lt_succ_of_lt (h.contexts c hc)) rfl
    rcases Assoc.mem_set he with rfl | he
    · exact Nat.lt_succ_of_lt (h.numbered.modules.lt_of_get? himage)
    · exact Nat.lt_succ_of_lt (h.numbered.entryModules e he)
  · exact .handled (fun _ _ hv => hv) fun _ _ hb => hb

theorem submit_ran (h : Loaded base site ties a m) :
    (submit site domain).Leads m
      (fun _ m' => ∃ m₀, Loaded base site ties a m₀ ∧ m' = m₀.ran site.context domain)
      (fun _ => Halted base site) fun _ => True := by
  unfold submit
  rw [leads_bind, leads_get]
  refine .bind (findEntry_reached h.setup) fun entry m₀ hm₀ => ?_
  rw [Machine.leads_drive hm₀.setup.hooks rfl]
  exact Simulator.runProgram_leads (fun _ => ⟨a, hm₀.setup.refused⟩)
    ⟨m₀, h.reached hm₀, rfl⟩

/-- Once the context is there, a launch is submitted or undone. -/
theorem begin_leads_to (hn : base.platform.driver.Numbered)
    (hooks : base.Unhooked Operation.ofLaunch) {id : ExecutionId} {image : Image}
    {q : LaunchRequest} (hfit : base.Fit q.table.entries) :
    (begin id image q).Leads base (fun e => Submitted base q.table q.domain e)
      (fun _ => Undone base) fun _ => True := by
  refine leads_begin (F := fun site _ => Halted base site)
    (Q := fun site m₂ => site.owner = (base.platform.serial, id) ∧ ∃ ties a,
      (ties.map Tie.entry).Perm q.table.entries ∧ Loaded base site ties a m₂)
    (openSite_loads hn hooks) (fun site m₁ ⟨howner, h₁⟩ => ?_)
    (fun site m₂ ⟨howner, ties, a, hties, h₂⟩ => ?_) fun _ _ _ h₃ => undo_undone h₃
  · rw [h₁.setup.config]
    exact (Binder.forM_loads h₁ (hfit.perm q.table.ordered_perm)).mono
      (fun _ _ ⟨ties, a, hties, hm⟩ => ⟨howner, ties, a, hties ▸ q.table.ordered_perm, hm⟩)
      (fun _ _ ⟨a, ha⟩ _ => ⟨a, ha.journal⟩) fun _ hm => hm
  · refine (submit_ran h₂).mono (fun event m₃ ⟨m₀, h₀, hm₃⟩ _ => ?_) (fun _ _ h₃ => h₃) fun _ hm => hm
    rw [hm₃]
    exact ⟨hfit, site, ties, a, m₀, _, howner.symm, rfl, hties, h₀, rfl⟩

end Launch

/-! ## Checks before a launch -/

/-- A table that is not refused has different remote resources, all of which can be claimed. -/
theorem BindingTable.remotes_of_refusal?_eq_none {info : DeviceInfo}
    {status : Remote → RemoteStatus} {entries : List (String × Binding)} {seen : List Remote}
    (h : refusal? info status entries seen = none) :
    (∀ r ∈ entries.filterMap (·.2.remote?), r.claimRefusal? (status r) = none ∧ r ∉ seen) ∧
      (entries.filterMap (·.2.remote?)).Nodup := by
  induction entries generalizing seen with
  | nil => simp
  | cons e rest ih =>
    obtain ⟨register, binding⟩ := e
    unfold refusal? at h
    split at h
    · cases h
    · split at h
      · rename_i hnone
        simp only [List.filterMap_cons, hnone]
        exact ih h
      · rename_i r hr
        simp only [List.filterMap_cons, hr]
        split at h
        · cases h
        · rename_i hfreed
          split at h
          · cases h
          · rename_i hbusy
            obtain ⟨hrest, hnodup⟩ := ih h
            simp only [Bool.or_eq_true, List.contains_iff_mem, not_or] at hbusy
            refine ⟨fun r' hr' => ?_, List.nodup_cons.mpr ⟨fun hin => ?_, hnodup⟩⟩
            · rcases List.mem_cons.mp hr' with rfl | hr'
              · exact ⟨by simp [Remote.claimRefusal?, hfreed, hbusy.1], hbusy.2⟩
              · exact ⟨(hrest r' hr').1, fun hin => (hrest r' hr').2 (by simp [hin])⟩
            · exact (hrest r hin).2 (by simp)

section InOrder

variable [Keeper ω] {allowed : κ → Prop} {g : Holdings}

theorem InOrder.usable (h : InOrder allowed g m) {r : Remote}
    (hfreed : (m.status r).freed = false) : m.Usable r := by
  obtain ⟨status, hr⟩ := Machine.recorded_of_not_freed hfreed
  rw [Machine.status_of_get? hr] at hfreed
  obtain ⟨res, hres, hmatch⟩ := (h.records r status hr).live hfreed
  refine ⟨h.issued r status hr, _, Simulator.held?_of_get? hres, ?_⟩
  rw [Contents.length_toList, hmatch.size_eq, Machine.status_of_get? hr]

/-- A table that is not refused can be bound. -/
theorem InOrder.fit (h : InOrder allowed g m) {t : BindingTable} {info : DeviceInfo}
    (hnone : BindingTable.refusal? info m.status t.entries [] = none) : m.Fit t.entries := by
  obtain ⟨hclaimable, hnodup⟩ := BindingTable.remotes_of_refusal?_eq_none hnone
  have hlive : ∀ r ∈ t.entries.filterMap (·.2.remote?), (m.status r).freed = false :=
    fun r hr => (Remote.claimable_of_refusal?_eq_none (hclaimable r hr).1).1
  have hsingle : ∀ r ∈ t.entries.filterMap (·.2.remote?),
      ∀ r' ∈ t.entries.filterMap (·.2.remote?), r.id = r'.id → r = r' := by
    intro r hr r' hr' hid
    obtain ⟨status, hstatus⟩ := Machine.recorded_of_not_freed (hlive r hr)
    obtain ⟨status', hstatus'⟩ := Machine.recorded_of_not_freed (hlive r' hr')
    exact h.single r r' status status' hstatus hstatus' hid
  refine ⟨t.distinct, ?_, fun e he r hr => ?_⟩
  · rw [← List.map_filterMap]
    exact hnodup.map_on hsingle
  · exact h.usable (hlive r (List.mem_filterMap.mpr ⟨e, he, hr⟩))

/-- A launch whose device is accepted is submitted or undone. -/
theorem Launch.launch_leads_to [Reentry κ ω] {image : Image} {q : LaunchRequest}
    {P : Machine κ ω → Prop} {err : Error → Machine κ ω → Prop}
    (hcheck : (Devices.check q.device).Leads m
      (fun _ m₁ => P m₁ ∧ InOrder allowed g m₁ ∧ m₁.Unhooked Operation.ofLaunch) err
      fun _ => True) :
    (launch image q).Leads m
      (fun e m' => ∃ m₁, P m₁ ∧ InOrder allowed g m₁ ∧
        Submitted m₁.numbering q.table q.domain e m')
      (fun e m' => err e m' ∨ ∃ m₁, P m₁ ∧ Undone m₁.numbering m') fun _ => True := by
  refine leads_launch (hcheck.mono (fun _ _ h => h) (fun _ _ he => Or.inl he) fun _ hm => hm)
    (fun m₁ _ h _ => Or.inr ⟨m₁, h.1, Or.inr ⟨.refl, fun _ => rfl, List.suffix_refl _⟩⟩)
    fun m₁ ⟨hp, h, hooks⟩ hnone => ?_
  have hfit := h.fit hnone
  have hfit' : m₁.numbering.Fit q.table.entries :=
    ⟨hfit.registers, hfit.remotes, fun e he r hr =>
      ⟨(hfit.usable e he r hr).issued, (hfit.usable e he r hr).bytes⟩⟩
  exact (@begin_leads_to κ ω m₁.numbering _ h.numbered hooks
    ⟨m₁.platform.nextExecution⟩ image q hfit').mono (fun e m' hm' _ => ⟨m₁, hp, h, hm'.journal⟩)
    (fun e m' hm' _ => Or.inr ⟨m₁, hp, hm'.journal⟩) fun _ hm _ => hm

end InOrder

end StreamCompute
