/-
  StreamCompute.Proofs.LaunchAudit

  What launches and joins do to the inventory of a driver, where no hook
  interferes. While a launch is under way, its arena accounts for what was
  added to the inventory. So a launch that fails gives all of it back, one that
  is successful leaves exactly what its arena lists, and taking the execution
  down gives that back, whichever of its steps fail.
-/
import StreamCompute.Proofs.Auditing

namespace StreamCompute

open Fallible

variable {κ ω α β : Type} {base m m' : Machine κ ω} {v v' : Inventory}

/-! ## What an arena accounts for -/

/-- The inventory with all that was acquired in a context. -/
def Inventory.within (v : Inventory) (context : Ident .context) (a : Arena) : Inventory :=
  { v with
    memories := ↑(a.memories.map fun memory => (memory, context)) + v.memories
    resources := ↑(a.transients.map Prod.snd) + v.resources }

/-- The inventory with the context and the module of an execution. -/
def Inventory.opened (v : Inventory) (context : Ident .context) (module : Ident .module) :
    Inventory :=
  { v with contexts := context ::ₘ v.contexts, modules := (module, context) ::ₘ v.modules }

section Within

variable {context : Ident .context} {a : Arena} {x : Acquired}

theorem within_of_empty (ha : a.acquired = []) : v.within context a = v := by
  simp [Inventory.within, Arena.memories, Arena.transients, ha]

/-- The driver does not know of claims and of mappings that were ended. -/
theorem within_grown (hmemory : x.memory? = none) (htransient : x.transient? = none) :
    v.within context (a.grown x) = v.within context a := by
  cases x <;> simp_all [Inventory.within]

theorem within_memory {memory : Ident .memory} :
    v.within context (a.grown (.memory memory)) = { v.within context a with
      memories := (memory, context) ::ₘ (v.within context a).memories } := by
  simp [Inventory.within, ← Multiset.coe_add, ← Multiset.singleton_add, add_left_comm, add_assoc]

theorem within_transient {register : String} {id : Ident .resource} :
    v.within context (a.grown (.transient register id)) = { v.within context a with
      resources := id ::ₘ (v.within context a).resources } := by
  simp [Inventory.within, ← Multiset.coe_add, ← Multiset.singleton_add, add_left_comm, add_assoc]

end Within

/-- An execution was launched since then, and its arena accounts for what was added to the
    inventory. -/
def Building (base : Machine κ ω) (site : BindSite) (v : Inventory) (m : Machine κ ω) : Prop :=
  ∃ a, Audited (base.housing site.owner a) (v.within site.context a) m

theorem Audited.onArena {owner : ExecutionKey} {a : Arena}
    (h : Audited (base.housing owner a) v m) (f : Arena → Arena) :
    Audited (base.housing owner (f a)) v (m.onArena owner f) := by
  have ha : m.arenas.get? owner = some a := (h.arenas owner).trans (Assoc.get?_set_self ..)
  have hset : Audited ((base.housing owner a).housing owner (f a)) v (m.housing owner (f a)) :=
    h.housing
  rw [Machine.housing, Machine.housing, Assoc.set_set] at hset
  rw [Machine.onArena_of_get? ha]
  exact hset

/-- Acts that do not matter to the inventory do not matter to the arena. -/
theorem Fallible.Upholds.building {ε : Type} {site : BindSite} {act : Fallible ε (Machine κ ω) α}
    (hact : ∀ (base : Machine κ ω) (a : Arena),
      act.Preserves (Audited base (v.within site.context a))) :
    act.Preserves (Building base site v) := fun m ⟨a, h⟩ =>
  (hact _ a m h).mono (fun _ _ h => ⟨a, h⟩) (fun _ _ h => ⟨a, h⟩) fun _ h => h

/-! ## Setting up -/

namespace Binder

variable {site : BindSite}

/-- Writing down what the driver does not know of. -/
theorem acquire_builds {x : Acquired} (hmemory : x.memory? = none)
    (htransient : x.transient? = none) :
    (acquire site x).Preserves (Building base site v) := by
  refine .change fun m ⟨a, h⟩ => ⟨a.grown x, ?_⟩
  rw [within_grown hmemory htransient]
  exact h.onArena (·.grown x)

variable [Reentry κ ω] {register : String}

theorem claim_builds {r : Remote} :
    (claim site register r).Preserves (Building base site v) := by
  refine .bind (.building fun _ _ => Memory.claim_audited) fun _ => ?_
  refine .bind (acquire_builds rfl rfl) fun _ => ?_
  refine .bind (.mapError (.building fun _ _ => Memory.withdraw_audited)) fun withdrawn => ?_
  split
  · exact acquire_builds rfl rfl
  · exact .pure

theorem getMemory_builds {resource : Ident .resource} :
    (getMemory site register resource).Preserves (Building base site v) := by
  rintro m ⟨a, h⟩
  unfold getMemory Machine.driveAs
  rw [leads_bind, leads_mapError]
  refine (h.drive (Simulator.getMemory_stocks h.driver)).mono (fun memory m₁ h₁ => ?_)
    (fun _ _ h₁ => ⟨a, h₁⟩) fun _ h => h
  rw [← within_memory] at h₁
  exact ⟨_, h₁.onArena (·.grown (.memory memory))⟩

theorem allocate_builds {shape : Shape} {format : Format} :
    (allocate site register shape format).Preserves (Building base site v) := by
  rintro m ⟨a, h⟩
  unfold allocate Machine.driveAs
  rw [leads_bind, leads_mapError]
  refine (h.drive ((Simulator.allocate_stocks h.driver).imp fun _ _ hs => hs.1)).mono
    (fun resource m₁ h₁ => ?_) (fun _ _ h₁ => ⟨a, h₁⟩) fun _ h => h
  rw [← @within_transient v site.context a register resource] at h₁
  exact ⟨_, h₁.onArena (·.grown (.transient register resource))⟩

theorem bindRegister_builds {memory : Ident .memory} :
    (bindRegister site register memory).Preserves (Building base site v) :=
  .building fun _ _ => .bind (.mapError Simulator.findRegister_neutral.preserves) fun _ =>
    .mapError Simulator.bindMemory_neutral.preserves

theorem copyIn_builds (hcontext : site.context ∈ v.contexts) {r : Remote}
    {source target : Ident .memory} :
    (copyIn site register r source target).Preserves (Building base site v) := by
  refine .building fun base a => Audited.unlogged.timed ?_
  exact .bind (.mapError (Completion.copy_audited hcontext)) fun _ => .bind .get fun _ =>
    Audited.unlogged.log

theorem bindCopied_builds (hcontext : site.context ∈ v.contexts) {r : Remote}
    {direction : Direction} :
    (bindCopied site register r direction).Preserves (Building base site v) := by
  have hnote : ∀ c : CopyRecord,
      (noteCopy site c).Preserves (Building base site v) := fun c =>
    .change fun m ⟨a, h⟩ => ⟨a.copying c, h.onArena (·.copying c)⟩
  have hlog : ∀ e : Event, (StreamCompute.log e : Task κ ω Unit).Preserves
      (Building base site v) := fun e => .building fun _ _ => Audited.unlogged.log
  refine .bind claim_builds fun _ => .bind getMemory_builds fun _ => ?_
  refine .bind .get fun _ => .bind allocate_builds fun _ => ?_
  refine .bind getMemory_builds fun _ => .bind bindRegister_builds fun _ => ?_
  split
  · exact .bind (copyIn_builds hcontext) fun _ => .bind (hlog _) fun _ => hnote _
  · exact .bind (hlog _) fun _ => hnote _

theorem bindDirect_builds {r : Remote} :
    (bindDirect site register r).Preserves (Building base site v) :=
  .bind claim_builds fun _ => .bind getMemory_builds fun _ =>
    .bind bindRegister_builds fun _ => .building fun _ _ => Audited.unlogged.log

theorem bindScratch_builds {shape : Shape} {format : Format} :
    (bindScratch site register shape format).Preserves (Building base site v) :=
  .bind allocate_builds fun _ => .bind getMemory_builds fun _ =>
    .bind bindRegister_builds fun _ => .building fun _ _ => Audited.unlogged.log

theorem bindAll_builds (hcontext : site.context ∈ v.contexts) {conventions : Bool}
    {entries : List (String × Binding)} :
    (entries.forM (bindEntry site conventions)).Preserves (Building base site v) := by
  refine .forM fun e => ?_
  obtain ⟨register, binding⟩ := e
  cases binding with
  | copied r direction => exact bindCopied_builds hcontext
  | direct r => exact bindDirect_builds
  | scratch shape format => exact bindScratch_builds

end Binder

/-! ## Taking down a launch that failed -/

namespace Arena

variable [Reentry κ ω] {owner : ExecutionKey} {context : Ident .context} {a : Arena}

theorem giveBack_audited {x : Acquired} (h : Audited base (v.within context (a.grown x)) m) :
    (giveBack context x).Leads m (fun _ => Audited base (v.within context a))
      (fun _ => Audited base (v.within context a)) fun _ => True := by
  cases x with
  | memory memory =>
    rw [within_memory] at h
    exact h.release (Simulator.releaseMemory_stocks h.driver)
  | transient register resource =>
    rw [within_transient] at h
    exact h.release (Simulator.freeResource_stocks h.driver)
  | unmapped register r =>
    rw [within_grown rfl rfl] at h
    exact Memory.restore_audited m h
  | flight r =>
    rw [within_grown rfl rfl] at h
    exact Memory.unclaimed_audited h

theorem giveBackLast_audited {x : Acquired}
    (h : Audited (base.housing owner (a.grown x)) (v.within context (a.grown x)) m) :
    (giveBackLast owner context x).Leads m
      (fun _ => Audited (base.housing owner a) (v.within context a)) fun _ => True := by
  have hshrunk : ∀ m', Audited (base.housing owner (a.grown x)) (v.within context a) m' →
      Audited (base.housing owner a) (v.within context a) (m'.onArena owner shrunk) := by
    intro m' hm'
    have hm := hm'.onArena shrunk
    rwa [shrunk_grown] at hm
  unfold giveBackLast
  rw [Act.leads_bind, leads_attempt]
  exact (giveBack_audited h).mono (fun _ _ h => hshrunk _ h) (fun _ _ h => hshrunk _ h.record)
    fun _ h => h

/-- The loop: each round gives back what was acquired last. -/
theorem forM_giveBackLast_audited {list : List Acquired}
    (h : Audited (base.housing owner a) (v.within context a) m) (ha : a.acquired = list.reverse) :
    (list.forM (giveBackLast owner context)).Leads m
      (fun _ m' => ∃ a, Audited (base.housing owner a) v m') fun _ => True := by
  induction list generalizing a m with
  | nil =>
    rw [within_of_empty ha] at h
    exact ⟨a, h⟩
  | cons x rest ih =>
    have hgrown : a = ({ a with acquired := rest.reverse } : Arena).grown x := by
      simp [grown, ← ha, ← List.reverse_cons]
    rw [Act.leads_forM_cons]
    refine (giveBackLast_audited (hgrown ▸ h)).mono (fun _ m' hm' => ?_) fun _ hm' => hm'
    exact ih (a := { a with acquired := rest.reverse }) hm' rfl

theorem rollback_audited (h : Audited (base.housing owner a) (v.within context a) m) :
    (rollback owner context).Leads m (fun _ m' => ∃ a, Audited (base.housing owner a) v m')
      fun _ => True := by
  have ha : m.arenas.get? owner = some a := (h.arenas owner).trans (Assoc.get?_set_self ..)
  unfold rollback
  rw [Act.leads_bind, Act.leads_get, ha]
  exact forM_giveBackLast_audited h (List.reverse_reverse _).symm

end Arena

/-! ## Launching -/

namespace Launch

variable [Reentry κ ω] {context : Ident .context} {module : Ident .module} {site : BindSite}

theorem dropModule_audited (h : Audited base (v.opened context module) m) :
    (dropModule context module).Leads m
      (fun _ => Audited base { v with contexts := context ::ₘ v.contexts }) fun _ => True := by
  unfold dropModule Machine.tryDrive
  rw [Act.leads_bind, leads_attempt]
  exact h.release (Simulator.unloadModule_stocks (v := { v with
    contexts := context ::ₘ v.contexts }) h.driver)

theorem dropContext_audited
    (h : Audited base { v with contexts := context ::ₘ v.contexts } m) :
    (dropContext context).Leads m (fun _ => Audited base v) fun _ => True := by
  unfold dropContext Machine.tryDrive
  rw [Act.leads_bind, leads_attempt]
  exact h.release (Simulator.destroyContext_stocks h.driver)

theorem undo_audited (hfresh : base.arenas.get? site.owner = none)
    (h : Building base site (v.opened site.context site.module) m) :
    (undo site).Leads m (fun _ => Audited base v) fun _ => True := by
  obtain ⟨a, h⟩ := h
  unfold undo
  refine .bind (Arena.rollback_audited h) fun _ m₁ ⟨a, h₁⟩ => ?_
  refine .bind (dropModule_audited h₁) fun _ m₂ h₂ => ?_
  exact .bind (dropContext_audited h₂) fun _ _ h =>
    Machine.closeArena_housing hfresh ▸ h.closeArena

theorem openSite_builds {owner : ExecutionKey} {image : Image} {device : Device}
    (hfresh : base.arenas.get? owner = none) (h : Audited base v m) :
    (openSite owner image device).Leads m
      (fun site m' => site.owner = owner ∧
        Building base site (v.opened site.context site.module) m')
      (fun _ => Audited base v) fun _ => True := by
  unfold openSite Machine.driveAs Machine.tryDrive
  rw [leads_bind, leads_get, leads_bind, leads_mapError]
  refine (h.drive (Simulator.createContext_stocks h.driver)).mono
    (fun context m₁ h₁ => ?_) (fun _ _ h => h) fun _ h => h
  rw [leads_bind, leads_modify]
  -- From here on the execution has an arena, in which there is nothing yet.
  have hopened : Audited (base.housing owner { context })
      { v with contexts := context ::ₘ v.contexts } (m₁.openArena owner context) := h₁.housing
  rw [leads_bind, leads_perform, leads_attempt]
  refine (hopened.drive (Simulator.loadModule_stocks hopened.driver)).mono
    (fun module m₂ h₂ => ?_) (fun e m₂ h₂ => ?_) fun _ h => h
  · refine ⟨rfl, { context }, ?_⟩
    rw [within_of_empty rfl]
    exact h₂
  · exact .perform_bind (dropContext_audited h₂) fun _ _ h =>
      Machine.closeArena_housing hfresh ▸ h.closeArena

theorem submit_builds (hcontext : site.context ∈ v.contexts) {domain : Domain} :
    (submit site domain).Preserves (Building base site v) :=
  .building fun _ _ => .bind .get fun _ => .bind Simulator.findEntry_neutral.preserves fun _ =>
    fun _ h => h.drive (Simulator.runProgram_stocks h.driver hcontext)

/-- A launch either leaves an execution with what its arena lists, or nothing. -/
theorem begin_audited {id : ExecutionId} {image : Image} {q : LaunchRequest}
    (hfresh : base.arenas.get? (m.platform.serial, id) = none) (h : Audited base v m) :
    (begin id image q).Leads m
      (fun e m' => e.home = m.platform.serial ∧ e.id = id ∧
        ∃ a, Audited (base.housing e.key a) ((v.opened e.context e.module).within e.context a) m')
      (fun _ => Audited base v) fun _ => True := by
  have hcontext : ∀ site : BindSite, site.context ∈ (v.opened site.context site.module).contexts :=
    fun _ => Multiset.mem_cons_self ..
  have hjournal : ∀ {site v} {m : Machine κ ω}, Building base site v m → ∀ journal,
      Building base site v { m with journal } := fun h _ => h.imp fun _ h => h.journal
  refine leads_begin (F := fun site _ m' => site.owner = (m.platform.serial, id) ∧
      Building base site (v.opened site.context site.module) m')
    (Q := fun site m' => site.owner = (m.platform.serial, id) ∧
      Building base site (v.opened site.context site.module) m') (openSite_builds hfresh h)
    (fun site m₁ ⟨howner, h₁⟩ => ?_) (fun site m₂ ⟨howner, h₂⟩ => ?_)
    fun site _ m₃ ⟨howner, h₃⟩ => undo_audited (howner ▸ hfresh) h₃
  · exact (Binder.bindAll_builds (hcontext site) m₁ h₁).mono (fun _ _ h => ⟨howner, h⟩)
      (fun _ _ h journal => ⟨howner, hjournal h journal⟩) fun _ h => h
  · refine (submit_builds (hcontext site) m₂ h₂).mono (fun _ _ h journal => ?_)
      (fun _ _ h => ⟨howner, h⟩) fun _ h => h
    obtain ⟨a, h₃⟩ := hjournal h journal
    rw [howner] at h₃
    exact ⟨rfl, rfl, a, h₃⟩

/-- The number of a new execution was not given out before. -/
theorem launch_audited {image : Image} {q : LaunchRequest}
    (hfresh : ∀ key : ExecutionKey, base.platform.nextExecution ≤ key.2.number →
      base.arenas.get? key = none) (h : Audited base v m) :
    (launch image q).Leads m
      (fun e m' => e.home = base.platform.serial ∧ base.platform.nextExecution ≤ e.id.number ∧
        e.id.number < m'.platform.nextExecution ∧
        ∃ a, Audited (base.housing e.key a) ((v.opened e.context e.module).within e.context a) m')
      (fun _ => Audited base v) fun _ => True := by
  refine leads_launch (Devices.check_stands audited_blind.aside m h) (fun _ _ h₁ _ => h₁)
    fun m₁ h₁ _ => ?_
  have hcounted : Audited base v m₁.numbering :=
    { h₁ with executions := Nat.le_succ_of_le h₁.executions }
  have hnone : m₁.numbering.arenas.get?
      (m₁.numbering.platform.serial, ⟨m₁.platform.nextExecution⟩) = none :=
    (h₁.arenas _).trans (hfresh _ h₁.executions)
  refine (begin_audited hnone hcounted.self).mono (fun e m₂ ⟨hhome, hid, a, h₂⟩ _ => ?_)
    (fun _ _ h _ => hcounted.trans h.journal) fun _ h _ => h
  have hnumber : e.id.number < m₂.platform.nextExecution := hid ▸ h₂.executions
  exact ⟨hhome.trans h₁.serial, hid ▸ h₁.executions, hnumber, a,
    hcounted.housing.trans h₂.journal⟩

end Launch

/-! ## Taking down an execution -/

namespace Execution

variable {e : Execution} {a : Arena}

/-- The machine that is compared with at a stage. -/
def Stage.standing (e : Execution) (base : Machine κ ω) : Stage → Machine κ ω
  | closed => base.closeArena e.key
  | _ => base

/-- What a driver has at a stage, beside the inventory. -/
def Stage.inventory (v : Inventory) (e : Execution) (a : Arena) : Stage → Inventory
  | copying _ => (v.opened e.context e.module).within e.context a
  | releasing left => { v.opened e.context e.module with
    memories := ↑(left.map fun memory => (memory, e.context)) + v.memories
    resources := ↑(a.transients.map Prod.snd) + v.resources }
  | unloading => { v.opened e.context e.module with
    resources := ↑(a.transients.map Prod.snd) + v.resources }
  | destroying => { v with
    contexts := e.context ::ₘ v.contexts
    resources := ↑(a.transients.map Prod.snd) + v.resources }
  | freeing left => { v with resources := ↑(left.map Prod.snd) + v.resources }
  | _ => v

variable [Reentry κ ω]

theorem takesDown_audited : TakesDown e a
    (fun stage _ (m : Machine κ ω) => Audited (stage.standing e base) (stage.inventory v e a) m)
    fun _ => True := by
  have hcall {α : Type} {c : Command α} {wrap : DriverError → Error} {v v' : Inventory}
      (hc : ∀ s, Stocks base.platform.driver v s → c.run.Leads s
        (fun _ => Stocks base.platform.driver v') (fun _ _ => False) fun _ => False) :
      Carries (fun _ => Audited base v) (fun _ => Audited base v') (fun _ => True)
        (Machine.driveAs wrap c) := fun _ m h =>
    leads_mapError.mpr (h.release (hc _ h.driver))
  refine ⟨fun _ _ _ _ h => h.journal, fun _ _ h => h,
    fun _ _ _ _ => copyOut_stands Audited.unlogged (Completion.copy_audited (Multiset.mem_cons_self ..)),
    fun _ _ h => h, fun memory left => hcall fun s h => ?_, fun _ _ h => ?_,
    hcall fun _ => Simulator.unloadModule_stocks (v := Stage.inventory v e a .destroying),
    hcall fun _ => Simulator.destroyContext_stocks (v := Stage.inventory v e a (.freeing a.transients)),
    fun t _ left => hcall fun s h => ?_, fun _ _ h => ?_,
    fun _ _ _ _ => remap_stands Audited.unlogged Memory.restore_audited, fun _ _ h => ?_⟩
  · simp only [Stage.inventory, List.map_cons, ← Multiset.cons_coe, Multiset.cons_add] at h
    exact Simulator.releaseMemory_stocks (v := Stage.inventory v e a (.releasing left)) h
  · simpa [Stage.inventory, Stage.standing, Inventory.opened] using h
  · simp only [Stage.inventory, List.map_cons, ← Multiset.cons_coe, Multiset.cons_add] at h
    exact Simulator.freeResource_stocks (v := Stage.inventory v e a (.freeing left)) h
  · simpa [Stage.inventory, Stage.standing] using h
  · exact Audited.closeArena <| List.foldlRecOn (motive := Audited base v) _ _ h
      fun _ h _ _ => Memory.unclaimed_audited h

section

variable (harena : base.arenas.get? e.key = some a)
  (h : Audited base ((v.opened e.context e.module).within e.context a) m)

include harena h

theorem finalize_audited {failure : Option Error} :
    (finalize e failure).Leads m (fun _ => Audited (base.closeArena e.key) v)
      (fun _ => Audited (base.closeArena e.key) v) fun _ => True := by
  have ha : e.arena m = a := by rw [arena, h.arenas, harena, Option.getD_some]
  exact (takesDown_audited.finalize ha h).imp fun _ _ h => h.1

/-! ## Joining -/

/-- A join either leaves the execution as it was or takes it down. -/
theorem joinWithin_audited {limit : Option Nat} :
    (e.joinWithin limit).Leads m (fun summary m' => match summary with
        | none => Audited base ((v.opened e.context e.module).within e.context a) m'
        | some _ => Audited (base.closeArena e.key) v m')
      (fun _ => Audited (base.closeArena e.key) v) fun _ => True :=
  leads_joinWithin (fun _ => finalize_audited harena h)
    (await_stands Audited.unlogged Completion.query_audited m h)
    (fun _ _ h₁ => finalize_audited harena h₁.onProgress) (fun _ _ _ h₁ => h₁.onProgress.record)
    fun _ _ _ h₁ => finalize_audited harena h₁.record

theorem join_audited :
    e.join.Leads m (fun _ => Audited (base.closeArena e.key) v)
      (fun _ => Audited (base.closeArena e.key) v) fun _ => True := by
  have hawait : (e.await none).Leads m (fun outcome _ => ∃ polls, outcome = .completed polls)
      (fun _ _ => True) fun _ => True := by
    unfold await
    rw [leads_mk, Act.leads_onCutOff, leads_run, leads_timed]
    exact (Completion.wait_completes h).mono (fun _ _ h => h.1) (fun _ _ _ => trivial)
      fun _ h => h
  unfold join
  rw [leads_bind]
  refine ((joinWithin_audited harena h).and (joinWithin_none_isSome hawait)).mono
    (fun summary m' h' => ?_) (fun _ _ h => h.1) fun _ h => h.1
  cases summary with
  | none => cases h'.2
  | some summary => exact h'.1

end

theorem isComplete_audited : e.isComplete.Preserves (Audited base v) :=
  isComplete_stands Completion.query_audited fun _ _ h => h.onProgress

end Execution

/-- A launch that is joined at once leaves nothing behind. -/
theorem Launch.run_audited [Reentry κ ω] {image : Image} {q : LaunchRequest}
    (hfresh : ∀ key : ExecutionKey, base.platform.nextExecution ≤ key.2.number →
      base.arenas.get? key = none) (h : Audited base v m) :
    (run image q).Leads m (fun _ => Audited base v) (fun _ => Audited base v) fun _ => True := by
  unfold run
  refine .bind (launch_audited hfresh h) fun e m₁ ⟨_, hnumber, _, a, h₁⟩ => ?_
  rw [← Machine.closeArena_housing (a := a) (hfresh e.key hnumber)]
  exact Execution.join_audited (Assoc.get?_set_self ..) h₁

end StreamCompute
