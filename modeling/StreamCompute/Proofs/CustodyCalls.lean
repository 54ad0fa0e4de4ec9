/-
  StreamCompute.Proofs.CustodyCalls

  Driver calls and the operations on resources keep the machine in order. A
  call begins with hooks, which may do anything that keeps the machine in order
  for the holdings of all calls under way; so what a caller knows before a call
  and still needs after it has to be among its holdings.
-/
import StreamCompute.Proofs.CustodyArenas

namespace StreamCompute

section Calls

variable {κ ω : Type} [Keeper ω] {allowed : κ → Prop} {g : Holdings} {m : Machine κ ω} {α : Type}

/-! ## The journal -/

theorem InOrder.journal (h : InOrder allowed g m) {journal : List Event} :
    InOrder allowed g { m with journal } :=
  { h with }

theorem InOrder.record (h : InOrder allowed g m) {e : Event} :
    InOrder allowed g (Journaled.record e m) :=
  h.journal

theorem Broken.record (h : Broken allowed g m) {e : Event} :
    Broken allowed g (Journaled.record e m) :=
  ⟨h.1.record, h.2⟩

/-! ## Driver calls -/

variable [Reentry κ ω]

/-- Hooks keep the machine in order, whatever the calls under way hold. -/
def Courteous (ω : Type) [Keeper ω] [Reentry κ ω] (allowed : κ → Prop) : Prop :=
  ∀ (op : Operation) (hook : κ), allowed hook → ∀ (g : Holdings) (m : Machine κ ω),
    InOrder allowed g m →
      (Reentry.run op hook).Leads m (fun _ => InOrder allowed g)
        (InOrder allowed g)

/-- If no hook waits for a call, nobody is impolite. -/
theorem courteous_nobody : Courteous ω fun _ : κ => False :=
  fun _ _ hfalse => hfalse.elim

omit [Reentry κ ω] in
theorem InOrder.of_no_hooks (h : InOrder allowed g m) (hooks : m.platform.hooks = []) :
    InOrder (fun _ => False) g m :=
  { h with hooks := by simp [hooks] }

variable (hooks : Courteous ω allowed)

include hooks

theorem fire_leads (h : InOrder allowed g m) {op : Operation} :
    (Machine.fire op).Leads m (fun _ => InOrder allowed g) (InOrder allowed g) := by
  unfold Machine.fire
  simp only [Act.leads_bind, Act.leads_get, Act.leads_modify]
  refine Act.leads_forM (fun hook hhook m' hm' => ?_) ?_
  · exact hooks op hook.2 (h.hooks hook (List.mem_filter.mp hhook).1) g m' hm'
  · exact { h with hooks := fun hook hhook => h.hooks hook (List.mem_filter.mp hhook).1 }

/-- After its hooks a call finds a machine that is in order; if they cut it off, it is over. -/
theorem drive_leads {c : Command α} {ok : α → Machine κ ω → Prop}
    {err : DriverError → Machine κ ω → Prop} {cut : Machine κ ω → Prop}
    (h : InOrder allowed g m) (hcut : ∀ m, Broken allowed g m → cut m)
    (hrun : ∀ m, InOrder allowed g m →
      c.run.Leads m.platform.driver (fun a s => ok a (m.handled c.operation .accepted s))
        (fun e s => err e (m.handled c.operation (.refused e) s))
        (fun s => cut (m.handled c.operation .cutOff s))) :
    (Machine.drive c).Leads m ok err cut := by
  unfold Machine.drive
  rw [Fallible.leads_bind, Fallible.leads_perform, Act.leads_onCutOff]
  refine (fire_leads hooks h).mono (fun _ m' hm' => ?_) fun m' hm' => hcut _ ?_
  · exact Machine.leads_handle.mpr (hrun m' hm')
  · refine ⟨{ hm' with safe := ?_, tight := ?_, settled := ?_, watched := ?_ },
      not_quiet_of_cutOff rfl⟩
    · exact hm'.safe_cons (Moment.safe_of_verdict nofun)
    · exact fun hq => absurd hq (not_quiet_of_cutOff rfl)
    · exact fun hq => absurd hq (not_quiet_of_cutOff rfl)
    · intro f hf event hevent p hp hdone
      obtain ⟨mo, hmo, hasked⟩ := hm'.watched f hf event hevent p hp hdone
      exact ⟨mo, List.mem_cons_of_mem _ hmo, hasked⟩

omit hooks in
/-- A command that changes neither resources nor memory objects nor bindings, and lets the
    device touch nothing. -/
def Simulator.Calm (c : Command α) : Prop :=
  ∀ s : Simulator, s.Numbered → c.run.Leads s
    (fun _ s' => s'.Numbered ∧ s.nextNumber ≤ s'.nextNumber ∧ s'.resources = s.resources ∧
      s'.memories = s.memories ∧ s'.bindings = s.bindings ∧
      ∃ call, s'.calls = (s.logged call).calls ∧ call.operation = c.operation ∧
        ∀ context resource, ¬ call.Touches s context resource)
    (fun _ s' => ∃ calls counts, s' = s.relogged calls counts)
    (fun s' => ∃ calls counts, s' = s.relogged calls counts)

omit [Reentry κ ω] hooks in
/-- A calm command keeps the machine in order, whatever comes of it. -/
theorem InOrder.handles_calm {c : Command α} (hcalm : Simulator.Calm c) (h : InOrder allowed g m) :
    c.run.Leads m.platform.driver
      (fun _ s => InOrder allowed g (m.handled c.operation .accepted s))
      (fun e s => InOrder allowed g (m.handled c.operation (.refused e) s))
      fun s => Broken allowed g (m.handled c.operation .cutOff s) := by
  refine (hcalm m.platform.driver h.numbered).mono ?_ ?_ ?_
  · rintro _ s' ⟨hn, hle, hr, hm, hb, call, hcalls, hop, hnot⟩
    refine h.handled_refilled
      (Moment.safe_of_logged _ call hcalls hop fun context resource ht => ?_) hn hle
      (hr ▸ Refilled.refl) hm hb
    exact absurd ht (hnot context resource)
  · rintro e s' ⟨calls, counts, rfl⟩
    exact h.handled_refused
  · rintro s' ⟨calls, counts, rfl⟩
    exact h.handled_cutOff

theorem drive_calm {c : Command α} (hcalm : Simulator.Calm c) (h : InOrder allowed g m) :
    (Machine.drive c).Leads m (fun _ => InOrder allowed g) (fun _ => InOrder allowed g)
      (Broken allowed g) :=
  drive_leads hooks h (fun _ hm => hm) fun _ hm => hm.handles_calm hcalm

end Calls

/-! ## Calm commands -/

/-- The entry points of the driver, of devices, of images, of modules and of tokens. -/
def Operation.calm : Operation → Bool
  | .start | .stop | .countDevices | .describeDevice | .openDevice | .closeDevice => true
  | .compile | .freeImage | .loadModule | .unloadModule | .findRegister | .findEntry => true
  | .queryEvent => true
  | _ => false

namespace Simulator

variable {s t : Simulator} {r : Request} {a : Answer}

theorem Effect.numbered_calm (he : s.Effect r a t) (hop : r.command.operation.calm = true)
    (hn : s.Numbered) : t.Numbered := by
  cases he
  case loadModule => exact { hn.next with modules := hn.modules.set_next }
  case unloadModule => exact { hn.unloadModule with }
  case findEntry hm =>
    refine { hn.next with entries := hn.entries.set_next, entryModules := fun e he => ?_ }
    rcases Assoc.mem_set he with rfl | he
    · exact Nat.lt_succ_of_lt (hn.modules.lt_of_get? hm)
    · exact Nat.lt_succ_of_lt (hn.entryModules e he)
  case stillPending context event token n ht _ =>
    refine { hn with tokens := hn.tokens.reset ht, tokenContexts := fun e he => ?_ }
    rcases Assoc.mem_set he with rfl | he
    · exact hn.tokenContexts (event, token) (Assoc.mem_of_get? ht)
    · exact hn.tokenContexts e he
  case allocate place _ layout _ _ _ _ => cases place <;> cases layout <;> cases hop
  all_goals first | exact { hn with } | exact { hn.next with } | cases hop

theorem Effect.same_calm (he : s.Effect r a t) (hop : r.command.operation.calm = true) :
    t.resources = s.resources ∧ t.memories = s.memories ∧ t.bindings = s.bindings := by
  cases he
  case allocate place _ layout _ _ _ _ => cases place <;> cases layout <;> cases hop
  all_goals first | exact ⟨rfl, rfl, rfl⟩ | cases hop

/-- A calm request is logged as one that touches nothing. -/
theorem Granted.untouched (h : s.Granted r a t) (hop : r.command.operation.calm = true) :
    ∃ call, t.calls = (s.logged call).calls ∧ call.operation = r.command.operation ∧
      ∀ context resource, ¬ call.Touches s context resource := by
  have hcalls : ∀ call, r.call? s = some call → t.calls = call :: s.calls := fun _ => h.calls
  cases r
  case allocate place _ layout _ _ => cases place <;> cases layout <;> cases hop
  all_goals first | exact ⟨_, hcalls _ rfl, rfl, fun _ _ => id⟩ | cases hop

end Simulator

theorem Command.calm {α : Type} (c : Command α) [c.Requested] (hop : c.operation.calm = true) :
    Simulator.Calm c := by
  intro s hn
  have hop : c.request.command.operation.calm = true := c.operation_request ▸ hop
  obtain ⟨calls, counts, hnoted⟩ := s.noted_eq c.request
  refine (c.leads_request s).mono (fun _ s' h => ?_) (fun _ _ h => ⟨calls, counts, h.trans hnoted⟩)
    fun _ h => ⟨calls, counts, h.1.trans hnoted⟩
  have huntouched := h.untouched hop
  rw [c.operation_request] at huntouched
  cases h with
  | intro _ he hleft =>
    obtain ⟨hresources, hmemories, hbindings⟩ := he.same_calm hop
    rw [hleft] at huntouched ⊢
    exact ⟨{ he.numbered_calm hop hn with }, he.nextNumber_le, hresources, hmemories, hbindings,
      huntouched⟩

/-! ## Work of the device -/

/-- What the kernel leaves behind differs in bytes only. -/
theorem Simulator.storeRegisters_refilled (contents : Registers)
    (bound : List (String × Ident .resource)) (t : Assoc (Ident .resource) Resource) :
    Refilled t (Simulator.storeRegisters t contents bound) := by
  induction bound generalizing t with
  | nil => exact Refilled.refl
  | cons e rest ih =>
    obtain ⟨name, resource⟩ := e
    unfold Simulator.storeRegisters
    split
    · rename_i bytes r _ hr
      have hset : Refilled t (t.set resource { r with bytes := r.bytes.overwrite bytes }) :=
        Refilled.set hr rfl
      exact hset.trans (ih _)
    · exact ih t

theorem Simulator.keys_storeRegisters (contents : Registers)
    (bound : List (String × Ident .resource)) (t : Assoc (Ident .resource) Resource) :
    (Simulator.storeRegisters t contents bound).keys = t.keys := by
  induction bound generalizing t with
  | nil => rfl
  | cons e rest ih =>
    obtain ⟨name, resource⟩ := e
    unfold Simulator.storeRegisters
    split
    · rename_i bytes r _ hr
      rw [ih, Assoc.keys_set_of_get? hr]
    · exact ih t

theorem Simulator.executed_refilled (s : Simulator) (context : Ident .context) (domain : Domain) :
    Refilled s.resources (s.executed context domain) := by
  unfold Simulator.executed
  split
  · exact Refilled.refl
  · exact Simulator.storeRegisters_refilled _ _ _

theorem Simulator.keys_executed (s : Simulator) (context : Ident .context) (domain : Domain) :
    (s.executed context domain).keys = s.resources.keys := by
  unfold Simulator.executed
  split
  · rfl
  · exact Simulator.keys_storeRegisters _ _ _

theorem Contents.size_cover (c new : Contents) : (c.cover new).size = c.size := by
  unfold Contents.cover Contents.overwrite
  split <;> rfl

section Work

variable {κ ω : Type} [Keeper ω] [Reentry κ ω] {allowed : κ → Prop} {g : Holdings}
  {m : Machine κ ω} {f : Frame} (hooks : Courteous ω allowed)

include hooks

/-- An execution at work copies between its own memory objects. -/
theorem drive_copyMemory (h : InOrder allowed (g.working f) m) {source target : Ident .memory}
    (hsource : source ∈ f.arena.memories) (htarget : target ∈ f.arena.memories) :
    (Machine.drive (Simulator.copyMemory f.arena.context source target)).Leads m
      (fun _ => InOrder allowed (g.working f)) (fun _ => InOrder allowed (g.working f))
      (Broken allowed (g.working f)) := by
  refine drive_leads hooks h (fun _ hm => hm) fun m hm => ?_
  obtain ⟨ha, -⟩ := hm.steady f List.mem_cons_self
  refine Simulator.copyMemory_leads (fun _ _ _ => hm.handled_refused) ?_
  intro src dst read written hsrc hdst hread hwritten
  have hn := hm.numbered
  refine hm.handled_refilled ?_ ?_ (Nat.le_succ _)
    (Refilled.set hwritten (Contents.size_cover ..)) rfl rfl
  · refine Moment.safe_of_logged m.platform.driver
      (.copyMemory f.arena.context src dst) rfl rfl ?_
    rintro context resource ⟨rfl, rfl | rfl⟩
    · exact hm.guards List.mem_cons_self hsource hsrc
    · exact hm.guards List.mem_cons_self htarget hdst
  · refine Simulator.Numbered.tokenMade ?_ (hm.entered _ _ ha).context
    exact { hn with resources := hn.resources.reset hwritten }

/-- An execution at work runs the kernel over its own registers. -/
theorem drive_runProgram (h : InOrder allowed (g.working f) m) {entry : Ident .entry}
    {domain : Domain} :
    (Machine.drive (Simulator.runProgram f.arena.context entry domain)).Leads m
      (fun _ => InOrder allowed (g.working f)) (fun _ => InOrder allowed (g.working f))
      (Broken allowed (g.working f)) := by
  refine drive_leads hooks h (fun _ hm => hm) fun m hm => ?_
  obtain ⟨ha, hs⟩ := hm.steady f List.mem_cons_self
  refine Simulator.runProgram_leads (fun _ => hm.handled_refused) ?_
  have hn := hm.numbered
  have hrefilled := m.platform.driver.executed_refilled f.arena.context domain
  refine hm.handled_refilled ?_ ?_ (Nat.le_succ _) hrefilled rfl rfl
  · refine Moment.safe_of_logged m.platform.driver
      (.runProgram f.arena.context domain) rfl rfl ?_
    rintro context resource ⟨rfl, register, hbound⟩
    -- A register is bound to a memory object of the execution.
    obtain ⟨⟨name, memory⟩, hin, hmap⟩ := List.mem_filterMap.mp hbound
    change _ ∈ (m.platform.driver.bindings.get? f.arena.context).getD [] at hin
    obtain ⟨⟨owner, res⟩, hget, heq⟩ := Option.map_eq_some_iff.mp hmap
    cases heq
    cases hb : m.platform.driver.bindings.get? f.arena.context with
    | none =>
      rw [hb] at hin
      cases hin
    | some bound =>
      rw [hb] at hin
      exact hm.guards List.mem_cons_self (hs.bindings bound hb _ hin) hget
  · refine Simulator.Numbered.tokenMade ?_ (hm.entered _ _ ha).context
    exact { hn with resources := hn.resources.of_keys (Simulator.keys_executed ..) }

end Work

end StreamCompute
