/-
  StreamCompute.Proofs.CustodySession

  Whole scenarios over a runtime keep the machine in order, as long as they
  make no driver calls past it. Hooks are steps of the same kind, played in the
  middle of a driver call, so the argument goes by induction on how deeply
  hooks may be nested: the hooks of one level are courteous because what they
  play is, given courteous hooks one level below.
-/
import StreamCompute.Proofs.CustodyJoin
import StreamCompute.Proofs.SessionWalk
import StreamCompute.Scenario.RuntimeSession

namespace StreamCompute.Scenario

open Fallible

/-! ## Scenarios within the runtime -/

mutual

/-- The step makes no driver call past the runtime, and its hooks do not either. -/
def Step.within {ι : Type} : Step ι → Bool
  | .driver _ => false
  | .hook _ steps => allWithin steps
  | _ => true

/-- None of the steps makes a driver call past the runtime. -/
def allWithin {ι : Type} : List (Step ι) → Bool
  | [] => true
  | s :: rest => s.within && allWithin rest

end

theorem within_of_mem {ι : Type} {steps : List (Step ι)} {step : Step ι}
    (hsteps : allWithin steps = true) (hstep : step ∈ steps) : step.within = true := by
  induction steps with
  | nil => cases hstep
  | cons s rest ih =>
    obtain ⟨hs, hrest⟩ : s.within = true ∧ allWithin rest = true := by
      simpa [allWithin] using hsteps
    rcases List.mem_cons.mp hstep with rfl | hstep
    · exact hs
    · exact ih hrest hstep

instance : Keeper Cast where
  executions c := c.executions.values
  locals c := c.locals.values.map Local.id

abbrev Within (steps : List (Step RuntimeStep)) : Prop := allWithin steps = true

variable {g : Holdings} {m : RuntimeScene} {α : Type}

/-- What a scenario keeps besides executions and local resources does not matter. -/
theorem change_inOrder (h : InOrder Within g m) {f : Cast → Cast}
    (hexecutions : (f m.host).executions = m.host.executions)
    (hlocals : (f m.host).locals = m.host.locals) : InOrder Within g (Cast.change f m) := by
  refine h.rehosted _ g.locals (le_of_eq ?_) (le_of_eq ?_)
  · exact congrArg (fun t => (t.values : Multiset Execution)) hexecutions
  · exact congrArg (fun t => (g.locals + t.values.map Local.id : Multiset (Ident .resource))) hlocals

namespace Cast

variable {name : String}

/-! ## Names -/

theorem change_keeps {f : Cast → Cast} (hexecutions : ∀ c, (f c).executions = c.executions)
    (hlocals : ∀ c, (f c).locals = c.locals) : (modify (change f) : Play Unit).Keeps Within :=
  .change fun _ _ h => change_inOrder h (hexecutions _) (hlocals _)

theorem find_keeps {kind name : String} {table : Cast → Assoc String α} :
    (find kind name table).Keeps Within := by
  refine .bind (.bind .get fun _ => .pure) fun c => ?_
  split
  · exact .pure
  · exact .throw

theorem tableOrEmpty_keeps : (tableOrEmpty name).Keeps Within :=
  .bind (.bind .get fun _ => .pure) fun _ => .pure

theorem nameLocal_leads {l : Local} (h : InOrder Within (g.keeping l.id) m) :
    (nameLocal name l).Leads m (fun _ => InOrder Within g) (fun _ => InOrder Within g)
      (Broken Within g) := by
  unfold nameLocal cast
  rw [leads_bind, leads_bind, leads_get, leads_pure,
    leads_bind, leads_modify]
  have hm : InOrder Within g (change (fun c => { c with locals := c.locals.set name l }) m) :=
    h.kept_local le_rfl (Multiset.map_le_map (f := Local.id) Assoc.values_set_le)
  split
  · exact hm.record
  · exact hm

theorem nameExecution_leads {e : Execution} {a : Arena}
    (hcontext : a.context = e.context) (h : InOrder Within (g.working ⟨e.key, a, none, none⟩) m) :
    (nameExecution name e).Leads m (fun _ => InOrder Within g) (fun _ => InOrder Within g)
      (Broken Within g) := by
  unfold nameExecution cast
  rw [leads_bind, leads_bind, leads_get, leads_pure,
    leads_bind, leads_modify]
  have hm : InOrder Within g
      (change (fun c => { c with executions := c.executions.set name e }) m) :=
    h.kept rfl hcontext Assoc.values_set_le rfl
  split
  · exact hm.record
  · exact hm

theorem execution_leads (h : InOrder Within g m) : (execution name).Leads m
      (fun e m' => InOrder Within g m' ∧ e ∈ Keeper.executions m'.host)
      (fun _ => InOrder Within g) (Broken Within g) := by
  unfold execution find cast
  simp only [leads_bind, leads_get, leads_pure]
  split
  · rename_i e he
    exact ⟨h, Assoc.mem_values_of_get? he⟩
  · exact h

theorem takeExecution_leads (h : InOrder Within g m) : (takeExecution name).Leads m
      (fun e m' => ∃ a, a.context = e.context ∧ InOrder Within (g.working ⟨e.key, a, none, none⟩) m')
      (fun _ => InOrder Within g) (Broken Within g) := by
  unfold takeExecution execution find cast
  simp only [leads_bind, leads_get, leads_pure]
  split
  · rename_i e he
    exact h.taken _ (Assoc.cons_values_erase_le he) rfl
  · exact h

theorem takeLocal_leads (h : InOrder Within g m) :
    (takeLocal name).Leads m (fun l => InOrder Within (g.keeping l.id))
      (fun _ => InOrder Within g) (Broken Within g) := by
  unfold takeLocal localResource find cast
  simp only [leads_bind, leads_get, leads_pure]
  split
  · rename_i l hl
    exact h.taken_local le_rfl
      (Multiset.map_le_map (f := Local.id) (Assoc.cons_values_erase_le hl))
  · exact h

/-! ## Instructions -/

theorem ask_keeps {task : Task (List (Step RuntimeStep)) Cast α} (h : task.Keeps Within) :
    (ask task).Keeps Within :=
  .mapError h

theorem record_keeps {r : Remote} : (record r).Keeps Within :=
  .bind .get fun _ => .pure

theorem checkLink_keeps {r : Remote} : (checkLink r).Keeps Within := by
  refine .bind .get fun m => .bind (ask_keeps .answer) fun link => ?_
  split
  · exact .pure
  · exact .throw

theorem bind_keeps {name register : String} {binding : Binding} :
    (bind name register binding).Keeps Within := by
  refine .bind tableOrEmpty_keeps fun t => ?_
  refine .bind (change_keeps (fun _ => rfl) fun _ => rfl) fun _ => ?_
  refine .bind (ask_keeps .answer) fun next => ?_
  exact .bind (change_keeps (fun _ => rfl) fun _ => rfl) fun _ => .pure

theorem request_keeps {spec : LaunchSpec} : (request spec).Keeps Within := by
  refine .bind find_keeps fun i => .bind find_keeps fun d => ?_
  cases spec.table with
  | some name => exact .bind find_keeps fun _ => .pure
  | none => exact .bind .pure fun _ => .pure

/-- Images in use are kept beside executions and local resources. -/
theorem holding_leads {i : Image} {act : Play α} {P : α → Holdings → Prop}
    (hact : ∀ m, InOrder Within g m →
      act.Leads m (fun a m' => ∃ g', P a g' ∧ InOrder Within g' m') (fun _ => InOrder Within g)
        (Broken Within g)) (h : InOrder Within g m) :
    (holding i act).Leads m (fun a m' => ∃ g', P a g' ∧ InOrder Within g' m')
      (fun _ => InOrder Within g) (Broken Within g) := by
  unfold holding
  rw [leads_bind, leads_modify, leads_ensuring]
  refine (hact _ (change_inOrder h rfl rfl)).mono (fun a m' hm' => ?_) (fun _ m' hm' => ?_)
    fun m' hm' => ?_
  · obtain ⟨g', hP, hm'⟩ := hm'
    exact ⟨g', hP, change_inOrder hm' rfl rfl⟩
  · exact change_inOrder hm' rfl rfl
  · exact ⟨change_inOrder hm'.1 rfl rfl, hm'.2⟩

variable [Reentry (List (Step RuntimeStep)) Cast] (hooks : Courteous Cast Within)

include hooks

theorem compile_keeps {source : String} {name : Option String} :
    (compile source name).Keeps Within := by
  cases name with
  | some name =>
    exact .bind find_keeps fun d => ask_keeps (Images.compileFor_keeps hooks)
  | none => exact ask_keeps (Images.compile_keeps hooks)

theorem freeImage_keeps : (freeImage name).Keeps Within := by
  refine .bind find_keeps fun i => .bind (.bind .get fun _ => .pure) fun c => ?_
  split
  · exact .throw
  · refine .bind (change_keeps (fun _ => rfl) fun _ => rfl) fun _ => ?_
    exact .bind (ask_keeps (Images.free_keeps hooks)) fun _ => .pure

theorem launch_keeps {spec : LaunchSpec} : (launch name spec).Keeps Within := by
  refine .bind request_keeps fun q g m h => ?_
  obtain ⟨i, q⟩ := q
  refine .bind (holding_leads (P := fun e g' => ∃ a, a.context = e.context ∧
    g' = g.working ⟨e.key, a, none, none⟩) (fun m h => ?_) h) fun e m hm => ?_
  · rw [ask, leads_mapError]
    refine (Launch.launch_leads hooks h).imp fun e m hm => ?_
    obtain ⟨a, hcontext, hm⟩ := hm
    exact ⟨_, ⟨a, hcontext, rfl⟩, hm⟩
  · obtain ⟨_, ⟨a, hcontext, rfl⟩, hm⟩ := hm
    exact .bind (nameExecution_leads hcontext hm) fun _ _ hm => hm

theorem run_keeps {spec : LaunchSpec} : (run spec).Keeps Within := by
  refine .bind request_keeps fun q g m h => ?_
  obtain ⟨i, q⟩ := q
  refine .bind (holding_leads (P := fun _ g' => g' = g) (fun m h => ?_) h) fun e m hm => ?_
  · exact (ask_keeps (Launch.run_keeps hooks) g m h).imp fun _ _ hm => ⟨g, rfl, hm⟩
  · obtain ⟨_, rfl, hm⟩ := hm
    exact hm

theorem joinWithin_keeps {micros : Nat} : (joinWithin name micros).Keeps Within := by
  intro g m h
  unfold joinWithin
  refine .bind (takeExecution_leads h) fun e m hm => ?_
  obtain ⟨a, hcontext, hm⟩ := hm
  rw [leads_bind, ask, leads_mapError]
  refine (Execution.joinWithin_leads hooks hcontext hm).imp fun summary m hm => ?_
  cases summary with
  | some s => exact hm
  | none =>
    exact .bind (nameExecution_leads hcontext hm) fun _ _ hm => hm

theorem perform_keeps (i : RuntimeStep) : (perform i).Keeps Within := by
  cases i with
  | countDevices => exact .bind (ask_keeps (Devices.count_keeps hooks)) fun _ => .pure
  | device name index =>
    refine .bind (ask_keeps (Devices.get_keeps hooks)) fun d => ?_
    exact .bind (change_keeps (fun _ => rfl) fun _ => rfl) fun _ => .pure
  | sameDevice a b => exact .bind find_keeps fun _ => .bind find_keeps fun _ => .pure
  | shutdown => exact .bind (ask_keeps (Devices.shutdown_keeps hooks)) fun _ => .pure
  | config => exact .bind .get fun _ => .pure
  | driverCount =>
    exact .bind (.mapError (drive_keeps hooks rfl)) fun _ => .pure
  | describe => exact .bind .get fun _ => .pure
  | compile name source d =>
    refine .bind (compile_keeps hooks) fun i => ?_
    exact .bind (change_keeps (fun _ => rfl) fun _ => rfl) fun _ => .pure
  | freeImage name => exact freeImage_keeps hooks
  -- Between its acts the step holds a resource that has no name yet, so it is not the case that
  -- each act keeps the scene in order by itself.
  | allocLocal name on spec =>
    refine .bind find_keeps fun d g m h => ?_
    rw [leads_bind, ask, leads_mapError]
    refine (Memory.allocateLocal_leads hooks h).imp fun l m hm => ?_
    exact .bind (nameLocal_leads hm) fun _ _ hm => hm
  | freeLocal name =>
    intro g m h
    unfold perform
    refine .bind (takeLocal_leads h) fun l m hm => ?_
    rw [leads_bind, ask, leads_mapError]
    exact (Memory.freeLocal_leads hooks hm).imp fun _ _ hm => hm
  | dropLocal name =>
    intro g m h
    unfold perform
    refine .bind (takeLocal_leads h) fun l m hm => ?_
    exact hm.of_keeping.record
  | allocRemote name on spec =>
    refine .bind find_keeps fun d => .bind (ask_keeps (Memory.allocateRemote_keeps hooks)) fun r => ?_
    exact .bind (change_keeps (fun _ => rfl) fun _ => rfl) fun _ => record_keeps
  | freeRemote name =>
    exact .bind find_keeps fun _ =>
      .bind (ask_keeps (Memory.freeRemote_keeps hooks)) fun _ => record_keeps
  | map name =>
    exact .bind find_keeps fun _ => .bind (ask_keeps (Memory.map_keeps hooks)) fun _ => record_keeps
  | unmap name =>
    exact .bind find_keeps fun _ => .bind (ask_keeps (Memory.unmap_keeps hooks)) fun _ => record_keeps
  | remoteInfo name => exact .bind find_keeps fun _ => record_keeps
  | describeRemote name => exact .bind find_keeps fun _ => .bind .get fun _ => .pure
  | cloneRemote name source =>
    exact .bind find_keeps fun _ => .bind (change_keeps (fun _ => rfl) fun _ => rfl) fun _ => .pure
  | sameRemote a b => exact .bind find_keeps fun _ => .bind find_keeps fun _ => .pure
  | address name =>
    refine .bind find_keeps fun r => .bind .get fun m => .bind (ask_keeps .answer) fun _ => ?_
    exact .bind (change_keeps (fun _ => rfl) fun _ => rfl) fun _ => .pure
  | read name offset count =>
    exact .bind find_keeps fun _ => .bind checkLink_keeps fun _ =>
      .bind (ask_keeps Memory.read_keeps) fun _ => .pure
  | write name offset data =>
    exact .bind find_keeps fun _ => .bind checkLink_keeps fun _ =>
      .bind (ask_keeps Memory.write_keeps) fun _ => .pure
  | bindScratch name register shape format => exact bind_keeps
  | bindDirect name register source => exact .bind find_keeps fun _ => bind_keeps
  | bindCopied name register source direction => exact .bind find_keeps fun _ => bind_keeps
  | tableInfo name => exact .bind tableOrEmpty_keeps fun _ => .pure
  | tableGet name register => exact .bind tableOrEmpty_keeps fun _ => .pure
  | cloneTable name source =>
    exact .bind find_keeps fun _ => .bind (change_keeps (fun _ => rfl) fun _ => rfl) fun _ => .pure
  | sameTable a b => exact .bind find_keeps fun _ => .bind find_keeps fun _ => .pure
  | launch name spec => exact launch_keeps hooks
  | run spec => exact run_keeps hooks
  -- Whoever is at work on an execution has taken its name away, so no frame has its key.
  | poll name =>
    intro g m h
    unfold perform
    refine .bind (execution_leads h) fun e m hm => ?_
    obtain ⟨hm, hheld⟩ := hm
    obtain ⟨a, ha, -⟩ := hm.held e hheld
    rw [leads_bind, ask, leads_mapError]
    exact (Execution.isComplete_leads hooks hm (hm.keys _ a ha) fun frame hframe hkey =>
      absurd hkey.symm (hm.not_at_work hheld hframe)).imp fun _ _ hm => hm
  | join name =>
    intro g m h
    unfold perform
    refine .bind (takeExecution_leads h) fun e m hm => ?_
    obtain ⟨a, hcontext, hm⟩ := hm
    rw [leads_bind, ask, leads_mapError]
    exact (Execution.join_leads hooks hcontext hm).imp fun _ _ hm => hm
  | joinWithin name micros => exact joinWithin_keeps hooks
  | dropExecution name =>
    intro g m h
    unfold perform
    refine .bind (takeExecution_leads h) fun e m hm => ?_
    obtain ⟨a, hcontext, hm⟩ := hm
    exact hm.abandoned.record
  | describeExecution name => exact .bind find_keeps fun _ => .bind .get fun _ => .pure

end Cast

/-! ## Common steps -/

namespace Session

theorem changeStage_inOrder {f : Stage → Stage} (h : InOrder Within g m) :
    InOrder Within g (runtimeSession.changeStage f m) :=
  change_inOrder h rfl rfl

/-- Controls of the driver touch neither its objects nor its numbers. -/
theorem control_keeps {c : Control} : (runtimeSession.control c).Upholds
    (InOrder Within g) (InOrder Within g) := by
  refine control_upholds (fun _ _ => changeStage_inOrder) fun f hf m h => ?_
  show InOrder Within g (Memory.onDriverOf m.platform.serial f m)
  unfold Memory.onDriverOf
  rw [if_pos rfl]
  refine h.controlled fun s => ?_
  obtain ⟨calls, injections, tokenErrors, heq⟩ := hf s
  rw [heq]
  exact ⟨rfl, rfl, rfl, rfl, fun hn => { hn with }⟩

theorem setHook_keeps {op : Option Operation} {steps : List (Step RuntimeStep)}
    (hsteps : Within steps) : (runtimeSession.setHook op steps).Upholds
      (InOrder Within g) (InOrder Within g) := by
  refine setHook_upholds fun m serial added hserial hadded h => ?_
  cases hserial
  have hfocus : ∀ m : RuntimeScene, Machine.focus m.platform.serial m = m := fun m => if_pos rfl
  rw [Machine.leads_withPlatform, hfocus, Act.leads_modify]
  refine (hfocus (Machine.onPlatform _ m)).symm ▸ { h with hooks := fun hook hhook => ?_ }
  rcases List.mem_append.mp hhook with hhook | hhook
  · exact h.hooks hook hhook
  · exact hadded hook hhook ▸ hsteps

/-! ## Playing -/

/-- A step within the runtime keeps the machine in order, even if it is cut off. -/
theorem take_keeps [Reentry (List (Step RuntimeStep)) Cast] (hooks : Courteous Cast Within)
    {step : Step RuntimeStep} (hstep : step.within = true) :
    (runtimeSession.take step).Upholds (InOrder Within g) (InOrder Within g) := by
  cases step with
  | own i =>
    exact fun m h => (Act.Keeps.attempt (Cast.perform_keeps hooks i) g m h).mono
      (fun _ _ hm => hm) fun _ hm => hm.1
  | control c => exact control_keeps
  | driver d => cases hstep
  | hook op steps => exact setHook_keeps hstep
  | cutOff reason => exact fun _ h => h

theorem courteous_runHook (fuel : Nat) :
    @Courteous (List (Step RuntimeStep)) Cast _ ⟨runtimeSession.runHook fuel⟩ Within := by
  induction fuel with
  | zero => exact fun _ _ _ _ _ h => h
  | succ fuel ih =>
    exact fun op steps hsteps g => @playHook_upholds _ _ _ _ ⟨runtimeSession.runHook fuel⟩ op steps
      [] _ (fun _ _ => changeStage_inOrder) (fun _ _ _ h => h) fun step hstep =>
        @take_keeps g ⟨runtimeSession.runHook fuel⟩ ih step (within_of_mem hsteps hstep)

end Session

/-! ## Scenarios -/

def opening (spec : Spec) (config : Config) : RuntimeScene :=
  { platform := { driver := { spec }, config }, host := {} }

def after (fuel : Nat) (steps : List (Step RuntimeStep)) (m : RuntimeScene) : RuntimeScene :=
  (runtimeSession.playAll fuel steps m).2

theorem inOrder_opening (spec : Spec) (config : Config) :
    InOrder Within {} (opening spec config) :=
  .initial rfl rfl

theorem inOrder_after {fuel : Nat} {steps : List (Step RuntimeStep)}
    (hsteps : allWithin steps = true) (h : InOrder Within g m) :
    InOrder Within g (after fuel steps m) := by
  have hplay : (runtimeSession.playAll fuel steps).Upholds (InOrder Within g) (InOrder Within g) :=
    Session.playAll_upholds (fun _ _ => Session.changeStage_inOrder) (fun _ h => h.journal)
      fun step hstep => @Session.take_keeps g ⟨runtimeSession.runHook fuel⟩
        (Session.courteous_runHook fuel) step (within_of_mem hsteps hstep)
  exact (hplay m h).final

/-- Some scenario within the runtime comes to this state. -/
def Reachable (m : RuntimeScene) : Prop :=
  ∃ spec config fuel steps, allWithin steps = true ∧ m = after fuel steps (opening spec config)

theorem Reachable.inOrder (h : Reachable m) : InOrder Within {} m := by
  obtain ⟨spec, config, fuel, steps, hsteps, rfl⟩ := h
  exact inOrder_after hsteps (inOrder_opening spec config)

end StreamCompute.Scenario
