/-
  StreamCompute.Proofs.Truthfulness

  Failures are neither hidden nor made up. If a driver call of an operation
  fails, or a token that it asks reports an error, the operation fails with
  the name and the diagnostic of the first such failure; and if its error
  names an entry point of the driver, there was such a failure, unless it
  repeats that of an earlier discovery. Calls at the desk say the same of the
  operations that they are made of.

  This is so while hooks keep aloof. A hook may take a resource away from an
  operation; then the operation fails for that reason, and what fails while it
  cleans up is not its answer.
-/
import StreamCompute.Proofs.Registration
import StreamCompute.Proofs.Steadfast

namespace StreamCompute

open Fallible

/-- An error has the name and the diagnostic of the failure behind it. -/
theorem Error.operation?_of_cause? {err : Error} {d : DriverError} (h : err.cause? = some d) :
    err.operation? = some d.operation := by
  cases err <;> cases h <;> rfl

variable {κ ω α : Type} {m m' : Machine κ ω} {e : Execution}

/-- No driver call has failed in between. -/
def Unfailed (m m' : Machine κ ω) : Prop :=
  ∃ trace : List Moment, m'.history = trace.reverse ++ m.history ∧ ∀ mo ∈ trace, ¬ mo.Failing

/-- The error is that of the first driver call that has failed in between; or none has failed, and
    the error names no entry point of the driver, or is that of an earlier discovery. -/
def Accounts (m : Machine κ ω) (err : Error) (m' : Machine κ ω) : Prop :=
  (∃ d, err.cause? = some d ∧ err.operation? = some d.operation ∧
    ∃ trace : List Moment, m'.history = trace.reverse ++ m.history ∧
      FirstFailure m.history trace (some d)) ∨
    Unfailed m m' ∧ ∀ op : Operation, err.operation? = some op.name →
      m.platform.registry = .failed err

/-- The operation answers for the driver calls that fail in its course. -/
def Fallible.Candid (m : Machine κ ω) (act : Task κ ω α) : Prop :=
  act.Leads m (fun _ => Unfailed m) (Accounts m) (Unfailed m)

section Accounting

variable [Reentry κ ω] [Setoid ω]

theorem Tracked.unfailed (h : Tracked m [] none m') : Unfailed m m' :=
  h.trace

theorem Blamed.accounts {err : Error} (h : Blamed m none err m') : Accounts m err m' := by
  obtain ⟨d, hcause, hm'⟩ := h
  exact .inl ⟨d, hcause, Error.operation?_of_cause? hcause, hm'.trace⟩

theorem Excused.accounts {err : Error} (h : Excused m err m') : Accounts m err m' := by
  refine .inr ⟨h.1.unfailed, fun op hop => ?_⟩
  exact h.2.resolve_left fun hname => hname op hop

theorem Fallible.Honest.candid {act : Task κ ω α} (h : act.Honest m (Tracked m [] none))
    (hstart : Tracked m [] none m) : act.Candid m :=
  (h m hstart).mono (fun _ _ hm => hm.unfailed)
    (fun _ _ hm => hm.elim Blamed.accounts Excused.accounts) fun _ hm => hm.unfailed

end Accounting

/-! ## Executions -/

/-- The execution was launched at some time. -/
def Issued [Reentry κ ω] (e : Execution) (m : Machine κ ω) : Prop :=
  ∃ (image : Image) (q : LaunchRequest) (before after : Machine κ ω),
    (Launch.launch image q).run before = (.ok (.ok e), after) ∧ after.history <:+ m.history

/-- A launch makes the token of its execution, whatever hooks do. -/
theorem Launch.launch_issues [Reentry κ ω] {image : Image} {q : LaunchRequest} :
    (launch image q).Leads m (fun e m' => MadeBy .runProgram e.event m'.history)
      (fun _ _ => True) fun _ => True := by
  have hstands : Withstands (κ := κ) (ω := ω) (fun _ => True) (fun _ => True) (fun _ => True)
      fun _ event m => MadeBy .runProgram event m.history := by
    refine ⟨fun _ _ => trivial, fun _ _ => trivial, fun hm' hmade => hm'.history ▸ hmade,
      fun _ _ _ _ => leads_true, fun _ _ _ => leads_true,
      fun _ _ => leads_true, fun {context entry domain m} _ => ?_⟩
    unfold Machine.drive
    rw [leads_bind, leads_perform, Act.leads_onCutOff]
    refine Act.leads_true.mono (fun _ m₁ _ => ?_) fun _ _ => trivial
    rw [Machine.leads_handle]
    refine Simulator.runProgram_leads (fun _ => trivial) ?_
    exact ⟨_, List.mem_cons_self, ⟨rfl, .inr rfl, rfl⟩, rfl⟩
  exact (launch_leads_on hstands (fun _ => hstands)
    (fun _ _ _ => leads_true.imp fun _ _ _ => ⟨trivial, trivial⟩) (fun _ _ _ => trivial)
    trivial).imp fun _ _ h => h.2

theorem Issued.made [Reentry κ ω] (h : Issued e m) : MadeBy .runProgram e.event m.history := by
  obtain ⟨image, q, before, after, hlaunch, hsuffix⟩ := h
  obtain ⟨maker, hmaker, hmakes⟩ := Launch.launch_issues.of_eq_ok hlaunch
  exact ⟨maker, hsuffix.subset hmaker, hmakes⟩

/-! ## All operations -/

/-- From here, every operation of a runtime answers for the driver calls that fail in its
    course. -/
structure Machine.Candid [Reentry κ ω] (m : Machine κ ω) : Prop where
  count : Fallible.Candid m Devices.count
  device : ∀ index, Fallible.Candid m (Devices.get index)
  compile : ∀ source, Fallible.Candid m (Images.compile source)
  compileFor : ∀ device source, Fallible.Candid m (Images.compileFor device source)
  freeImage : ∀ image, Fallible.Candid m (Images.free image)
  allocateLocal : ∀ device shape format flags,
    Fallible.Candid m (Memory.allocateLocal device shape format flags)
  allocateRemote : ∀ device shape format flags,
    Fallible.Candid m (Memory.allocateRemote device shape format flags)
  freeLocal : ∀ l, Fallible.Candid m (Memory.freeLocal l)
  freeRemote : ∀ r, Fallible.Candid m (Memory.freeRemote r)
  map : ∀ r, Fallible.Candid m (Memory.map r)
  unmap : ∀ r, Fallible.Candid m (Memory.unmap r)
  launch : ∀ image q, Fallible.Candid m (Launch.launch image q)
  run : ∀ image q, Fallible.Candid m (Launch.run image q)
  isComplete : ∀ e, Issued e m → Fallible.Candid m e.isComplete
  join : ∀ e, Issued e m → Fallible.Candid m e.join
  joinWithin : ∀ e limit, Issued e m → Fallible.Candid m (e.joinWithin limit)
  shutdown : Fallible.Candid m Devices.shutdown

theorem Machine.candid [Reentry κ ω] [Setoid ω]
    (aloof : ∀ hook ∈ m.platform.hooks, Aloof ω hook.2) : m.Candid := by
  have hblames : ∀ {α : Type} {act : Task κ ω α},
      act.Leads m (fun _ => Tracked m [] none) (Blamed m none) (Tracked m [] none) →
      act.Candid m :=
    fun h => h.mono (fun _ _ hm => hm.unfailed) (fun _ _ hm => hm.accounts) fun _ hm => hm.unfailed
  have hstart : Tracked m [] none m := .refl aloof
  exact {
    count := Devices.count_honest.candid hstart
    device := fun _ => Devices.get_honest.candid hstart
    compile := fun _ => Images.compile_honest.candid hstart
    compileFor := fun _ _ => Images.compileFor_honest.candid hstart
    freeImage := fun _ => Images.free_blames.honest.candid hstart
    allocateLocal := fun _ _ _ _ => Memory.allocateLocal_honest.candid hstart
    allocateRemote := fun _ _ _ _ => Memory.allocateRemote_honest.candid hstart
    freeLocal := fun _ => Memory.freeLocal_blames.honest.candid hstart
    freeRemote := fun _ => Memory.freeRemote_honest.candid hstart
    map := fun _ => Memory.map_honest.candid hstart
    unmap := fun _ => Memory.unmap_honest.candid hstart
    -- A launch may also fail for a reason that no driver call has given.
    launch := fun _ _ => (Launch.launch_makes hstart).mono (fun _ _ hm => hm.1.unfailed)
      (fun _ _ hm => hm.elim Blamed.accounts Excused.accounts) fun _ hm => hm.unfailed
    run := fun _ _ => Launch.run_honest.candid hstart
    isComplete := fun _ he => hblames (Execution.isComplete_blames hstart he.made)
    join := fun _ he => hblames (Execution.join_blames hstart he.made)
    joinWithin := fun _ _ he => hblames <| (Execution.joinWithin_blames hstart he.made).imp
      fun _ _ hm => hm.1
    shutdown := Devices.shutdown_blames.honest.candid hstart }

namespace Desk

variable {ρ : Type}

section Answers

variable [Reentry κ (Desk ρ)] {m : Machine κ (Desk ρ)}

/-- The call at the desk answers for the driver calls that fail in its course: it is refused by
    the desk, or its error has the name and the diagnostic of the first failure. -/
def Answers (m : Machine κ (Desk ρ)) (act : DeskTask κ ρ α) : Prop :=
  act.Leads m (fun _ => Watched m none) (Reported m) (Watched m none)

/-- From here, every call at the desk answers for the driver calls that fail in its course. A
    shutdown that finds a remote resource in flight may complain about that instead. -/
structure Candid (m : Machine κ (Desk ρ)) : Prop where
  countDevices : Answers m countDevices
  compile : ∀ source, Answers m (compile source)
  freeImage : ∀ handle, Answers m (freeImage handle)
  allocRemote : ∀ device width height formatCode flags,
    Answers m (allocRemote device width height formatCode flags)
  allocLocal : ∀ device width height formatCode flags,
    Answers m (allocLocal device width height formatCode flags)
  freeRemote : ∀ handle, Answers m (freeRemote handle)
  freeLocal : ∀ handle, Answers m (freeLocal handle)
  runStream : ∀ q, Answers m (runStream q)
  runStreamAsync : ∀ q, Answers m (runStreamAsync q)
  pollStream : ∀ handle, Answers m (pollStream handle)
  joinStream : ∀ handle, Answers m (joinStream handle)
  joinStreamWithin : ∀ handle micros, Answers m (joinStreamWithin handle micros)
  shutdown : shutdown.Leads m (fun _ => Watched m none)
    (fun err m' => Reported m err m' ∨ (∃ r ∈ m.host.remotes.values,
      (m.status r).inFlight = true ∧ err = ⟨"free_remote", .runtime (.resourceBusy r.id)⟩) ∧
        ∃ first, Watched m first m') fun _ => False

theorem candid (calm : m.Calm) (founded : Founded m) : Candid m := by
  have hstart : Watched m none m := .refl calm founded
  exact {
    countDevices := watched_routine.countDevices m hstart
    compile := fun _ => watched_routine.compile m hstart
    freeImage := fun _ => watched_routine.freeImage m hstart
    allocRemote := fun _ _ _ _ _ => watched_routine.allocRemote m hstart
    allocLocal := fun _ _ _ _ _ => watched_routine.allocLocal m hstart
    freeRemote := fun _ => watched_routine.freeRemote m hstart
    freeLocal := fun _ => watched_routine.freeLocal m hstart
    runStream := fun _ => runStream_honest m hstart
    runStreamAsync := fun _ => runStreamAsync_honest m hstart
    pollStream := fun _ => pollStream_honest m hstart
    joinStream := fun _ => joinStream_honest m hstart
    joinStreamWithin := fun _ _ => joinStreamWithin_honest m hstart
    shutdown := (shutdown_settles hstart).mono (fun _ _ h => h)
      (fun _ _ h => h.elim .inl fun h => h.imp_left .inl) fun _ h => h }

end Answers

/-! ## Tokens at a desk -/

/-- The executions in their places were made by runs, and so were these. -/
def MadeByRuns (others : List Execution) (slots : Assoc Nat Slot) (history : List Moment) : Prop :=
  (∀ slot ∈ slots.values, ∀ e, slot.execution = some e → MadeBy .runProgram e.event history) ∧
    ∀ e ∈ others, MadeBy .runProgram e.event history

variable {allowed : κ → Prop} {others : List Execution} {handle : Nat} {call : String}
  {m : Machine κ (Desk ρ)}

theorem MadeByRuns.called {slots : Assoc Nat Slot} {history : List Moment} (mo : Moment)
    (h : MadeByRuns others slots history) : MadeByRuns others slots (mo :: history) := by
  have hcalled : ∀ {event}, MadeBy .runProgram event history →
      MadeBy .runProgram event (mo :: history) :=
    fun ⟨maker, hmaker, hmakes⟩ => ⟨maker, List.mem_cons_of_mem _ hmaker, hmakes⟩
  exact ⟨fun slot hslot e he => hcalled (h.1 slot hslot e he), fun e he => hcalled (h.2 e he)⟩

/-- An execution is put into its place, taken out of it, or stays in it. -/
theorem onSlot_made {f : Slot → Slot} (hm : Placed allowed (MadeByRuns others) m)
    (hf : ∀ slot e, (f slot).execution = some e → slot.execution = some e ∨ e ∈ others) :
    Placed allowed (MadeByRuns others) (onSlot handle f m) := by
  refine hm.onDesk fun h => ?_
  split
  · rename_i slot hslot
    refine ⟨fun slot' hslot' e he => ?_, h.2⟩
    rcases Assoc.mem_values_set hslot' with rfl | hslot'
    · exact (hf slot e he).elim (h.1 slot (Assoc.mem_values_of_get? hslot) e) (h.2 e)
    · exact h.1 slot' hslot' e he
  · exact h

theorem retire_made (hm : Placed allowed (MadeByRuns others) m) :
    Placed allowed (MadeByRuns others) (retire handle m) :=
  hm.onDesk fun h => ⟨fun slot hslot => h.1 slot (Assoc.mem_values_erase hslot), h.2⟩

/-- The answer of a launch, whatever hooks do. -/
theorem launch_issues [Reentry κ (Desk ρ)] {q : StreamRequest} :
    (launch call q).Leads m (fun e m' => MadeBy .runProgram e.event m'.history)
      (fun _ _ => True) fun _ => True := by
  unfold launch launchImage onRuntime
  refine .bind leads_true fun serial m₁ _ => .bind leads_true fun d m₂ _ => ?_
  split
  · trivial
  · rw [leads_bind, leads_modify, leads_ensuring]
    refine .bind leads_true fun device m₃ _ => .bind leads_true fun table m₄ _ => ?_
    rw [leads_mk, Machine.leads_withPlatform, leads_run, leads_mapError]
    refine Launch.launch_issues.imp fun e m' h => ?_
    show MadeBy .runProgram e.event (m'.focus m₄.platform.serial).history
    rwa [Machine.history_focus]

section Tokens

variable [Reentry κ (Desk ρ)]
  (hI : ∀ others, Steadfast (Placed allowed (MadeByRuns others) : Machine κ (Desk ρ) → Prop)
    (Placed allowed (MadeByRuns others)))

include hI

theorem runStreamAsync_made {q : StreamRequest} :
    (runStreamAsync q : DeskTask κ ρ Nat).Stands (Placed allowed (MadeByRuns others))
      (Placed allowed (MadeByRuns others)) := by
  intro m hm
  unfold runStreamAsync freshHandle desk
  refine .bind ((launch_places (hI others) m hm).and launch_issues |>.mono (fun _ _ h => h)
    (fun _ _ h => h.1) fun _ h => h.1) fun e m₁ ⟨h₁, hmade⟩ => ?_
  simp only [leads_bind, leads_get, leads_pure, leads_modify, leads_log]
  refine ⟨h₁.hooks, fun slot hslot e' he' => ?_, h₁.known.2⟩
  rcases Assoc.mem_values_set hslot with rfl | hslot
  · cases he'
    exact hmade
  · exact h₁.known.1 slot hslot e' he'

theorem pollStream_made :
    (pollStream handle : DeskTask κ ρ Bool).Stands (Placed allowed (MadeByRuns others))
      (Placed allowed (MadeByRuns others)) := by
  intro m hm
  unfold pollStream holding
  refine .bind (occupant_finds.mono (fun e m₁ h₁ => h₁.1) (fun _ _ h => hm.beside h.1)
    fun _ h => h.elim) fun e m₁ h₁ => ?_
  rw [leads_mk, Act.leads_onCutOff, leads_run]
  exact (onRuntime_stands (hI others) (hI others).withstands.isComplete m₁ (hm.beside h₁)).mono
    (fun _ _ h => h) (fun _ _ h => h) fun _ h => onSlot_made h fun _ _ he => .inl he

theorem joinStream_made :
    (joinStream handle : DeskTask κ ρ Summary).Stands (Placed allowed (MadeByRuns others))
      (Placed allowed (MadeByRuns others)) := by
  intro m hm
  unfold joinStream
  refine .bind (occupant_finds.mono (fun e m₁ h₁ => h₁.1) (fun _ _ h => hm.beside h.1)
    fun _ h => h.elim) fun e m₁ h₁ => ?_
  rw [leads_bind, leads_modify]
  exact onRuntime_stands (hI others) (hI others).join _ (retire_made (hm.beside h₁))

/-- While a bounded join waits, it is remembered that its execution was made by a run. -/
theorem joinStreamWithin_made {micros : Nat} :
    (joinStreamWithin handle micros : DeskTask κ ρ (Option Summary)).Stands
      (Placed allowed (MadeByRuns others)) (Placed allowed (MadeByRuns others)) := by
  intro m hm
  unfold joinStreamWithin holding
  refine .bind (occupant_finds.mono (fun e m₁ h₁ => h₁) (fun _ _ h => hm.beside h.1)
    fun _ h => h.elim) fun e m₁ ⟨hbeside, slot, hslot, he⟩ => ?_
  -- The execution is out of its place while the join waits, so it is remembered apart.
  have h₁ : Placed allowed (MadeByRuns (e :: others)) m₁ := by
    refine ⟨(hm.beside hbeside).hooks, (hm.beside hbeside).known.1, ?_⟩
    have hmade := hm.known.1 slot (Assoc.mem_values_of_get? hslot) e he
    exact List.forall_mem_cons.mpr ⟨hbeside.history ▸ hmade, (hm.beside hbeside).known.2⟩
  have hback : ∀ {n : Machine κ (Desk ρ)}, Placed allowed (MadeByRuns (e :: others)) n →
      Placed allowed (MadeByRuns others) n :=
    fun hn => ⟨hn.hooks, hn.known.1, (List.forall_mem_cons.mp hn.known.2).2⟩
  rw [leads_bind, leads_modify, leads_bind, leads_perform,
    leads_attempt, leads_mk, Act.leads_onCutOff, leads_run]
  refine (onRuntime_stands (hI _) (hI _).joinWithin _
    (onSlot_made h₁ fun _ _ he => by cases he)).mono (fun summary m₂ h₂ => ?_) (fun _ m₂ h₂ => ?_)
    fun m₂ h₂ => hback (onSlot_made h₂ fun _ _ he => .inl he)
  · cases summary with
    | none =>
      dsimp only
      rw [leads_bind, leads_modify]
      -- What is put back is what was taken.
      refine hback (onSlot_made h₂ fun _ e' he' => .inr ?_)
      cases he'
      exact List.mem_cons_self
    | some summary =>
      dsimp only
      rw [leads_bind, leads_modify]
      exact hback (retire_made h₂)
  · dsimp only
    rw [leads_bind, leads_modify]
    exact hback (retire_made h₂)

end Tokens

end Desk

namespace Scenario

open Desk

theorem enduring_made : Enduring AtDesk MadeByRuns where
  called _ _ _ mo h := h.called mo
  within _ hsteps _ hstep := within_of_mem hsteps hstep
  hooks _ hsteps _ _ hhook := within_of_mem hsteps hhook
  perform hooks _ hsteps others step hstep := by
    have hI : ∀ others, Steadfast (Placed AtDesk (MadeByRuns others) : DeskScene → Prop)
        (Placed AtDesk (MadeByRuns others)) := fun others =>
      Machine.steadfast_known (fun _ _ mo h => h.called mo) (fun _ _ mo _ h => h.called mo)
        (hooks others)
    exact performAtDesk_stands (placed_unconcerned (hI others)) step (fun _ _ => install_places)
      (fun _ => runStream_places (hI others)) (fun _ => runStreamAsync_made hI)
      (fun _ => pollStream_made hI) (fun _ => joinStream_made hI) fun _ _ _ =>
        joinStreamWithin_made hI

/-- In every scene, the executions that the desk keeps were made by runs. -/
theorem founded_deskAfter {fuel : Nat} {steps : List (Step DeskStep)} (hsteps : AtDesk steps) :
    Founded (deskAfter fuel steps deskOpening) := by
  have hopening : Placed AtDesk (MadeByRuns []) deskOpening :=
    ⟨fun p hp hook hhook => ?_, fun slot hslot => (nomatch hslot), List.forall_mem_nil _⟩
  · exact (placed_deskAfter enduring_made hsteps hopening).known.1
  · cases List.mem_singleton.mp hp
    cases hhook

/-! ## Hooks that look -/

/-- The step reads something off the desk or its driver. -/
def Step.looks : Step DeskStep → Bool
  | .own (.remoteInfo _) | .own (.remoteRead ..) | .own .counts | .own .version
  | .own .constants => true
  | .control (.callCount _) | .control .operations | .control .available
  | .control (.isMapped _) | .control (.resourceBytes ..) | .control .describe => true
  | _ => false

theorem take_looks [Reentry (List (Step DeskStep)) (Desk Stage)] {step : Step DeskStep}
    (h : step.looks = true) {I : DeskScene → Prop} : (deskSession.take step).Upholds I I := by
  have hperform : ∀ {i}, (performAtDesk i).Stands I I → (deskSession.take (.own i)).Upholds I I := by
    intro i hi
    refine .bind (.attempt hi) fun answer => ?_
    cases answer <;> exact .pure
  cases step with
  | own i =>
    cases i with
    | remoteInfo handle => exact hperform (.bind remoteInfo_keeps fun _ => .pure)
    | remoteRead handle offset count => exact hperform (.bind remoteRead_keeps fun _ => .pure)
    | counts | version | constants => exact fun _ hm => hm
    | _ => cases h
  | control c =>
    refine .bind .get fun m => ?_
    split
    · exact .pure
    · cases c with
      | resourceBytes r offset count =>
        simp only [Session.controlOn]
        split <;> exact .pure
      | callCount | operations | available | isMapped | describe => exact .pure
      | _ => cases h
  | _ => cases h

/-- A hook whose steps look keeps aloof. -/
theorem aloof_of_looks {fuel : Nat} {steps : List (Step DeskStep)}
    (h : ∀ step ∈ steps, step.looks = true) : @Aloof _ (Desk Stage) (deskHooks fuel) _ steps := by
  intro op m
  have hstart : ∃ journal host, host ≈ m.host ∧ m = { m with journal, host } :=
    ⟨m.journal, m.host, Setoid.refl _, rfl⟩
  cases fuel with
  | zero => exact hstart
  | succ fuel =>
    refine @Session.playHook_upholds _ _ _ _ (deskHooks fuel) op steps [] _ (fun f _ hm => ?_)
      (fun _ hcut => by cases h _ hcut)
      (fun step hstep => @take_looks (deskHooks fuel) _ (h step hstep) _) m hstart
    obtain ⟨journal, host, hhost, rfl⟩ := hm
    exact ⟨journal, deskSession.onStage f host, hhost, rfl⟩

end Scenario

/-- While hooks keep aloof, the first failure of a driver call is the answer of the operation that
    made it, and failures are not made up. -/
theorem first_failure_is_the_answer {κ' ρ : Type} [Reentry κ ω] [Setoid ω]
    [Reentry κ' (Desk ρ)] :
    (∀ m : Machine κ ω, (∀ hook ∈ m.platform.hooks, Aloof ω hook.2) → m.Candid) ∧
      (∀ m : Machine κ' (Desk ρ), m.Calm → Desk.Founded m → Desk.Candid m) ∧
      ∀ fuel steps, Scenario.AtDesk steps →
        @Machine.Calm _ _ (Scenario.deskHooks fuel) _
          (Scenario.deskAfter fuel steps Scenario.deskOpening) →
        @Desk.Candid _ _ (Scenario.deskHooks fuel)
          (Scenario.deskAfter fuel steps Scenario.deskOpening) :=
  ⟨fun _ => Machine.candid, fun _ => Desk.candid, fun fuel _ hsteps calm =>
    @Desk.candid _ _ (Scenario.deskHooks fuel) _ calm (Scenario.founded_deskAfter hsteps)⟩

namespace Scenario

/-- The entry point of a kernel will not be found, and its module will not be unloaded. -/
def entryless : List Control :=
  [.failOn (some .findEntry) 1, .failOn (some .unloadModule) 1]

def entryMissing : Error :=
  .execution ⟨"calModuleGetEntry", "injected failure on call 1"⟩

/-- A runtime with an image, over such a driver. -/
def entrylessScene : RuntimeScene :=
  after 0 ([.own (.device "d" 0), .own (.compile "k" "o0" none)] ++ entryless.map .control)
    (opening {} {})

def entrylessLaunch : Except Abort (Except Error Execution) × RuntimeScene :=
  (@Launch.launch _ _ ⟨fun _ _ => pure ()⟩ ⟨⟨2⟩, 5⟩ ⟨⟨0, ⟨1⟩, {}, 1⟩, ⟨0, 0, 1, 1⟩, {}⟩).run
    entrylessScene

/-- A desk with an image, over such a driver. A hook will look at the desk. -/
def entrylessDesk : DeskScene :=
  deskAfter 1 ([.own (.install {} {}), .own (.compile "o0"),
    .hook (some .createContext) [.own .counts, .control .operations]] ++ entryless.map .control)
    deskOpening

def entrylessRun : Except Abort (Except DeskError Summary) × DeskScene :=
  (@Desk.runStream _ _ (deskHooks 1) ⟨1, 0, ⟨0, 0, 1, 1⟩, [], [], []⟩).run entrylessDesk

/-- The launch and the run report that the entry point was not found, and not that the module was
    not unloaded. -/
theorem entrylessLaunch_reports_first_failure :
    ((∃ hook, entrylessDesk.Waits hook) ∧ @Machine.Calm _ _ (deskHooks 1) _ entrylessDesk ∧
      Desk.Founded entrylessDesk ∧ entrylessLaunch.1 = .ok (.error entryMissing) ∧
      entrylessRun.1 = .ok (.error ⟨"run_stream", .runtime entryMissing⟩)) ∧
    Accounts entrylessScene entryMissing entrylessLaunch.2 ∧
    @Desk.Reported _ _ (deskHooks 1) entrylessDesk ⟨"run_stream", .runtime entryMissing⟩
      entrylessRun.2 := by
  have hrest : entrylessDesk.platforms.any (!·.hooks.isEmpty) = true ∧
      (entrylessDesk.platforms.all fun p => p.hooks.all (·.2.all (·.looks))) = true ∧
      entrylessLaunch.1 = .ok (.error entryMissing) ∧
      entrylessRun.1 = .ok (.error ⟨"run_stream", .runtime entryMissing⟩) := by
    decide +kernel
  obtain ⟨hany, hlook, hlaunch, hrun⟩ := hrest
  have hwaits : ∃ hook, entrylessDesk.Waits hook := by
    obtain ⟨p, hp, hhooks⟩ := List.any_eq_true.mp hany
    obtain ⟨hook, hhook⟩ := List.exists_mem_of_ne_nil p.hooks (by simpa using hhooks)
    exact ⟨hook, p, hp, hhook⟩
  have hcalm : @Machine.Calm _ _ (deskHooks 1) _ entrylessDesk := by
    rintro hook ⟨p, hp, hhook⟩
    have hlooks := List.all_eq_true.mp (List.all_eq_true.mp hlook p hp) hook hhook
    exact aloof_of_looks (List.all_eq_true.mp hlooks)
  have hfounded : Desk.Founded entrylessDesk := founded_deskAfter rfl
  have hlaunched : entrylessLaunch = (.ok (.error entryMissing), entrylessLaunch.2) := by
    rw [← hlaunch]
  have hran : entrylessRun =
      (.ok (.error ⟨"run_stream", .runtime entryMissing⟩), entrylessRun.2) := by
    rw [← hrun]
  let : Reentry (List (Step RuntimeStep)) Cast := ⟨fun _ _ => pure ()⟩
  let : Setoid Cast := ⟨Eq, eq_equivalence⟩
  let := deskHooks 1
  obtain ⟨hruntime, hdesk, -⟩ := @first_failure_is_the_answer (List (Step RuntimeStep)) Cast
    (List (Step DeskStep)) Stage _ _ _
  have hreports : ∀ (m : DeskScene) {q err m'}, m.Calm → Desk.Founded m →
      (Desk.runStream q).run m = (.ok (.error err), m') → Desk.Reported m err m' :=
    fun m _ _ _ hcalm hfounded => ((hdesk m hcalm hfounded).runStream _).of_eq_error
  refine ⟨⟨hwaits, hcalm, hfounded, hlaunch, hrun⟩, ?_, hreports _ hcalm hfounded hran⟩
  exact ((hruntime _ fun _ _ _ m => ⟨m.journal, m.host, rfl, rfl⟩).launch _ _).of_eq_error hlaunched

/-- A hook launches a kernel with the resource of another launch, which then has to unload its
    module in vain. -/
def disturbedLaunch : List (Step RuntimeStep) :=
  [.own (.device "d" 0), .own (.compile "k" "o0" none),
    .own (.allocRemote "a" "d" ⟨⟨1, 1⟩, ⟨.float32, .one⟩, .plain⟩),
    .own (.bindDirect "t" "o0" "a"),
    .hook (some .createContext) [.own (.launch "e" ⟨"k", "d", some "t", ⟨0, 0, 1, 1⟩⟩)],
    .control (.failOn (some .unloadModule) 1),
    .own (.launch "f" ⟨"k", "d", some "t", ⟨0, 0, 1, 1⟩⟩)]

/-- A hook shuts the desk down while a run uses a remote resource; the device will not close. -/
def disturbedShutdown : List (Step DeskStep) :=
  [.own (.install {} {}), .own (.compile "o0"),
    .own (.allocRemote 0 1 1 (Format.code ⟨.float32, .one⟩) 0),
    .hook (some .runProgram) [.own .shutdown], .control (.failOn (some .closeDevice) 1),
    .own (.runStream ⟨1, 0, ⟨0, 0, 1, 1⟩, [], [("o0", 2)], []⟩)]

/-- The calls that failed, in order. -/
def failures {κ ω : Type} (m : Machine κ ω) : List (Operation × Verdict) :=
  (m.history.reverse.filter fun mo => mo.verdict ≠ .accepted).map fun mo =>
    (mo.operation, mo.verdict)

/-- If hooks interfere, an operation may complain about a resource that is in use, although a
    driver call has failed. -/
theorem interference_hides_failure :
    ((runtimeSession.play (opening {} {}) disturbedLaunch).getLast?.map (·.outcome) =
        some (.error (.runtime (.resourceBusy ⟨3⟩))) ∧
      failures (after 1 disturbedLaunch (opening {} {})) =
        [(.unloadModule, .refused ⟨"calModuleUnload", "injected failure on call 1"⟩)]) ∧
    ((playDesk disturbedShutdown).getLast?.map (·.hooks.map (·.outcomes)) =
        some [[.error (.desk ⟨"free_remote", .runtime (.resourceBusy ⟨3⟩)⟩)]] ∧
      failures (deskAfter 1 disturbedShutdown deskOpening) =
        [(.closeDevice, .refused ⟨"calDeviceClose", "injected failure on call 1"⟩)]) := by
  decide +kernel

end Scenario

end StreamCompute
