/-
  StreamCompute.Proofs.Steadfast

  Properties that every driver call keeps, whatever the call is. Such a
  property sets no kind of call apart, so it stands through whole launches and
  joins as well; and where it does not depend on which platform is in use
  either, it stands through whatever a desk lets its platforms do.

  What is known of the places of executions and of the calls that were made is
  of this kind. The last part is about whole scenarios that keep such facts.
-/
import StreamCompute.Proofs.DeskReports
import StreamCompute.Proofs.DeskScenes

namespace StreamCompute

open Fallible

variable {κ ω ρ α : Type}

/-- A property that every driver call keeps, and that nothing else that an operation does can
    touch. `K` is what is left of it when a call is cut off. -/
structure Steadfast [Reentry κ ω] (I K : Machine κ ω → Prop) : Prop where
  beside : ∀ {m m' : Machine κ ω}, m.Beside m' → I m → I m'
  besideCut : ∀ {m m' : Machine κ ω}, m.Beside m' → K m → K m'
  focus : ∀ {m : Machine κ ω} {serial : Nat}, I m → I (m.focus serial)
  focusCut : ∀ {m : Machine κ ω} {serial : Nat}, K m → K (m.focus serial)
  drive : ∀ {α : Type} {c : Command α}, (Machine.drive c).Stands I K

namespace Steadfast

variable [Reentry κ ω] {I K : Machine κ ω → Prop} (hI : Steadfast I K)

include hI

theorem withstands : Withstands (fun _ => True) I K fun _ _ => I where
  beside := hI.beside
  besideCut := hI.besideCut
  besideRun := hI.beside
  drive _ _ := hI.drive
  destroy _ := hI.drive
  copy := Completion.copy_stands
    ⟨fun _ _ => hI.beside .journal, fun _ _ => hI.besideCut .journal⟩ hI.drive fun _ => hI.drive
  run hm := hI.drive _ hm

theorem launch {image : Image} {q : LaunchRequest} :
    (Launch.launch image q).Stands I K := by
  intro m hm
  have hcreate : ∀ device m, I m → (Machine.drive (Simulator.createContext device)).Leads m
      (fun _ m' => True ∧ I m') (fun _ => I) K := by
    intro device m hm
    exact (hI.drive m hm).imp fun _ _ h => ⟨trivial, h⟩
  exact (Launch.launch_leads_on hI.withstands (fun _ => hI.withstands) hcreate
    (fun _ _ h => h) hm).imp fun _ _ h => h.2

theorem joinWithin {e : Execution} {limit : Option Nat} :
    (e.joinWithin limit).Stands I K :=
  Execution.joinWithin_stands hI.withstands.joins (hI.withstands.destroy trivial)

theorem join {e : Execution} : e.join.Stands I K :=
  Execution.join_stands hI.joinWithin

theorem withPlatform {act : Act (Machine κ ω) α} {serial : Nat} (hact : act.Upholds I K) :
    (Machine.withPlatform serial act).Upholds I K := by
  intro m hm
  rw [Machine.leads_withPlatform]
  exact (hact _ (hI.focus hm)).mono (fun _ _ => hI.focus) fun _ => hI.focusCut

end Steadfast

/-! ## What is known of the host and of the calls that were made -/

namespace Machine

/-- Only such hooks wait, on any platform, and this is known of the host and of the calls. -/
structure Known (allowed : κ → Prop) (F : ω → List Moment → Prop) (m : Machine κ ω) : Prop where
  hooks : ∀ p ∈ m.platforms, ∀ hook ∈ p.hooks, allowed hook.2
  known : F m.host m.history

namespace Known

variable {allowed : κ → Prop} {F G : ω → List Moment → Prop} {m m' : Machine κ ω}

theorem onDesk {F G : Desk ρ → List Moment → Prop} {m : Machine κ (Desk ρ)}
    (hm : m.Known allowed F) {f : Desk ρ → Desk ρ}
    (hf : F m.host m.history → G (f m.host) m.history) : (Desk.onDesk f m).Known allowed G :=
  ⟨hm.hooks, hf hm.known⟩

theorem beside (hbeside : m.Beside m') (hm : m.Known allowed F) : m'.Known allowed F := by
  refine ⟨fun p hp hook hhook => ?_, ?_⟩
  · rcases List.mem_cons.mp hp with rfl | hp
    · exact hm.hooks _ List.mem_cons_self hook (hbeside.hooks ▸ hhook)
    · exact hm.hooks p (List.mem_cons_of_mem _ (hbeside.parked ▸ hp)) hook hhook
  · rw [hbeside.host, hbeside.history]
    exact hm.known

theorem focus {serial : Nat} (hm : m.Known allowed F) : (m.focus serial).Known allowed F := by
  refine ⟨fun p hp => hm.hooks p (mem_platforms_focus hp), ?_⟩
  obtain ⟨platform, parked, hfocus⟩ := focus_eq serial m
  rw [hfocus]
  exact hm.known

/-- The platform in use is changed, and waits for no other hooks. -/
theorem onPlatform (hm : m.Known allowed F) {f : Platform κ → Platform κ}
    (hf : ∀ hook ∈ (f m.platform).hooks, hook ∈ m.platform.hooks ∨ allowed hook.2) :
    (m.onPlatform f).Known allowed F := by
  refine ⟨fun p hp hook hhook => ?_, hm.known⟩
  rcases List.mem_cons.mp hp with rfl | hp
  · exact (hf hook hhook).elim (hm.hooks _ List.mem_cons_self hook) id
  · exact hm.hooks p (List.mem_cons_of_mem _ hp) hook hhook

/-- The driver of a platform was changed from outside. -/
theorem onDriverOf (hm : m.Known allowed F) {serial : Nat} {f : Simulator → Simulator} :
    (Memory.onDriverOf serial f m).Known allowed F := by
  unfold Memory.onDriverOf
  split
  · exact hm.onPlatform fun _ h => .inl h
  · split
    · rename_i p hp
      refine ⟨fun p' hp' hook hhook => ?_, hm.known⟩
      rcases List.mem_cons.mp hp' with rfl | hp'
      · exact hm.hooks _ List.mem_cons_self hook hhook
      · rcases Assoc.mem_values_set hp' with rfl | hp'
        · exact hm.hooks p (List.mem_cons_of_mem _ (Assoc.mem_values_of_get? hp)) hook hhook
        · exact hm.hooks p' (List.mem_cons_of_mem _ hp') hook hhook
    · exact hm

theorem called (hm : m.Known allowed F) {mo : Moment}
    (hmo : F m.host m.history → G m.host (mo :: m.history)) {driver : Simulator} :
    Known allowed G { m.putDriver driver with history := mo :: m.history } := by
  have hdriver : (m.onPlatform fun p => { p with
      driver := { driver with notices := [] } }).Known allowed F :=
    hm.onPlatform fun _ h => .inl h
  exact ⟨hdriver.hooks, hmo hm.known⟩

end Known

variable [Reentry κ ω] {allowed : κ → Prop} {F G : ω → List Moment → Prop}

/-- What is known is steadfast, if calls do not change it and hooks keep it. -/
theorem steadfast_known (hcalled : ∀ w history mo, F w history → F w (mo :: history))
    (hcut : ∀ w history mo, mo.verdict = .cutOff → F w history → G w (mo :: history))
    (hooks : ∀ op k, allowed k → (Reentry.run op k).Upholds
      (Known allowed F) (Known allowed F)) :
    Steadfast (Known allowed F : Machine κ ω → Prop) (Known allowed G) where
  beside := Known.beside
  besideCut := Known.beside
  focus := Known.focus
  focusCut := Known.focus
  drive {α c} m hm := by
    have hfire : (fire c.operation).Leads m (fun _ => Known allowed F)
        (Known allowed F) := by
      unfold fire
      rw [Act.leads_bind, Act.leads_get, Act.leads_bind, Act.leads_modify]
      refine Act.leads_forM (fun hook hhook m' hm' => ?_) (hm.onPlatform fun hook hhook => ?_)
      · have hallowed : allowed hook.2 :=
          hm.hooks _ List.mem_cons_self hook (List.mem_filter.mp hhook).1
        exact hooks _ _ hallowed m' hm'
      · exact .inl (List.mem_filter.mp hhook).1
    unfold drive
    rw [leads_bind, leads_perform, Act.leads_onCutOff]
    refine hfire.mono (fun _ m₁ h₁ => ?_) fun m₁ h₁ => ?_
    · rw [leads_handle]
      exact leads_true.mono (fun _ _ _ => h₁.called (hcalled _ _ _))
        (fun _ _ _ => h₁.called (hcalled _ _ _)) fun _ _ => h₁.called (hcut _ _ _ rfl)
    · exact ⟨h₁.hooks, hcut _ _ _ rfl h₁.known⟩

end Machine

/-! ## At a desk -/

namespace Desk

variable [Reentry κ (Desk ρ)] {I K : Machine κ (Desk ρ) → Prop} {serial : Nat} {call : String}

variable (hI : Steadfast I K)

include hI

theorem onRuntime_stands {task : Task κ (Desk ρ) α} (htask : task.Stands I K) :
    (onRuntime serial call task).Stands I K := by
  intro m hm
  unfold onRuntime
  rw [leads_mk, Machine.leads_withPlatform, leads_run, leads_mapError]
  exact (htask _ (hI.focus hm)).mono (fun _ _ => hI.focus) (fun _ _ => hI.focus)
    fun _ => hI.focusCut

/-- A launch at the desk marks its image as in use, and unmarks it in the end. -/
theorem launch_stands {q : StreamRequest}
    (hheld : ∀ {m : Machine κ (Desk ρ)} {f : Desk ρ → List Nat}, I m →
      I (onDesk (fun d => { d with held := f d }) m))
    (hheldCut : ∀ {m : Machine κ (Desk ρ)} {f : Desk ρ → List Nat}, K m →
      K (onDesk (fun d => { d with held := f d }) m)) :
    (launch call q).Stands I K := by
  have hlaunch : ∀ serial image, (launchImage call serial image q).Stands I K :=
    fun _ _ => .bind (onRuntime_stands hI (Devices.get_stands hI.withstands.aside)) fun _ =>
      .bind (bindings_keeps .same) fun _ => onRuntime_stands hI hI.launch
  refine .bind (platform_keeps .same) fun serial => .bind desk_keeps fun d => ?_
  split
  · exact refuse_keeps .same nofun
  · refine .bind (.change fun _ hm => hheld hm) fun _ => ?_
    intro m hm
    rw [leads_ensuring]
    exact (hlaunch _ _ m hm).mono (fun _ _ => hheld) (fun _ _ => hheld) fun _ => hheldCut

end Desk

/-! ## The places of executions -/

namespace Desk

/-- Only such hooks wait, and this is known of the places of executions and of the calls. -/
abbrev Placed (allowed : κ → Prop) (F : Assoc Nat Slot → List Moment → Prop) :
    Machine κ (Desk ρ) → Prop :=
  Machine.Known allowed fun d => F d.slots

variable [Reentry κ (Desk ρ)] {allowed : κ → Prop} {F : Assoc Nat Slot → List Moment → Prop}
  {serial : Nat} {call : String}

omit [Reentry κ (Desk ρ)] in
/-- No hook waits on a new platform. -/
theorem install_places {driver : Simulator} {config : Config} :
    (install driver config : Act (Machine κ (Desk ρ)) Unit).Upholds (Placed allowed F)
      (Placed allowed F) := by
  refine .bind .get fun m₀ => .bind (.change fun m hm => ?_) fun _ => ?_
  · refine ⟨fun p hp hook hhook => ?_, hm.known⟩
    rcases List.mem_cons.mp hp with rfl | hp
    · exact hm.hooks _ List.mem_cons_self hook hhook
    · rcases Assoc.mem_values_set hp with rfl | hp
      · cases hhook
      · exact hm.hooks p (List.mem_cons_of_mem _ hp) hook hhook
  · split
    · exact .change fun _ hm => hm.beside .journal
    · exact .pure

variable (hI : Steadfast (Placed allowed F : Machine κ (Desk ρ) → Prop) (Placed allowed F))

include hI

/-- Calls that do not touch the places do not concern this. -/
theorem placed_unconcerned : Unconcerned (Placed allowed F : Machine κ (Desk ρ) → Prop) where
  journal hm := hm.beside .journal
  tables hf hm := hm.onDesk fun h => hf.slots ▸ h
  written hm := hm.onDriverOf
  platform h := hI.withPlatform <| .attempt <| h hI.withstands

theorem launch_places {q : StreamRequest} :
    (launch call q).Stands (Placed allowed F : Machine κ (Desk ρ) → Prop) (Placed allowed F) :=
  launch_stands hI (fun hm => hm.onDesk fun h => h) fun hm => hm.onDesk fun h => h

theorem runStream_places {q : StreamRequest} :
    (runStream q).Stands (Placed allowed F : Machine κ (Desk ρ) → Prop) (Placed allowed F) :=
  .bind (launch_places hI) fun _ => onRuntime_stands hI hI.join

end Desk

/-! ## Scenarios -/

namespace Scenario

open Desk

section Steps

variable {ι : Type} {allowed : List (Step DeskStep) → Prop}
  {F : ι → Assoc Nat Slot → List Moment → Prop} {i : ι} {m : DeskScene}

/-- Hooks keep each of the facts. -/
def Respects [Reentry (List (Step DeskStep)) (Desk Stage)] (allowed : List (Step DeskStep) → Prop)
    (F : ι → Assoc Nat Slot → List Moment → Prop) : Prop :=
  ∀ i op k, allowed k → (Reentry.run op k : Act DeskScene Unit).Upholds (Placed allowed (F i))
    (Placed allowed (F i))

/-- Calls do not undo the facts, and the steps that are allowed keep them, if hooks keep them. -/
structure Enduring (allowed : List (Step DeskStep) → Prop)
    (F : ι → Assoc Nat Slot → List Moment → Prop) : Prop where
  called : ∀ i slots history mo, F i slots history → F i slots (mo :: history)
  within : ∀ steps, allowed steps → ∀ step ∈ steps, step.within = true
  hooks : ∀ steps, allowed steps → ∀ op inner, .hook op inner ∈ steps → allowed inner
  perform : ∀ [Reentry (List (Step DeskStep)) (Desk Stage)], Respects allowed F →
    ∀ steps, allowed steps → ∀ i step, .own step ∈ steps →
      (performAtDesk step).Stands (Placed allowed (F i)) (Placed allowed (F i))

theorem changeStage_placed {f : Stage → Stage} (hm : Placed allowed (F i) m) :
    Placed allowed (F i) (deskSession.changeStage f m) :=
  ⟨hm.hooks, hm.known⟩

theorem Respects.steadfast [Reentry (List (Step DeskStep)) (Desk Stage)]
    (hooks : Respects allowed F) (hF : Enduring allowed F) :
    Steadfast (Placed allowed (F i) : DeskScene → Prop) (Placed allowed (F i)) :=
  Machine.steadfast_known (fun _ _ mo h => hF.called _ _ _ mo h)
    (fun _ _ mo _ h => hF.called _ _ _ mo h) (hooks i)

/-- A step keeps the facts, even if it is cut off. -/
theorem take_placed [Reentry (List (Step DeskStep)) (Desk Stage)] (hF : Enduring allowed F)
    (hooks : Respects allowed F) {steps : List (Step DeskStep)} (hsteps : allowed steps)
    {step : Step DeskStep} (hstep : step ∈ steps) :
    (deskSession.take step).Upholds (Placed allowed (F i)) (Placed allowed (F i)) := by
  cases step with
  | own instruction =>
    refine .bind (.attempt (hF.perform hooks steps hsteps i instruction hstep)) fun answer => ?_
    cases answer <;> exact .pure
  | control c =>
    refine Session.control_upholds (fun _ _ => changeStage_placed) fun f _ m hm => ?_
    unfold Session.changeDriver
    split
    · exact hm.onDriverOf
    · exact hm
  | driver d => cases hF.within steps hsteps _ hstep
  | hook op inner =>
    have hinner := hF.hooks steps hsteps op inner hstep
    refine Session.setHook_upholds fun m serial added _ hadded => ?_
    refine (hooks.steadfast hF).withPlatform (.change fun m hm => ?_) m
    refine hm.onPlatform fun hook hhook => ?_
    exact (List.mem_append.mp hhook).imp_right fun h => hadded hook h ▸ hinner
  | cutOff reason => exact fun _ hm => hm

end Steps

variable {ι : Type} {allowed : List (Step DeskStep) → Prop}
  {F : ι → Assoc Nat Slot → List Moment → Prop} {i : ι} {m : DeskScene}

/-- Hooks keep the facts, however deeply they are nested. -/
theorem respects_deskHooks (hF : Enduring allowed F) (fuel : Nat) :
    @Respects _ (deskHooks fuel) allowed F := by
  induction fuel with
  | zero => exact fun _ _ _ _ _ hm => hm
  | succ fuel ih =>
    intro i op steps hsteps
    exact @Session.playHook_upholds _ _ _ _ (deskHooks fuel) op steps [] _
      (fun _ _ => changeStage_placed) (fun _ _ _ h => h) fun step hstep =>
        @take_placed _ _ _ i (deskHooks fuel) hF ih steps hsteps step hstep

theorem placed_deskAfter (hF : Enduring allowed F) {fuel : Nat} {steps : List (Step DeskStep)}
    (hsteps : allowed steps) (hm : Placed allowed (F i) m) :
    Placed allowed (F i) (deskAfter fuel steps m) := by
  have hplay : (deskSession.playAll fuel steps).Upholds (Placed allowed (F i))
      (Placed allowed (F i)) :=
    Session.playAll_upholds (fun _ _ => changeStage_placed) (fun _ hm => hm.beside .journal)
      fun step hstep => @take_placed _ _ _ i (deskHooks fuel) hF (respects_deskHooks hF fuel) steps
        hsteps step hstep
  exact (hplay m hm).final

end Scenario

end StreamCompute
