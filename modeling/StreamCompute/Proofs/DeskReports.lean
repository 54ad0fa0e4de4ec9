/-
  StreamCompute.Proofs.DeskReports

  Calls at the desk report the first failure among their driver calls, under
  the name of the driver's entry point and with its diagnostic.

  A call at the desk may need several operations of a runtime, which may be on
  different platforms. `Watched` says of the machine with all its platforms
  what `Tracked` says of the platform in use; each operation starts from a
  machine of its own, and what it tracks is added to what was watched before.
-/
import StreamCompute.Proofs.DeskWalk

namespace StreamCompute

open Fallible

/-! ## Several platforms -/

namespace Machine

variable {κ ω : Type} {m : Machine κ ω}

/-- All platforms, the one in use first. -/
def platforms (m : Machine κ ω) : List (Platform κ) :=
  m.platform :: m.parked.values

def Hookless (m : Machine κ ω) : Prop :=
  ∀ p ∈ m.platforms, p.hooks = []

/-- The hook waits on one of the platforms. -/
def Waits (m : Machine κ ω) (hook : Operation × κ) : Prop :=
  ∃ p ∈ m.platforms, hook ∈ p.hooks

/-- All hooks that wait keep aloof. -/
def Calm [Reentry κ ω] [Setoid ω] (m : Machine κ ω) : Prop :=
  ∀ hook, m.Waits hook → Aloof ω hook.2

/-- The failure of a discovery is kept. -/
def Cached (m : Machine κ ω) (err : Error) : Prop :=
  ∃ p ∈ m.platforms, p.registry = .failed err

/-- Changing the platform in use brings no new one. -/
theorem mem_platforms_focus {serial : Nat} {p : Platform κ} (h : p ∈ (m.focus serial).platforms) :
    p ∈ m.platforms := by
  unfold focus at h
  split at h
  · exact h
  · split at h
    · exact h
    · rename_i q hq
      rcases List.mem_cons.mp h with rfl | h
      · exact List.mem_cons_of_mem _ (Assoc.mem_values_of_get? hq)
      · rcases Assoc.mem_values_set h with rfl | h
        · exact List.mem_cons_self
        · exact List.mem_cons_of_mem _ (Assoc.mem_values_erase h)

theorem history_focus (serial : Nat) (m : Machine κ ω) : (m.focus serial).history = m.history := by
  obtain ⟨_, _, hm⟩ := focus_eq serial m
  rw [hm]

end Machine

/-! ## What is known at the desk -/

/-- The error names the failure: its entry point and its diagnostic, which stands after the
    register where one could not be bound. -/
def DeskError.Names (err : DeskError) (d : DriverError) : Prop :=
  err.operation = d.operation ∧ ∃ e, err.cause = .runtime e ∧ e.cause? = some d ∧
    err.message = match e with
      | .binding register _ => s!"register '{register}': {d.message}"
      | _ => d.message

theorem DeskError.names_of_cause {call : String} {e : Error} {d : DriverError}
    (h : e.cause? = some d) : DeskError.Names ⟨call, .runtime e⟩ d := by
  cases e <;> cases h <;> exact ⟨rfl, _, rfl, rfl, rfl⟩

namespace Desk

variable {κ ρ α β : Type} [Reentry κ (Desk ρ)] {base m m' : Machine κ (Desk ρ)} {first first' : Option DriverError}

/-- The token of every execution that the desk keeps was made by a run. -/
def Founded (m : Machine κ (Desk ρ)) : Prop :=
  ∀ slot ∈ m.host.slots.values, ∀ e, slot.execution = some e →
    MadeBy .runProgram e.event m.history

/-- Since the first machine, this was the first failure on any platform, if there was one. No hook
    has come, and those that wait keep aloof. -/
structure Watched (base : Machine κ (Desk ρ)) (first : Option DriverError)
    (m : Machine κ (Desk ρ)) : Prop where
  hooks : ∀ hook, m.Waits hook → base.Waits hook
  calm : m.Calm
  founded : Founded m
  cached : first = none → ∀ err, m.Cached err → base.Cached err
  trace : ∃ trace : List Moment, m.history = trace.reverse ++ base.history ∧
    FirstFailure base.history trace first

/-- The error names the first failure, or nothing has failed; then it names none, or repeats that
    of an earlier discovery. -/
def Reported (base : Machine κ (Desk ρ)) (err : DeskError) (m : Machine κ (Desk ρ)) : Prop :=
  (∃ d, err.Names d ∧ Watched base (some d) m) ∨
    Watched base none m ∧ ∀ op : Operation, err.operation = op.name →
      ∃ e, err.cause = .runtime e ∧ base.Cached e

/-- The call reports the first failure. If it is cut off, nothing has failed before. -/
abbrev Honest (base : Machine κ (Desk ρ)) (act : DeskTask κ ρ α) : Prop :=
  act.Upholds (Watched base none) (Reported base) (Watched base none)

namespace Watched

theorem refl (calm : m.Calm) (founded : Founded m) : Watched m none m :=
  ⟨fun _ h => h, calm, founded, fun _ _ h => h, [], rfl, List.forall_mem_nil _⟩

/-- Operations may start on the platform in use. -/
theorem start (h : Watched base first m) : StreamCompute.Tracked m [] none m :=
  .refl fun hook hhook => h.calm hook ⟨m.platform, List.mem_cons_self, hhook⟩

theorem focus (h : Watched base first m) (serial : Nat) : Watched base first (m.focus serial) := by
  have hwaits : ∀ hook, (m.focus serial).Waits hook → m.Waits hook :=
    fun hook ⟨p, hp, hhook⟩ => ⟨p, Machine.mem_platforms_focus hp, hhook⟩
  have hcached : first = none → ∀ err, (m.focus serial).Cached err → base.Cached err :=
    fun hfirst err ⟨p, hp, herr⟩ => h.cached hfirst err ⟨p, Machine.mem_platforms_focus hp, herr⟩
  obtain ⟨platform, parked, hm⟩ := Machine.focus_eq serial m
  exact ⟨fun hook hhook => h.hooks hook (hwaits hook hhook),
    fun hook hhook => h.calm hook (hwaits hook hhook), hm ▸ h.founded, hcached, hm ▸ h.trace⟩

theorem onDesk (h : Watched base first m) {f : Desk ρ → Desk ρ}
    (hf : ∀ slot ∈ (f m.host).slots.values, ∀ e, slot.execution = some e →
      MadeBy .runProgram e.event m.history) : Watched base first (Desk.onDesk f m) :=
  ⟨h.hooks, h.calm, hf, h.cached, h.trace⟩

theorem record (h : Watched base first m) {e : Event} :
    Watched base first (Journaled.record e m) :=
  ⟨h.hooks, h.calm, h.founded, h.cached, h.trace⟩

/-- What was tracked since is added. -/
theorem tracked (h : Watched base first m) (h' : Tracked m [] first' m') :
    Watched base (first.or first') m' := by
  obtain ⟨trace, hhistory, hfirst⟩ := h.trace
  obtain ⟨trace', hhistory', hfirst'⟩ := h'.trace
  have hwaits : ∀ hook, m'.Waits hook → m.Waits hook := by
    rintro hook ⟨p, hp, hhook⟩
    rcases List.mem_cons.mp hp with rfl | hp
    · exact ⟨m.platform, List.mem_cons_self, h'.hooks hhook⟩
    · exact ⟨p, List.mem_cons_of_mem _ (h'.parked ▸ hp), hhook⟩
  have hslots : m'.host.slots = m.host.slots := (tables_of_equiv h'.host).1
  refine ⟨fun hook hhook => h.hooks hook (hwaits hook hhook),
    fun hook hhook => h.calm hook (hwaits hook hhook), fun slot hslot e he => ?_,
    fun hnone err ⟨p, hp, herr⟩ => ?_, trace ++ trace', ?_, hfirst.trans (hhistory ▸ hfirst')⟩
  · exact h'.made (h.founded slot (hslots ▸ hslot) e he)
  · rw [Option.or_eq_none_iff] at hnone
    refine h.cached hnone.1 err ?_
    rcases List.mem_cons.mp hp with rfl | hp
    · exact ⟨m.platform, List.mem_cons_self, h'.registry hnone.2 err herr⟩
    · exact ⟨p, List.mem_cons_of_mem _ (h'.parked ▸ hp), herr⟩
  · rw [hhistory', hhistory, List.reverse_append, List.append_assoc]

end Watched

/-- An operation of the runtime on one of the platforms, and back to the platform in use. `C` is
    false if it is never cut off. -/
theorem Watched.operation (h : Watched base first m) {serial : Nat}
    {task : Task κ (Desk ρ) α} {P : α → List Moment → Prop} {C : Prop}
    (htask : ∀ m₁ : Machine κ (Desk ρ), Tracked m₁ [] none m₁ → m₁.history = m.history →
      task.Leads m₁ (fun a m' => Tracked m₁ [] none m' ∧ P a m'.history)
        (fun err m' => Blamed m₁ none err m' ∨ Excused m₁ err m')
        fun m' => Tracked m₁ [] none m' ∧ C) :
    task.Leads (m.focus serial)
      (fun a m' => Watched base first (m'.focus m.platform.serial) ∧
        P a (m'.focus m.platform.serial).history)
      (fun err m' =>
        (∃ d, err.cause? = some d ∧
          Watched base (first.or (some d)) (m'.focus m.platform.serial)) ∨
        Watched base first (m'.focus m.platform.serial) ∧ (first = none → ∀ op : Operation,
          err.operation? = some op.name → base.Cached err))
      fun m' => Watched base first (m'.focus m.platform.serial) ∧ C := by
  have h₁ := h.focus serial
  have hback : ∀ m', Tracked (m.focus serial) [] none m' →
      Watched base first (m'.focus m.platform.serial) := by
    intro m' hm'
    have h' := (h₁.tracked hm').focus m.platform.serial
    rwa [Option.or_none] at h'
  refine (htask _ h₁.start (Machine.history_focus serial m)).mono
    (fun a m' hm' => ⟨hback m' hm'.1, (Machine.history_focus _ m').symm ▸ hm'.2⟩)
    (fun err m' hm' => ?_) fun m' hm' => ⟨hback m' hm'.1, hm'.2⟩
  rcases hm' with ⟨d, hcause, hm'⟩ | ⟨hm', hexcuse⟩
  · exact .inl ⟨d, hcause, (h₁.tracked hm').focus _⟩
  · refine .inr ⟨hback m' hm', fun hnone op hop => ?_⟩
    rcases hexcuse with hname | hregistry
    · exact absurd hop (hname op)
    · exact h₁.cached hnone err ⟨_, List.mem_cons_self, hregistry⟩

theorem Reported.own {err : DeskError} (h : Watched base none m) (hcall : Own err.call)
    (hcause : ∀ e, err.cause = .runtime e → e.operation? = none) : Reported base err m := by
  have hoperation : err.operation = err.call := by
    unfold DeskError.operation
    split
    · rename_i e he
      rw [hcause e he]
      rfl
    · rfl
  exact .inr ⟨h, fun op hop => absurd (hoperation.symm.trans hop).symm (hcall op)⟩

variable {call : String} {handle : Nat} {q : StreamRequest}

theorem onRuntime_watches (h : Watched base none m) {serial : Nat}
    (hcall : Own call) {task : Task κ (Desk ρ) α} {P : α → List Moment → Prop}
    (htask : ∀ m₁ : Machine κ (Desk ρ), Tracked m₁ [] none m₁ → m₁.history = m.history →
      task.Leads m₁ (fun a m' => Tracked m₁ [] none m' ∧ P a m'.history)
        (fun err m' => Blamed m₁ none err m' ∨ Excused m₁ err m') (Tracked m₁ [] none)) :
    (onRuntime serial call task).Leads m (fun a m' => Watched base none m' ∧ P a m'.history)
      (Reported base) (Watched base none) := by
  unfold onRuntime
  rw [leads_mk, Machine.leads_withPlatform, leads_run, leads_mapError]
  have htask' : ∀ m₁ : Machine κ (Desk ρ), Tracked m₁ [] none m₁ → m₁.history = m.history →
      task.Leads m₁ (fun a m' => Tracked m₁ [] none m' ∧ P a m'.history)
        (fun err m' => Blamed m₁ none err m' ∨ Excused m₁ err m')
        fun m' => Tracked m₁ [] none m' ∧ True :=
    fun m₁ hm₁ hhistory => (htask m₁ hm₁ hhistory).mono (fun _ _ hm => hm) (fun _ _ hm => hm)
      fun _ hm => ⟨hm, trivial⟩
  refine (h.operation htask').mono (fun _ _ hm => hm) (fun err m' hm => ?_) fun _ hm => hm.1
  rcases hm with ⟨d, hcause, hm⟩ | ⟨hm, hcached⟩
  · exact .inl ⟨d, DeskError.names_of_cause hcause, hm⟩
  · refine .inr ⟨hm, fun op hop => ⟨err, rfl, ?_⟩⟩
    cases hname : err.operation? with
    | none =>
      simp only [DeskError.operation, hname, Option.getD_none] at hop
      exact absurd hop.symm (hcall op)
    | some name =>
      simp only [DeskError.operation, hname, Option.getD_some] at hop
      exact hcached rfl op (hop ▸ hname)

theorem onRuntime_honest {serial : Nat} (hcall : Own call)
    {task : Task κ (Desk ρ) α} (htask : ∀ m₁, task.Honest m₁ (Tracked m₁ [] none)) :
    Honest base (onRuntime serial call task) := fun _ h =>
  (onRuntime_watches (P := fun _ _ => True) h hcall fun m₁ hm₁ _ =>
    (htask m₁ m₁ hm₁).imp fun _ _ hm => ⟨hm, trivial⟩).imp fun _ _ hm => hm.1

theorem reported_refuses (hcall : Own call) :
    Refuses call (Watched base none) (Reported base) := fun _ hcause _ h =>
  .own h hcall hcause

/-- Calls about devices and objects report the first failure. -/
theorem watched_routine : Routine (Watched base none) (Reported base) where
  journal h := ⟨h.hooks, h.calm, h.founded, h.cached, h.trace⟩
  tables hf h := h.onDesk (hf.slots.symm ▸ h.founded)
  refuses := reported_refuses
  operates hcall _ htask := onRuntime_honest hcall htask

/-! ## Executions and their places -/

/-- An operation on an execution whose token was made by a run. -/
theorem onExecution_honest (h : Watched base none m) {e : Execution}
    (hmade : MadeBy .runProgram e.event m.history) (hcall : Own call)
    {task : Task κ (Desk ρ) α}
    (htask : ∀ m₁ : Machine κ (Desk ρ), Tracked m₁ [] none m₁ →
      MadeBy .runProgram e.event m₁.history →
      task.Leads m₁ (fun _ => Tracked m₁ [] none) (Blamed m₁ none) (Tracked m₁ [] none)) :
    (onRuntime e.home call task).Leads m
      (fun _ m' => Watched base none m' ∧ MadeBy .runProgram e.event m'.history)
      (Reported base) (Watched base none) :=
  onRuntime_watches (P := fun _ history => MadeBy .runProgram e.event history) h hcall
    fun m₁ hm₁ hhistory => (htask m₁ hm₁ (hhistory ▸ hmade)).mono
      (fun _ _ hm => ⟨hm, hm.made (hhistory ▸ hmade)⟩) (fun _ _ hm => .inl hm) fun _ hm => hm

theorem occupant_watches (h : Watched base none m) (hcall : Own call) :
    (occupant call handle).Leads m
      (fun e m' => Watched base none m' ∧ MadeBy .runProgram e.event m'.history)
      (Reported base) (Watched base none) := by
  have hmisuse : ∀ e, DeskCause.runtime (.joinMisuse
      s!"execution handle {handle} is unknown or already joined") = .runtime e →
      e.operation? = none := by
    rintro e ⟨⟩
    rfl
  unfold occupant desk
  simp only [leads_bind, leads_get, leads_pure]
  split
  · exact Reported.own h hcall hmisuse
  · rename_i slot hslot
    cases he : slot.execution with
    | none =>
      split
      · exact Reported.own h.record hcall hmisuse
      · exact Reported.own h hcall hmisuse
    | some e =>
      have hmade := h.founded slot (Assoc.mem_values_of_get? hslot) e he
      split
      · exact ⟨h.record, hmade⟩
      · exact ⟨h, hmade⟩

/-- A change of the place of a handle that brings no other execution. -/
theorem Watched.onSlot (h : Watched base first m) {f : Slot → Slot}
    (hf : ∀ slot e, (f slot).execution = some e →
      slot.execution = some e ∨ MadeBy .runProgram e.event m.history) :
    Watched base first (Desk.onSlot handle f m) := by
  refine h.onDesk fun slot hslot e he => ?_
  split at hslot
  · rename_i old hold
    rcases Assoc.mem_values_set hslot with rfl | hslot
    · rcases hf old e he with he | hmade
      · exact h.founded old (Assoc.mem_values_of_get? hold) e he
      · exact hmade
    · exact h.founded slot hslot e he
  · exact h.founded slot hslot e he

theorem Watched.retire (h : Watched base first m) :
    Watched base first (Desk.retire handle m) :=
  h.onDesk fun slot hslot e he => h.founded slot (Assoc.mem_values_erase hslot) e he

theorem holding_watches {task : DeskTask κ ρ α}
    {P : α → Machine κ (Desk ρ) → Prop}
    (h : task.Leads m P (Reported base) (Watched base none)) :
    (holding handle task).Leads m P (Reported base) (Watched base none) := by
  unfold holding
  rw [leads_mk, Act.leads_onCutOff, leads_run]
  exact h.mono (fun _ _ hm => hm) (fun _ _ hm => hm) fun _ hm => hm.onSlot fun _ _ he => .inl he

/-! ## Launches -/

theorem launchImage_watches (hcall : Own call) {serial : Nat} {image : Image}
    (h : Watched base none m) :
    (launchImage call serial image q).Leads m
      (fun e m' => Watched base none m' ∧ MadeBy .runProgram e.event m'.history)
      (Reported base) (Watched base none) := by
  unfold launchImage
  refine .bind (onRuntime_honest hcall (fun _ => Devices.get_honest) m h) fun device m₁ h₁ => ?_
  refine .bind (bindings_keeps (reported_refuses hcall) m₁ h₁) fun table m₂ h₂ => ?_
  exact onRuntime_watches (P := fun (e : Execution) history => MadeBy .runProgram e.event history)
    h₂ hcall fun m₃ hm₃ _ => Launch.launch_makes hm₃

/-- A launch that succeeds made the token of its execution. -/
theorem launch_watches (hcall : Own call)
    (h : Watched base none m) :
    (launch call q).Leads m
      (fun e m' => Watched base none m' ∧ MadeBy .runProgram e.event m'.history)
      (Reported base) (Watched base none) := by
  have hrelease : ∀ first m', Watched base first m' → Watched base first (release q.image m') :=
    fun first m' hm' => hm'.onDesk hm'.founded
  unfold launch desk
  refine .bind (platform_keeps (reported_refuses hcall) m h) fun serial m₁ h₁ => ?_
  simp only [leads_bind, leads_get, leads_pure]
  split
  · exact Reported.own h₁ hcall fun _ h => by cases h
  · have hheld : Watched base none (hold q.image m₁) := h₁.onDesk h₁.founded
    rw [leads_bind, leads_modify, leads_ensuring]
    refine (launchImage_watches hcall hheld).mono (fun e m' hm => ⟨hrelease _ m' hm.1, hm.2⟩)
      (fun err m' hm => ?_) fun m' hm => hrelease _ m' hm
    rcases hm with ⟨d, hnames, hm⟩ | ⟨hm, hnone⟩
    · exact .inl ⟨d, hnames, hrelease _ m' hm⟩
    · exact .inr ⟨hrelease _ m' hm, hnone⟩

/-! ## Runs and joins -/

theorem runStream_honest :
    Honest base (runStream q : DeskTask κ ρ Summary) := by
  have hcall : Own "run_stream" := fun op => by cases op <;> decide
  intro m h
  unfold runStream
  refine .bind (launch_watches hcall h) fun e m₁ ⟨h₁, hmade⟩ => ?_
  exact (onExecution_honest h₁ hmade hcall fun _ hm hmade => Execution.join_blames hm hmade).imp
    fun _ _ hm => hm.1

theorem runStreamAsync_honest :
    Honest base (runStreamAsync q : DeskTask κ ρ Nat) := by
  have hcall : Own "run_stream_async" := fun op => by cases op <;> decide
  intro m h
  unfold runStreamAsync freshHandle desk
  refine .bind (launch_watches hcall h) fun e m₁ ⟨h₁, hmade⟩ => ?_
  have hfresh : Watched base none
      (onDesk (fun d => { d with nextHandle := m₁.host.nextHandle + 1 }) m₁) :=
    h₁.onDesk h₁.founded
  refine Watched.record (hfresh.onDesk fun slot hslot e' he' => ?_)
  rcases Assoc.mem_values_set hslot with rfl | hslot
  · cases he'
    exact hmade
  · exact h₁.founded slot hslot e' he'

theorem pollStream_honest :
    Honest base (pollStream handle : DeskTask κ ρ Bool) := by
  have hcall : Own "poll_stream" := fun op => by cases op <;> decide
  intro m h
  unfold pollStream
  refine .bind (occupant_watches h hcall) fun e m₁ ⟨h₁, hmade⟩ => ?_
  exact (holding_watches (onExecution_honest h₁ hmade hcall fun _ hm hmade =>
    Execution.isComplete_blames hm hmade)).imp fun _ _ hm => hm.1

theorem joinStream_honest :
    Honest base (joinStream handle : DeskTask κ ρ Summary) := by
  have hcall : Own "join_stream" := fun op => by cases op <;> decide
  intro m h
  unfold joinStream
  refine .bind (occupant_watches h hcall) fun e m₁ ⟨h₁, hmade⟩ => ?_
  have h₂ : Watched base none (retire handle m₁) := h₁.retire
  rw [leads_bind, leads_modify]
  exact (onExecution_honest h₂ hmade hcall fun _ hm hmade =>
    Execution.join_blames hm hmade).imp fun _ _ hm => hm.1

theorem joinStreamWithin_honest {micros : Nat} :
    Honest base (joinStreamWithin handle micros : DeskTask κ ρ (Option Summary)) := by
  have hcall : Own "join_stream_timeout" := fun op => by cases op <;> decide
  intro m h
  unfold joinStreamWithin
  refine .bind (occupant_watches h hcall) fun e m₁ ⟨h₁, hmade⟩ => ?_
  rw [leads_bind, leads_modify, leads_bind, leads_perform,
    leads_attempt]
  have h₂ : Watched base none (onSlot handle (fun slot => { slot with execution := none }) m₁) :=
    h₁.onSlot nofun
  refine (holding_watches (onExecution_honest h₂ hmade hcall fun _ hm hmade =>
    (Execution.joinWithin_blames hm hmade).imp fun _ _ hm => hm.1)).mono
    (fun answer m₃ ⟨h₃, hmade₃⟩ => ?_) (fun err m₃ h₃ => ?_) fun _ hm => hm
  · cases answer with
    | none =>
      refine Watched.onSlot h₃ fun slot e' he' => ?_
      cases he'
      exact .inr hmade₃
    | some summary => exact Watched.retire h₃
  · rcases h₃ with ⟨d, hnames, h₃⟩ | ⟨h₃, hnone⟩
    · exact .inl ⟨d, hnames, h₃.retire⟩
    · exact .inr ⟨h₃.retire, hnone⟩

end Desk

/-! ## Resources in flight -/

section Idle

variable {κ ω α : Type} [Reentry κ ω] [Setoid ω] {m : Machine κ ω} {rs : List Remote}

/-- Hooks keep aloof, and none of these remote resources is in flight. -/
structure Machine.Idle (rs : List Remote) (m : Machine κ ω) : Prop where
  hooks : ∀ hook ∈ m.platform.hooks, Aloof ω hook.2
  idle : ∀ r ∈ rs, (m.status r).inFlight = false

theorem Machine.Idle.onStatus (h : m.Idle rs) {r : Remote} {f : RemoteStatus → RemoteStatus}
    (hf : ∀ s, s.inFlight = false → (f s).inFlight = false) : (m.onStatus r f).Idle rs := by
  refine ⟨h.hooks, fun r' hr' => ?_⟩
  rw [status_onStatus]
  split
  · exact hf _ (h.idle r' hr')
  · exact h.idle r' hr'

/-- Whatever was in flight beside this resource, it is not any more. -/
theorem Machine.Idle.settle {r : Remote} (h : m.Idle (rs.filter (· ≠ r)))
    {f : RemoteStatus → RemoteStatus} (hf : ∀ s, (f s).inFlight = false) :
    (m.onStatus r f).Idle rs := by
  refine ⟨h.hooks, fun r' hr' => ?_⟩
  rw [status_onStatus]
  split
  · exact hf _
  · rename_i hne
    exact h.idle r' (List.mem_filter.mpr ⟨hr', decide_eq_true fun heq => hne heq.symm⟩)

theorem Machine.drive_idle {c : Command α} :
    (drive c).Preserves (Machine.Idle rs : Machine κ ω → _) := by
  intro m h
  obtain ⟨_, hm'⟩ := exists_fired h.hooks c.operation
  rw [hm'.drive rfl, leads_drive hm'.unhooked (beq_self_eq_true _)]
  obtain ⟨hooks, _, _, hsub, -, rfl⟩ := hm'.rest
  have haloof : ∀ hook ∈ hooks, Aloof ω hook.2 := fun hook hhook => h.hooks hook (hsub hhook)
  exact leads_true.mono (fun _ _ _ => ⟨haloof, h.idle⟩) (fun _ _ _ => ⟨haloof, h.idle⟩)
    fun _ hs => hs

theorem Memory.freeLocal_idle {l : Local} :
    (freeLocal l : Task κ ω Unit).Preserves (Machine.Idle rs) :=
  .bind (.mapError Machine.drive_idle) fun _ _ h => ⟨h.hooks, h.idle⟩

theorem Images.free_idle {image : Image} :
    (free image : Task κ ω Unit).Preserves (Machine.Idle rs) :=
  .bind (.mapError Machine.drive_idle) fun _ _ h => ⟨h.hooks, h.idle⟩

theorem Memory.withdraw_idle {r : Remote} :
    (withdraw r : Drive κ ω Bool).Preserves (Machine.Idle rs) :=
  withdraw_stands Machine.drive_idle fun _ h => h.onStatus fun _ hs => hs

/-- A resource is in flight only while it is being freed. -/
theorem Memory.freeRemote_idle {r : Remote} :
    (freeRemote r : Task κ ω Unit).Preserves (Machine.Idle rs) := by
  intro m h
  have hothers : m.Idle (rs.filter (· ≠ r)) :=
    ⟨h.hooks, fun r' hr' => h.idle r' (List.mem_filter.mp hr').1⟩
  have hclaimed : (m.onStatus r fun s => { s with inFlight := true }).Idle
      (rs.filter (· ≠ r)) := by
    refine ⟨h.hooks, fun r' hr' => ?_⟩
    have hne : r ≠ r' := fun heq => of_decide_eq_true (List.mem_filter.mp hr').2 heq.symm
    rw [Machine.status_onStatus, if_neg hne]
    exact hothers.idle r' hr'
  have hfreeing : (do let _ ← withdraw r; Machine.drive (Simulator.freeResource r.id) :
      Drive κ ω Unit).Preserves (Machine.Idle (rs.filter (· ≠ r))) :=
    .bind withdraw_idle fun _ => Machine.drive_idle
  unfold freeRemote claim
  rw [leads_bind, leads_bind, leads_get]
  split
  · exact h
  · rw [leads_modify, leads_bind, leads_perform,
      leads_attempt]
    refine (hfreeing _ hclaimed).mono (fun _ m' hm' => ?_) (fun _ m' hm' => ?_) fun _ hm => hm
    · have hreleased := hm'.settle (f := RemoteStatus.released) fun _ => rfl
      exact ⟨hreleased.hooks, hreleased.idle⟩
    · exact hm'.settle fun _ => rfl

theorem Machine.idle_aside : Devices.Aside (Machine.Idle rs : Machine κ ω → Prop) fun _ => True where
  journal _ _ h := ⟨h.hooks, h.idle⟩
  cut _ _ h := h
  registry _ _ _ h := ⟨h.hooks, h.idle⟩
  call _ := drive_idle

end Idle

/-! ## Shutting down -/

namespace Desk

variable {κ ρ : Type} [Reentry κ (Desk ρ)] {base m : Machine κ (Desk ρ)} {carried : Option DeskError} {rs : List Remote}

/-- The error names the first failure; or else one of these resources was in flight from the
    start, and the error is that it could not be freed. -/
def Settled (base : Machine κ (Desk ρ)) (rs : List Remote) (err : DeskError)
    (m : Machine κ (Desk ρ)) : Prop :=
  (∃ d, err.Names d ∧ Watched base (some d) m) ∨
    (∃ r ∈ rs, (base.status r).inFlight = true ∧
      err = ⟨"free_remote", .runtime (.resourceBusy r.id)⟩) ∧ ∃ first, Watched base first m

/-- In the course of a shutdown: what is known of the error that is carried, if there is one, and
    of the resources that are still to be freed. -/
structure Carrying (base : Machine κ (Desk ρ)) (rs : List Remote) (m : Machine κ (Desk ρ))
    (carried : Option DeskError) : Prop where
  idle : ∀ r ∈ rs, (base.status r).inFlight = false → (m.status r).inFlight = false
  first : match carried with
    | none => Watched base none m
    | some err => Settled base rs err m

theorem Carrying.watched (h : Carrying base rs m carried) : ∃ first, Watched base first m := by
  have hfirst := h.first
  cases carried with
  | none => exact ⟨none, hfirst⟩
  | some err =>
    rcases hfirst with ⟨d, -, hm⟩ | ⟨-, hm⟩
    · exact ⟨some d, hm⟩
    · exact hm

section Carrying

variable {m' : Machine κ (Desk ρ)} {err : DeskError}

theorem Carrying.next (h : Carrying base rs m carried)
    (hidle : ∀ r ∈ rs, (base.status r).inFlight = false → (m'.status r).inFlight = false)
    (hm' : ∀ first, Watched base first m → Watched base first m') :
    Carrying base rs m' carried := by
  refine ⟨hidle, ?_⟩
  have hfirst := h.first
  cases carried with
  | none => exact hm' none hfirst
  | some err =>
    rcases hfirst with ⟨d, hnames, hm⟩ | ⟨hflight, first, hm⟩
    · exact .inl ⟨d, hnames, hm' _ hm⟩
    · exact .inr ⟨hflight, first, hm' _ hm⟩

/-- A driver call has failed, and the error names it. -/
theorem Carrying.failed (h : Carrying base rs m carried)
    (hidle : ∀ r ∈ rs, (base.status r).inFlight = false → (m'.status r).inFlight = false)
    {d : DriverError} (hnames : err.Names d)
    (hm' : ∀ first, Watched base first m → Watched base (first.or (some d)) m') :
    Carrying base rs m' (carried.or (some err)) := by
  refine ⟨hidle, ?_⟩
  have hfirst := h.first
  cases carried with
  | none => exact .inl ⟨d, hnames, hm' none hfirst⟩
  | some err =>
    rcases hfirst with ⟨d, hnames, hm⟩ | ⟨hflight, first, hm⟩
    · exact .inl ⟨d, hnames, hm' _ hm⟩
    · exact .inr ⟨hflight, _, hm' _ hm⟩

theorem Carrying.refused (h : Carrying base rs m carried)
    (hidle : ∀ r ∈ rs, (base.status r).inFlight = false → (m'.status r).inFlight = false)
    (hflight : ∃ r ∈ rs, (base.status r).inFlight = true ∧
      err = ⟨"free_remote", .runtime (.resourceBusy r.id)⟩)
    (hm' : ∀ first, Watched base first m → Watched base first m') :
    Carrying base rs m' (carried.or (some err)) := by
  have hnext := h.next hidle hm'
  cases carried with
  | none => exact ⟨hidle, .inr ⟨hflight, none, hnext.first⟩⟩
  | some err => exact hnext

end Carrying

variable {serial : Nat}

theorem step_carries (h : Carrying base rs m carried) {call : String}
    {task : Task κ (Desk ρ) Unit}
    (htask : ∀ m₁ : Machine κ (Desk ρ), Tracked m₁ [] none m₁ → m₁.remotes = m.remotes →
      task.Leads m₁ (fun _ => Tracked m₁ [] none)
        (fun err m' => Blamed m₁ none err m' ∨ Tracked m₁ [] none m' ∧ call = "free_remote" ∧
          ∃ r ∈ rs, (m.status r).inFlight = true ∧ err = .resourceBusy r.id)
        fun _ => False)
    (hidle : ∀ rs', task.Preserves (Machine.Idle rs')) :
    (step serial call task carried).Leads m
      (fun carried' m' => Carrying base rs m' carried' ∧ m'.host.remotes = m.host.remotes) fun _ => False := by
  obtain ⟨platform, parked, hfocus⟩ := Machine.focus_eq serial m
  have hremotes : (m.focus serial).remotes = m.remotes := by rw [hfocus]
  have hstart : Tracked (m.focus serial) [] none (m.focus serial) := by
    obtain ⟨first, hm⟩ := h.watched
    exact (hm.focus serial).start
  -- What was not in flight from the start is not in flight now.
  have hbegun : (m.focus serial).Idle (rs.filter fun r => !(base.status r).inFlight) := by
    refine ⟨hstart.aloof, fun r hr => ?_⟩
    obtain ⟨hr, hbase⟩ := List.mem_filter.mp hr
    rw [Machine.status, hremotes]
    exact h.idle r hr (by simpa using hbase)
  -- Going back to the platform in use changes no record.
  have hback : ∀ m' : Machine κ (Desk ρ), m'.Idle (rs.filter fun r => !(base.status r).inFlight) →
      ∀ r ∈ rs, (base.status r).inFlight = false →
        ((m'.focus m.platform.serial).status r).inFlight = false := by
    intro m' hm' r hr hbase
    obtain ⟨_, _, hfocus'⟩ := Machine.focus_eq m.platform.serial m'
    rw [hfocus']
    exact hm'.idle r (List.mem_filter.mpr ⟨hr, by simp [hbase]⟩)
  have hclean : ∀ m', Tracked (m.focus serial) [] none m' → ∀ first, Watched base first m →
      Watched base first (m'.focus m.platform.serial) := by
    intro m' hm' first hm
    have hwatched := ((hm.focus serial).tracked hm').focus m.platform.serial
    rwa [Option.or_none] at hwatched
  have hhost : ∀ {first m'}, Tracked (m.focus serial) [] first m' →
      (m'.focus m.platform.serial).host.remotes = m.host.remotes := by
    intro first m' hm'
    obtain ⟨_, _, hfocus'⟩ := Machine.focus_eq m.platform.serial m'
    have hsame : m'.host.remotes = (m.focus serial).host.remotes :=
      (tables_of_equiv hm'.host).2
    rw [hfocus', hsame, hfocus]
  unfold step
  rw [Act.leads_bind, Machine.leads_withPlatform, leads_attempt]
  refine ((htask _ hstart hremotes).and (hidle _ _ hbegun)).mono
    (fun _ m' hm' => ⟨h.next (hback m' hm'.2) (hclean m' hm'.1), hhost hm'.1⟩)
    (fun err m' hm' => ?_) fun _ hm => hm.1
  rcases hm' with ⟨⟨d, hcause, hm'⟩ | ⟨hm', rfl, r, hr, hflight, rfl⟩, hidle'⟩
  · exact ⟨h.failed (hback m' hidle') (DeskError.names_of_cause hcause) fun first hm =>
      (((hm.focus serial).tracked hm').focus _).record, hhost hm'⟩
  · refine ⟨h.refused (hback m' hidle') ⟨r, hr, ?_, rfl⟩ fun first hm =>
      (hclean m' hm' first hm).record, hhost hm'⟩
    cases hbase : (base.status r).inFlight with
    | true => rfl
    | false => cases (h.idle r hr hbase).symm.trans hflight

theorem freeRemote_carries {r : Remote} (hr : r ∈ rs) (hfreed : (m.status r).freed = false)
    (h : Carrying base rs m carried) :
    (step serial "free_remote" (Memory.freeRemote r) carried).Leads m
      (fun carried' m' => Carrying base rs m' carried' ∧ m'.host.remotes = m.host.remotes) fun _ => False := by
  refine step_carries h (fun m₁ hstart hm₁ => ?_) fun _ => Memory.freeRemote_idle
  have hstatus : m₁.status r = m.status r := by rw [Machine.status, Machine.status, hm₁]
  cases hflight : (m.status r).inFlight with
  | true =>
    have hrefused : r.claimRefusal? (m₁.status r) = some (.resourceBusy r.id) := by
      simp [Remote.claimRefusal?, hstatus, hfreed, hflight]
    exact Memory.freeRemote_refused hrefused (.inr ⟨hstart, rfl, r, hr, hflight, rfl⟩)
  | false =>
    have hclaimable : r.claimRefusal? (m₁.status r) = none := by
      simp [Remote.claimRefusal?, hstatus, hfreed, hflight]
    have hspare : Tracked m₁ [r] none m₁ :=
      { hstart with claimable := List.forall_mem_singleton.mpr hclaimable }
    exact (Memory.freeRemote_blames hspare).mono (fun _ _ hm => hm) (fun _ _ hm => .inl hm)
      fun _ hm => hm

/-- Giving everything up carries the first error that there was. -/
theorem releaseAll_carries (hrs : ∀ r ∈ m.host.remotes.values, r ∈ rs)
    (h : Carrying base rs m none) :
    (releaseAll serial).Leads m (fun carried' m' => Carrying base rs m' carried')
      fun _ => False := by
  have hstep : ∀ {call : String} {task : Task κ (Desk ρ) Unit},
      (∀ m₁ : Machine κ (Desk ρ), task.Blames m₁ [] none fun _ => False) →
      (∀ rs', task.Preserves (Machine.Idle rs')) → ∀ {carried m},
      Carrying base rs m carried ∧ (∀ r ∈ m.host.remotes.values, r ∈ rs) →
      (step serial call task carried).Leads m (fun carried' m' => Carrying base rs m' carried' ∧
        ∀ r ∈ m'.host.remotes.values, r ∈ rs) fun _ => False := by
    intro call task hblames hidle carried m ⟨h, hrs⟩
    exact (step_carries h (fun m₁ hm₁ _ => (hblames m₁ m₁ hm₁).mono
      (fun _ _ hm => hm) (fun _ _ hm => .inl hm) fun _ hm => hm) hidle).imp fun _ _ h₁ =>
        ⟨h₁.1, h₁.2 ▸ hrs⟩
  refine (leads_releaseAll (Q := fun carried m => Carrying base rs m carried ∧
      ∀ r ∈ m.host.remotes.values, r ∈ rs) (fun h => h) (fun hf hrs' h => ?_)
    (hstep (fun _ => Memory.freeLocal_blames) fun _ => Memory.freeLocal_idle)
    (fun h₀ hr h hfreed => (freeRemote_carries (h₀.2 _ hr) hfreed h.1).imp fun _ _ h₁ =>
      ⟨h₁.1, h₁.2 ▸ h.2⟩)
    (hstep (fun _ => Images.free_blames) fun _ => Images.free_idle)
    (hstep (fun _ => Devices.shutdown_blames) fun _ => Devices.shutdown_stands Machine.idle_aside)
    ⟨h, hrs⟩).imp fun _ _ h => h.1
  exact ⟨h.1.next h.1.idle fun _ hm => hm.onDesk (hf.slots.symm ▸ hm.founded),
    fun r hr => h.2 r (hrs' r hr)⟩

/-- A shutdown reports the first failure of a driver call, unless before that it was refused a
    remote resource that is in flight. It is never cut off. -/
theorem shutdown_settles (h : Watched m none m) :
    shutdown.Leads m (fun _ => Watched m none)
      (fun err m' => Reported m err m' ∨ Settled m m.host.remotes.values err m')
      fun _ => False := by
  have hcall : Own "shutdown" := fun op => by cases op <;> decide
  unfold shutdown desk
  simp only [leads_bind, leads_get, leads_pure]
  split
  · exact .inl (Reported.own h hcall nofun)
  · split
    · exact h
    · rename_i serial _
      let begun := Desk.onDesk (fun d => { d with installed := none }) m
      have hremotes : ∀ r ∈ begun.host.remotes.values, r ∈ m.host.remotes.values := fun _ hr => hr
      have hbegun : Carrying m m.host.remotes.values begun none :=
        ⟨fun _ _ hidle => hidle, h.onDesk h.founded⟩
      rw [leads_bind, leads_modify]
      refine .perform_bind (releaseAll_carries hremotes hbegun) fun first m₁ h₁ => ?_
      rw [leads_bind, leads_log]
      have hlogged : Carrying m m.host.remotes.values
          (Journaled.record (.info "runtime shut down" []) m₁) first :=
        h₁.next h₁.idle fun _ hm => hm.record
      cases first with
      | none => exact hlogged.first
      | some err => exact .inr hlogged.first

end Desk

end StreamCompute
