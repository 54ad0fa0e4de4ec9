/-
  StreamCompute.Proofs.Patience

  Nothing that work of the device may still use is given back while its token
  is pending. A token is pending from the call that made it until a question
  about it is answered otherwise, or refused. Launches and joins give nothing
  back, and map nothing again, while a token of theirs is pending; polls and
  joins that time out give nothing back at all.

  That a refused question ends the wait is the weak spot: work whose token
  could not be asked is treated as if it had ended.
-/
import StreamCompute.Proofs.CopyOrder
import StreamCompute.Proofs.Standing

namespace StreamCompute

open Fallible

/-! ## Tokens that are pending -/

/-- The entry points that start work of the device. -/
def Operation.startsWork : Operation → Bool
  | .copyMemory => true
  | .runProgram => true
  | _ => false

/-- The token of the work that the call has started, and its context. -/
def Moment.token? (mo : Moment) : Option (Ident .context × Ident .event) :=
  match mo.operation, mo.accepted? with
  | .copyMemory, some (.copyMemory context _ _) => some (context, ⟨mo.found.nextNumber⟩)
  | .runProgram, some (.runProgram context _) => some (context, ⟨mo.found.nextNumber⟩)
  | _, _ => none

/-- The call asks a token, and the answer is not that it is pending. -/
inductive Moment.Decides (t : Ident .context × Ident .event) (mo : Moment) : Prop
  | done (asked : mo.Asked t.1 t.2 .done)
  | failed {message : String} (asked : mo.Asked t.1 t.2 (.failed message))
  /-- The driver did not answer; nobody knows whether the work has ended. -/
  | refused {e : DriverError} (operation : mo.operation = .queryEvent)
      (call : mo.call? = some (.queryEvent t.1 t.2)) (verdict : mo.verdict = .refused e)

/-- Which tokens are pending after these calls, the newest first, where some were before. -/
def Pending (start : Ident .context × Ident .event → Prop) :
    List Moment → Ident .context × Ident .event → Prop
  | [], t => start t
  | mo :: before, t => (mo.token? = some t ∨ Pending start before t) ∧ ¬ mo.Decides t

/-- Whenever one of the calls, the newest first, gives something back, no token is pending. -/
def Patient (start : Ident .context × Ident .event → Prop) : List Moment → Prop
  | [] => True
  | mo :: before =>
    (mo.operation.cleansUp = true → ∀ t, ¬ Pending start before t) ∧ Patient start before

section Tokens

variable {mo : Moment} {t : Ident .context × Ident .event} {calls asks : List Moment}
  {start : Ident .context × Ident .event → Prop} {context : Ident .context} {event : Ident .event}

theorem Moment.token?_of_idle (h : mo.operation.startsWork = false) : mo.token? = none := by
  unfold token?
  split
  · rename_i hop _
    rw [hop] at h
    cases h
  · rename_i hop _
    rw [hop] at h
    cases h
  · rfl

/-- Only an accepted call makes a token. -/
theorem Moment.token?_of_refused (h : mo.verdict ≠ .accepted) : mo.token? = none := by
  unfold token?
  rw [accepted?_of_ne h]
  split <;> first | rfl | (rename_i heq; cases heq)

theorem Moment.Decides.operation (h : mo.Decides t) : mo.operation = .queryEvent := by
  cases h with
  | done hasked => exact hasked.operation
  | failed hasked => exact hasked.operation
  | refused hop => exact hop

theorem Moment.AskFailed.decides {op : Operation} {e : DriverError}
    (h : mo.AskFailed op context event e) : mo.Decides (context, event) := by
  cases h with
  | refused hop hcall hverdict => exact .refused hop hcall hverdict
  | failed hasked => exact .failed hasked

/-- A call that makes no token leaves none pending that was not. -/
theorem Pending.of_cons (hmo : mo.token? = none) (h : Pending start (mo :: calls) t) :
    Pending start calls t := by
  rcases h.1 with hmade | hbefore
  · cases hmo.symm.trans hmade
  · exact hbefore

/-- Questions make no token and give nothing back. -/
theorem Patient.asking (hasks : ∀ mo ∈ asks, mo.operation = .queryEvent)
    (h : Patient start calls) :
    Patient start (asks ++ calls) ∧
      ∀ t, Pending start (asks ++ calls) t → Pending start calls t := by
  induction asks with
  | nil => exact ⟨h, fun _ ht => ht⟩
  | cons mo rest ih =>
    obtain ⟨hop, hrest⟩ := List.forall_mem_cons.mp hasks
    obtain ⟨hpatient, hpending⟩ := ih hrest
    have hmo : mo.token? = none := Moment.token?_of_idle (by rw [hop]; rfl)
    refine ⟨⟨fun hclean => ?_, hpatient⟩, fun t ht => hpending t (Pending.of_cons hmo ht)⟩
    rw [hop] at hclean
    cases hclean

/-- A wait that ends with a decision leaves the token pending no more. -/
theorem Patient.decided {ends : Moment → Prop} (hasks : AskedUntil context event ends asks)
    (hends : ∀ mo, ends mo → mo.Decides (context, event)) (h : Patient start calls)
    (honly : ∀ t, Pending start calls t → t = (context, event)) :
    Patient start (asks.reverse ++ calls) ∧ ∀ t, ¬ Pending start (asks.reverse ++ calls) t := by
  obtain ⟨before, last, rfl, hbefore, hlast⟩ := hasks
  have hdecides := hends last hlast
  have hquestions : ∀ mo ∈ (before ++ [last]).reverse, mo.operation = .queryEvent := by
    intro mo hmo
    rcases List.mem_append.mp (List.mem_reverse.mp hmo) with hmo | hmo
    · exact (hbefore mo hmo).operation
    · cases List.mem_singleton.mp hmo
      exact hdecides.operation
  obtain ⟨hpatient, hpending⟩ := h.asking hquestions
  refine ⟨hpatient, fun t ht => ?_⟩
  have htoken : t = (context, event) := honly t (hpending t ht)
  subst htoken
  rw [List.reverse_append] at ht
  exact ht.2 hdecides

end Tokens

/-! ## Machines at rest -/

variable {κ ω : Type} {m m' : Machine κ ω} {base : List Moment}
  {start : Ident .context × Ident .event → Prop} {context : Ident .context} {event : Ident .event}
  {pending : Ident .context × Ident .event → Prop}

/-- No hook waits, the calls since `base` were patient, and at most these tokens are pending. -/
structure Attends (base : List Moment) (start pending : Ident .context × Ident .event → Prop)
    (m : Machine κ ω) : Prop where
  hooks : m.platform.hooks = []
  calls : ∃ calls, m.history = calls ++ base ∧ Patient start calls ∧
    ∀ t, Pending start calls t → pending t

abbrev Rests (base : List Moment) (start : Ident .context × Ident .event → Prop)
    (m : Machine κ ω) : Prop :=
  Attends base start (fun _ => False) m

namespace Attends

theorem unhooked (h : Attends base start pending m) : m.Unhooked fun _ => true := .of_nil h.hooks

theorem beside (h : Attends base start pending m) (hm' : m.Beside m') :
    Attends base start pending m' :=
  ⟨hm'.hooks.trans h.hooks, hm'.history.symm ▸ h.calls⟩

/-- A call that starts no work may be made when no token is pending. -/
theorem handled (h : Rests base start m) {op : Operation} {verdict : Verdict}
    {s : Simulator} (hnone : (m.moment op verdict s).token? = none) :
    Rests base start (m.handled op verdict s) := by
  obtain ⟨calls, hhistory, hpatient, hpending⟩ := h.calls
  refine ⟨h.hooks, m.moment op verdict s :: calls, ?_, ⟨fun _ => hpending, hpatient⟩,
    fun t ht => hpending t (Pending.of_cons hnone ht)⟩
  exact congrArg (List.cons _) hhistory

/-- After a call that has started work its token is pending, and no other. -/
theorem started (h : Rests base start m) {op : Operation} {verdict : Verdict}
    {s : Simulator} (hmade : (m.moment op verdict s).token? = some (context, event)) :
    Attends base start (· = (context, event)) (m.handled op verdict s) := by
  obtain ⟨calls, hhistory, hpatient, hpending⟩ := h.calls
  refine ⟨h.hooks, m.moment op verdict s :: calls, congrArg (List.cons _) hhistory,
    ⟨fun _ => hpending, hpatient⟩, fun t ht => ?_⟩
  rcases ht.1 with ht | ht
  · exact Option.some.inj (ht.symm.trans hmade)
  · exact (hpending t ht).elim

/-- A wait for the only token that is pending has ended with a decision. -/
theorem decided (h : Attends base start (· = (context, event)) m) {asks : List Moment}
    {ends : Moment → Prop} (hm' : m.Called asks m') (hasks : AskedUntil context event ends asks)
    (hends : ∀ mo, ends mo → mo.Decides (context, event)) : Rests base start m' := by
  obtain ⟨calls, hhistory, hpatient, honly⟩ := h.calls
  obtain ⟨_, _, _, rfl⟩ := hm'.rest
  refine ⟨h.hooks, asks.reverse ++ calls, ?_, hpatient.decided hasks hends honly⟩
  rw [hm'.history, hhistory, List.append_assoc]

end Attends

/-! ## Launches and joins -/

variable [Reentry κ ω]

theorem Operation.startsWork_of_routine {op : Operation} (h : op.routine = true) :
    op.startsWork = false := by
  cases op <;> first | rfl | cases h

theorem Machine.drive_rests {α : Type} {c : Command α} (hop : c.operation.startsWork = false) :
    (Machine.drive c : Drive κ ω α).Stands (Rests base start) fun _ => True := by
  intro m hm
  rw [Machine.leads_drive hm.unhooked rfl]
  have hend : ∀ verdict s, Rests base start (m.handled c.operation verdict s) :=
    fun _ _ => hm.handled (Moment.token?_of_idle hop)
  exact leads_true.mono (fun _ _ _ => hend _ _) (fun _ _ _ => hend _ _) fun _ _ => trivial

/-- A copy is awaited until its token is decided. -/
theorem Completion.copy_rests {w : Waiter} {source target : Ident .memory} :
    (copy w context source target : Drive κ ω Unit).Stands (Rests base start)
      fun _ => True := by
  intro m hm
  -- The wait for the token of the copy, once there is one.
  have hwait : ∀ {event m'}, Attends base start (· = (context, event)) m' →
      (wait w .copyMemory context event none >>= fun _ => pure () : Drive κ ω Unit).Leads m'
        (fun _ => Rests base start) (fun _ => Rests base start) fun _ => True := by
    intro event m' hm'
    rw [leads_bind]
    refine (wait_asks rfl hm'.unhooked).mono (fun outcome m₁ ⟨asks, hm₁, _, hasks⟩ => ?_)
      (fun e m₁ ⟨asks, hm₁, hasks⟩ => ?_) fun _ _ => trivial
    · cases outcome with
      | timedOut polls => exact absurd rfl hasks.1
      | completed polls => exact hm'.decided hm₁ hasks fun _ hmo => .done hmo
    · exact hm'.decided hm₁ hasks fun _ hmo => hmo.decides
  unfold copy
  rw [leads_bind, Machine.leads_drive hm.unhooked rfl]
  refine Simulator.copyMemory_leads (fun e calls counts => ?_) fun src dst read written _ _ _ _ => ?_
  · exact hm.handled (Moment.token?_of_refused nofun)
  · exact hwait (hm.started rfl)

/-- What stands while no token is pending; after the kernel was submitted its own is. -/
theorem withstands_rests : Withstands (κ := κ) (ω := ω) (fun _ => True) (Rests base start)
    (fun _ => True) fun context event => Attends base start (· = (context, event)) := by
  refine ⟨fun hm' hm => hm.beside hm', fun _ _ => trivial, fun hm' hm => hm.beside hm',
    fun hop _ => ?_, fun _ => ?_, Completion.copy_rests, fun {context entry domain m} hm => ?_⟩
  · exact Machine.drive_rests (Operation.startsWork_of_routine hop)
  · exact Machine.drive_rests rfl
  · rw [Machine.leads_drive hm.unhooked rfl]
    refine Simulator.runProgram_leads (fun e => ?_) (hm.started rfl)
    exact hm.handled (Moment.token?_of_refused nofun)

/-- A launch is patient; if it succeeds, the token of its kernel is the only one pending. -/
theorem Launch.launch_attends {image : Image} {q : LaunchRequest}
    (hm : Rests base start m) :
    (launch image q).Leads m
      (fun e => Attends base start (· = (e.context, e.event)))
      (fun _ => Rests base start) fun _ => True := by
  refine (launch_leads_on withstands_rests (fun _ => withstands_rests) (fun device m hm => ?_)
    (fun _ _ h => h) hm).imp fun _ _ h => h.2
  exact (Machine.drive_rests rfl m hm).imp fun _ _ h => ⟨trivial, h⟩

namespace Execution

variable {e : Execution}

/-- Nothing was called but questions about the token of the execution. -/
def OnlyAsks (e : Execution) (m m' : Machine κ ω) : Prop :=
  ∃ asks, m'.history = asks ++ m.history ∧ ∀ mo ∈ asks, mo.Asks e.context e.event

theorem isComplete_onlyAsks (hooks : m.platform.hooks = []) :
    e.isComplete.Leads m (fun _ => e.OnlyAsks m) (fun _ => e.OnlyAsks m) fun _ => True := by
  unfold isComplete
  rw [leads_bind, leads_get]
  split
  · exact ⟨[], rfl, List.forall_mem_nil _⟩
  · rw [leads_bind, leads_modify, leads_bind, leads_mapError]
    have hunhooked : (e.onProgress (fun p => { p with polls := p.polls + 1 }) m).Unhooked
        fun _ => true := .of_nil (by exact hooks)
    refine (Completion.check_asks rfl hunhooked).mono (fun done m₁ ⟨mo, hm₁, hasked, _⟩ => ?_)
      (fun err m₁ ⟨mo, hm₁, hfailed⟩ => ?_) fun _ _ => trivial
    · rw [leads_bind, leads_modify]
      refine ⟨[mo], hm₁.history, fun mo' hmo' => ?_⟩
      cases List.mem_singleton.mp hmo'
      exact ⟨hasked.operation, hasked.call⟩
    · refine ⟨[mo], hm₁.history, fun mo' hmo' => ?_⟩
      cases List.mem_singleton.mp hmo'
      exact hfailed.is_ask

theorem finalize_rests {failure : Option Error} (hm : Rests base start m) :
    (finalize e failure).Leads m (fun _ => Rests base start)
      (fun _ => Rests base start) fun _ => True :=
  finalize_leads_down withstands_rests.joins.toEnds withstands_rests.joins.toEnds
    (withstands_rests.destroy trivial) hm

/-- A join that times out only asks; any other one is patient. -/
theorem joinWithin_patient {limit : Option Nat} (hooks : m.platform.hooks = [])
    (hstart : ∀ t, start t → t = (e.context, e.event))
    (hdone : (e.progress m).done = true → ∀ t, ¬ start t) :
    (joinWithin e limit).Leads m
      (fun summary m' => if summary.isSome then Rests m.history start m'
        else limit ≠ none ∧ e.OnlyAsks m m')
      (fun _ => Rests m.history start) fun _ => True := by
  have hbegins : Attends m.history start (· = (e.context, e.event)) m :=
    ⟨hooks, [], rfl, trivial, hstart⟩
  -- Taking the execution down, once its token is decided.
  have hdown : ∀ {failure m'}, Rests m.history start m' → (finalize e failure).Leads m'
      (fun summary m' => if (some summary).isSome then Rests m.history start m'
        else limit ≠ none ∧ e.OnlyAsks m m')
      (fun _ => Rests m.history start) fun _ => True := fun hm' =>
    (finalize_rests hm').imp fun _ _ h => by simpa using h
  refine leads_joinWithin (fun hended => hdown ⟨hooks, [], rfl, trivial, hdone hended⟩)
    (await_asks hooks) (fun polls m₁ ⟨asks, hm₁, _, hasks⟩ => ?_)
    (fun polls m₁ _ ⟨asks, hm₁, _, hasks⟩ => ?_) fun d m₁ _ ⟨asks, hm₁, hasks⟩ => ?_
  · exact hdown ((hbegins.decided hm₁ hasks fun _ hmo => .done hmo).beside .onProgress)
  · refine ⟨hasks.1, asks.reverse, hm₁.history, fun mo hmo => ?_⟩
    have hasked := hasks.2 mo (List.mem_reverse.mp hmo)
    exact ⟨hasked.operation, hasked.call⟩
  · exact hdown ((hbegins.decided hm₁ hasks fun _ hmo => hmo.decides).beside .journal)

theorem JoinEnds.patient (hends : e.JoinEnds m m') (hooks : m.platform.hooks = [])
    (hstart : ∀ t, start t → t = (e.context, e.event))
    (hdone : (e.progress m).done = true → ∀ t, ¬ start t) :
    ∃ calls, m'.history = calls ++ m.history ∧ Patient start calls := by
  have hrests : Rests m.history start m' := by
    cases hends with
    -- An unbounded join is a bounded one that does not time out.
    | whole hjoin =>
      rename_i answer
      have hleads : (join e).Leads m (fun _ => Rests m.history start)
          (fun _ => Rests m.history start) fun _ => True := by
        unfold join
        refine .bind (joinWithin_patient hooks hstart hdone) fun summary m₁ h₁ => ?_
        cases summary with
        | some summary => exact h₁
        | none => exact absurd rfl h₁.1
      cases answer with
      | ok summary => exact hleads.of_eq_ok hjoin
      | error err => exact hleads.of_eq_error hjoin
    | within hjoin hended =>
      rename_i limit answer
      cases answer with
      | ok summary =>
        cases summary with
        | some summary => exact (joinWithin_patient hooks hstart hdone).of_eq_ok hjoin
        | none => exact absurd rfl hended
      | error err => exact (joinWithin_patient hooks hstart hdone).of_eq_error hjoin
  obtain ⟨calls, hhistory, hpatient, -⟩ := hrests.calls
  exact ⟨calls, hhistory, hpatient⟩

end Execution

namespace Scenario

variable {m m₁ m₂ : RuntimeScene} {e : Execution} {a : Arena}

/-- All that the execution has acquired is still there: its memory objects show resources that are
    live and not mapped, and no remote resource that it claims is open to the host. -/
def Intact (e : Execution) (a : Arena) (m : RuntimeScene) : Prop :=
  a.context = e.context ∧ m.arenas.get? e.key = some a ∧
    Sound m.platform.driver.memories m.platform.driver.bindings m.platform.driver.resources
      m.remotes a none

/-- The token of the kernel, unless it was seen done before. -/
def Unseen (e : Execution) (m : RuntimeScene) (t : Ident .context × Ident .event) : Prop :=
  t = (e.context, e.event) ∧ ¬ ∃ mo ∈ m.history, mo.Asked e.context e.event .done

/-- What the owner of an execution calls, when no hook interferes. Polls and joins that time out
    only ask the token of the kernel, and the join that ends the execution gives nothing back while
    that token, or one of a copy that it makes, is pending. -/
structure Attended [Reentry (List (Step RuntimeStep)) Cast] (e : Execution) (m : RuntimeScene) :
    Prop where
  poll : ∀ answer m', e.isComplete.run m = (.ok answer, m') → e.OnlyAsks m m'
  timedOut : ∀ limit m', (e.joinWithin limit).run m = (.ok (.ok none), m') → e.OnlyAsks m m'
  join : ∀ m', e.JoinEnds m m' →
    ∃ calls, m'.history = calls ++ m.history ∧ Patient (Unseen e m) calls

theorem attended [Reentry (List (Step RuntimeStep)) Cast]
    (h : InOrder Within (({} : Holdings).working ⟨e.key, a, none, some e.event⟩) m)
    (hcontext : a.context = e.context) (hooks : m.platform.hooks = []) : Attended e m := by
  have hstart : ∀ t, Unseen e m t → t = (e.context, e.event) := fun _ ht => ht.1
  have hdone : (e.progress m).done = true → ∀ t, ¬ Unseen e m t :=
    fun hdone _ ht => ht.2 (asked_of_done h hcontext hdone)
  refine ⟨fun answer m' hpoll => ?_, fun limit m' hjoin => ?_, fun m' hends => ?_⟩
  · cases answer with
    | ok done => exact (Execution.isComplete_onlyAsks hooks).of_eq_ok hpoll
    | error err => exact (Execution.isComplete_onlyAsks hooks).of_eq_error hpoll
  · exact ((Execution.joinWithin_patient hooks hstart hdone).of_eq_ok hjoin).2
  · exact hends.patient hooks hstart hdone

/-- The token of a kernel that was just submitted is pending. -/
theorem pending_of_launched {q : LaunchRequest} {setup : List Moment}
    {start : Ident .context × Ident .event → Prop} (hlaunched : Launched m q e a setup m₁)
    (h₁ : InOrder Within (({} : Holdings).working ⟨e.key, a, none, some e.event⟩) m₁) :
    Pending start setup.reverse (e.context, e.event) := by
  obtain ⟨run, hlast, hrun, hevent⟩ := hlaunched.ran
  obtain ⟨rest, hsetup⟩ : ∃ rest, setup.reverse = run :: rest := by
    rw [← List.dropLast_append_getLast? run hlast, List.reverse_append]
    exact ⟨_, rfl⟩
  have haccepted : run.verdict = .accepted := by
    by_contra hne
    rw [Moment.accepted?_of_ne hne] at hrun
    cases hrun
  -- The call is of the entry point that it is logged for.
  obtain ⟨call, hcall, hop, -⟩ := h₁.safe run (by rw [hlaunched.history, hsetup]; simp) haccepted
  cases hrun.symm.trans hcall
  have htoken : run.token? = some (e.context, e.event) := by
    unfold Moment.token?
    rw [← hop, hrun, hevent]
    rfl
  rw [hsetup]
  refine ⟨.inl htoken, fun hdecides => ?_⟩
  cases hop.trans hdecides.operation

/-- Nothing that a launch or a join has the device work on is given back while the work may go on.
    While no hook waits for a driver call, a launch gives nothing back as long as a copy that it
    has made is pending, and when it succeeds only the token of its kernel is. Whatever happens
    then, all that the execution has acquired stays in place until it is joined; and neither polls
    nor joins give any of it back before the token is decided. -/
theorem nothing_is_given_back_while_pending [Reentry (List (Step RuntimeStep)) Cast]
    (hm : Reachable m) (hooks : m.platform.hooks = []) {image : Image} {q : LaunchRequest}
    {answer : Except Error Execution}
    (hlaunch : (Launch.launch image q).run m = (.ok answer, m₁)) :
    ∃ calls, m₁.history = calls ++ m.history ∧ Patient (fun _ => False) calls ∧
      match answer with
      | .error _ => ∀ t, ¬ Pending (fun _ => False) calls t
      | .ok e => (∀ t, Pending (fun _ => False) calls t ↔ t = (e.context, e.event)) ∧
        ∃ a, ∀ m₂, Waits e m₁ m₂ → Intact e a m₂ ∧ (m₂.platform.hooks = [] → Attended e m₂) := by
  have hrests : Rests m.history (fun _ => False) m :=
    ⟨hooks, [], rfl, trivial, fun _ ht => ht⟩
  cases answer with
  | error err =>
    exact ((Launch.launch_attends hrests).of_eq_error hlaunch).calls
  | ok e =>
    obtain ⟨calls, hhistory, hpatient, honly⟩ :=
      ((Launch.launch_attends hrests).of_eq_ok hlaunch).calls
    obtain ⟨a, setup, hcontext, hlaunched, h₁⟩ := launched_of_launch hm hooks hlaunch
    have hcalls : calls = setup.reverse :=
      List.append_cancel_right (hhistory.symm.trans hlaunched.history)
    have hpending : Pending (fun _ => False) calls (e.context, e.event) := by
      rw [hcalls]
      exact pending_of_launched hlaunched h₁
    refine ⟨calls, hhistory, hpatient, fun t => ⟨honly t, fun ht => ht ▸ hpending⟩, a,
      fun m₂ hwaits => ?_⟩
    have h₂ := hwaits.inOrder hcontext h₁
    obtain ⟨harena, hsound⟩ := h₂.steady _ List.mem_cons_self
    exact ⟨⟨hcontext, harena, hsound⟩, fun hooks₂ => attended h₂ hcontext hooks₂⟩

/-- The join of a kernel that has failed is patient too, after a poll that found it pending. -/
theorem directedJoin_is_patient :
    (Reachable (directedScene failKernel) ∧ (directedScene failKernel).platform.hooks = [] ∧
        (directedLaunch failKernel).1 = .ok (.ok directedExecution) ∧
        (directedPoll failKernel).1 = .ok (.ok false) ∧
        (directedPoll failKernel).2.platform.hooks = [] ∧
        (directedJoin failKernel).1 = .ok (.error (.execution ⟨"calCtxRunProgram", "lost"⟩))) ∧
      ∃ calls, (directedJoin failKernel).2.history = calls ++ (directedPoll failKernel).2.history ∧
        Patient (Unseen directedExecution (directedPoll failKernel).2) calls := by
  have hreach : Reachable (directedScene failKernel) := ⟨_, _, 0, _, rfl, rfl⟩
  have hrest : (directedScene failKernel).platform.hooks = [] ∧
      (directedLaunch failKernel).1 = .ok (.ok directedExecution) ∧
      (directedPoll failKernel).1 = .ok (.ok false) ∧
      (directedPoll failKernel).2.platform.hooks = [] ∧
      (directedJoin failKernel).1 = .ok (.error (.execution ⟨"calCtxRunProgram", "lost"⟩)) := by
    decide +kernel
  have ⟨hooks, hlaunched, _, hooks₂, hjoined⟩ := hrest
  have hlaunch : directedLaunch failKernel =
      (.ok (.ok directedExecution), (directedLaunch failKernel).2) := by rw [← hlaunched]
  have hpoll : directedPoll failKernel =
      ((directedPoll failKernel).1, (directedPoll failKernel).2) := (Prod.eta _).symm
  have hjoin : directedJoin failKernel =
      (.ok (.error (.execution ⟨"calCtxRunProgram", "lost"⟩)), (directedJoin failKernel).2) := by
    rw [← hjoined]
  obtain ⟨-, -, -, -, a, hwaits⟩ :=
    @nothing_is_given_back_while_pending _ _ ⟨fun _ _ => pure ()⟩ hreach hooks ⟨⟨2⟩, 5⟩
      directedRequest _ hlaunch
  have hattended := (hwaits _ (Waits.start.polled 0 hpoll)).2 hooks₂
  refine ⟨⟨hreach, hrest⟩, @Attended.join ⟨fun _ _ => pure ()⟩ _ _ hattended _ ?_⟩
  exact @Execution.JoinEnds.whole _ _ ⟨fun _ _ => pure ()⟩ _ _ _ _ hjoin

/-- A kernel is launched, and the first question about its token will be refused. -/
def deafJoin : List (Step RuntimeStep) :=
  [.own (.device "d" 0), .own (.compile "k" "o0" none),
    .own (.launch "e" ⟨"k", "d", none, ⟨0, 0, 1, 1⟩⟩),
    .control (.failOn (some .queryEvent) 1), .own (.join "e")]

/-- The same for a copy that a launch makes. -/
def deafCopy : List (Step RuntimeStep) :=
  [.own (.device "d" 0), .own (.compile "k" "i0" none),
    .own (.allocRemote "a" "d" ⟨⟨1, 1⟩, ⟨.float32, .one⟩, .plain⟩),
    .own (.bindCopied "t" "i0" "a" none), .control (.failOn (some .queryEvent) 1),
    .own (.launch "e" ⟨"k", "d", some "t", ⟨0, 0, 1, 1⟩⟩)]

/-- What was given back while this token was pending. -/
def givenBackEarly (steps : List (Step RuntimeStep)) (event : Ident .event) : List Operation :=
  ((after 0 steps (opening { pendingPolls := 3 } {})).history.reverse.filter fun mo =>
    mo.operation.cleansUp && (mo.verdict == .accepted) &&
      ((mo.found.tokens.get? event).map Token.answer == some .pending)).map (·.operation)

/-- If the question whether work is done is refused, everything is given back although the work
    goes on: after a launch, and in the middle of one. -/
theorem refused_question_gives_back_early :
    givenBackEarly deafJoin ⟨6⟩ = [.unloadModule, .destroyContext] ∧
      givenBackEarly deafCopy ⟨10⟩ = [.releaseMemory, .freeResource, .releaseMemory, .mapResource,
        .unloadModule, .destroyContext] := by
  decide +kernel

end Scenario

end StreamCompute
