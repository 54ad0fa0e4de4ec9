/-
  StreamCompute.Proofs.Asking

  Waiting for a token, call by call, where no hook interferes. A wait asks the
  same token again and again; every answer but the last is that the token is
  pending, and the last one decides how the wait ends. The fuel of a wait is
  never used up: it covers every pending answer that the token has left, so
  only a limit of zero makes a wait time out.
-/
import StreamCompute.Proofs.CallLog

namespace StreamCompute

open Fallible

/-- Asking a token has failed: the driver refused the call, or the token ended with an error of
    the entry point that made it. -/
inductive Moment.AskFailed (op : Operation) (context : Ident .context) (event : Ident .event)
    (mo : Moment) : DriverError → Prop
  | refused {e : DriverError} (operation : mo.operation = .queryEvent)
      (call : mo.call? = some (.queryEvent context event)) (verdict : mo.verdict = .refused e) :
      AskFailed op context event mo e
  | failed {message : String} (asked : mo.Asked context event (.failed message)) :
      AskFailed op context event mo ⟨op.name, message⟩

/-- A token was asked until the last call ended in this way; before that it was pending. -/
def AskedUntil (context : Ident .context) (event : Ident .event) (ends : Moment → Prop)
    (asks : List Moment) : Prop :=
  ∃ before last, asks = before ++ [last] ∧ (∀ mo ∈ before, mo.Asked context event .pending) ∧
    ends last

/-- A token was asked until it was done. -/
abbrev Finished (context : Ident .context) (event : Ident .event) : List Moment → Prop :=
  AskedUntil context event (Moment.Asked context event .done)

/-- A token was asked until that failed. -/
abbrev Foundered (op : Operation) (context : Ident .context) (event : Ident .event)
    (e : DriverError) : List Moment → Prop :=
  AskedUntil context event fun mo => mo.AskFailed op context event e

section AskedUntil

variable {op : Operation} {context : Ident .context} {event : Ident .event}
  {ends : Moment → Prop} {mo : Moment} {asks : List Moment} {e : DriverError}

theorem AskedUntil.one (h : ends mo) : AskedUntil context event ends [mo] :=
  ⟨[], mo, rfl, fun _ hmo => absurd hmo List.not_mem_nil, h⟩

theorem AskedUntil.cons (h : AskedUntil context event ends asks)
    (hmo : mo.Asked context event .pending) : AskedUntil context event ends (mo :: asks) := by
  obtain ⟨before, last, rfl, hbefore, hlast⟩ := h
  exact ⟨mo :: before, last, rfl, List.forall_mem_cons.mpr ⟨hmo, hbefore⟩, hlast⟩

/-- The call asks the token, whatever comes of it. -/
def Moment.Asks (context : Ident .context) (event : Ident .event) (mo : Moment) : Prop :=
  mo.operation = .queryEvent ∧ mo.call? = some (.queryEvent context event)

theorem Moment.AskFailed.is_ask (h : mo.AskFailed op context event e) : mo.Asks context event := by
  cases h with
  | refused hop hcall => exact ⟨hop, hcall⟩
  | failed hasked => exact ⟨hasked.operation, hasked.call⟩

theorem Moment.Asks.release?_eq_none (h : mo.Asks context event) : mo.release? = none := by
  have hcall := h.2
  rw [call?, Option.ite_none_right_eq_some] at hcall
  unfold release? accepted?
  split
  · rw [hcall.2]
    rfl
  · rfl

/-- A wait makes no calls but those that ask the token. -/
theorem AskedUntil.all_ask (h : AskedUntil context event ends asks)
    (hends : ∀ mo, ends mo → mo.Asks context event) : ∀ mo ∈ asks, mo.Asks context event := by
  obtain ⟨before, last, rfl, hbefore, hlast⟩ := h
  intro mo hmo
  rcases List.mem_append.mp hmo with hmo | hmo
  · exact ⟨(hbefore mo hmo).operation, (hbefore mo hmo).call⟩
  · cases List.mem_singleton.mp hmo
    exact hends last hlast

theorem Finished.all_ask (h : Finished context event asks) : ∀ mo ∈ asks, mo.Asks context event :=
  AskedUntil.all_ask h fun _ hmo => ⟨hmo.operation, hmo.call⟩

theorem Foundered.all_ask (h : Foundered op context event e asks) :
    ∀ mo ∈ asks, mo.Asks context event :=
  AskedUntil.all_ask h fun _ hmo => hmo.is_ask

/-- The questions that a wait has asked. Only under a limit does it time out. -/
def WaitOutcome.EndsWith (limit : Option Nat) (context : Ident .context) (event : Ident .event)
    (asks : List Moment) : WaitOutcome → Prop
  | .completed _ => Finished context event asks
  | .timedOut _ => limit ≠ none ∧ ∀ mo ∈ asks, mo.Asked context event .pending

end AskedUntil

namespace Completion

variable {κ ω : Type} [Reentry κ ω] {m : Machine κ ω} {kind : Operation → Bool}
  {op : Operation} {context : Ident .context} {event : Ident .event} {limit : Option Nat}

/-- One poll: the token is asked once, and a pending answer uses one of its polls up. -/
theorem check_asks (hkind : kind .queryEvent = true) (hooks : m.Unhooked kind) :
    (check op context event).Leads m
      (fun done m' => ∃ mo, m.Called [mo] m' ∧
        mo.Asked context event (if done then .done else .pending) ∧
        (done = false →
          pollsLeft m'.platform.driver event < pollsLeft m.platform.driver event))
      (fun e m' => ∃ mo, m.Called [mo] m' ∧ mo.AskFailed op context event e) fun _ => True := by
  unfold check
  rw [leads_bind]
  have hleft : (Simulator.queryEvent context event).run.Leads m.platform.driver
      (fun status s => status = .pending →
        pollsLeft s event < pollsLeft m.platform.driver event)
      (fun _ _ => True) fun _ => True := by
    refine Simulator.queryEvent_leads (fun _ => trivial)
      (fun token n htoken hcontext hn _ => ?_) fun token htoken hcontext hn hpending => ?_
    · simp [pollsLeft, htoken, hn, Assoc.get?_set_self]
    · cases herror : token.error <;> rw [herror] at hpending <;> cases hpending
  refine Machine.drive_leads_logged hooks hkind (Command.logs rfl)
    ((Simulator.queryEvent_answers.and hleft).mono (fun _ _ hs => hs) (fun _ _ _ => trivial)
      fun _ _ => trivial)
    (fun status s hs hcalls => ?_) fun e s _ hcalls => ?_
  · have hasked : (m.moment .queryEvent .accepted s).Asked context event status :=
      ⟨rfl, Machine.call?_moment hcalls, rfl, hs.1⟩
    cases status with
    | pending => exact ⟨_, .handled, hasked, fun _ => hs.2 rfl⟩
    | done => exact ⟨_, .handled, hasked, by simp⟩
    | failed message => exact ⟨_, .handled, .failed hasked⟩
  · exact ⟨_, .handled, .refused rfl (Machine.call?_moment hcalls) rfl⟩

/-- How a wait ends, and the calls that it has made. -/
theorem pollOn_asks (hkind : kind .queryEvent = true) (hooks : m.Unhooked kind) {w : Waiter}
    {clock : Machine κ ω → Nat} {started fuel polls : Nat} {reported : Option Nat}
    (hfuel : pollsLeft m.platform.driver event ≤ fuel) :
    (w.pollOn clock op.name (check op context event) limit started fuel polls reported).Leads m
      (fun outcome m' => ∃ asks, m.Called asks m' ∧ outcome.polls = polls + asks.length ∧
        outcome.EndsWith limit context event asks)
      (fun e m' => ∃ asks, m.Called asks m' ∧ Foundered op context event e asks)
      fun _ => True := by
  induction fuel generalizing m polls reported with
  | zero =>
    -- Some poll is always left, so there is fuel for it.
    have hpos : 0 < pollsLeft m.platform.driver event := by
      unfold pollsLeft
      split <;> omega
    omega
  | succ fuel ih =>
    refine Waiter.leads_pollOn <| (check_asks hkind hooks).mono (fun done m₁ h₁ => ?_)
      (fun e m₁ ⟨mo, hm₁, hfailed⟩ => ⟨[mo], hm₁, .one hfailed⟩) fun _ hm => hm
    obtain ⟨mo, hm₁, hasked, hleft⟩ := h₁
    cases done with
    | true => exact fun _ => ⟨[mo], hm₁.record, rfl, .one hasked⟩
    | false =>
      refine ⟨fun hlimit => ⟨[mo], hm₁, rfl, hlimit, List.forall_mem_singleton.mpr hasked⟩,
        fun _ _ m₂ hm₂ => ?_⟩
      -- The rest of the wait is from a machine that differs in its journal at most.
      obtain ⟨journal, rfl⟩ : ∃ journal, m₂ = { m₁ with journal } := by
        obtain rfl | ⟨e, rfl⟩ := hm₂ <;> exact ⟨_, rfl⟩
      have hnext : pollsLeft m₁.platform.driver event ≤ fuel := by
        have := hleft rfl
        omega
      refine (ih (by exact hm₁.unhooked hooks) (by exact hnext)).mono (fun outcome m' h' => ?_)
        (fun e m' ⟨asks, hm', hasks⟩ => ⟨mo :: asks, hm₁.journal.trans hm', hasks.cons hasked⟩)
        fun _ hm => hm
      obtain ⟨asks, hm', hpolls, hasks⟩ := h'
      refine ⟨mo :: asks, hm₁.journal.trans hm', ?_, ?_⟩
      · rw [hpolls, List.length_cons]
        omega
      · cases outcome with
        | completed n => exact AskedUntil.cons hasks hasked
        | timedOut n => exact ⟨hasks.1, List.forall_mem_cons.mpr ⟨hasked, hasks.2⟩⟩

/-- A wait asks the token until it is done, until asking fails, or until its limit has passed. -/
theorem wait_asks (hkind : kind .queryEvent = true) (hooks : m.Unhooked kind) {w : Waiter} :
    (wait w op context event limit).Leads m
      (fun outcome m' => ∃ asks, m.Called asks m' ∧ outcome.polls = asks.length ∧
        outcome.EndsWith limit context event asks)
      (fun e m' => ∃ asks, m.Called asks m' ∧ Foundered op context event e asks)
      fun _ => True := by
  unfold wait Waiter.wait
  rw [leads_bind, leads_get, leads_bind, leads_get]
  refine (pollOn_asks hkind hooks (Nat.le_refl _)).imp
    fun outcome m' ⟨asks, hm', hpolls, hasks⟩ => ⟨asks, hm', by omega, hasks⟩

end Completion

theorem Execution.await_asks {κ ω : Type} [Reentry κ ω] {m : Machine κ ω}
    (hooks : m.platform.hooks = []) {e : Execution} {limit : Option Nat} :
    (e.await limit).Leads m
      (fun outcome m' => ∃ asks, m.Called asks m' ∧ outcome.polls = asks.length ∧
        outcome.EndsWith limit e.context e.event asks)
      (fun d m' => ∃ asks, m.Called asks m' ∧ Foundered .runProgram e.context e.event d asks)
      fun _ => True := by
  have hunhooked : m.Unhooked fun _ => true := .of_nil hooks
  unfold await
  rw [leads_mk, Act.leads_onCutOff, leads_run, leads_timed]
  exact (Completion.wait_asks rfl hunhooked).mono (fun _ _ ⟨asks, hm, h⟩ => ⟨asks, hm.journal, h⟩)
    (fun _ _ ⟨asks, hm, h⟩ => ⟨asks, hm.journal, h⟩) fun _ h => h

end StreamCompute
