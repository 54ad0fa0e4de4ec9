/-
  StreamCompute.Proofs.Unjoined

  Executions between their launch and the join that ends them. Whoever has
  launched a kernel holds its execution; meanwhile anything may happen that
  does not use it, and it may be asked about and waited for. The arena of the
  execution stays as the launch has left it, so when it is joined at last, what
  is given back is what the launch has acquired.
-/
import StreamCompute.Proofs.CustodySession
import StreamCompute.Proofs.JoinTrace
import StreamCompute.Proofs.LaunchLog

namespace StreamCompute

section Machine

variable {κ ω : Type} {m m' : Machine κ ω} {e : Execution} {a : Arena}

/-- Whoever waits for a kernel of which nothing is known may rely on what will be known. -/
theorem InOrder.watching [Keeper ω] {allowed : κ → Prop} {g : Holdings} {key : ExecutionKey}
    (h : InOrder allowed (g.working ⟨key, a, none, none⟩) m)
    (hunseen : m.progress.get? key = none) (event : Ident .event) :
    InOrder allowed (g.working ⟨key, a, none, some event⟩) m := by
  obtain ⟨hfirst, hrest⟩ := List.forall_mem_cons.mp h.steady
  refine { h with
    steady := List.forall_mem_cons.mpr ⟨hfirst, hrest⟩
    watched := List.forall_mem_cons.mpr ⟨fun event' _ p hp => ?_,
      (List.forall_mem_cons.mp h.watched).2⟩ }
  cases hunseen.symm.trans hp

/-- An execution in good order can be taken down. -/
theorem InOrder.ripe [Keeper ω] {allowed : κ → Prop} {g : Holdings}
    {token? : Option (Ident .event)} (h : InOrder allowed (g.working ⟨e.key, a, none, token?⟩) m)
    (hcontext : a.context = e.context) (hooks : m.platform.hooks = [])
    (honce : (a.unmapped.map Prod.snd).Nodup) : Execution.Ripe e a m := by
  obtain ⟨harena, hsound⟩ := h.steady _ List.mem_cons_self
  have hentered := h.entered _ _ harena
  refine ⟨harena, fun c hc => ?_, ?_, honce, fun r hr => ?_⟩
  · obtain ⟨hremote, htransient⟩ := hsound.copies c hc
    unfold CopyRecord.Shown
    rw [← hcontext]
    exact ⟨hsound.shows _ _ hremote, hsound.shows _ _ htransient⟩
  · exact .of_nil hooks
  · obtain ⟨u, hu, rfl⟩ := List.mem_map.mp hr
    have hclaimed : u.2 ∈ a.claims := hentered.ordered.claimed hu
    obtain ⟨status, hstatus, -⟩ := hentered.claims u.2 hclaimed
    rw [Machine.status_of_get? hstatus]
    exact congrArg Option.isSome (hsound.withdrawn u.2 hclaimed nofun status hstatus)

variable [Reentry κ ω]

/-- The execution is joined, with a limit or without one, and is not running any more. -/
inductive Execution.JoinEnds (e : Execution) (m m' : Machine κ ω) : Prop
  | whole {answer : Except Error Summary} (h : e.join.run m = (.ok answer, m'))
  | within {limit : Option Nat} {answer : Except Error (Option Summary)}
      (h : (e.joinWithin limit).run m = (.ok answer, m')) (hended : answer ≠ .ok none)

namespace Execution

/-- A join without a limit never finds the kernel running. -/
theorem join_trace (h : Ripe e a m) :
    (join e).Leads m (fun _ => Joined e a m) (fun _ => Joined e a m) fun _ => True := by
  unfold join
  rw [Fallible.leads_bind]
  refine (joinWithin_trace h).imp fun summary m' hm' => ?_
  cases summary with
  | some summary => exact hm'
  | none => exact absurd rfl hm'.1

theorem JoinEnds.joined (hends : e.JoinEnds m m') (h : Ripe e a m) : Joined e a m m' := by
  cases hends with
  | whole hjoin =>
    rename_i answer
    cases answer with
    | ok summary => exact (join_trace h).of_eq_ok hjoin
    | error err => exact (join_trace h).of_eq_error hjoin
  | within hjoin hended =>
    rename_i limit answer
    cases answer with
    | ok summary? =>
      cases summary? with
      | some summary => exact (joinWithin_trace h).of_eq_ok hjoin
      | none => exact absurd rfl hended
    | error err => exact (joinWithin_trace h).of_eq_error hjoin

end Execution

end Machine

namespace Scenario

variable {m m₁ m₂ m₃ : RuntimeScene} {e : Execution} {a : Arena}

/-- What may happen to an execution before the join that ends it: steps of a scenario, whose
    hooks may run in the middle of anything that follows; questions whether the kernel is done;
    and joins that leave it running. -/
inductive Waits (e : Execution) (m : RuntimeScene) : RuntimeScene → Prop
  | start : Waits e m m
  | steps {m' : RuntimeScene} (h : Waits e m m') (fuel : Nat) {steps : List (Step RuntimeStep)}
      (hsteps : allWithin steps = true) : Waits e m (after fuel steps m')
  | polled {m' m'' : RuntimeScene} (h : Waits e m m') (fuel : Nat)
      {answer : Except Abort (Except Error Bool)}
      (hpoll : (@Execution.isComplete _ _ ⟨runtimeSession.runHook fuel⟩ e).run m' =
        (answer, m'')) : Waits e m m''
  | timedOut {m' m'' : RuntimeScene} (h : Waits e m m') (fuel : Nat) {limit : Option Nat}
      (hjoin : (@Execution.joinWithin _ _ ⟨runtimeSession.runHook fuel⟩ e limit).run m' =
        (.ok (.ok none), m'')) : Waits e m m''

/-- The arena of an execution that is waited for stays as it is. -/
theorem Waits.inOrder (hwaits : Waits e m₁ m₂) (hcontext : a.context = e.context)
    (h : InOrder Within (({} : Holdings).working ⟨e.key, a, none, some e.event⟩) m₁) :
    InOrder Within (({} : Holdings).working ⟨e.key, a, none, some e.event⟩) m₂ := by
  induction hwaits with
  | start => exact h
  | steps _ fuel hsteps ih => exact inOrder_after hsteps ih
  -- A poll keeps the order whether it answers, fails or is cut off.
  | polled _ fuel hpoll ih =>
    let _ : Reentry (List (Step RuntimeStep)) Cast := ⟨runtimeSession.runHook fuel⟩
    have hissued := ih.keys _ a (ih.steady _ List.mem_cons_self).1
    have hleads := Execution.isComplete_leads (Session.courteous_runHook fuel) ih hissued
      fun frame hframe _ event hevent => by
        cases List.mem_singleton.mp hframe
        cases hevent
        exact ⟨hcontext, rfl⟩
    unfold Fallible.Leads at hleads
    rw [hpoll] at hleads
    split at hleads
    · rename_i heq
      cases heq
      exact hleads
    · rename_i heq
      cases heq
      exact hleads
    · rename_i heq
      cases heq
      exact hleads.1
  | timedOut _ fuel hjoin ih =>
    let _ : Reentry (List (Step RuntimeStep)) Cast := ⟨runtimeSession.runHook fuel⟩
    exact (Execution.joinWithin_leads (Session.courteous_runHook fuel) hcontext ih).of_eq_ok hjoin

/-- What a launch has left behind when no hook has interfered, and that it can be relied on. -/
theorem launched_of_launch [Reentry (List (Step RuntimeStep)) Cast] (hm : Reachable m)
    (hooks : m.platform.hooks = []) {image : Image} {q : LaunchRequest}
    (hlaunch : (Launch.launch image q).run m = (.ok (.ok e), m₁)) :
    ∃ a setup, a.context = e.context ∧ Launched m q e a setup m₁ ∧
      InOrder Within (({} : Holdings).working ⟨e.key, a, none, some e.event⟩) m₁ := by
  have h := hm.inOrder.of_no_hooks hooks
  obtain ⟨_, setup, hlaunched⟩ := (Launch.launch_logs h hooks).of_eq_ok hlaunch
  obtain ⟨a, hcontext, h₁⟩ := (Launch.launch_leads courteous_nobody h).of_eq_ok hlaunch
  have harena := (h₁.steady _ List.mem_cons_self).1
  cases hlaunched.arena.symm.trans harena
  have hwatching := h₁.watching hlaunched.unseen e.event
  exact ⟨a, setup, hcontext, hlaunched,
    { hwatching with hooks := fun hook hhook => (hwatching.hooks hook hhook).elim }⟩

/-- How the join that ends an execution goes, if no hook interferes. -/
theorem joined_of_waits [Reentry (List (Step RuntimeStep)) Cast] {q : LaunchRequest}
    {setup : List Moment} (hcontext : a.context = e.context)
    (hlaunched : Launched m q e a setup m₁)
    (h₂ : InOrder Within (({} : Holdings).working ⟨e.key, a, none, some e.event⟩) m₂)
    (hooks : m₂.platform.hooks = []) (hends : e.JoinEnds m₂ m₃) : e.Joined a m₂ m₃ :=
  hends.joined (h₂.ripe hcontext hooks hlaunched.once)

end Scenario

end StreamCompute
