/-
  StreamCompute.Proofs.EmptyPlaces

  Which places of executions can be empty between calls. A bounded join takes
  the execution out of its place while it waits, and either puts it back or
  forgets the handle; only if it is cut off does the place stay behind, marked
  and empty. No other call leaves an empty place, however it ends. So a
  shutdown that is refused leaves something to join, unless a bounded join was
  cut off.

  While bounded joins wait, the places of their handles are empty; these
  handles are `away`. Hooks are run in the middle of such joins, so that what
  hooks keep is stated for all handles that may be away.
-/
import StreamCompute.Proofs.ShutdownRefusal
import StreamCompute.Proofs.Steadfast

namespace StreamCompute

open Fallible

variable {κ ρ α : Type}

namespace Desk

/-- The place of a handle is empty only while the handle is away, or when it is one of `bounded`
    and its place is marked, and a driver call was cut off. -/
def Attended (bounded away : List Nat) (slots : Assoc Nat Slot) (history : List Moment) : Prop :=
  ∀ n slot, slots.get? n = some slot → slot.execution = none →
    n ∈ away ∨ (n ∈ bounded ∧ slot.marked = true ∧ ¬ Quiet history)

/-- This holds of the desk, and only such hooks wait. -/
abbrev Attending (allowed : κ → Prop) (bounded away : List Nat) : Machine κ (Desk ρ) → Prop :=
  Placed allowed (Attended bounded away)

/-- The call keeps this, however it ends. -/
abbrev Attends (allowed : κ → Prop) (bounded away : List Nat) (act : DeskTask κ ρ α) : Prop :=
  act.Stands (Attending allowed bounded away) (Attending allowed bounded away)

variable {allowed : κ → Prop} {bounded away away' : List Nat} {handle serial : Nat}
  {call : String} {slots : Assoc Nat Slot} {history : List Moment} {m : Machine κ (Desk ρ)}

theorem Attended.called (h : Attended bounded away slots history) (mo : Moment) :
    Attended bounded away slots (mo :: history) := by
  intro n slot hslot hempty
  refine (h n slot hslot hempty).imp_right fun ⟨hbounded, hmarked, hcut⟩ => ?_
  exact ⟨hbounded, hmarked, fun hquiet => hcut (hquiet.of_subset (List.subset_cons_self ..))⟩

theorem Attending.onSlot {G : Desk ρ → List Moment → Prop} {f : Slot → Slot}
    (hm : m.Known allowed G)
    (hG : G m.host m.history → Attended bounded away m.host.slots m.history)
    (haway : ∀ n ∈ away, n ≠ handle → n ∈ away')
    (hf : ∀ slot, G m.host m.history → m.host.slots.get? handle = some slot →
      (f slot).execution = none →
      handle ∈ away' ∨ (handle ∈ bounded ∧ (f slot).marked = true ∧ ¬ Quiet m.history)) :
    Attending allowed bounded away' (Desk.onSlot handle f m) := by
  refine hm.onDesk fun hknown n slot hslot hempty => ?_
  have hother : m.host.slots.get? n = some slot → n ≠ handle →
      n ∈ away' ∨ (n ∈ bounded ∧ slot.marked = true ∧ ¬ Quiet m.history) := fun hslot hn =>
    (hG hknown n slot hslot hempty).imp_left fun hmem => haway n hmem hn
  cases hplace : m.host.slots.get? handle with
  | none =>
    rw [hplace] at hslot
    refine hother hslot fun hn => ?_
    cases (hn ▸ hslot).symm.trans hplace
  | some before =>
    rw [hplace] at hslot
    dsimp only at hslot
    rcases Assoc.of_get?_set hslot with ⟨rfl, rfl⟩ | ⟨hn, hslot⟩
    · exact hf before hknown hplace hempty
    · exact hother hslot hn.symm

theorem Attending.retire (hm : Attending allowed bounded away m)
    (haway : ∀ n ∈ away, n ≠ handle → n ∈ away') :
    Attending allowed bounded away' (Desk.retire handle m) := by
  refine hm.onDesk fun hknown n slot hslot hempty => ?_
  dsimp only at hslot
  obtain ⟨hn, hslot⟩ := Assoc.of_get?_erase hslot
  exact (hknown n slot hslot hempty).imp_left fun hmem => haway n hmem hn.symm

variable [Reentry κ (Desk ρ)]

/-- Hooks keep this, whatever handles are away. -/
def Attentive (ρ : Type) [Reentry κ (Desk ρ)] (allowed : κ → Prop) (bounded : List Nat) : Prop :=
  ∀ away op k, allowed k → (Reentry.run op k : Act (Machine κ (Desk ρ)) Unit).Upholds
    (Attending allowed bounded away) (Attending allowed bounded away)

variable (hooks : Attentive ρ allowed bounded)

include hooks

theorem steadfast_attending : Steadfast (Attending allowed bounded away : Machine κ (Desk ρ) → Prop)
    (Attending allowed bounded away) :=
  Machine.steadfast_known (fun _ _ mo h => h.called mo) (fun _ _ mo _ h => h.called mo)
    (hooks away)

theorem steadfast_cutOff : Steadfast (Attending allowed bounded away : Machine κ (Desk ρ) → Prop)
    (Machine.Known allowed fun d history =>
      Attended bounded away d.slots history ∧ ¬ Quiet history) :=
  Machine.steadfast_known (fun _ _ mo h => h.called mo)
    (fun _ _ mo hmo h => ⟨h.called mo, not_quiet_of_cutOff hmo⟩) (hooks away)

theorem runtime_attends {task : Task κ (Desk ρ) α}
    (h : ∀ {I K : Machine κ (Desk ρ) → Prop}, Steadfast I K → task.Stands I K) :
    Attends allowed bounded away (onRuntime serial call task) :=
  onRuntime_stands (steadfast_attending hooks) (h (steadfast_attending hooks))

/-! ## Calls that touch the places -/

theorem runStreamAsync_attends {q : StreamRequest} :
    Attends allowed bounded away (runStreamAsync q : DeskTask κ ρ Nat) := by
  have hI : Steadfast (Attending allowed bounded away : Machine κ (Desk ρ) → Prop) _ :=
    steadfast_attending hooks
  refine .bind (launch_places hI) fun e =>
    .bind (placed_unconcerned hI).routine.freshHandle fun handle => ?_
  refine .bind (.change fun m hm => hm.onDesk fun h n slot hslot hempty => ?_) fun _ =>
    .bind (placed_unconcerned hI).routine.log fun _ => .pure
  dsimp only at hslot
  rcases Assoc.of_get?_set hslot with ⟨-, rfl⟩ | ⟨-, hslot⟩
  · cases hempty
  · exact h n slot hslot hempty

theorem pollStream_attends :
    Attends allowed bounded away (pollStream handle : DeskTask κ ρ Bool) := by
  intro m hm
  unfold pollStream holding
  rw [leads_bind]
  refine occupant_finds.mono (fun e m₁ h₁ => ?_) (fun _ _ h => hm.beside h.1) fun _ h => h.elim
  rw [leads_mk, Act.leads_onCutOff, leads_run]
  refine (runtime_attends hooks (fun h => h.withstands.isComplete) m₁
    (hm.beside h₁.1)).mono (fun _ _ h => h) (fun _ _ h => h) fun m₂ h₂ => ?_
  -- The place is marked, and what is in it stays in it.
  refine Attending.onSlot h₂ id (fun _ h _ => h) fun slot h hslot hempty => ?_
  exact (h handle slot hslot hempty).imp_right fun ⟨hbounded, _, hcut⟩ => ⟨hbounded, rfl, hcut⟩

theorem joinStream_attends :
    Attends allowed bounded away (joinStream handle : DeskTask κ ρ Summary) := by
  intro m hm
  unfold joinStream
  rw [leads_bind]
  refine occupant_finds.mono (fun e m₁ h₁ => ?_) (fun _ _ h => hm.beside h.1) fun _ h => h.elim
  rw [leads_bind, leads_modify]
  exact runtime_attends hooks (fun h => h.join) _
    (Attending.retire (hm.beside h₁.1) fun _ h _ => h)

/-- A bounded join gives back the execution it took, or forgets the handle; unless it is cut off. -/
theorem joinStreamWithin_attends {micros : Nat} (hhandle : handle ∈ bounded) :
    Attends allowed bounded away
      (joinStreamWithin handle micros : DeskTask κ ρ (Option Summary)) := by
  have haway : ∀ n ∈ handle :: away, n ≠ handle → n ∈ away := fun n h hn =>
    (List.mem_cons.mp h).resolve_left hn
  intro m hm
  unfold joinStreamWithin holding
  rw [leads_bind]
  refine occupant_finds.mono (fun e m₁ h₁ => ?_) (fun _ _ h => hm.beside h.1) fun _ h => h.elim
  -- The handle counts as away for as long as its place is empty.
  have htaken : Attending allowed bounded (handle :: away)
      (onSlot handle (fun slot => { slot with execution := none }) m₁) := by
    refine Attending.onSlot (hm.beside h₁.1) id (fun n h _ => List.mem_cons_of_mem _ h) ?_
    exact fun _ _ _ _ => .inl List.mem_cons_self
  rw [leads_bind, leads_modify, leads_bind, leads_perform,
    leads_attempt, leads_mk, Act.leads_onCutOff, leads_run]
  have hI : Steadfast (Attending allowed bounded (handle :: away) : Machine κ (Desk ρ) → Prop) _ :=
    steadfast_cutOff hooks
  refine (onRuntime_stands hI hI.joinWithin _ htaken).mono (fun summary m₂ h₂ => ?_)
    (fun _ m₂ h₂ => ?_) fun m₂ h₂ => ?_
  · cases summary with
    | none =>
      dsimp only
      rw [leads_bind, leads_modify]
      exact Attending.onSlot h₂ id haway fun _ _ _ hempty => nomatch hempty
    | some summary =>
      dsimp only
      rw [leads_bind, leads_modify]
      exact Attending.retire h₂ haway
  · dsimp only
    rw [leads_bind, leads_modify]
    exact Attending.retire h₂ haway
  -- Only a cut leaves an empty place behind, and it is a bounded join that left it.
  · refine Attending.onSlot h₂ And.left haway fun _ h _ _ => ?_
    exact .inr ⟨hhandle, rfl, h.2⟩

end Desk

/-! ## What a shutdown answers -/

namespace Desk

/-- What failed first in a shutdown, if anything did, failed in a runtime. -/
def FromRuntime (first : Option DeskError) : Prop :=
  ∀ e, first = some e → ∃ err, e.cause = .runtime err

variable [Reentry κ (Desk ρ)] {serial : Nat} {call : String} {first : Option DeskError}
  {m : Machine κ (Desk ρ)}

omit [Reentry κ (Desk ρ)] in
theorem step_fromRuntime {task : Task κ (Desk ρ) Unit} (hfirst : FromRuntime first) :
    (step serial call task first).Leads m (fun first' _ => FromRuntime first') fun _ => True := by
  unfold step
  rw [Act.leads_bind]
  refine Act.leads_true.mono (fun answer m₁ _ => ?_) fun _ _ => trivial
  cases answer with
  | ok => exact hfirst
  | error err =>
    intro e he
    cases first with
    | none =>
      cases he
      exact ⟨err, rfl⟩
    | some e' => exact hfirst e he

/-- A shutdown says that executions were not joined only if there are places. -/
theorem shutdown_unjoined : shutdown.Leads m (fun _ _ => True)
    (fun err _ => ∀ count, err.cause = .unjoined count → m.host.slots ≠ []) fun _ => True := by
  have hrelease : ∀ serial (m : Machine κ (Desk ρ)), (releaseAll serial).Leads m
      (fun first _ => FromRuntime first) fun _ => True := fun _ _ =>
    leads_releaseAll (fun _ => trivial) (fun _ _ h => h) step_fromRuntime
      (fun _ _ h _ => step_fromRuntime h) step_fromRuntime step_fromRuntime nofun
  unfold shutdown desk
  simp only [leads_bind, leads_get, leads_pure]
  split
  · rename_i hlength
    intro _ _ hnil
    rw [hnil] at hlength
    exact Nat.lt_irrefl _ hlength
  · split
    · trivial
    · rw [leads_bind, leads_modify, leads_bind, leads_perform]
      refine (hrelease _ _).mono (fun first m₁ hfirst => ?_) fun _ _ => trivial
      rw [leads_bind, leads_log]
      cases first with
      | none => trivial
      | some e =>
        intro count hcount
        obtain ⟨err, herr⟩ := hfirst e rfl
        cases herr.symm.trans hcount

end Desk

namespace Scenario

open Desk

mutual

/-- The handles that the bounded joins of a step name, those in its hooks included. -/
def Step.boundedJoins : Step DeskStep → List Nat
  | .own (.joinStreamWithin handle _) => [handle]
  | .hook _ steps => boundedJoinsOf steps
  | _ => []

/-- The handles that the bounded joins of some steps name. -/
def boundedJoinsOf : List (Step DeskStep) → List Nat
  | [] => []
  | step :: rest => step.boundedJoins ++ boundedJoinsOf rest

end

/-- The steps stay within the desk, and their bounded joins are of such handles. -/
def Bounding (bounded : List Nat) (steps : List (Step DeskStep)) : Prop :=
  AtDesk steps ∧ boundedJoinsOf steps ⊆ bounded

theorem Bounding.of_mem {bounded : List Nat} {steps : List (Step DeskStep)} {step : Step DeskStep}
    (h : Bounding bounded steps) (hstep : step ∈ steps) :
    step.within = true ∧ step.boundedJoins ⊆ bounded := by
  obtain ⟨hdesk, hbounded⟩ := h
  refine ⟨within_of_mem hdesk hstep, ?_⟩
  clear hdesk
  induction steps with
  | nil => cases hstep
  | cons s rest ih =>
    rw [boundedJoinsOf, List.append_subset] at hbounded
    rcases List.mem_cons.mp hstep with rfl | hstep
    · exact hbounded.1
    · exact ih hstep hbounded.2

theorem enduring_attended (bounded : List Nat) :
    Enduring (Bounding bounded) (Attended bounded) where
  called _ _ _ mo h := h.called mo
  within _ hsteps _ hstep := (hsteps.of_mem hstep).1
  hooks _ hsteps op inner hhook := by
    obtain ⟨hwithin, hbounded⟩ := hsteps.of_mem hhook
    rw [Step.boundedJoins] at hbounded
    exact ⟨hwithin, hbounded⟩
  perform hooks _ hsteps away step hstep := by
    have hI : Steadfast (Attending (Bounding bounded) bounded away : DeskScene → Prop) _ :=
      steadfast_attending hooks
    refine performAtDesk_stands (placed_unconcerned hI) step (fun _ _ => install_places)
      (fun _ => runStream_places hI) (fun _ => runStreamAsync_attends hooks)
      (fun _ => pollStream_attends hooks) (fun _ => joinStream_attends hooks)
      fun handle micros h => ?_
    subst h
    exact joinStreamWithin_attends hooks ((hsteps.of_mem hstep).2 (by simp [Step.boundedJoins]))

/-! ## What can still be joined -/

def FinalizedSince (e : Execution) (m m' : DeskScene) : Prop :=
  ∃ calls, m'.history = calls ++ m.history ∧ 0 < e.finalizations calls

def CutOffSince (m m' : DeskScene) : Prop :=
  ∃ calls, m'.history = calls ++ m.history ∧ ¬ Quiet calls

/-- In the place of the handle there is an execution, and a join finalizes it, whatever hooks do
    meanwhile, unless they cut the join off. -/
def Finalizable (handle : Nat) (m : DeskScene) : Prop :=
  ∃ e, Holds e (m.host.slots.get? handle) ∧
    ∀ fuel, (@joinStream _ _ (deskHooks fuel) handle).Leads m (fun _ => FinalizedSince e m)
      (fun _ => FinalizedSince e m) (CutOffSince m)

/-- The execution was finalized so often at least, since `base`. -/
def FinalizedTimes (e : Execution) (base : List Moment) (n : Nat) (_ : Desk Stage)
    (history : List Moment) : Prop :=
  ∃ calls, history = calls ++ base ∧ n ≤ e.finalizations calls

theorem polite_finalizedTimes {e : Execution} {base : List Moment} {n : Nat} (fuel : Nat) :
    @Polite _ _ (deskHooks fuel) AtDesk (fun _ => False) (fun _ _ => True)
      (FinalizedTimes e base n) (Platforms.Knows · e) := by
  refine polite_deskHooks ⟨fun _ _ h => h.elim, fun {d history mo} _ h => ?_, fun _ h => h,
    fun _ _ _ _ _ _ _ => trivial⟩ (fun _ _ _ _ _ _ _ => trivial)
    (fun fuel _ => @tended_nothing (deskHooks fuel) _ _) fuel
  obtain ⟨calls, rfl, hn⟩ := h
  have hmore : e.finalizations calls ≤ e.finalizations (mo :: calls) :=
    (List.sublist_cons_self ..).countP_le
  exact ⟨mo :: calls, rfl, Nat.le_trans hn hmore⟩

theorem finalizable_of_holds {serial handle : Nat} {e : Execution} {m : DeskScene}
    (hm : InSession serial m) (he : Holds e (m.host.slots.get? handle)) :
    Finalizable handle m := by
  refine ⟨e, he, fun fuel => ?_⟩
  let := deskHooks fuel
  obtain ⟨marked, hslot⟩ := he
  have hR : Platforms.Lasting fun v : Platforms (List (Step DeskStep)) => v.Knows e :=
    fun _ _ _ honward h => h.onward honward
  -- A join that is cut off shows it in the history.
  have hcut : ∀ n (d : Desk Stage) history (mo : Moment), mo.Spares (fun _ _ => True) →
      mo.verdict = .cutOff → FinalizedTimes e m.history n d history →
      ∃ calls, mo :: history = calls ++ m.history ∧ ¬ Quiet calls := by
    rintro n d _ mo - hmo ⟨calls, rfl, -⟩
    exact ⟨mo :: calls, rfl, not_quiet_of_cutOff hmo⟩
  -- The call that destroys the context is the one that counts.
  have hlast : ∀ (d : Desk Stage) history (mo : Moment), mo.operation = .destroyContext →
      mo.serial = e.home → mo.call? = some (.destroyContext e.context) →
      FinalizedTimes e m.history 0 d history → FinalizedTimes e m.history 1 d (mo :: history) := by
    rintro d _ mo hop hserial hcall ⟨calls, rfl, -⟩
    refine ⟨mo :: calls, rfl, ?_⟩
    rw [finalizations_cons_of_call hop hserial hcall]
    exact Nat.le_add_left ..
  unfold joinStream
  rw [leads_bind]
  refine occupant_finds.mono (fun e' m₁ ⟨hbeside, slot, hslot', he'⟩ => ?_)
    (fun _ _ ⟨_, hnone⟩ => nomatch hnone _ hslot) fun _ h => h.elim
  cases hslot.symm.trans hslot'
  cases he'
  rw [leads_bind, leads_modify]
  have h₁ : Kept AtDesk (FinalizedTimes e m.history 0) (Platforms.Knows · e) serial m₁ := by
    have hin := hm.beside lasting_true hbeside
    refine ⟨hin.seated, ⟨[], hbeside.history, Nat.zero_le _⟩, ?_⟩
    exact hin.seated.homes handle _ e (hbeside.host ▸ hslot) rfl
  have htaken : Kept AtDesk (FinalizedTimes e m.history 0) (Platforms.Knows · e) serial
      (retire handle m₁) := h₁.retire (polite_finalizedTimes fuel).fit id
  obtain ⟨p, hp, -⟩ := htaken.platforms
  have hjoin : (onRuntime e.home "join_stream" e.join).Leads (retire handle m₁)
      (fun _ => Kept AtDesk (FinalizedTimes e m.history 1) (Platforms.Knows · e) serial)
      (fun _ => Kept AtDesk (FinalizedTimes e m.history 1) (Platforms.Knows · e) serial)
      (Kept AtDesk (fun _ history => ∃ calls, history = calls ++ m.history ∧ ¬ Quiet calls)
        (Platforms.Knows · e) serial) := by
    refine onRuntime_leads ⟨p, hp⟩ (fun m' hm' => ?_) htaken
    exact join_leads_on (polite_finalizedTimes fuel) (hR.known serial) (fun v hv => hv.1) (hcut 0)
      (polite_finalizedTimes fuel) (hcut 1) hlast hm' hm'.platforms.1
  exact hjoin.mono (fun _ _ h => h.desk) (fun _ _ h => h.desk) fun _ h => h.desk

/-- A bounded join of the handle left its place behind, marked and empty, when a driver call was
    cut off; a join of the handle is a misuse. -/
structure Abandoned (steps : List (Step DeskStep)) (handle : Nat) (m : DeskScene) : Prop where
  place : m.host.slots.get? handle = some ⟨none, true⟩
  bounded : handle ∈ boundedJoinsOf steps
  cutOff : ¬ Quiet m.history
  misused : ∀ [Reentry (List (Step DeskStep)) (Desk Stage)],
    (joinStream handle : DeskPlay Summary).Leads m (fun _ _ => False)
      (fun err m' => err = misuse "join_stream" handle ∧ m.Beside m') fun _ => False

theorem joinStream_misused [Reentry (List (Step DeskStep)) (Desk Stage)] {handle : Nat}
    {m : DeskScene} (hplace : m.host.slots.get? handle = some ⟨none, true⟩) :
    (joinStream handle : DeskPlay Summary).Leads m (fun _ _ => False)
      (fun err m' => err = misuse "join_stream" handle ∧ m.Beside m') fun _ => False := by
  unfold joinStream occupant desk
  simp only [leads_bind, leads_get, leads_pure, hplace, if_true]
  exact ⟨rfl, .journal⟩

/-- Between calls, every handle that is registered can be joined, unless a bounded join of it was
    cut off. So where a shutdown is refused for executions that were not joined, there is one to be
    joined if nothing was cut off, and also if no bounded join was made. -/
theorem refused_shutdown_leaves_a_join {fuel : Nat} {steps : List (Step DeskStep)} {m : DeskScene}
    (hsteps : AtDesk steps) (hm : m = deskAfter fuel steps deskOpening) :
    (∀ handle, m.host.slots.get? handle ≠ none →
      Finalizable handle m ∨ Abandoned steps handle m) ∧
    ∀ fuel' count m',
      (@shutdown _ _ (deskHooks fuel')).run m =
        (.ok (.error ⟨"shutdown", .unjoined count⟩), m') →
      Quiet m.history ∨ boundedJoinsOf steps = [] → ∃ handle, Finalizable handle m := by
  subst hm
  have hin : InSession 0 (deskAfter fuel steps deskOpening) :=
    inSession_deskAfter hsteps inSession_deskOpening
  have hopening : Attending (Bounding (boundedJoinsOf steps)) (boundedJoinsOf steps) []
      deskOpening := by
    refine ⟨fun p hp hook hhook => ?_, nofun⟩
    cases List.mem_singleton.mp hp
    cases hhook
  have hattended : Attending (Bounding (boundedJoinsOf steps)) (boundedJoinsOf steps) []
      (deskAfter fuel steps deskOpening) :=
    placed_deskAfter (enduring_attended _) ⟨hsteps, List.Subset.refl _⟩ hopening
  have hplaces : ∀ handle, (deskAfter fuel steps deskOpening).host.slots.get? handle ≠ none →
      Finalizable handle (deskAfter fuel steps deskOpening) ∨
        Abandoned steps handle (deskAfter fuel steps deskOpening) := by
    intro handle hhandle
    obtain ⟨⟨execution, marked⟩, hslot⟩ := Option.ne_none_iff_exists'.mp hhandle
    cases execution with
    | some e => exact .inl (finalizable_of_holds hin ⟨marked, hslot⟩)
    | none =>
      rcases hattended.known handle _ hslot rfl with haway | ⟨hbounded, hmarked, hcut⟩
      · cases haway
      · cases hmarked
        exact .inr ⟨hslot, hbounded, hcut, joinStream_misused hslot⟩
  refine ⟨hplaces, fun fuel' count m' hrefused hcalm => ?_⟩
  have hslots := (@shutdown_unjoined _ _ (deskHooks fuel') _).of_eq_error hrefused count rfl
  obtain ⟨⟨handle, slot⟩, rest, hcons⟩ := List.exists_cons_of_ne_nil hslots
  have hhandle : (deskAfter fuel steps deskOpening).host.slots.get? handle ≠ none := by
    rw [hcons]
    simp [Assoc.get?]
  refine ⟨handle, (hplaces handle hhandle).resolve_right fun habandoned => ?_⟩
  rcases hcalm with hquiet | hnone
  · exact habandoned.cutOff hquiet
  · have hbounded : handle ∈ boundedJoinsOf steps := habandoned.bounded
    rw [hnone] at hbounded
    cases hbounded

/-- A poll of an execution is cut off by a hook. -/
def cutOffPoll : List (Step DeskStep) :=
  [.own (.install { pendingPolls := 1 } {}), .own (.compile "o0"),
    .own (.runStreamAsync soleRequest), .hook (some .queryEvent) [.cutOff "m"],
    .own (.pollStream 2)]

def shutdownAfterPoll : Except Abort (Except DeskError Unit) × DeskScene :=
  (@shutdown _ _ (deskHooks 0)).run (deskAfter 1 cutOffPoll deskOpening)

/-- The shutdown is refused, and the execution can still be joined. -/
theorem cutOffPoll_leaves_a_join :
    (AtDesk cutOffPoll ∧ boundedJoinsOf cutOffPoll = [] ∧
      shutdownAfterPoll.1 = .ok (.error ⟨"shutdown", .unjoined 1⟩)) ∧
      ∃ handle, Finalizable handle (deskAfter 1 cutOffPoll deskOpening) := by
  have hanswer : shutdownAfterPoll.1 = .ok (.error ⟨"shutdown", .unjoined 1⟩) := by
    decide +kernel
  have hrefused : shutdownAfterPoll =
      (.ok (.error ⟨"shutdown", .unjoined 1⟩), shutdownAfterPoll.2) := by rw [← hanswer]
  have hwithin : AtDesk cutOffPoll := rfl
  refine ⟨⟨hwithin, rfl, hanswer⟩, ?_⟩
  exact (refused_shutdown_leaves_a_join hwithin rfl).2 0 1 _ hrefused (.inr rfl)

/-- The same hook cuts a bounded join off. -/
def cutOffJoin : List (Step DeskStep) :=
  [.own (.install { pendingPolls := 1 } {}), .own (.compile "o0"),
    .own (.runStreamAsync soleRequest), .hook (some .queryEvent) [.cutOff "m"],
    .own (.joinStreamWithin 2 0), .own .shutdown, .own (.joinStream 2)]

/-- After that a shutdown is refused, and there is nothing to be joined. -/
theorem cutOffJoin_leaves_nothing_to_join :
    ((playDesk cutOffJoin).map (·.outcome)).drop 4 =
      [.error (.cutOff "m"), .error (.desk ⟨"shutdown", .unjoined 1⟩),
        .error (.desk (misuse "join_stream" 2))] ∧
      ((deskAfter 1 cutOffJoin deskOpening).host.slots).map (·.1) = [2] := by
  decide +kernel

end Scenario

end StreamCompute
