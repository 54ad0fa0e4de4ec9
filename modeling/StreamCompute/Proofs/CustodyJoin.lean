/-
  StreamCompute.Proofs.CustodyJoin

  Waiting for executions and taking them down keeps the machine in order. The
  results are copied out while the execution is still at work; after that
  nobody relies on what it owns, and it leaves the ledger at the end.
-/
import StreamCompute.Proofs.CustodyLaunch

namespace StreamCompute

open Fallible

section Join

variable {κ ω : Type} [Keeper ω] {allowed : κ → Prop} {g : Holdings} {m : Machine κ ω}
  {key : ExecutionKey} {a : Arena} {e : Execution}

/-! ## The end of an execution -/

/-- Claims that a call has left over are given back one after the other. -/
theorem InOrder.unclaimed_all {left : List Remote}
    (h : InOrder allowed ({ g with calls := left ++ g.calls }.dropping key a) m) :
    InOrder allowed (g.dropping key a) (left.foldl (fun m r => Memory.unclaimed r m) m) := by
  induction left generalizing m with
  | nil => exact h
  | cons r rest ih =>
    have hr : InOrder allowed
        ((({ g with calls := rest ++ g.calls } : Holdings).dropping key a).calling r) m := h
    exact ih hr.unclaimed

omit [Keeper ω] in
theorem Machine.foldl_unclaimed_arenas (left : List Remote) (arenas : Assoc ExecutionKey Arena)
    (m : Machine κ ω) :
    left.foldl (fun m r => Memory.unclaimed r m) { m with arenas } =
      { left.foldl (fun m r => Memory.unclaimed r m) m with arenas } := by
  induction left generalizing m with
  | nil => rfl
  | cons r rest ih => exact ih (Memory.unclaimed r m)

omit [Keeper ω] in
theorem Machine.arenas_foldl_unclaimed (left : List Remote) (m : Machine κ ω) :
    (left.foldl (fun m r => Memory.unclaimed r m) m).arenas = m.arenas := by
  induction left generalizing m with
  | nil => rfl
  | cons r rest ih => exact ih (Memory.unclaimed r m)

theorem InOrder.ended (h : InOrder allowed (g.dropping key a) m) :
    InOrder allowed g ((a.claims.foldl (fun m r => Memory.unclaimed r m) m).closeArena key) := by
  have he := h.entered _ _ (h.falling _ List.mem_cons_self)
  have hleft : InOrder allowed ({ g with calls := a.claims ++ g.calls }.dropping key
      { context := a.context }) { m with arenas := m.arenas.set key { context := a.context } } :=
    h.reshrunk a.claims rfl (fun _ => Arena.ordered_empty) nofun List.nodup_nil nofun
      (fun r hr => ⟨hr, nofun⟩) he.nodup fun r hr => Or.inl hr
  have hclosed := hleft.unclaimed_all.closed rfl
  rw [Machine.foldl_unclaimed_arenas] at hclosed
  unfold Machine.closeArena at hclosed ⊢
  rw [Machine.arenas_foldl_unclaimed]
  rw [Assoc.erase_set] at hclosed
  exact hclosed

namespace Execution

/-- The results are copied out while the execution is at work; then what it has is dropped. -/
def Stage.holdings (g : Holdings) (e : Execution) (a : Arena) : Stage → Holdings
  | copying _ => g.working ⟨e.key, a, none, none⟩
  | closed => g
  | _ => g.dropping e.key a

variable [Reentry κ ω] (hooks : Courteous ω allowed)

include hooks

theorem takesDown_inOrder (hcontext : a.context = e.context) : TakesDown e a
    (fun stage _ (m : Machine κ ω) => InOrder allowed (stage.holdings g e a) m)
    (Broken allowed g) := by
  have hdrops {α : Type} {step : Task κ ω α} (hstep : step.Stands
      (InOrder allowed (g.dropping e.key a)) (Broken allowed (g.dropping e.key a))) :
      Carries (fun _ => InOrder allowed (g.dropping e.key a))
        (fun _ => InOrder allowed (g.dropping e.key a)) (Broken allowed g) step := fun _ m h =>
    (hstep m h).mono (fun _ _ hm => hm) (fun _ _ hm => hm) fun _ hm => hm.part .dropping
  refine ⟨fun _ _ _ _ h => h.journal, inOrder_unlogged.cut, fun c hc _ _ m h => ?_,
    fun _ _ h => h.falls, fun _ _ => hdrops ?_, fun _ _ h => h, hdrops ?_, hdrops ?_,
    fun t ht _ => hdrops ?_, fun _ _ h => h, fun u hu _ => hdrops ?_, fun _ _ h => h.ended⟩
  · refine (copyOut_stands inOrder_unlogged (fun m h => ?_) m h).mono (fun _ _ hm => hm)
      (fun _ _ hm => hm) fun _ hm => hm.part .working
    obtain ⟨htransient, hremote⟩ := (h.steady _ List.mem_cons_self).2.copies c hc
    rw [← hcontext]
    exact Completion.copy_leads hooks h hremote.mem htransient.mem
  · rw [← hcontext]
    exact .mapError (drive_releaseMemory hooks)
  · exact driveAs_keeps hooks rfl _
  · rw [← hcontext]
    exact .mapError (drive_destroyContext hooks)
  · exact .mapError (drive_freeTransient hooks ht)
  · intro m h
    have hr := (h.entered _ _ (h.falling _ List.mem_cons_self)).ordered.claimed hu
    exact remap_stands inOrder_unlogged (restore_dropping hooks hr) m h

theorem finalize_leads (hcontext : a.context = e.context) {failure : Option Error}
    (h : InOrder allowed (g.working ⟨e.key, a, none, none⟩) m) :
    (finalize e failure).Leads m (fun _ => InOrder allowed g)
      (fun _ => InOrder allowed g) (Broken allowed g) := by
  have harena : e.arena m = a := by
    rw [arena, (h.steady _ List.mem_cons_self).1, Option.getD_some]
  exact ((takesDown_inOrder hooks hcontext).finalize harena h).imp fun _ _ hm => hm.1

/-! ## Joining -/

omit [Reentry κ ω] hooks in
/-- Whoever relies on what is known of the execution must be told the truth. -/
theorem onProgress_inOrder (h : InOrder allowed g m) {f : Progress → Progress}
    (hissued : e.key.1 = m.platform.serial ∧ e.key.2.number < m.platform.nextExecution)
    (htrue : ∀ frame ∈ g.steady, frame.key = e.key → ∀ event, frame.token? = some event →
      (f (e.progress m)).done = true →
        ∃ mo ∈ m.history, mo.Asked frame.arena.context event .done) :
    InOrder allowed g (e.onProgress f m) := by
  have hcases : ∀ key p, (m.progress.set e.key (f (e.progress m))).get? key = some p →
      (e.key = key ∧ p = f (e.progress m)) ∨ m.progress.get? key = some p := fun key p hp =>
    (Assoc.of_get?_set hp).imp_right And.right
  exact { h with
    progressed := fun key p hp => by
      rcases hcases key p hp with ⟨rfl, -⟩ | hp
      · exact hissued
      · exact h.progressed key p hp
    watched := fun frame hframe event hevent p hp hdone => by
      rcases hcases frame.key p hp with ⟨heq, rfl⟩ | hp
      · exact htrue frame hframe heq.symm event hevent hdone
      · exact h.watched frame hframe event hevent p hp hdone }

omit [Reentry κ ω] hooks in
/-- Counting polls tells nothing new. -/
theorem onProgress_polls (h : InOrder allowed g m) (polls : Nat)
    (hissued : e.key.1 = m.platform.serial ∧ e.key.2.number < m.platform.nextExecution) :
    InOrder allowed g (e.onProgress (fun p => { p with polls := p.polls + polls }) m) := by
  refine onProgress_inOrder h hissued fun frame hframe hkey event hevent hdone => ?_
  unfold progress at hdone
  cases hp : m.progress.get? e.key with
  | none =>
    rw [hp] at hdone
    cases hdone
  | some p =>
    rw [hp] at hdone
    exact h.watched frame hframe event hevent p (hkey ▸ hp) hdone

/-- An execution may be asked about by anybody, and whoever relies on what is known of it
    relies on its own token. -/
theorem isComplete_leads (h : InOrder allowed g m)
    (hissued : e.key.1 = m.platform.serial ∧ e.key.2.number < m.platform.nextExecution)
    (htoken : ∀ frame ∈ g.steady, frame.key = e.key → ∀ event, frame.token? = some event →
      frame.arena.context = e.context ∧ event = e.event) :
    (isComplete e).Leads m (fun _ => InOrder allowed g)
      (fun _ => InOrder allowed g) (Broken allowed g) := by
  unfold isComplete
  rw [leads_bind, leads_get]
  split
  · exact h
  · rw [leads_bind, leads_modify, leads_bind, leads_mapError]
    -- Its number stays in use, whatever the hooks of the call do.
    have hfollowed := (onProgress_polls h 1 hissued).followed hissued
    refine (Completion.check_asked hooks hfollowed).mono (fun done m hm => ?_)
      (fun _ _ hm => hm.of_following) fun _ hm => hm.part .following
    obtain ⟨hm, hasked⟩ := hm
    rw [leads_bind, leads_modify]
    refine onProgress_inOrder hm.of_following (hm.running _ List.mem_cons_self)
      fun frame hframe hkey event hevent hdone => ?_
    obtain ⟨hcontext, rfl⟩ := htoken frame hframe hkey event hevent
    rw [hcontext]
    exact hasked hdone

theorem await_keeps {limit : Option Nat} : (await e limit : Drive κ ω WaitOutcome).Keeps allowed :=
  fun g => await_stands inOrder_unlogged (drive_keeps hooks rfl g)

/-- An execution that is still running stays at work; otherwise it is over. -/
theorem joinWithin_leads (hcontext : a.context = e.context) {limit : Option Nat}
    {token? : Option (Ident .event)} (h : InOrder allowed (g.working ⟨e.key, a, none, token?⟩) m) :
    (joinWithin e limit : Task κ ω (Option Summary)).Leads m
      (fun summary m' => match summary with
        | some _ => InOrder allowed g m'
        | none => InOrder allowed (g.working ⟨e.key, a, none, token?⟩) m')
      (fun _ => InOrder allowed g) (Broken allowed g) := by
  refine leads_joinWithin (fun _ => finalize_leads hooks hcontext h.unwatched)
    ((await_keeps hooks _ m h).mono (fun _ _ hm => hm) (fun _ _ hm => hm)
      fun _ hm => hm.part .working) (fun polls m hm => ?_) (fun polls m _ hm => ?_)
    fun _ _ _ hm => finalize_leads hooks hcontext hm.unwatched.record
  · refine finalize_leads hooks hcontext (onProgress_inOrder hm.unwatched
      (hm.keys _ a (hm.steady _ List.mem_cons_self).1) fun frame hframe hkey => ?_)
    rcases List.mem_cons.mp hframe with rfl | hframe
    · exact nofun
    · refine absurd ?_ hm.unique_of_working.1
      exact List.mem_append_left _ (List.mem_map.mpr ⟨frame, hframe, hkey⟩)
  · exact (onProgress_polls hm _ (hm.keys _ a (hm.steady _ List.mem_cons_self).1)).record

theorem join_leads (hcontext : a.context = e.context)
    (h : InOrder allowed (g.working ⟨e.key, a, none, none⟩) m) :
    (join e).Leads m (fun _ => InOrder allowed g)
      (fun _ => InOrder allowed g) (Broken allowed g) := by
  unfold join
  refine .bind (joinWithin_leads hooks hcontext h) fun summary m hm => ?_
  cases summary with
  | some s => exact hm
  | none => exact InOrder.abandoned hm

end Execution

theorem Launch.run_keeps [Reentry κ ω] (hooks : Courteous ω allowed) {image : Image}
    {q : LaunchRequest} : (Launch.run image q : Task κ ω Summary).Keeps allowed := by
  intro g m h
  unfold Launch.run
  refine .bind (Launch.launch_leads hooks h) fun e m hm => ?_
  obtain ⟨a, hcontext, hm⟩ := hm
  exact Execution.join_leads hooks hcontext hm

end Join

end StreamCompute
