/-
  StreamCompute.Proofs.SessionWalk

  What scenarios of any kind keep. The bookkeeping of a session is apart from
  the rest of the machine, and a step that is cut off is followed by the next
  one; so a scenario keeps what each of its steps keeps, however the step ends.
  The same goes for the steps of a hook.
-/
import StreamCompute.Proofs.Triple
import StreamCompute.Scenario.Play

namespace StreamCompute

/-- Controls change what is logged and what will fail, and leave the objects alone. -/
def Simulator.Steered (s s' : Simulator) : Prop :=
  ∃ calls injections tokenErrors, s' = { s with calls, injections, tokenErrors }

namespace Scenario.Session

variable {ι ω : Type} {session : Session ι ω} {I : Scene ι ω → Prop}

/-! ## Common steps -/

theorem control_upholds {c : Control} (hstage : ∀ f m, I m → I (session.changeStage f m))
    (hsteer : ∀ f : Simulator → Simulator, (∀ s : Simulator, s.Steered (f s)) →
      ∀ m, I m → I (session.changeDriver f m)) :
    (session.control c).Upholds I I := by
  have hcommand : ∀ f : Simulator → Simulator, (∀ s : Simulator, s.Steered (f s)) →
      (session.command f).Upholds I I := fun f hf =>
    .bind (.change (hsteer f hf)) fun _ => .pure
  refine .bind .get fun m => ?_
  split
  · exact .pure
  · cases c with
    | failOn op occurrence =>
      refine hcommand _ fun s => ?_
      cases op <;> exact ⟨_, _, _, rfl⟩
    | failAlways op =>
      refine hcommand _ fun s => ?_
      cases op <;> exact ⟨_, _, _, rfl⟩
    | clearFailures => exact hcommand _ fun s => ⟨_, _, _, rfl⟩
    | failToken op message =>
      refine hcommand _ fun s => ?_
      cases op <;> exact ⟨_, _, _, rfl⟩
    | clearCalls =>
      exact .bind (.change (hstage _)) fun _ => hcommand _ fun s => ⟨_, _, _, rfl⟩
    | callCount op => exact .pure
    | operations => exact .pure
    | available => exact .pure
    | isMapped r => exact .pure
    | resourceBytes r offset count =>
      simp only [controlOn]
      split <;> exact .pure
    | describe => exact .pure

theorem setHook_upholds {op : Option Operation} {steps : List (Step ι)}
    (hadd : ∀ m serial added, session.serial? m = some serial → (∀ hook ∈ added, hook.2 = steps) →
      I m → (Machine.withPlatform serial (modify (Machine.onPlatform fun p =>
        { p with hooks := p.hooks ++ added }))).Leads m (fun _ => I) I) :
    (session.setHook op steps).Upholds I I := by
  intro m hm
  unfold setHook
  rw [Act.leads_bind, Act.leads_get]
  split
  · exact hm
  · refine .bind (hadd m _ _ ‹_› (fun hook hhook => ?_) hm) fun _ _ h => h
    cases op with
    | none => cases hhook
    | some op =>
      cases List.mem_singleton.mp hhook
      rfl

/-! ## Playing -/

theorem takeWhole_leads [Reentry (List (Step ι)) ω] {step : Step ι} {m : Scene ι ω}
    {cut : Scene ι ω → Prop} (htake : (session.take step).Upholds I I) (hm : I m) :
    (session.takeWhole step).Leads m (fun _ => I) cut := by
  have hleads := htake m hm
  unfold takeWhole
  rw [Act.leads_bind, Act.leads_observe]
  unfold Act.Leads at hleads
  split at hleads <;> rename_i heq <;> rw [heq] <;> exact hleads

/-- Only a step that says so cuts a hook off. -/
theorem playHook_upholds [Reentry (List (Step ι)) ω] {op : Operation} {steps : List (Step ι)}
    {outcomes : List Outcome} {K : Scene ι ω → Prop}
    (hstage : ∀ f m, I m → I (session.changeStage f m))
    (hcuts : ∀ reason, .cutOff reason ∈ steps → ∀ m, I m → K m)
    (htake : ∀ step ∈ steps, (session.take step).Upholds I I) :
    (session.playHook op steps outcomes).Upholds I K := by
  intro m hm
  induction steps generalizing m outcomes with
  | nil => exact hstage _ _ hm
  | cons step rest ih =>
    by_cases hcut : ∃ reason, step = .cutOff reason
    · obtain ⟨reason, rfl⟩ := hcut
      exact hcuts reason List.mem_cons_self _ (hstage _ _ hm)
    · have hplay : session.playHook op (step :: rest) outcomes = (do
          let outcome ← session.takeWhole step
          session.playHook op rest (outcomes ++ [outcome])) := by
        cases step with
        | cutOff reason => exact absurd ⟨reason, rfl⟩ hcut
        | own i => rfl
        | control c => rfl
        | driver d => rfl
        | hook op steps => rfl
      rw [hplay]
      exact .bind (takeWhole_leads (htake step List.mem_cons_self) hm) fun _ m hm =>
        ih (fun reason hreason => hcuts reason (List.mem_cons_of_mem _ hreason))
          (fun step hstep => htake step (List.mem_cons_of_mem _ hstep)) m hm

theorem playAll_upholds {fuel : Nat} {steps : List (Step ι)}
    (hstage : ∀ f m, I m → I (session.changeStage f m))
    (hjournal : ∀ m, I m → I { m with journal := [] })
    (htake : ∀ step ∈ steps, (@take ι ω ⟨session.runHook fuel⟩ session step).Upholds I I) :
    (session.playAll fuel steps).Upholds I I := by
  intro m hm
  induction steps generalizing m with
  | nil => exact hm
  | cons step rest ih =>
    unfold playAll playStep
    rw [Act.leads_bind, Act.leads_bind, Act.leads_modify]
    refine .bind (@takeWhole_leads _ _ _ _ ⟨session.runHook fuel⟩ _ _ _
      (htake step List.mem_cons_self) (hstage _ _ (hjournal m hm))) fun _ m₁ h₁ => ?_
    rw [Act.leads_bind, Act.leads_get, Act.leads_pure]
    exact .bind (ih (fun step hstep => htake step (List.mem_cons_of_mem _ hstep)) m₁ h₁)
      fun _ _ h => h

end Scenario.Session

end StreamCompute
