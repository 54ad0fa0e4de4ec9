/-
  StreamCompute.Proofs.DeskScenes

  What whole scenarios over a desk keep, as long as they make no driver calls
  past it. A property that fits is kept by every call, but for those that are
  about handles of one's own; where these keep it as well, so do scenarios with
  hooks, however deeply the hooks are nested.
-/
import StreamCompute.Proofs.CustodySession
import StreamCompute.Proofs.DeskCalls

namespace StreamCompute.Scenario

open Desk

/-- Hooks that stay within the desk. -/
abbrev AtDesk (steps : List (Step DeskStep)) : Prop := allWithin steps = true

/-- Calls that are about handles of one's own keep the property. -/
structure Tended [Reentry (List (Step DeskStep)) (Desk Stage)] (own : Nat → Prop)
    (P : Desk Stage → List Moment → Prop) (R₀ : Platforms (List (Step DeskStep)) → Prop) :
    Prop where
  poll : ∀ R, Platforms.Lasting R → (∀ v, R v → R₀ v) → ∀ serial handle, own handle →
    Keeps AtDesk P R serial (pollStream handle : DeskPlay Bool)
  join : ∀ R, Platforms.Lasting R → (∀ v, R v → R₀ v) → ∀ serial handle, own handle →
    Keeps AtDesk P R serial (joinStream handle : DeskPlay Summary)
  within : ∀ R, Platforms.Lasting R → (∀ v, R v → R₀ v) → ∀ serial handle micros, own handle →
    Keeps AtDesk P R serial (joinStreamWithin handle micros : DeskPlay (Option Summary))

section Steps

variable [Reentry (List (Step DeskStep)) (Desk Stage)] {own : Nat → Prop}
  {foreign : Nat → Ident .context → Prop} {P : Desk Stage → List Moment → Prop}
  {R R₀ : Platforms (List (Step DeskStep)) → Prop} {serial : Nat} {m : DeskScene}
  (hooks : Polite AtDesk own foreign P R₀) (hR : Platforms.Lasting R) (hsub : ∀ v, R v → R₀ v)
  (tended : Tended own P R₀)

/-! ## Instructions -/

include hooks hR hsub tended in
theorem performAtDesk_keeps (i : DeskStep) : Keeps AtDesk P R serial (performAtDesk i) := by
  refine performAtDesk_stands (kept_unconcerned hooks hR hsub) i (fun _ _ => install_keeps hooks hR)
    (fun _ => runStream_keeps hooks hR hsub) (fun _ => runStreamAsync_keeps hooks hR hsub)
    (fun handle => ?_) (fun handle => ?_) fun handle micros _ => ?_
  · by_cases hown : own handle
    · exact tended.poll R hR hsub serial handle hown
    · exact pollStream_keeps hooks hR hsub hown
  · by_cases hown : own handle
    · exact tended.join R hR hsub serial handle hown
    · exact joinStream_keeps hooks hR hsub hown
  · by_cases hown : own handle
    · exact tended.within R hR hsub serial handle micros hown
    · exact joinStreamWithin_keeps hooks hR hsub hown

/-! ## Common steps -/

include hooks in
theorem changeStage_kept {f : Stage → Stage} (hm : Kept AtDesk P R serial m) :
    Kept AtDesk P R serial (deskSession.changeStage f m) :=
  hm.onTables (f := fun d => { d with client := f d.client }) hooks.fit rfl (Nat.le_refl _) rfl
    fun _ h => h

include hooks hR in
theorem control_keeps {c : Control} : (deskSession.control c).Upholds
    (Kept AtDesk P R serial) (Kept AtDesk P R serial) := by
  refine Session.control_upholds (fun _ _ => changeStage_kept hooks) fun f hf m hm => ?_
  unfold Session.changeDriver
  split
  · refine hm.onDriverOf hR fun s => ?_
    obtain ⟨calls, injections, tokenErrors, heq⟩ := hf s
    rw [heq]
    exact .same rfl rfl
  · exact hm

include hR hsub in
omit [Reentry (List (Step DeskStep)) (Desk Stage)] in
theorem setHook_keeps {op : Option Operation} {steps : List (Step DeskStep)}
    (hsteps : AtDesk steps) : (deskSession.setHook op steps).Upholds
      (Kept AtDesk P R serial) (Kept AtDesk P R serial) := by
  refine Session.setHook_upholds fun m t added _ hadded => ?_
  refine withPlatform_keeps hR hsub (fun R serial hR _ => .change fun m hm => ?_) m
  refine hm.renewed hR rfl rfl (.same rfl rfl) (fun hook hhook => ?_) rfl hm.desk
  exact (List.mem_append.mp hhook).imp_right fun h => hadded hook h ▸ hsteps

include hooks hR hsub tended in
/-- A step within the desk keeps the property, even if it is cut off. -/
theorem take_keeps {step : Step DeskStep} (hstep : step.within = true) :
    (deskSession.take step).Upholds (Kept AtDesk P R serial) (Kept AtDesk P R serial) := by
  cases step with
  | own i =>
    refine .bind (.attempt (performAtDesk_keeps hooks hR hsub tended i)) fun answer => ?_
    cases answer <;> exact .pure
  | control c => exact control_keeps hooks hR
  | driver d => cases hstep
  | hook op steps => exact setHook_keeps hR hsub hstep
  | cutOff reason => exact fun _ hm => hm

end Steps

/-! ## Hooks within hooks -/

variable {own : Nat → Prop} {foreign : Nat → Ident .context → Prop}
  {P : Desk Stage → List Moment → Prop} {R R₀ : Platforms (List (Step DeskStep)) → Prop}
  {serial : Nat} {m : DeskScene}

abbrev deskHooks (fuel : Nat) : Reentry (List (Step DeskStep)) (Desk Stage) :=
  ⟨deskSession.runHook fuel⟩

/-- Hooks are polite, however deeply they are nested. -/
theorem polite_deskHooks (hfit : Fit own foreign P)
    (hfresh : ∀ v, R₀ v → ∀ t p, v t = some p → ∀ context : Ident .context,
      p.driver.nextNumber ≤ context.number → foreign t context)
    (htended : ∀ fuel, @Polite _ _ (deskHooks fuel) AtDesk own foreign P R₀ →
      @Tended (deskHooks fuel) own P R₀) (fuel : Nat) :
    @Polite _ _ (deskHooks fuel) AtDesk own foreign P R₀ := by
  induction fuel with
  | zero => exact @Polite.mk _ _ (deskHooks 0) _ _ _ _ _ hfit hfresh fun _ _ _ _ _ _ _ _ hm => hm
  | succ fuel ih =>
    refine @Polite.mk _ _ (deskHooks (fuel + 1)) _ _ _ _ _ hfit hfresh ?_
    intro R hR hsub serial op steps hsteps
    exact @Session.playHook_upholds _ _ _ _ (deskHooks fuel) op steps [] _
      (fun _ _ => @changeStage_kept (deskHooks fuel) own foreign P R R₀ serial _ ih _)
      (fun _ _ _ h => h) fun step hstep => @take_keeps (deskHooks fuel) own foreign P R R₀ serial ih hR hsub
        (htended fuel ih) step (within_of_mem hsteps hstep)

/-! ## Scenarios -/

def deskOpening : DeskScene :=
  { host := { client := {} } }

def deskAfter (fuel : Nat) (steps : List (Step DeskStep)) (m : DeskScene) : DeskScene :=
  (deskSession.playAll fuel steps m).2

theorem seated_deskOpening : Seated AtDesk 0 deskOpening := by
  have hplatform : ∀ {t p}, deskOpening.platform? t = some p → t = 0 ∧ p = {} := by
    intro t p hp
    by_cases ht : deskOpening.platform.serial = t
    · cases (Machine.platform?_of_eq ht).symm.trans hp
      exact ⟨ht.symm, rfl⟩
    · cases (Machine.platform?_of_ne ht).symm.trans hp
  refine ⟨rfl, fun _ _ h => (nomatch h), fun t p hp => ?_, fun t p hp => ?_, fun t p hp => ?_,
    fun _ h => (nomatch h), fun _ _ h => (nomatch h), fun _ _ _ h => (nomatch h)⟩
  · rw [(hplatform hp).1]
    exact Nat.one_pos
  · rw [(hplatform hp).2]
    exact nofun
  · rw [(hplatform hp).2]
    exact .nil

theorem kept_deskAfter {fuel : Nat}
    (hooks : @Polite _ _ (deskHooks fuel) AtDesk own foreign P R₀)
    (tended : @Tended (deskHooks fuel) own P R₀) (hR : Platforms.Lasting R)
    (hsub : ∀ v, R v → R₀ v) {steps : List (Step DeskStep)} (hsteps : AtDesk steps)
    (hm : Kept AtDesk P R serial m) :
    Kept AtDesk P R serial (deskAfter fuel steps m) := by
  have hplay : (deskSession.playAll fuel steps).Upholds (Kept AtDesk P R serial)
      (Kept AtDesk P R serial) :=
    Session.playAll_upholds
      (fun _ _ => @changeStage_kept (deskHooks fuel) own foreign P R R₀ serial _ hooks _)
      (fun _ hm => hm.beside hR .journal) fun step hstep =>
        @take_keeps (deskHooks fuel) own foreign P R R₀ serial hooks hR hsub tended step
          (within_of_mem hsteps hstep)
  exact (hplay m hm).final

end StreamCompute.Scenario
