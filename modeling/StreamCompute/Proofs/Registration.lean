/-
  StreamCompute.Proofs.Registration

  A launch at the desk registers an execution that no other handle stands for,
  whatever hooks do in the middle of the launch. The context of the execution
  is new when it is made, and from then on nobody else can come by it.
-/
import StreamCompute.Proofs.DeskScenes

namespace StreamCompute.Scenario

open Fallible

open Desk

variable {serial t : Nat} {context : Ident .context} {R : Platforms (List (Step DeskStep)) → Prop}
  {m : DeskScene}

/-- Nothing is asked of the desk but that it is in order. -/
abbrev Anything (_ : Desk Stage) (_ : List Moment) : Prop := True

/-- No place has an execution with this context. -/
def Unseated (t : Nat) (context : Ident .context) (d : Desk Stage) (_ : List Moment) : Prop :=
  ∀ n slot e, d.slots.get? n = some slot → slot.execution = some e →
    ¬(e.home = t ∧ e.context = context)

/-- The context was made on this platform. -/
def Made (t : Nat) (context : Ident .context) (v : Platforms (List (Step DeskStep))) : Prop :=
  ∃ p, v t = some p ∧ context.number < p.driver.nextNumber

theorem tended_nothing [Reentry (List (Step DeskStep)) (Desk Stage)]
    {P : Desk Stage → List Moment → Prop} {R₀ : Platforms (List (Step DeskStep)) → Prop} :
    Tended (fun _ => False) P R₀ :=
  ⟨fun _ _ _ _ _ h => h.elim, fun _ _ _ _ _ h => h.elim, fun _ _ _ _ _ _ h => h.elim⟩

theorem polite_anything (fuel : Nat) :
    @Polite _ _ (deskHooks fuel) AtDesk (fun _ => False) (fun _ _ => True) Anything
      fun _ => True :=
  polite_deskHooks ⟨fun _ _ h => h.elim, fun _ _ => trivial, fun _ _ => trivial,
    fun _ _ _ _ _ _ _ => trivial⟩ (fun _ _ _ _ _ _ _ => trivial)
    (fun fuel _ => @tended_nothing (deskHooks fuel) _ _) fuel

theorem polite_unseated (fuel : Nat) :
    @Polite _ _ (deskHooks fuel) AtDesk (fun _ => False) (fun u c => ¬(u = t ∧ c = context))
      (Unseated t context) (Made t context) := by
  refine polite_deskHooks ⟨fun _ _ h => h.elim, fun _ h => h, fun halike _ n slot e hslot he =>
    halike.seats n slot e hslot he id, fun h n slot e hslot he _ => h n slot e hslot he⟩
    (fun v hv u p hp c hnumber => ?_) (fun fuel _ => @tended_nothing (deskHooks fuel) _ _) fuel
  rintro ⟨rfl, rfl⟩
  obtain ⟨p', hp', hlt⟩ := hv
  cases hp.symm.trans hp'
  omega

abbrev InSession (serial : Nat) (m : DeskScene) : Prop :=
  Kept AtDesk Anything (fun _ => True) serial m

theorem lasting_true : Platforms.Lasting fun _ : Platforms (List (Step DeskStep)) => True :=
  fun _ _ _ _ _ => trivial

theorem inSession_deskAfter {fuel : Nat} {steps : List (Step DeskStep)} (hsteps : AtDesk steps)
    (hm : InSession serial m) : InSession serial (deskAfter fuel steps m) :=
  kept_deskAfter (polite_anything fuel) (@tended_nothing (deskHooks fuel) _ _) lasting_true
    (fun _ _ => trivial) hsteps hm

theorem inSession_deskOpening : InSession 0 deskOpening :=
  ⟨seated_deskOpening, trivial, trivial⟩

/-- No place has a context that was just made. -/
theorem createContext_unseated (fuel : Nat) (hR : Platforms.Lasting R) {device : Ident .device}
    (hm : Kept AtDesk Anything R serial m) :
    (@Machine.drive _ _ _ (deskHooks fuel) (Simulator.createContext device)).Leads m
      (fun context => Kept AtDesk (Unseated serial context)
        (fun v => R v ∧ True ∧ Made serial context v) serial)
      (fun _ => Kept AtDesk Anything R serial) (Kept AtDesk Anything R serial) := by
  refine (@made_leads _ _ _ _ _ _ _ _ _ (deskHooks fuel) _ _ (polite_anything fuel) hR
    (fun _ _ => trivial) (fun _ _ _ _ _ _ => trivial) .context _ (Command.grows _) (by nofun)
    (fun s => ?_) hm).imp fun context m' ⟨⟨found, hfound, hhost, hnumber⟩, hm'⟩ => ?_
  · exact Simulator.createContext_leads (fun _ => trivial) ⟨rfl, rfl⟩
  · refine ⟨hm'.seated, ?_, hm'.platforms.1, trivial, hm'.platforms.2⟩
    rintro n slot e hslot he ⟨hhome, hcontext⟩
    obtain ⟨p, hp, hlt, -⟩ := hfound.seated.homes n slot e (hhost ▸ hslot) he
    rw [hhome] at hp
    cases hp.symm.trans hfound.platform?
    rw [hcontext] at hlt
    omega

/-- What stands from when the context was made until the kernel is submitted. -/
theorem withstands_unseated (fuel : Nat) (hR : Platforms.Lasting R) (context : Ident .context) :
    @Withstands _ _ (deskHooks fuel) (fun _ => True)
      (Kept AtDesk (Unseated serial context) (fun v => R v ∧ True ∧ Made serial context v) serial)
      (Kept AtDesk Anything R serial)
      fun _ event => Kept AtDesk (Unseated serial context) (fun v =>
        (R v ∧ True ∧ Made serial context v) ∧
          True ∧ ∃ p, v serial = some p ∧ event.number < p.driver.nextNumber) serial := by
  let := deskHooks fuel
  have hooks := @polite_unseated serial context fuel
  have hmade := hR.made serial context.number True
  have hsub : ∀ v, R v ∧ True ∧ Made serial context v → Made serial context v := fun _ h => h.2.2
  have hcut : ∀ (d : Desk Stage) history (mo : Moment),
      mo.Spares (fun u c => ¬(u = serial ∧ c = context)) → mo.verdict = .cutOff →
      Unseated serial context d history → Unseated serial context d (mo :: history) :=
    fun _ _ _ _ _ h => h
  have hback : ∀ m : DeskScene, Kept AtDesk (Unseated serial context)
      (fun v => R v ∧ True ∧ Made serial context v) serial m → Kept AtDesk Anything R serial m :=
    fun _ hm => hm.mono (fun _ _ _ => trivial) fun _ h => h.1
  have hstands := (withstands hooks hmade hsub hcut).weaken hback
    fun hbeside hm => hm.beside hR hbeside
  refine ⟨hstands.beside, hstands.besideCut, fun {_ event} _ _ hbeside hm => ?_, hstands.drive,
    fun {context'} _ m hm => ?_, hstands.copy, fun hm => ?_⟩
  · exact hm.beside (hmade.made serial event.number True) hbeside
  · -- Destroying a context does not put an execution in a place.
    refine (Desk.drive_leads hooks hmade hsub hcut (fun m hm => ?_) hm).mono (fun _ _ h => h)
      (fun _ _ h => h) hback
    refine handle_destroyContext_leads hm.seated.inUse fun verdict s hs _ _ => ?_
    have hm' : Kept AtDesk (Unseated serial context)
        (fun v => R v ∧ True ∧ Made serial context v) serial
        (m.handled .destroyContext verdict s) := hm.handled hmade hs hm.desk
    exact ⟨hm', fun _ => hm'⟩
  · refine (runProgram_leads hooks hmade hsub hcut hm).mono (fun event m' hm' => ?_)
      (fun _ _ h => h) hback
    exact hm'.mono (fun _ _ h => h) fun _ h => ⟨h.1, trivial, h.2⟩

/-- A launch of a runtime gives an execution that no place has. -/
theorem runtime_launch_unseated (fuel : Nat) (hR : Platforms.Lasting R) {image : Image}
    {q : LaunchRequest} (hm : Kept AtDesk Anything R serial m) :
    (@Launch.launch _ _ (deskHooks fuel) image q).Leads m
      (fun e => Kept AtDesk (Unseated e.home e.context) (fun v => R v ∧ v.Knows e) serial)
      (fun _ => Kept AtDesk Anything R serial) (Kept AtDesk Anything R serial) := by
  let := deskHooks fuel
  refine (Launch.launch_leads_on
    (withstands (polite_anything fuel) hR (fun _ _ => trivial) fun _ _ _ _ _ _ => trivial)
    (withstands_unseated fuel hR) (fun device m hm => ?_)
    (fun context m hm => hm.mono (fun _ _ _ => trivial) fun _ h => h.1) hm).imp
    fun e m' ⟨⟨m₁, h₁, hserial⟩, hm'⟩ => ?_
  · exact (createContext_unseated fuel hR hm).imp fun _ _ h => ⟨trivial, h⟩
  · have hhome : e.home = serial := hserial.trans h₁.seated.inUse
    rw [← hhome] at hm' ⊢
    refine hm'.mono (fun _ _ h => h) fun v hv => ?_
    obtain ⟨⟨hRv, -, p, hp, hcontext⟩, -, p', hp', hevent⟩ := hv
    cases hp.symm.trans hp'
    exact ⟨hRv, p, hp, hcontext, hevent⟩

/-- The answer of a launch by handle: the execution is in the place of the handle and in no
    other. -/
theorem runStreamAsync_registers (fuel : Nat) {q : StreamRequest} (hm : InSession serial m) :
    (@runStreamAsync _ _ (deskHooks fuel) q).Leads m
      (fun handle m' => ∃ e, Platforms.Knows m'.platform? e ∧ InSession serial m' ∧
        m'.host.slots.get? handle = some ⟨some e, false⟩ ∧ handle < m'.host.nextHandle ∧
        ∀ n slot e', m'.host.slots.get? n = some slot → slot.execution = some e' → n ≠ handle →
          ¬(e'.home = e.home ∧ e'.context = e.context))
      (fun _ => InSession serial) (InSession serial) := by
  let := deskHooks fuel
  unfold runStreamAsync freshHandle desk
  refine .bind (launch_leads_to (A := fun e => Unseated e.home e.context) (B := fun e v => v.Knows e)
    (polite_anything fuel) lasting_true (fun _ _ => trivial) (fun _ _ _ _ h => h)
    (fun t R hR _ image request m hm => runtime_launch_unseated fuel hR hm) hm)
    fun e m₁ h₁ => ?_
  simp only [leads_bind, leads_get, leads_pure, leads_modify,
    leads_log]
  have hknown : Kept AtDesk Anything (fun v => True ∧ Hosted (fun _ _ => True) e v) serial m₁ :=
    h₁.mono (fun _ _ _ => trivial) fun _ h => ⟨trivial, trivial, h.2⟩
  have hregistered := Kept.register (polite_anything fuel).fit hknown
  refine ⟨e, hregistered.platforms.2.2, (hregistered.mono (fun _ _ h => h) fun _ _ => trivial).beside
    lasting_true .journal, Assoc.get?_set_self .., Nat.lt_succ_self _, fun n slot e' hslot he' hn => ?_⟩
  change (m₁.host.slots.set m₁.host.nextHandle _).get? n = some slot at hslot
  rw [Assoc.get?_set_of_ne _ _ (Ne.symm hn)] at hslot
  exact h₁.desk n slot e' hslot he'

end StreamCompute.Scenario
