/-
  StreamCompute.Proofs.DeskCalls

  What every call at a desk keeps. A call looks objects up, lets a runtime do
  something, and registers or forgets handles; it does not touch the places of
  handles that are one's own, and it puts only foreign executions in others.
-/
import StreamCompute.Proofs.DeskStanding
import StreamCompute.Proofs.DeskWalk

namespace StreamCompute.Desk

open Fallible

variable {κ ρ α β ε : Type} [Reentry κ (Desk ρ)] {allowed : κ → Prop} {own : Nat → Prop}
  {foreign : Nat → Ident .context → Prop} {P : Desk ρ → List Moment → Prop}
  {R R₀ : Platforms κ → Prop} {serial t : Nat} {m : Machine κ (Desk ρ)} {call : String}
  (hooks : Polite allowed own foreign P R₀) (hR : Platforms.Lasting R) (hsub : ∀ v, R v → R₀ v)

/-! ## Places of executions -/

section Places

omit [Reentry κ (Desk ρ)]

/-- What is launched is foreign, on a platform that is known. -/
def Hosted (foreign : Nat → Ident .context → Prop) (e : Execution) (v : Platforms κ) : Prop :=
  foreign e.home e.context ∧ v.Knows e

theorem Kept.forget {e : Execution}
    (hm : Kept allowed P (fun v => R v ∧ Hosted foreign e v) serial m) :
    Kept allowed P R serial m :=
  hm.mono (fun _ _ h => h) fun _ h => h.1

/-- A foreign execution gets a place under a new handle. -/
theorem Kept.register {e : Execution}
    (hfit : Fit own foreign P) (hm : Kept allowed P (fun v => R v ∧ Hosted foreign e v) serial m) :
    Kept allowed P (fun v => R v ∧ Hosted foreign e v) serial
      (Desk.onDesk (fun d => { d with
        nextHandle := d.nextHandle + 1
        slots := d.slots.set d.nextHandle { execution := some e } }) m) := by
  have hown : ∀ n, own n → n < m.host.nextHandle := hfit.issued hm.desk
  refine hm.onDesk hfit (Nat.le_succ _) rfl (fun _ h => h) (fun n hn => ?_)
    fun n slot hslot => ?_
  · exact Assoc.get?_set_of_ne _ _ (Nat.ne_of_gt (hown n hn))
  · dsimp only at hslot ⊢
    rcases Assoc.of_get?_set hslot with ⟨rfl, rfl⟩ | ⟨-, hslot⟩
    · refine ⟨Nat.lt_succ_self _, fun e' he' => ?_⟩
      cases he'
      exact ⟨hm.platforms.2.2, fun _ => hm.platforms.2.1⟩
    · exact ⟨Nat.lt_succ_of_lt (hm.seated.handles n slot hslot), fun e' he' =>
        ⟨hm.seated.homes n slot e' hslot he', hfit.seats hm.desk n slot e' hslot he'⟩⟩

/-- The place of a handle that is not one's own is changed. -/
theorem Kept.onSlot (hm : Kept allowed P R serial m)
    (hfit : Fit own foreign P) {handle : Nat} (hhandle : ¬ own handle) {f : Slot → Slot}
    (hf : ∀ slot e, m.host.slots.get? handle = some slot → (f slot).execution = some e →
      slot.execution = some e ∨ Hosted foreign e m.platform?) :
    Kept allowed P R serial (Desk.onSlot handle f m) := by
  unfold Desk.onSlot
  cases hslot : m.host.slots.get? handle with
  | none =>
    refine hm.onTables hfit ?_ ?_ ?_ ?_ <;> simp [hslot]
  | some slot =>
    refine hm.onDesk hfit ?_ ?_ ?_ (fun n hn => ?_) fun n slot' hslot' => ?_
    · simp [hslot]
    · simp [hslot]
    · simp [hslot]
    · have hne : handle ≠ n := fun h => hhandle (h ▸ hn)
      simp only [hslot]
      exact Assoc.get?_set_of_ne _ _ hne
    · simp only [hslot] at hslot' ⊢
      rcases Assoc.of_get?_set hslot' with ⟨rfl, rfl⟩ | ⟨-, hslot'⟩
      · refine ⟨hm.seated.handles handle slot hslot, fun e he => ?_⟩
        rcases hf slot e hslot he with he | he
        · exact ⟨hm.seated.homes handle slot e hslot he, fun _ =>
            hfit.seats hm.desk handle slot e hslot he hhandle⟩
        · exact ⟨he.2, fun _ => he.1⟩
      · exact ⟨hm.seated.handles n slot' hslot', fun e he =>
          ⟨hm.seated.homes n slot' e hslot' he, hfit.seats hm.desk n slot' e hslot' he⟩⟩

theorem Kept.retire (hm : Kept allowed P R serial m)
    (hfit : Fit own foreign P) {handle : Nat} (hhandle : ¬ own handle) :
    Kept allowed P R serial (Desk.retire handle m) := by
  refine hm.onDesk hfit (Nat.le_refl _) rfl (fun _ h => h) (fun n hn => ?_)
    fun n slot hslot => ?_
  · have hne : handle ≠ n := fun h => hhandle (h ▸ hn)
    rw [Assoc.get?_erase, if_neg hne]
  · dsimp only at hslot
    obtain ⟨-, hslot⟩ := Assoc.of_get?_erase hslot
    exact ⟨hm.seated.handles n slot hslot, fun e he =>
      ⟨hm.seated.homes n slot e hslot he, hfit.seats hm.desk n slot e hslot he⟩⟩

end Places

/-! ## Small steps -/

omit [Reentry κ (Desk ρ)] in
theorem platform_leads (hm : Kept allowed P R serial m) :
    (platform call).Leads m
      (fun t m' => (∃ p, m'.platform? t = some p) ∧ Kept allowed P R serial m')
      (fun _ => Kept allowed P R serial) (Kept allowed P R serial) := by
  unfold platform desk
  simp only [leads_bind, leads_get, leads_pure]
  split
  · exact ⟨hm.seated.installed _ ‹_›, hm⟩
  · exact hm

include hooks hR hsub

/-- Nothing that calls do beside the places of executions matters. -/
theorem kept_unconcerned : Unconcerned (Kept allowed P R serial : Machine κ (Desk ρ) → Prop) where
  journal hm := hm.beside hR .journal
  tables h hm := hm.onTables hooks.fit h.slots h.handles h.serials h.installed
  written hm := hm.onDriverOf hR fun s => by
    unfold Memory.changed
    split <;> exact .same rfl rfl
  platform h := withPlatform_keeps hR hsub fun R t hR hsub => .attempt <| h <|
    withstands hooks hR hsub fun _ _ _ hspares _ => hooks.fit.called hspares

/-! ## Launching -/

theorem runtime_launch_leads {image : Image} {q : LaunchRequest}
    (hm : Kept allowed P R serial m) :
    (Launch.launch image q).Leads m
      (fun e => Kept allowed P (fun v => R v ∧ Hosted foreign e v) serial)
      (fun _ => Kept allowed P R serial) (Kept allowed P R serial) := by
  have hcalled : ∀ d history mo, mo.Spares foreign → mo.verdict = .cutOff → P d history →
      P d (mo :: history) := fun _ _ _ hspares _ => hooks.fit.called hspares
  -- From when it is made on, the context is known to be foreign.
  let made (context : Ident .context) (v : Platforms κ) : Prop := R v ∧ foreign serial context ∧
    ∃ p, v serial = some p ∧ context.number < p.driver.nextNumber
  have hmade : ∀ context, Platforms.Lasting (made context) := fun context =>
    hR.made serial context.number _
  have hback : ∀ context m, Kept allowed P (made context) serial m → Kept allowed P R serial m :=
    fun _ _ hm => hm.mono (fun _ _ h => h) fun _ h => h.1
  have hknown : ∀ context, Withstands (foreign serial) (Kept allowed P (made context) serial)
      (Kept allowed P R serial) fun _ event => Kept allowed P (fun v => made context v ∧
        True ∧ ∃ p, v serial = some p ∧ event.number < p.driver.nextNumber) serial := by
    intro context
    have hstands := (withstands hooks (hmade context) (fun v hv => hsub v hv.1) hcalled).weaken
      (hback context) fun hbeside hm => hm.beside hR hbeside
    refine ⟨hstands.beside, hstands.besideCut, fun {_ event} _ _ hbeside hm => ?_, hstands.drive,
      hstands.destroy, hstands.copy, fun hm => ?_⟩
    · exact hm.beside ((hmade context).made serial event.number _) hbeside
    · refine (runProgram_leads hooks (hmade context) (fun v hv => hsub v hv.1) hcalled hm).mono
        (fun event m' hm' => ?_) (fun _ _ h => h) fun _ h => hback context _ h
      exact hm'.mono (fun _ _ h => h) fun _ h => ⟨h.1, trivial, h.2⟩
  have hcreate : ∀ device m, Kept allowed P R serial m →
      (Machine.drive (Simulator.createContext device)).Leads m
        (fun context m' => foreign serial context ∧ Kept allowed P (made context) serial m')
        (fun _ => Kept allowed P R serial) (Kept allowed P R serial) := fun _ _ hm =>
    (createContext_leads hooks hR hsub hcalled hm).imp fun _ _ h => ⟨h.platforms.2.1, h⟩
  refine (Launch.launch_leads_on (withstands hooks hR hsub hcalled) hknown hcreate hback
    hm).imp fun e m' ⟨⟨m₁, h₁, hserial⟩, hm'⟩ => ?_
  have hhome : e.home = serial := hserial.trans h₁.seated.inUse
  refine hm'.mono (fun _ _ h => h) fun v hv => ?_
  obtain ⟨⟨hRv, hforeign, p, hp, hcontext⟩, -, p', hp', hevent⟩ := hv
  cases hp.symm.trans hp'
  rw [← hhome] at hp hforeign
  exact ⟨hRv, hforeign, p, hp, hcontext, hevent⟩

/-- A launch at the desk leads where the runtime's launch does. -/
theorem launch_leads_to {A : Execution → Desk ρ → List Moment → Prop}
    {B : Execution → Platforms κ → Prop} {q : StreamRequest}
    (hA : ∀ e d history held, A e d history → A e { d with held } history)
    (hruntime : ∀ t R, Platforms.Lasting R → (∀ v, R v → R₀ v) → ∀ image request m,
      Kept allowed P R t m → (Launch.launch image request).Leads m
        (fun e => Kept allowed (A e) (fun v => R v ∧ B e v) t) (fun _ => Kept allowed P R t)
        (Kept allowed P R t)) (hm : Kept allowed P R serial m) :
    (launch call q).Leads m (fun e => Kept allowed (A e) (fun v => R v ∧ B e v) serial)
      (fun _ => Kept allowed P R serial) (Kept allowed P R serial) := by
  have hP : ∀ d history held, P d history → P { d with held } history := fun _ _ _ h =>
    hooks.fit.held h
  have hheld : ∀ {P : Desk ρ → List Moment → Prop} {R : Platforms κ → Prop}
      {m : Machine κ (Desk ρ)} {f : Desk ρ → List Nat},
      (∀ d history held, P d history → P { d with held } history) →
      Kept allowed P R serial m →
      Kept allowed P R serial (onDesk (fun d => { d with held := f d }) m) := fun hP hm =>
    ⟨{ hm.seated with }, hP _ _ _ hm.desk, hm.platforms⟩
  unfold launch desk
  refine .bind (platform_leads hm) fun t m₁ ⟨ht, h₁⟩ => ?_
  simp only [leads_bind, leads_get, leads_pure]
  split
  · exact h₁
  · rw [leads_bind, leads_modify, leads_ensuring]
    -- The image is held from here to the end of the launch, however that ends.
    have hback : ∀ {m' : Machine κ (Desk ρ)} {f : Desk ρ → List Nat},
        Kept allowed P (fun v => R v ∧ ∃ p, v t = some p) serial m' →
        Kept allowed P R serial (onDesk (fun d => { d with held := f d }) m') := fun h =>
      hheld hP (h.mono (fun _ _ h => h) fun _ h => h.1)
    have hsetup : Keeps allowed P (fun v => R v ∧ ∃ p, v t = some p) serial (do
        let device ← onRuntime t call (Devices.get q.device)
        let table ← bindings call q
        return (device, table)) :=
      .bind ((kept_unconcerned hooks (hR.known t) fun v hv => hsub v hv.1).onRuntime
        fun h => Devices.get_stands h.aside) fun _ => .bind (bindings_keeps .same) fun _ => .pure
    have h₂ := hsetup _ (hheld (f := fun d => q.image :: d.held) hP
      (⟨h₁.seated, h₁.desk, h₁.platforms, ht⟩ : Kept allowed P _ serial m₁))
    unfold launchImage
    simp only [leads_bind, leads_pure] at h₂ ⊢
    refine h₂.mono (fun device m₂ h₂ => h₂.mono (fun table m₃ h₃ => ?_)
      (fun _ _ => hback) fun _ => hback) (fun _ _ => hback) fun _ => hback
    refine (onRuntime_leads (A := A) (B := fun e v => (R v ∧ ∃ p, v t = some p) ∧ B e v)
      h₃.platforms.2 (fun m hm => ?_) h₃).mono (fun e m' hm' => ?_) (fun _ _ => hback)
      fun _ => hback
    · refine (hruntime t _ ((hR.known t).known serial) (fun v hv => hsub v hv.1.1) _ _ m hm).imp
        fun e _ hm' => ?_
      exact hm'.mono (fun _ _ h => h) fun v hv => ⟨⟨hv.1.1, hv.2⟩, hv.1.2⟩
    · exact hheld (hA e) (hm'.mono (fun _ _ h => h) fun v hv => ⟨hv.1.1, hv.2⟩)

theorem launch_leads {q : StreamRequest} (hm : Kept allowed P R serial m) :
    (launch call q).Leads m
      (fun e => Kept allowed P (fun v => R v ∧ Hosted foreign e v) serial)
      (fun _ => Kept allowed P R serial) (Kept allowed P R serial) :=
  launch_leads_to (A := fun _ => P) hooks hR hsub (fun _ _ _ _ h => hooks.fit.held h)
    (fun _ _ hR hsub _ _ _ hm => runtime_launch_leads hooks hR hsub hm) hm

/-- A foreign execution is worked on, on its platform. -/
theorem execution_keeps {e : Execution} {task : Task κ (Desk ρ) α}
    (h : foreign e.home e.context → ∀ R, Withstands (foreign e.home) (Kept allowed P R e.home)
      (Kept allowed P R e.home) (fun _ _ => Kept allowed P R e.home) →
      Keeps allowed P R e.home task) :
    Keeps allowed P (fun v => R v ∧ Hosted foreign e v) serial (onRuntime e.home call task) := by
  intro m hm
  obtain ⟨-, hforeign, p, hp, -⟩ := hm.platforms
  exact onRuntime_keeps (hR.knows e _) (fun v hv => hsub v hv.1)
    (lawful hooks (h hforeign)) ⟨p, hp⟩ hm

omit hooks hR hsub in
theorem joinWithin_keeps {e : Execution} (he : foreign e.home e.context) {R : Platforms κ → Prop}
    (h : Withstands (foreign e.home) (Kept allowed P R e.home) (Kept allowed P R e.home)
      fun _ _ => Kept allowed P R e.home) {limit : Option Nat} :
    Keeps allowed P R e.home (e.joinWithin limit) :=
  Execution.joinWithin_stands h.joins (h.destroy he)

omit hooks hR hsub in
theorem join_keeps {e : Execution} (he : foreign e.home e.context) {R : Platforms κ → Prop}
    (h : Withstands (foreign e.home) (Kept allowed P R e.home) (Kept allowed P R e.home)
      fun _ _ => Kept allowed P R e.home) :
    Keeps allowed P R e.home e.join :=
  Execution.join_stands (joinWithin_keeps he h)

theorem runStream_keeps {q : StreamRequest} :
    Keeps allowed P R serial (runStream q : DeskTask κ ρ Summary) := by
  intro m hm
  unfold runStream
  refine .bind (launch_leads hooks hR hsub hm) fun e m₁ h₁ => ?_
  exact (execution_keeps hooks hR hsub (fun he _ h => join_keeps he h) m₁ h₁).mono
    (fun _ _ h => h.forget) (fun _ _ h => h.forget) fun _ h => h.forget

theorem runStreamAsync_keeps {q : StreamRequest} :
    Keeps allowed P R serial (runStreamAsync q : DeskTask κ ρ Nat) := by
  intro m hm
  unfold runStreamAsync freshHandle desk
  refine .bind (launch_leads hooks hR hsub hm) fun e m₁ h₁ => ?_
  simp only [leads_bind, leads_get, leads_pure, leads_modify,
    leads_log]
  exact ((h₁.register hooks.fit).beside (hR.knows e _) .journal).forget

/-! ## Joining under a handle that is not one's own -/

variable {handle : Nat} (hhandle : ¬ own handle)

omit hooks hR hsub in
omit [Reentry κ (Desk ρ)] in
/-- Looking a handle up changes nothing, but for a warning that may be logged. -/
theorem occupant_reads : (occupant call handle).Leads m
    (fun e m' => (∃ journal, m' = { m with journal }) ∧
      ∃ slot, m.host.slots.get? handle = some slot ∧ slot.execution = some e)
    (fun _ m' => (∃ journal, m' = { m with journal }) ∧
      ∀ slot, m.host.slots.get? handle = some slot → slot.execution = none) fun _ => False := by
  unfold occupant desk
  simp only [leads_bind, leads_get, leads_pure]
  cases hslot : m.host.slots.get? handle with
  | none => exact ⟨⟨_, rfl⟩, by simp⟩
  | some slot =>
    dsimp only
    cases he : slot.execution with
    | none =>
      have hnone : ∀ slot', some slot = some slot' → slot'.execution = none := by
        intro slot' hslot'
        cases hslot'
        exact he
      split
      · exact ⟨⟨_, rfl⟩, hnone⟩
      · exact ⟨⟨m.journal, rfl⟩, hnone⟩
    | some e =>
      split
      · exact ⟨⟨_, rfl⟩, slot, rfl, he⟩
      · exact ⟨⟨m.journal, rfl⟩, slot, rfl, he⟩

omit hooks hR hsub in
omit [Reentry κ (Desk ρ)] in
theorem occupant_finds : (occupant call handle).Leads m
    (fun e m' => m.Beside m' ∧ ∃ slot, m.host.slots.get? handle = some slot ∧
      slot.execution = some e)
    (fun _ m' => m.Beside m' ∧ ∀ slot, m.host.slots.get? handle = some slot →
      slot.execution = none) fun _ => False := by
  have hbeside : ∀ {m' : Machine κ (Desk ρ)}, (∃ journal, m' = { m with journal }) →
      m.Beside m' := by
    rintro _ ⟨journal, rfl⟩
    exact .journal
  exact occupant_reads.mono (fun _ _ h => ⟨hbeside h.1, h.2⟩) (fun _ _ h => ⟨hbeside h.1, h.2⟩)
    fun _ h => h

omit hsub in
include hhandle in
/-- In the place of another handle there is a foreign execution. -/
theorem occupant_leads (hm : Kept allowed P R serial m) :
    (occupant call handle).Leads m
      (fun e => Kept allowed P (fun v => R v ∧ Hosted foreign e v) serial)
      (fun _ => Kept allowed P R serial) (Kept allowed P R serial) := by
  refine occupant_finds.mono (fun e m' ⟨hbeside, slot, hslot, he⟩ => ?_)
    (fun _ _ h => hm.beside hR h.1) fun _ h => h.elim
  have hm' := hm.beside hR hbeside
  rw [← hbeside.host] at hslot
  exact ⟨hm'.seated, hm'.desk, hm'.platforms, hooks.fit.seats hm'.desk handle slot e hslot he
    hhandle, hm'.seated.homes handle slot e hslot he⟩

omit hR hsub in
include hhandle in
theorem holding_keeps {task : DeskTask κ ρ α} (htask : Keeps allowed P R serial task) :
    Keeps allowed P R serial (holding handle task) := by
  intro m hm
  unfold holding
  rw [leads_mk, Act.leads_onCutOff, leads_run]
  exact (htask m hm).mono (fun _ _ h => h) (fun _ _ h => h) fun _ h =>
    h.onSlot hooks.fit hhandle fun _ _ _ he => .inl he

include hhandle

theorem pollStream_keeps : Keeps allowed P R serial (pollStream handle : DeskTask κ ρ Bool) := by
  intro m hm
  unfold pollStream
  refine .bind (occupant_leads hooks hR hhandle hm) fun e m₁ h₁ => ?_
  exact (holding_keeps hooks hhandle (execution_keeps hooks hR hsub
    fun _ _ h => h.isComplete) m₁ h₁).mono
    (fun _ _ h => h.forget) (fun _ _ h => h.forget) fun _ h => h.forget

theorem joinStream_keeps :
    Keeps allowed P R serial (joinStream handle : DeskTask κ ρ Summary) := by
  intro m hm
  unfold joinStream
  refine .bind (occupant_leads hooks hR hhandle hm) fun e m₁ h₁ => ?_
  rw [leads_bind, leads_modify]
  exact (execution_keeps hooks hR hsub (fun he _ h => join_keeps he h) _
    (h₁.retire hooks.fit hhandle)).mono (fun _ _ h => h.forget) (fun _ _ h => h.forget)
    fun _ h => h.forget

theorem joinStreamWithin_keeps {micros : Nat} :
    Keeps allowed P R serial (joinStreamWithin handle micros : DeskTask κ ρ (Option Summary)) := by
  intro m hm
  unfold joinStreamWithin
  refine .bind (occupant_leads hooks hR hhandle hm) fun e m₁ h₁ => ?_
  rw [leads_bind, leads_modify, leads_bind, leads_perform,
    leads_attempt]
  have htaken := h₁.onSlot hooks.fit hhandle (f := fun slot => { slot with execution := none })
    fun _ _ _ he => nomatch he
  refine (holding_keeps hooks hhandle (execution_keeps hooks hR hsub
    fun he _ h => joinWithin_keeps he h) _ htaken).mono
    (fun summary m₂ h₂ => ?_) (fun _ m₂ h₂ => ?_) fun _ h => h.forget
  · cases summary with
    | none =>
      rw [leads_bind, leads_modify]
      refine (h₂.onSlot hooks.fit hhandle fun slot e' _ he' => ?_).forget
      cases he'
      exact .inr h₂.platforms.2
    | some summary =>
      rw [leads_bind, leads_modify]
      exact (h₂.retire hooks.fit hhandle).forget
  · rw [leads_bind, leads_modify]
    exact (h₂.retire hooks.fit hhandle).forget

omit hhandle

/-! ## Installing -/

omit hsub in
theorem install_keeps {spec : Spec} {config : Config} :
    (install { spec } config).Upholds
      (Kept allowed P R serial) (Kept allowed P R serial) := by
  intro m hm
  -- Serials are given out in order, so no platform has the new one yet.
  have hfresh : m.platform? m.host.nextSerial = none := by
    cases hp : m.platform? m.host.nextSerial with
    | none => rfl
    | some p => exact absurd (hm.seated.issued _ p hp) (Nat.lt_irrefl _)
  have hserial : serial < m.host.nextSerial := hm.seated.issued serial _ hm.platform?
  let fresh : Platform κ := { serial := m.host.nextSerial, driver := { spec }, config }
  let m' : Machine κ (Desk ρ) := { m with
    parked := m.parked.set m.host.nextSerial fresh
    host := { m.host with
      installed := some m.host.nextSerial
      latest := some m.host.nextSerial
      nextSerial := m.host.nextSerial + 1 } }
  -- The new platform is parked; the others are seen as before.
  have hview : ∀ u, m'.platform? u =
      if m.host.nextSerial = u then some fresh else m.platform? u := by
    intro u
    show (if m.platform.serial = u then some m.platform else
      (m.parked.set m.host.nextSerial fresh).get? u) = _
    rw [Assoc.get?_set]
    unfold Machine.platform?
    by_cases hu : m.host.nextSerial = u
    · rw [if_pos hu, if_pos hu, if_neg]
      rw [hm.seated.inUse, ← hu]
      exact Nat.ne_of_lt hserial
    · rw [if_neg hu, if_neg hu]
  have honward : Platforms.Onward m.platform? m'.platform? := by
    intro u p hp
    refine ⟨p, ?_, .same rfl rfl⟩
    rw [hview, if_neg]
    · exact hp
    · rintro rfl
      cases hfresh.symm.trans hp
  have hm' : Kept allowed P R serial m' := by
    refine ⟨⟨hm.seated.inUse, fun u p hp => ?_, fun u p hp => ?_, fun u p hp => ?_, fun u p hp => ?_,
      fun u hu => ?_, hm.seated.handles, fun n slot e hslot he => ?_⟩, ?_,
      hR _ _ hm.seated.tokens honward hm.platforms⟩
    · change (m.parked.set m.host.nextSerial fresh).get? u = some p at hp
      rcases Assoc.of_get?_set hp with ⟨rfl, rfl⟩ | ⟨-, hp⟩
      · exact ⟨rfl, Nat.ne_of_gt hserial⟩
      · exact hm.seated.parked u p hp
    · rw [hview] at hp
      split at hp
      · rename_i hu
        exact hu ▸ Nat.lt_succ_self _
      · exact Nat.lt_succ_of_lt (hm.seated.issued u p hp)
    · rw [hview] at hp
      split at hp
      · cases hp
        exact nofun
      · exact hm.seated.hooks u p hp
    · rw [hview] at hp
      split at hp
      · cases hp
        exact .nil
      · exact hm.seated.tokens u p hp
    · cases hu
      exact ⟨fresh, (hview _).trans (if_pos rfl)⟩
    · exact (hm.seated.homes n slot e hslot he).onward honward
    · exact hooks.fit.alike (d := m.host) ⟨Nat.le_refl _, fun _ _ => rfl,
        fun n slot e hslot he hn => hooks.fit.seats hm.desk n slot e hslot he hn⟩ hm.desk
  unfold install
  rw [Act.leads_bind, Act.leads_get]
  rw [Act.leads_bind, Act.leads_modify]
  split
  · exact hm'.beside hR .journal
  · exact hm'

end StreamCompute.Desk
