/-
  StreamCompute.Proofs.Finalization

  An execution that is registered at a desk is finalized exactly once. From
  when its handle is given out, an execution is in one of a few phases: it is
  in its place, it has been taken by a join that waits or takes it down, or it
  is gone. In each of them one knows what is in the place of the handle and how
  often the context of the execution was destroyed.

  Nobody but the join that has taken the execution can change a phase in which
  the place is empty, so these phases stand through whatever hooks do; that is
  the first step. With it, calls on the handle lead from one phase to the next,
  and being "registered, or gone and finalized" stands through everything.
-/
import StreamCompute.Proofs.DeskJoins
import StreamCompute.Proofs.DeskScenes

namespace StreamCompute

open Fallible

variable {κ ρ : Type}

/-- The call destroys the context of the execution. -/
def Execution.finalizes (e : Execution) (mo : Moment) : Bool :=
  mo.operation == .destroyContext && mo.serial == e.home &&
    mo.call? == some (.destroyContext e.context)

/-- How many of the calls destroy the context of the execution. -/
def Execution.finalizations (e : Execution) (calls : List Moment) : Nat :=
  calls.countP e.finalizes

namespace Desk

/-- Every context but that of the execution. -/
def Others (e : Execution) (t : Nat) (context : Ident .context) : Prop :=
  ¬(t = e.home ∧ context = e.context)

/-- The handle was given out, no other place has the execution, and `Q` holds of the place of the
    handle and of the calls since `base`. -/
structure Phase (handle : Nat) (e : Execution) (base : List Moment)
    (Q : Option Slot → List Moment → Prop) (d : Desk ρ) (history : List Moment) : Prop where
  issued : handle < d.nextHandle
  sole : ∀ n slot e', d.slots.get? n = some slot → slot.execution = some e' → n ≠ handle →
    Others e e'.home e'.context
  calls : ∃ calls, history = calls ++ base ∧ Q (d.slots.get? handle) calls

/-- The property of a place and of the calls does not depend on calls that spare the execution. -/
def Unmoved (e : Execution) (Q : Option Slot → List Moment → Prop) : Prop :=
  ∀ slot calls mo, e.finalizes mo = false → Q slot calls → Q slot (mo :: calls)

variable {handle : Nat} {e : Execution} {base : List Moment} {Q Q' : Option Slot → List Moment → Prop}
  {mo : Moment}

theorem finalizes_eq_false (hmo : mo.Spares (Others e)) : e.finalizes mo = false := by
  cases hf : e.finalizes mo with
  | false => rfl
  | true =>
    simp only [Execution.finalizes, Bool.and_eq_true, beq_iff_eq] at hf
    obtain ⟨⟨hop, hserial⟩, hcall⟩ := hf
    exact absurd ⟨hserial, rfl⟩ (hmo hop e.context hcall)

theorem fit_phase (hQ : Unmoved e Q) :
    Fit (· = handle) (Others e) (Phase handle e base Q : Desk ρ → List Moment → Prop) where
  issued := by
    rintro d history hP _ rfl
    exact hP.issued
  called := by
    intro d history mo hmo hP
    obtain ⟨calls, rfl, hcalls⟩ := hP.calls
    exact ⟨hP.issued, hP.sole, mo :: calls, rfl, hQ _ _ _ (finalizes_eq_false hmo) hcalls⟩
  alike := by
    intro d d' history halike hP
    obtain ⟨calls, hhistory, hcalls⟩ := hP.calls
    refine ⟨Nat.lt_of_lt_of_le hP.issued halike.next, halike.seats, calls, hhistory, ?_⟩
    rw [halike.places handle rfl]
    exact hcalls
  seats := fun hP => hP.sole

theorem Phase.mono {d : Desk ρ} {history : List Moment} (hP : Phase handle e base Q d history)
    (hQ : ∀ slot calls, Q slot calls → Q' slot calls) : Phase handle e base Q' d history := by
  obtain ⟨calls, hhistory, hcalls⟩ := hP.calls
  exact ⟨hP.issued, hP.sole, calls, hhistory, hQ _ _ hcalls⟩

/-- Contexts that are made later are others. -/
theorem fresh_others (v : Platforms κ) (hv : v.Knows e) (t : Nat) (p : Platform κ)
    (hp : v t = some p) (context : Ident .context)
    (hnumber : p.driver.nextNumber ≤ context.number) : Others e t context := by
  rintro ⟨rfl, rfl⟩
  obtain ⟨p', hp', hcontext, -⟩ := hv
  cases hp.symm.trans hp'
  omega

end Desk

namespace Scenario

open Desk

variable {handle : Nat} {e : Execution} {base : List Moment} {Q Q' : Option Slot → List Moment → Prop}
  {R R₀ : Platforms (List (Step DeskStep)) → Prop} {serial : Nat} {m : DeskScene} {call : String}

/-! ## Phases in which the place is empty -/

def Vacant (slot : Option Slot) : Prop :=
  ∀ s, slot = some s → s.execution = none

theorem occupant_vacant (hR : Platforms.Lasting R) (hQ : ∀ slot calls, Q slot calls → Vacant slot)
    (hm : Kept AtDesk (Phase handle e base Q) R serial m) :
    (occupant call handle).Leads m (fun _ _ => False)
      (fun _ => Kept AtDesk (Phase handle e base Q) R serial) fun _ => False := by
  refine occupant_finds.mono (fun e' m' ⟨hbeside, slot, hslot, he⟩ => ?_)
    (fun _ _ h => hm.beside hR h.1) fun _ h => h
  obtain ⟨calls, -, hcalls⟩ := hm.desk.calls
  cases (hQ _ _ hcalls slot hslot).symm.trans he

/-- Calls on a handle whose place is empty change nothing that matters. -/
theorem tended_vacant [Reentry (List (Step DeskStep)) (Desk Stage)]
    (hQ : ∀ slot calls, Q slot calls → Vacant slot) :
    Tended (· = handle) (Phase handle e base Q) R₀ := by
  have hvacant : ∀ {α call serial} {R : Platforms (List (Step DeskStep)) → Prop}
      {rest : Execution → DeskPlay α}, Platforms.Lasting R →
      Keeps AtDesk (Phase handle e base Q) R serial (occupant call handle >>= rest) := by
    intro α call serial R rest hR m hm
    rw [leads_bind]
    exact (occupant_vacant hR hQ hm).mono (fun _ _ h => h.elim) (fun _ _ h => h) fun _ h => h.elim
  refine ⟨?_, ?_, ?_⟩
  · rintro R hR - serial _ rfl
    exact hvacant hR
  · rintro R hR - serial _ rfl
    exact hvacant hR
  · rintro R hR - serial _ micros rfl
    exact hvacant hR

/-- Hooks keep every phase in which the place is empty. -/
theorem polite_vacant (hunmoved : Unmoved e Q) (hQ : ∀ slot calls, Q slot calls → Vacant slot)
    (fuel : Nat) : @Polite _ _ (deskHooks fuel) AtDesk (· = handle) (Others e) (Phase handle e base Q)
      (Platforms.Knows · e) :=
  polite_deskHooks (fit_phase hunmoved) fresh_others
    (fun fuel _ => @tended_vacant handle e base Q _ (deskHooks fuel) hQ) fuel

/-! ## The phases of an execution -/

def Holds (e : Execution) (slot : Option Slot) : Prop :=
  ∃ marked, slot = some ⟨some e, marked⟩

/-- The place is kept for a join that has taken the execution. -/
def Reserved (slot : Option Slot) : Prop :=
  ∃ marked, slot = some ⟨none, marked⟩

/-- Something is known of the place, and the execution was finalized so often. -/
def Counted (e : Execution) (place : Option Slot → Prop) (n : Nat) (slot : Option Slot)
    (calls : List Moment) : Prop :=
  place slot ∧ e.finalizations calls = n

/-- The execution was taken out of its place and was finalized at most once; exactly once, with the
    handle forgotten, if nothing was cut off. -/
def Over (e : Execution) (slot : Option Slot) (calls : List Moment) : Prop :=
  Vacant slot ∧ e.finalizations calls ≤ 1 ∧ (Quiet calls → Counted e (· = none) 1 slot calls)

/-- The execution is in its place and was not finalized, or it is over. -/
def Lifetime (e : Execution) (slot : Option Slot) (calls : List Moment) : Prop :=
  Counted e (Holds e) 0 slot calls ∨ Over e slot calls

theorem finalizations_cons_of_false {mo : Moment} {calls : List Moment}
    (hmo : e.finalizes mo = false) : e.finalizations (mo :: calls) = e.finalizations calls :=
  List.countP_cons_of_neg (by simp [hmo])

theorem finalizations_cons_of_call {mo : Moment} {calls : List Moment}
    (hop : mo.operation = .destroyContext) (hserial : mo.serial = e.home)
    (hcall : mo.call? = some (.destroyContext e.context)) :
    e.finalizations (mo :: calls) = e.finalizations calls + 1 :=
  List.countP_cons_of_pos (by simp [Execution.finalizes, hop, hserial, hcall])

theorem unmoved_counted {place : Option Slot → Prop} {n : Nat} : Unmoved e (Counted e place n) :=
  fun _ _ _ hmo h => ⟨h.1, (finalizations_cons_of_false hmo).trans h.2⟩

theorem unmoved_lifetime : Unmoved e (Lifetime e) := by
  intro slot calls mo hmo h
  have hcount : e.finalizations (mo :: calls) = e.finalizations calls :=
    finalizations_cons_of_false hmo
  rcases h with h | ⟨hvacant, hle, hquiet⟩
  · exact .inl (unmoved_counted slot calls mo hmo h)
  · refine .inr ⟨hvacant, hcount ▸ hle, fun hq => ?_⟩
    exact unmoved_counted slot calls mo hmo (hquiet fun mo' hmo' => hq mo' (List.mem_cons_of_mem _ hmo'))

/-- If a call is cut off while the place is empty, the execution may be lost. -/
theorem lifetime_of_cutOff {slot : Option Slot} {calls : List Moment} {mo : Moment}
    (hmo : mo.verdict = .cutOff) (hfinal : e.finalizes mo = false) (hvacant : Vacant slot)
    (hle : e.finalizations calls ≤ 1) : Lifetime e slot (mo :: calls) := by
  refine .inr ⟨hvacant, ?_, fun hq => absurd hmo (hq mo List.mem_cons_self)⟩
  rw [finalizations_cons_of_false hfinal]
  exact hle

/-- Phases of an empty place, before and after the execution is finalized. -/
theorem phase_cutOff {place : Option Slot → Prop} {n : Nat} (hn : n ≤ 1)
    (hplace : ∀ slot, place slot → Vacant slot) (d : Desk Stage) (history : List Moment)
    (mo : Moment) (hspares : mo.Spares (Others e)) (hmo : mo.verdict = .cutOff)
    (h : Phase handle e base (Counted e place n) d history) :
    Phase handle e base (Lifetime e) d (mo :: history) := by
  obtain ⟨calls, rfl, hslot, hcount⟩ := h.calls
  exact ⟨h.issued, h.sole, mo :: calls, rfl, lifetime_of_cutOff hmo (finalizes_eq_false hspares)
    (hplace _ hslot) (hcount ▸ hn)⟩

theorem phase_destroyed {place : Option Slot → Prop} {n : Nat} (d : Desk Stage)
    (history : List Moment) (mo : Moment) (hop : mo.operation = .destroyContext)
    (hserial : mo.serial = e.home) (hcall : mo.call? = some (.destroyContext e.context))
    (h : Phase handle e base (Counted e place n) d history) :
    Phase handle e base (Counted e place (n + 1)) d (mo :: history) := by
  obtain ⟨calls, rfl, hslot, hcount⟩ := h.calls
  refine ⟨h.issued, h.sole, mo :: calls, rfl, hslot, ?_⟩
  rw [finalizations_cons_of_call hop hserial hcall, hcount]

theorem vacant_none (slot : Option Slot) (h : slot = none) : Vacant slot := by
  rintro s rfl
  cases h

theorem vacant_reserved (slot : Option Slot) (h : Reserved slot) : Vacant slot := by
  rintro s rfl
  obtain ⟨marked, hs⟩ := h
  cases hs
  rfl

/-! ## Calls on the handle -/

/-- In the place there is no other execution. -/
theorem lifetime_only {slot : Option Slot} {calls : List Moment} (h : Lifetime e slot calls)
    (s : Slot) (e' : Execution) (hs : slot = some s) (he' : s.execution = some e') : e' = e := by
  rcases h with ⟨⟨marked, rfl⟩, -⟩ | ⟨hvacant, -⟩
  · cases hs
    cases he'
    rfl
  · cases (hvacant s hs).symm.trans he'

theorem reseated (hsub : ∀ v, R v → Platforms.Knows v e)
    (hm : Kept AtDesk (Phase handle e base Q) R serial m) {f : Desk Stage → Desk Stage}
    (hnext : (f m.host).nextHandle = m.host.nextHandle)
    (hserial : (f m.host).nextSerial = m.host.nextSerial)
    (hinstalled : (f m.host).installed = m.host.installed) (slot : Option Slot)
    (hslots : ∀ n, (f m.host).slots.get? n =
      if handle = n then slot else m.host.slots.get? n)
    (honly : ∀ s e', slot = some s → s.execution = some e' → e' = e)
    (hQ : ∀ calls, Q (m.host.slots.get? handle) calls → Q' slot calls) :
    Kept AtDesk (Phase handle e base Q') R serial (onDesk f m) := by
  -- One place changes, and what is in it afterwards is the execution or nothing.
  obtain ⟨calls, hhistory, hcalls⟩ := hm.desk.calls
  refine ⟨{ hm.seated with
    issued := fun t p hp => hserial.symm ▸ hm.seated.issued t p hp
    installed := fun t ht => hm.seated.installed t (hinstalled ▸ ht)
    handles := fun n s hs => ?_
    homes := fun n s e' hs he' => ?_ }, ⟨?_, fun n s e' hs he' hn => ?_, calls, hhistory, ?_⟩,
    hm.platforms⟩
  · change (f m.host).slots.get? n = some s at hs
    change n < (f m.host).nextHandle
    rw [hslots] at hs
    rw [hnext]
    split at hs
    · rename_i hn
      exact hn ▸ hm.desk.issued
    · exact hm.seated.handles n s hs
  · change (f m.host).slots.get? n = some s at hs
    rw [hslots] at hs
    split at hs
    · cases honly s e' hs he'
      exact hsub _ hm.platforms
    · exact hm.seated.homes n s e' hs he'
  · exact hnext.symm ▸ hm.desk.issued
  · change (f m.host).slots.get? n = some s at hs
    rw [hslots, if_neg (Ne.symm hn)] at hs
    exact hm.desk.sole n s e' hs he' hn
  · change Q' ((f m.host).slots.get? handle) calls
    rw [hslots, if_pos rfl]
    exact hQ calls hcalls

theorem reseated_retire (hsub : ∀ v, R v → Platforms.Knows v e)
    (hm : Kept AtDesk (Phase handle e base Q) R serial m)
    (hQ : ∀ slot calls, Q slot calls → Q' none calls) :
    Kept AtDesk (Phase handle e base Q') R serial (retire handle m) :=
  reseated hsub hm rfl rfl rfl none (fun _ => Assoc.get?_erase ..) nofun fun calls h => hQ _ calls h

theorem reseated_onSlot (hsub : ∀ v, R v → Platforms.Knows v e)
    (hm : Kept AtDesk (Phase handle e base Q) R serial m) {f : Slot → Slot}
    (honly : ∀ slot calls, Q slot calls → ∀ s e', slot.map f = some s → s.execution = some e' →
      e' = e)
    (hQ : ∀ slot calls, Q slot calls → Q' (slot.map f) calls) :
    Kept AtDesk (Phase handle e base Q') R serial (onSlot handle f m) := by
  obtain ⟨calls, -, hcalls⟩ := hm.desk.calls
  unfold onSlot
  cases hslot : m.host.slots.get? handle with
  | none =>
    rw [hslot] at hcalls
    refine reseated hsub hm ?_ ?_ ?_ none (fun n => ?_) nofun fun calls h => ?_
    · simp [hslot]
    · simp [hslot]
    · simp [hslot]
    · simp only [hslot]
      split
      · rename_i hn
        exact hn ▸ hslot
      · rfl
    · rw [hslot] at h
      exact hQ none calls h
  | some s =>
    rw [hslot] at hcalls
    refine reseated hsub hm ?_ ?_ ?_ (some (f s)) (fun n => ?_)
      (honly (some s) calls hcalls) fun calls h => ?_
    · simp [hslot]
    · simp [hslot]
    · simp [hslot]
    · simp only [hslot]
      exact Assoc.get?_set ..
    · rw [hslot] at h
      exact hQ (some s) calls h

/-- Marking the place of the handle loses nothing. -/
theorem lifetime_marked (slot : Option Slot) (calls : List Moment) (h : Lifetime e slot calls) :
    Lifetime e (slot.map fun slot => { slot with marked := true }) calls := by
  rcases h with ⟨⟨marked, rfl⟩, hcount⟩ | ⟨hvacant, hle, hquiet⟩
  · exact .inl ⟨⟨true, rfl⟩, hcount⟩
  · refine .inr ⟨?_, hle, fun hq => ?_⟩
    · cases slot with
      | none => exact nofun
      | some slot =>
        rintro s hs
        cases hs
        exact hvacant slot rfl
    · obtain ⟨rfl, hcount⟩ := hquiet hq
      exact ⟨rfl, hcount⟩

/-- Once finalized and gone, an execution stays so. -/
theorem lifetime_of_gone (slot : Option Slot) (calls : List Moment)
    (h : Counted e (· = none) 1 slot calls) : Lifetime e slot calls :=
  .inr ⟨vacant_none slot h.1, Nat.le_of_eq h.2, fun _ => h⟩

section Poll

variable [Reentry (List (Step DeskStep)) (Desk Stage)]
  (hooks : Polite AtDesk (· = handle) (Others e) (Phase handle e base Q : Desk Stage → _ → Prop)
    (Platforms.Knows · e))

include hooks in
/-- A poll keeps what its hooks keep, if marking the place does. -/
theorem pollStream_keeps_own (hR : Platforms.Lasting R)
    (hsub : ∀ v, R v → Platforms.Knows v e)
    (honly : ∀ slot calls, Q slot calls → ∀ s e', slot = some s → s.execution = some e' → e' = e)
    (hmarked : ∀ slot calls, Q slot calls →
      Q (slot.map fun slot => { slot with marked := true }) calls) :
    Keeps AtDesk (Phase handle e base Q) R serial (pollStream handle : DeskPlay Bool) := by
  intro m hm
  unfold pollStream
  rw [leads_bind]
  refine occupant_finds.mono (fun e' m₁ ⟨hbeside, slot, hslot, he'⟩ => ?_)
    (fun _ _ h => hm.beside hR h.1) fun _ h => h.elim
  have h₁ := hm.beside hR hbeside
  obtain ⟨calls, -, hcalls⟩ := hm.desk.calls
  obtain rfl := honly _ _ hcalls slot e' hslot he'
  obtain ⟨p, hp, -⟩ := hsub _ h₁.platforms
  unfold holding
  rw [leads_mk, Act.leads_onCutOff, leads_run]
  refine (onRuntime_keeps hR hsub (lawful hooks fun _ h => h.isComplete) ⟨p, hp⟩
    h₁).mono (fun _ _ h => h) (fun _ _ h => h) fun m₂ h₂ => ?_
  exact reseated_onSlot hsub h₂ (fun slot calls h => honly _ _ (hmarked slot calls h)) hmarked

end Poll

section Calls

variable [Reentry (List (Step DeskStep)) (Desk Stage)] (hR : Platforms.Lasting R)
  (hsub : ∀ v, R v → Platforms.Knows v e)
  (hempty : ∀ Q, Unmoved e Q → (∀ slot calls, Q slot calls → Vacant slot) →
    Polite AtDesk (· = handle) (Others e) (Phase handle e base Q : Desk Stage → _ → Prop)
      (Platforms.Knows · e))

omit [Reentry (List (Step DeskStep)) (Desk Stage)] in
include hR in
/-- In the place of the handle the execution is found. -/
theorem occupant_held (hm : Kept AtDesk (Phase handle e base (Counted e (Holds e) 0)) R serial m) :
    (occupant call handle).Leads m
      (fun e' m' => e' = e ∧ Kept AtDesk (Phase handle e base (Counted e (Holds e) 0)) R serial m')
      (fun _ _ => False) fun _ => False := by
  obtain ⟨calls, -, ⟨marked, hslot⟩, -⟩ := hm.desk.calls
  refine occupant_finds.mono (fun e' m' ⟨hbeside, slot, hslot', he'⟩ => ?_)
    (fun _ _ ⟨_, hnone⟩ => nomatch hnone _ hslot) fun _ h => h
  cases hslot.symm.trans hslot'
  cases he'
  exact ⟨rfl, hm.beside hR hbeside⟩

include hR hsub hempty

/-- A join takes the execution and finalizes it, whatever hooks do meanwhile. -/
theorem joinStream_finalizes
    (hm : Kept AtDesk (Phase handle e base (Counted e (Holds e) 0)) R serial m) :
    (joinStream handle).Leads m
      (fun _ => Kept AtDesk (Phase handle e base (Counted e (· = none) 1)) R serial)
      (fun _ => Kept AtDesk (Phase handle e base (Counted e (· = none) 1)) R serial)
      (Kept AtDesk (Phase handle e base (Lifetime e)) R serial) := by
  have hgone : ∀ n, Polite AtDesk (· = handle) (Others e)
      (Phase handle e base (Counted e (· = none) n) : Desk Stage → _ → Prop)
      (Platforms.Knows · e) := fun n =>
    hempty _ unmoved_counted fun slot _ h => vacant_none slot h.1
  unfold joinStream
  rw [leads_bind]
  refine (occupant_held hR hm).mono (fun e' m₁ ⟨he, h₁⟩ => ?_) (fun _ _ h => h.elim)
    fun _ h => h.elim
  subst he
  rw [leads_bind, leads_modify]
  have htaken : Kept AtDesk (Phase handle e' base (Counted e' (· = none) 0)) R serial
      (retire handle m₁) := reseated_retire hsub h₁ fun _ _ h => ⟨rfl, h.2⟩
  obtain ⟨p, hp, -⟩ := hsub _ htaken.platforms
  refine onRuntime_leads (A := fun _ => Phase handle e' base (Counted e' (· = none) 1))
    (B := fun _ => R) ⟨p, hp⟩ (fun m hm => ?_) htaken
  exact join_leads_on (hgone 0) (hR.known serial) (fun v hv => hsub v hv.1)
    (phase_cutOff (Nat.zero_le 1) vacant_none) (hgone 1) (phase_cutOff (Nat.le_refl 1) vacant_none)
    phase_destroyed hm (hsub _ hm.platforms.1)

/-- A bounded join that times out puts the execution back; any other one finalizes it. -/
theorem joinStreamWithin_finalizes {micros : Nat}
    (hm : Kept AtDesk (Phase handle e base (Counted e (Holds e) 0)) R serial m) :
    (joinStreamWithin handle micros).Leads m
      (fun summary => Kept AtDesk (Phase handle e base
        (if summary.isSome then Counted e (· = none) 1 else Counted e (Holds e) 0)) R serial)
      (fun _ => Kept AtDesk (Phase handle e base (Counted e (· = none) 1)) R serial)
      (Kept AtDesk (Phase handle e base (Lifetime e)) R serial) := by
  have hreserved : ∀ n, Polite AtDesk (· = handle) (Others e)
      (Phase handle e base (Counted e Reserved n) : Desk Stage → _ → Prop)
      (Platforms.Knows · e) := fun n =>
    hempty _ unmoved_counted fun slot _ h => vacant_reserved slot h.1
  unfold joinStreamWithin
  rw [leads_bind]
  refine (occupant_held hR hm).mono (fun e' m₁ ⟨he, h₁⟩ => ?_) (fun _ _ h => h.elim)
    fun _ h => h.elim
  subst he
  -- While the join is at work the place stays, empty, so hooks may come upon it.
  have htaken : Kept AtDesk (Phase handle e' base (Counted e' Reserved 0)) R serial
      (onSlot handle (fun slot => { slot with execution := none }) m₁) := by
    refine reseated_onSlot hsub h₁ (fun slot calls h s e'' hs he'' => ?_) fun slot calls h => ?_
    · obtain ⟨⟨marked, rfl⟩, -⟩ := h
      cases hs
      cases he''
    · obtain ⟨⟨marked, rfl⟩, hcount⟩ := h
      exact ⟨⟨marked, rfl⟩, hcount⟩
  have hjoined : (onRuntime e'.home "join_stream_timeout" (e'.joinWithin (some micros))).Leads
      (onSlot handle (fun slot => { slot with execution := none }) m₁)
      (fun summary => Kept AtDesk (Phase handle e' base
        (Counted e' Reserved (if summary.isSome then 1 else 0))) R serial)
      (fun _ => Kept AtDesk (Phase handle e' base (Counted e' Reserved 1)) R serial)
      (Kept AtDesk (Phase handle e' base (Lifetime e')) R serial) := by
    obtain ⟨p, hp, -⟩ := hsub _ htaken.platforms
    refine onRuntime_leads (A := fun summary : Option Summary => Phase handle e' base
      (Counted e' Reserved (if summary.isSome then 1 else 0))) (B := fun _ => R) ⟨p, hp⟩
      (fun m hm => ?_) htaken
    refine (joinWithin_leads_on (hreserved 0) (hR.known serial) (fun v hv => hsub v hv.1)
      (phase_cutOff (Nat.zero_le 1) vacant_reserved) (hreserved 1)
      (phase_cutOff (Nat.le_refl 1) vacant_reserved) phase_destroyed hm).imp
      fun summary _ h => ?_
    cases summary <;> exact h
  rw [leads_bind, leads_modify, leads_bind, leads_perform,
    leads_attempt]
  unfold holding
  rw [leads_mk, Act.leads_onCutOff, leads_run]
  -- The execution goes back to its place, or the place is given up. After a cut it stays, marked.
  refine hjoined.mono (fun summary m₂ h₂ => ?_) (fun _ m₂ h₂ => ?_) fun m₂ h₂ => ?_
  · cases summary with
    | none =>
      dsimp only
      rw [leads_bind, leads_modify]
      refine reseated_onSlot hsub h₂ (fun slot calls h s e'' hs he'' => ?_) fun slot calls h => ?_
      · obtain ⟨⟨marked, rfl⟩, -⟩ := h
        cases hs
        cases he''
        rfl
      · obtain ⟨⟨marked, rfl⟩, hcount⟩ := h
        exact ⟨⟨marked, rfl⟩, hcount⟩
    | some summary =>
      dsimp only
      rw [leads_bind, leads_modify]
      exact reseated_retire hsub h₂ fun _ _ h => ⟨rfl, h.2⟩
  · dsimp only
    rw [leads_bind, leads_modify]
    exact reseated_retire hsub h₂ fun _ _ h => ⟨rfl, h.2⟩
  · exact reseated_onSlot hsub h₂
      (fun slot calls h => lifetime_only (lifetime_marked slot calls h)) lifetime_marked

omit hR hsub in
/-- Calls on the handle keep the execution registered, or gone and finalized. -/
theorem tended_lifetime
    (hooks : Polite AtDesk (· = handle) (Others e)
      (Phase handle e base (Lifetime e) : Desk Stage → _ → Prop) (Platforms.Knows · e)) :
    Tended (· = handle) (Phase handle e base (Lifetime e)) (Platforms.Knows · e) := by
  have hweaken : ∀ {Q R serial m}, (∀ slot calls, Q slot calls → Lifetime e slot calls) →
      Kept AtDesk (Phase handle e base Q) R serial m →
      Kept AtDesk (Phase handle e base (Lifetime e) : Desk Stage → _ → Prop) R serial m :=
    fun hQ hm => hm.mono (fun _ _ h => h.mono hQ) fun _ h => h
  -- Either the execution is in its place, or nothing is.
  have hcases : ∀ {α call serial} {R : Platforms (List (Step DeskStep)) → Prop}
      {rest : Execution → DeskPlay α}, Platforms.Lasting R →
      (∀ m, Kept AtDesk (Phase handle e base (Counted e (Holds e) 0)) R serial m →
        (occupant call handle >>= rest).Leads m
          (fun _ => Kept AtDesk (Phase handle e base (Lifetime e)) R serial)
          (fun _ => Kept AtDesk (Phase handle e base (Lifetime e)) R serial)
          (Kept AtDesk (Phase handle e base (Lifetime e)) R serial)) →
      Keeps AtDesk (Phase handle e base (Lifetime e)) R serial (occupant call handle >>= rest) := by
    intro α call serial R rest hR hheld m hm
    obtain ⟨calls, hhistory, hcalls⟩ := hm.desk.calls
    rcases hcalls with hcalls | hcalls
    · exact hheld m ⟨hm.seated, ⟨hm.desk.issued, hm.desk.sole, calls, hhistory, hcalls⟩,
        hm.platforms⟩
    · have hover : Kept AtDesk (Phase handle e base (Over e)) R serial m :=
        ⟨hm.seated, ⟨hm.desk.issued, hm.desk.sole, calls, hhistory, hcalls⟩, hm.platforms⟩
      rw [leads_bind]
      exact (occupant_vacant hR (fun _ _ h => h.1) hover).mono (fun _ _ h => h.elim)
        (fun _ _ => hweaken fun _ _ h => .inr h) fun _ h => h.elim
  refine ⟨?_, ?_, ?_⟩
  · rintro R hR hsub serial _ rfl
    exact pollStream_keeps_own hooks hR hsub (fun _ _ => lifetime_only) lifetime_marked
  · rintro R hR hsub serial _ rfl
    refine hcases hR fun m hm => ?_
    exact (joinStream_finalizes hR hsub hempty hm).mono (fun _ _ => hweaken lifetime_of_gone)
      (fun _ _ => hweaken lifetime_of_gone) fun _ h => h
  · rintro R hR hsub serial _ micros rfl
    refine hcases hR fun m hm => ?_
    refine (joinStreamWithin_finalizes hR hsub hempty hm).mono (fun summary _ h => ?_)
      (fun _ _ => hweaken lifetime_of_gone) fun _ h => h
    cases summary with
    | none => exact hweaken (fun _ _ h => .inl h) h
    | some summary => exact hweaken lifetime_of_gone h

end Calls

/-- Hooks keep an execution registered, or gone and finalized. -/
theorem polite_lifetime (fuel : Nat) :
    @Polite _ _ (deskHooks fuel) AtDesk (· = handle) (Others e) (Phase handle e base (Lifetime e))
      (Platforms.Knows · e) :=
  polite_deskHooks (fit_phase unmoved_lifetime) fresh_others
    (fun fuel hooks => @tended_lifetime handle e base (deskHooks fuel)
      (fun _ hunmoved hvacant => polite_vacant hunmoved hvacant fuel) hooks) fuel

end Scenario

end StreamCompute
