/-
  StreamCompute.Proofs.DeskJoins

  Joining an execution that is one's own, whatever hooks do meanwhile. Until
  the context of the execution is destroyed one property stands, and from then
  on another one. A join without a limit does not time out: no poll gives back
  what another one, made by a hook perhaps, has used up.
-/
import StreamCompute.Proofs.DeskCalls

namespace StreamCompute

open Fallible

/-- Without a limit polling ends with an answer, if every poll uses something up. -/
theorem Waiter.wait_completes {σ : Type} [Journaled σ] {I : Nat → σ → Prop} {I₀ cut : σ → Prop}
    {err : DriverError → σ → Prop} {w : Waiter} {clock : σ → Nat} {operation : String}
    {check : Fallible DriverError σ Bool} (hrecord : ∀ n e s, I n s → I n (Journaled.record e s))
    (hrecord₀ : ∀ e s, I₀ s → I₀ (Journaled.record e s)) (hzero : ∀ s, ¬ I 0 s)
    (hcheck : ∀ n s, I (n + 1) s → check.Leads s
      (fun answer s' => if answer = true then I₀ s' else I n s') err cut) {n : Nat} {s : σ}
    (h : I n s) :
    (w.wait clock operation check none n).Leads s
      (fun outcome s' => (∃ k, outcome = .completed k) ∧ I₀ s') err cut := by
  have hpolls : ∀ {polls reported},
      (w.pollOn clock operation check none (clock s) n polls reported).Leads
      s (fun outcome s' => (∃ k, outcome = .completed k) ∧ I₀ s') err cut := by
    generalize clock s = started
    induction n generalizing s with
    | zero => exact absurd h (hzero s)
    | succ n ih =>
      refine leads_pollOn <| (hcheck n s h).imp fun answer s' hs' => ?_
      cases answer with
      | true => exact fun e => ⟨⟨_, rfl⟩, hrecord₀ e s' hs'⟩
      | false =>
        refine ⟨fun hnone => absurd rfl hnone, fun _ _ _ hs'' => ih ?_⟩
        obtain rfl | ⟨e, rfl⟩ := hs''
        · exact hs'
        · exact hrecord n e s' hs'
  unfold wait
  rw [leads_bind, leads_get]
  exact hpolls

/-- Where waiting ends with an answer, a join without a limit does not time out. -/
theorem Execution.joinWithin_none_isSome {κ ω : Type} [Reentry κ ω] {e : Execution}
    {m : Machine κ ω} (hawait : (e.await none).Leads m
      (fun outcome _ => ∃ k, outcome = .completed k) (fun _ _ => True) fun _ => True) :
    (e.joinWithin none).Leads m (fun summary _ => summary.isSome = true) (fun _ _ => True)
      fun _ => True := by
  refine leads_joinWithin (fun _ => leads_true.imp fun _ _ _ => rfl) hawait
    (fun _ _ _ => leads_true.imp fun _ _ _ => rfl) (fun _ _ _ h => ?_)
    fun _ _ _ _ => leads_true.imp fun _ _ _ => rfl
  obtain ⟨_, h⟩ := h
  cases h

variable {κ ρ : Type}

/-- The token of the execution can be pending for so many polls, the last one included. -/
def Platforms.Awaits (v : Platforms κ) (e : Execution) (n : Nat) : Prop :=
  ∃ p, v e.home = some p ∧ e.event.number < p.driver.nextNumber ∧
    Completion.pollsLeft p.driver e.event ≤ n

theorem Platforms.Lasting.awaits {R : Platforms κ → Prop} (hR : Platforms.Lasting R)
    (e : Execution) (n : Nat) : Platforms.Lasting fun v => R v ∧ v.Awaits e n := by
  rintro v v' hv honward ⟨hRv, p, hp, hevent, hpolls⟩
  obtain ⟨p', hp', hlater⟩ := honward _ p hp
  exact ⟨hR v v' hv honward hRv, p', hp', Nat.lt_of_lt_of_le hevent hlater.numbers,
    Nat.le_trans (hlater.polls (hv _ p hp) _ hevent) hpolls⟩

/-- A poll that answers "pending" uses one up. -/
theorem Simulator.queryEvent_counts {context : Ident .context} {event : Ident .event}
    {s : Simulator} : (queryEvent context event).run.Leads s
      (fun status s' => status = .pending →
        Completion.pollsLeft s' event + 1 ≤ Completion.pollsLeft s event)
      (fun _ _ => True) fun _ => True := by
  refine queryEvent_leads (fun _ => trivial) (fun token n htoken _ hn _ => ?_)
    fun token _ _ _ hpending => ?_
  · unfold Completion.pollsLeft
    rw [htoken, Assoc.get?_set_self]
    simp [hn]
  · cases herror : token.error <;> simp [herror] at hpending

namespace Desk

variable [Reentry κ (Desk ρ)] {allowed : κ → Prop} {own : Nat → Prop}
  {foreign : Nat → Ident .context → Prop} {P Pc : Desk ρ → List Moment → Prop}
  {R R₀ : Platforms κ → Prop} {m : Machine κ (Desk ρ)} {e : Execution}
  (hooks : Polite allowed own foreign P R₀) (hR : Platforms.Lasting R) (hsub : ∀ v, R v → R₀ v)
  (hcut : ∀ d history mo, mo.Spares foreign → mo.verdict = .cutOff → P d history →
    Pc d (mo :: history))

include hooks hR hsub hcut

/-- A poll for the execution, on its platform. -/
theorem check_counts {n : Nat} {op : Operation}
    (hm : Kept allowed P (fun v => R v ∧ v.Awaits e (n + 1)) e.home m) :
    (Completion.check op e.context e.event).Leads m
      (fun answer m' => if answer = true then Kept allowed P R e.home m' else
        Kept allowed P (fun v => R v ∧ v.Awaits e n) e.home m')
      (fun _ => Kept allowed P R e.home) (Kept allowed Pc R e.home) := by
  have hR' := hR.awaits e (n + 1)
  have hback : ∀ {P : Desk ρ → List Moment → Prop} {m : Machine κ (Desk ρ)},
      Kept allowed P (fun v => R v ∧ v.Awaits e (n + 1)) e.home m → Kept allowed P R e.home m :=
    fun hm => hm.mono (fun _ _ h => h) fun _ h => h.1
  have hdrive : (Machine.drive (Simulator.queryEvent e.context e.event)).Leads m
      (fun status m' => Kept allowed P R e.home m' ∧ (status = .pending →
        Kept allowed P (fun v => R v ∧ v.Awaits e n) e.home m'))
      (fun _ => Kept allowed P R e.home)
      (Kept allowed Pc (fun v => R v ∧ v.Awaits e (n + 1)) e.home) := by
    refine drive_leads hooks hR' (fun v hv => hsub v hv.1) hcut (fun m hm => ?_) hm
    have hkeeps : (Machine.handle (Simulator.queryEvent e.context e.event)).Leads m
        (fun _ => Kept allowed P (fun v => R v ∧ v.Awaits e (n + 1)) e.home)
        (fun _ => Kept allowed P (fun v => R v ∧ v.Awaits e (n + 1)) e.home)
        (Kept allowed Pc (fun v => R v ∧ v.Awaits e (n + 1)) e.home) :=
      handle_leads hooks hR' hcut (Command.grows _) (fun _ _ h => nomatch h) hm
    rw [Machine.leads_handle] at hkeeps ⊢
    -- The same call keeps what was kept, and uses up one of the polls that are left.
    refine (hkeeps.and Simulator.queryEvent_counts).mono (fun status s ⟨hm', hcount⟩ => ?_)
      (fun _ _ hs => hback hs.1) fun _ hs => hs.1
    refine ⟨hback hm', fun hpending => ⟨hm'.seated, hm'.desk, hm'.platforms.1, ?_⟩⟩
    obtain ⟨p, hp, -, hpolls⟩ := hm.platforms.2
    obtain ⟨p', hp', hevent, -⟩ := hm'.platforms.2
    cases hm.platform?.symm.trans hp
    cases hm'.platform?.symm.trans hp'
    refine ⟨_, hp', hevent, ?_⟩
    have hleft := hcount hpending
    have hsame : Completion.pollsLeft (m.handled .queryEvent .accepted s).platform.driver e.event =
        Completion.pollsLeft s e.event := Completion.pollsLeft_congr rfl
    show Completion.pollsLeft (m.handled .queryEvent .accepted s).platform.driver e.event ≤ n
    omega
  unfold Completion.check
  rw [leads_bind]
  refine hdrive.mono (fun status m' hm' => ?_) (fun _ _ h => h) fun _ h => hback h
  cases status with
  | pending => exact hm'.2 rfl
  | done => exact hm'.1
  | failed message => exact hm'.1

/-- Waiting for an execution without a limit ends with an answer. -/
theorem await_completes (hm : Kept allowed P R e.home m) (hknows : Platforms.Knows m.platform? e) :
    (e.await none).Leads m (fun outcome m' => (∃ k, outcome = .completed k) ∧
      Kept allowed P R e.home m') (fun _ => Kept allowed P R e.home) (Kept allowed Pc R e.home) := by
  unfold Execution.await Completion.wait
  rw [leads_mk, Act.leads_onCutOff, leads_run, leads_timed,
    leads_bind, leads_get]
  have hawaits : Kept allowed P (fun v => R v ∧
      v.Awaits e (Completion.pollsLeft m.platform.driver e.event)) e.home m := by
    obtain ⟨p, hp, -, hevent⟩ := hknows
    cases hm.platform?.symm.trans hp
    exact ⟨hm.seated, hm.desk, hm.platforms, _, hp, hevent, Nat.le_refl _⟩
  refine (Waiter.wait_completes
    (I := fun n => Kept allowed P (fun v => R v ∧ v.Awaits e n) e.home)
    (fun n _ _ h => h.beside (hR.awaits e n) .journal) (fun _ _ h => h.beside hR .journal)
    (fun m h => ?_) (fun n m h => check_counts hooks hR hsub hcut h) hawaits).mono
    (fun outcome m' hm' => ⟨hm'.1, hm'.2.beside hR .journal⟩) (fun _ m' hm' => hm'.beside hR .journal)
    fun m' hm' => ?_
  · obtain ⟨p, -, -, hpolls⟩ := h.platforms.2
    have hpos : 0 < Completion.pollsLeft p.driver e.event := Completion.pollsLeft_pos
    omega
  · exact (hm'.beside hR .journal).beside hR .journal

/-! ## Taking the execution down -/

variable {P' : Desk ρ → List Moment → Prop} (hooks' : Polite allowed own foreign P' R₀)
  (hcut' : ∀ d history mo, mo.Spares foreign → mo.verdict = .cutOff → P' d history →
    Pc d (mo :: history))
  (hlast : ∀ d history mo, mo.operation = .destroyContext → mo.serial = e.home →
    mo.call? = some (.destroyContext e.context) → P d history → P' d (mo :: history))

include hlast

/-- Destroying the context of the execution ends the time of the first property. -/
theorem destroyContext_leads_on (hm : Kept allowed P R e.home m) :
    (Machine.drive (Simulator.destroyContext e.context)).Leads m
      (fun _ => Kept allowed P' R e.home) (fun _ => Kept allowed P' R e.home)
      (Kept allowed Pc R e.home) :=
  drive_leads hooks hR hsub hcut (fun _ hm =>
    handle_destroyContext_leads hm.seated.inUse fun _ _ hs hserial hcall =>
      have hm' := hm.handled hR hs (hlast _ _ _ rfl hserial hcall hm.desk)
      ⟨hm', fun _ => hm'⟩) hm

include hooks' hcut'

/-- A join with a limit either times out or takes the execution down. -/
theorem joinWithin_leads_on {limit : Option Nat} (hm : Kept allowed P R e.home m) :
    (e.joinWithin limit).Leads m
      (fun summary => Kept allowed (if summary.isSome then P' else P) R e.home)
      (fun _ => Kept allowed P' R e.home) (Kept allowed Pc R e.home) :=
  (Execution.joinWithin_leads_down (withstands hooks' hR hsub hcut').joins.toEnds
    (fun _ hm => destroyContext_leads_on hooks hR hsub hcut hlast hm)
    (withstands hooks hR hsub hcut).joins hm).imp
    fun summary _ h => by cases summary <;> exact h

theorem join_leads_on (hm : Kept allowed P R e.home m) (hknows : Platforms.Knows m.platform? e) :
    e.join.Leads m (fun _ => Kept allowed P' R e.home) (fun _ => Kept allowed P' R e.home)
      (Kept allowed Pc R e.home) := by
  unfold Execution.join
  rw [leads_bind]
  have hawait := (await_completes hooks hR hsub hcut hm hknows).mono (fun _ _ h => h.1)
    (fun _ _ _ => trivial) fun _ _ => trivial
  refine ((joinWithin_leads_on hooks hR hsub hcut hooks' hcut' hlast hm).and
    (Execution.joinWithin_none_isSome hawait)).mono (fun summary m' hm' => ?_)
    (fun _ _ h => h.1) fun _ h => h.1
  cases summary with
  | none => cases hm'.2
  | some summary => exact hm'.1

end Desk

end StreamCompute
