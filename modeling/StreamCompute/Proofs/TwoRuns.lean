/-
  StreamCompute.Proofs.TwoRuns

  Two runs side by side. `Act.Agree S K act act'` says that from states related
  by `S` the two acts have the same outcome and leave states related by `S`;
  they are only cut off if `K` allows it. Often both acts are the same, and the
  states differ in something that the act does not look at.

  Each way of building an act has a rule that reduces the agreement of two
  wholes to the agreement of their parts.
-/
import StreamCompute.Proofs.Driving

namespace StreamCompute

namespace Act

variable {σ α β : Type} {s t : σ}

theorem bind_apply_of_ok {x : Act σ β} {f : β → Act σ α} {b : β} (h : x s = (.ok b, t)) :
    (x >>= f) s = f b t := by
  show (ExceptT.bind x f) s = _
  simp only [ExceptT.bind, ExceptT.mk, Bind.bind, StateT.bind, h]
  rfl

theorem bind_apply_of_error {x : Act σ β} {f : β → Act σ α} {r : Abort} (h : x s = (.error r, t)) :
    (x >>= f) s = (.error r, t) := by
  show (ExceptT.bind x f) s = _
  simp only [ExceptT.bind, ExceptT.mk, Bind.bind, StateT.bind, h]
  rfl

theorem observe_apply {x : Act σ α} {r : Except Abort α} (h : x s = (r, t)) :
    x.observe s = (.ok r, t) := by
  unfold observe
  rw [h]

/-- From related states the acts have the same outcome and leave related states. They are only cut
    off if that is allowed. -/
def Agree (S : σ → σ → Prop) (K : Prop) (act act' : Act σ α) : Prop :=
  ∀ s s', S s s' → (act' s').1 = (act s).1 ∧ S (act s).2 (act' s').2 ∧ (K ∨ (act s).1.isOk)

namespace Agree

variable {S : σ → σ → Prop} {K : Prop} {act act' : Act σ α}

theorem pure {a : α} : Agree S K (Pure.pure a) (Pure.pure a) :=
  fun _ _ hs => ⟨rfl, hs, Or.inr rfl⟩

theorem change {f f' : σ → σ} (h : ∀ s s', S s s' → S (f s) (f' s')) :
    Agree S K (modify f) (modify f') :=
  fun s s' hs => ⟨rfl, h s s' hs, Or.inr rfl⟩

theorem bind {x x' : Act σ β} {f f' : β → Act σ α} (hx : Agree S K x x')
    (hf : ∀ b, Agree S K (f b) (f' b)) : Agree S K (x >>= f) (x' >>= f') := by
  intro s s' hs
  obtain ⟨hsame, hleft, hend⟩ := hx s s' hs
  cases hx₁ : x s with
  | mk r t =>
    cases hx₂ : x' s' with
    | mk r' t' =>
      rw [hx₁, hx₂] at hsame hleft
      rw [hx₁] at hend
      cases hsame
      cases r with
      | ok b =>
        rw [bind_apply_of_ok hx₁, bind_apply_of_ok hx₂]
        exact hf b t t' hleft
      | error r =>
        rw [bind_apply_of_error hx₁, bind_apply_of_error hx₂]
        exact ⟨rfl, hleft, hend⟩

theorem map {f : α → β} (h : Agree S K act act') : Agree S K (f <$> act) (f <$> act') :=
  bind h fun _ => pure

/-- Both acts look at the state and go on alike. -/
theorem get {k k' : σ → Act σ α} (h : ∀ s s', S s s' → Agree S K (k s) (k' s')) :
    Agree S K (MonadState.get >>= k) (MonadState.get >>= k') :=
  fun s s' hs => h s s' hs s s' hs

theorem forM {xs : List β} {f f' : β → Act σ PUnit} (h : ∀ x ∈ xs, Agree S K (f x) (f' x)) :
    Agree S K (xs.forM f) (xs.forM f') := by
  induction xs with
  | nil => exact pure
  | cons x xs ih =>
    obtain ⟨hx, hxs⟩ := List.forall_mem_cons.mp h
    exact bind hx fun _ => ih hxs

theorem ensuring {after after' : σ → σ} (h : Agree S K act act')
    (hafter : ∀ s s', S s s' → S (after s) (after' s')) :
    Agree S K (act.ensuring after) (act'.ensuring after') := fun s s' hs =>
  (h s s' hs).imp_right fun h => h.imp_left (hafter _ _)

theorem onCutOff {after after' : σ → σ} (h : Agree S K act act')
    (hafter : ∀ s s', S s s' → S (after s) (after' s')) :
    Agree S K (act.onCutOff after) (act'.onCutOff after') := by
  intro s s' hs
  obtain ⟨hsame, hkept, hend⟩ := h s s' hs
  unfold Act.onCutOff
  generalize act s = left, act' s' = right at hsame hkept hend
  obtain ⟨r, t⟩ := left
  obtain ⟨r', t'⟩ := right
  cases hsame
  cases r with
  | ok a => exact ⟨rfl, hkept, hend⟩
  | error r => exact ⟨rfl, hafter t t' hkept, hend⟩

end Agree

end Act

namespace Fallible

variable {ε ε' δ σ α α' β : Type} {s s' t : σ} {x : Fallible ε σ β} {f : β → Fallible ε σ α}

theorem run_bind_of_ok {b : β} (h : x.run s = (.ok (.ok b), t)) : (x >>= f).run s = (f b).run t :=
  Act.bind_apply_of_ok h

theorem run_bind_of_error {e : ε}
    (h : x.run s = (.ok (.error e), t)) : (x >>= f).run s = (.ok (.error e), t) :=
  Act.bind_apply_of_ok h

theorem run_bind_of_cut {r : Abort} (h : x.run s = (.error r, t)) :
    (x >>= f).run s = (.error r, t) :=
  Act.bind_apply_of_error h

theorem run_get_bind {f : σ → Fallible ε σ α} : (get >>= f).run s = (f s).run s :=
  run_bind_of_ok rfl

/-- Acts that come to the same go on in the same way. -/
theorem run_bind_congr {x y : Fallible ε σ β} (h : x.run s = y.run t) :
    (x >>= f).run s = (y >>= f).run t := by
  show (ExceptT.bind x f) s = (ExceptT.bind y f) t
  simp only [ExceptT.run] at h
  simp only [ExceptT.bind, ExceptT.mk, Bind.bind, StateT.bind, h]

theorem run_map {f : β → α} :
    (f <$> x).run s = (x.run s).map (Except.map (Except.map f)) id := by
  rw [map_eq_pure_bind]
  rcases h : x.run s with ⟨_ | (_ | _), _⟩
  · exact Act.bind_apply_of_error h
  · exact run_bind_of_error h
  · exact run_bind_of_ok h

theorem map_onCutOff {f : β → α} {after : σ → σ} :
    f <$> (ExceptT.mk (Act.onCutOff x.run after) : Fallible ε σ β) =
      ExceptT.mk (Act.onCutOff (f <$> x).run after) := by
  funext s
  show (f <$> (ExceptT.mk _ : Fallible ε σ β)).run s = Act.onCutOff _ after s
  rw [run_map]
  unfold Act.onCutOff
  rw [run_map]
  dsimp only [ExceptT.run, ExceptT.mk]
  rcases x s with ⟨_ | (_ | _), _⟩ <;> rfl

theorem run_perform_attempt {x : Fallible ε σ α} {r : Except ε α} (h : x.run s = (.ok r, t)) :
    (Fallible.perform x.attempt : Fallible ε' σ (Except ε α)).run s = (.ok (.ok r), t) := by
  show (Except.ok <$> x.run) s = _
  simp only [Functor.map, ExceptT.map, ExceptT.mk, Bind.bind, StateT.bind, h]
  rfl

/-- Both acts answer with `ok`, or both fail with `err`, or both are cut off with `cut`. -/
inductive Pairs (act : Fallible ε σ α) (act' : Fallible ε' σ α') (s s' : σ)
    (ok : α → α' → σ → σ → Prop) (err : ε → ε' → σ → σ → Prop) (cut : σ → σ → Prop) : Prop
  | answered {a : α} {a' : α'} {t t' : σ} (left : act.run s = (.ok (.ok a), t))
      (right : act'.run s' = (.ok (.ok a'), t')) (h : ok a a' t t') : Pairs act act' s s' ok err cut
  | failed {e : ε} {e' : ε'} {t t' : σ} (left : act.run s = (.ok (.error e), t))
      (right : act'.run s' = (.ok (.error e'), t')) (h : err e e' t t') :
      Pairs act act' s s' ok err cut
  | cutOff {r r' : Abort} {t t' : σ} (left : act.run s = (.error r, t))
      (right : act'.run s' = (.error r', t')) (h : cut t t') : Pairs act act' s s' ok err cut

/-- Acts that answer with a value or an error agree if they do so as acts. -/
abbrev Agree (S : σ → σ → Prop) (K : Prop) (act act' : Fallible ε σ α) : Prop :=
  Act.Agree S K act.run act'.run

/-- The act does the same from related states, and is not cut off. -/
abbrev Regardless (S : σ → σ → Prop) (act : Fallible ε σ α) : Prop :=
  Agree S False act act

namespace Agree

variable {S : σ → σ → Prop} {K : Prop} {act act' : Fallible ε σ α}

theorem pure {a : α} : Agree S K (Pure.pure a : Fallible ε σ α) (Pure.pure a) :=
  Act.Agree.pure

theorem throw {e : ε} :
    Agree S K (MonadExcept.throw e : Fallible ε σ α) (MonadExcept.throw e) :=
  Act.Agree.pure

theorem bind {x x' : Fallible ε σ β} {f f' : β → Fallible ε σ α} (hx : Agree S K x x')
    (hf : ∀ b, Agree S K (f b) (f' b)) : Agree S K (x >>= f) (x' >>= f') :=
  Act.Agree.bind hx fun answer => by
    cases answer with
    | ok b => exact hf b
    | error e => exact Act.Agree.pure

/-- What is done with an answer at the end is done at the end of the last step. -/
theorem map_andThen {γ : Type} {g : α → γ} {x x' : Fallible ε σ β} {f f' : β → Fallible ε σ α}
    (hx : Agree S K x x') (hf : ∀ b, Agree S K (g <$> f b) (g <$> f' b)) :
    Agree S K (g <$> (x >>= f)) (g <$> (x' >>= f')) := by
  rw [map_bind, map_bind]
  exact bind hx hf

/-- Both acts look at the state and go on alike. -/
theorem get {k k' : σ → Fallible ε σ α} (h : ∀ s s', S s s' → Agree S K (k s) (k' s')) :
    Agree S K (MonadState.get >>= k) (MonadState.get >>= k') :=
  fun s s' hs => h s s' hs s s' hs

theorem change {f f' : σ → σ} (h : ∀ s s', S s s' → S (f s) (f' s')) :
    Agree S K (modify f : Fallible ε σ PUnit) (modify f') :=
  fun s s' hs => ⟨rfl, h s s' hs, Or.inr rfl⟩

theorem perform {act act' : Act σ α} (h : Act.Agree S K act act') :
    Agree S K (Fallible.perform act : Fallible ε σ α) (Fallible.perform act') :=
  Act.Agree.map h

theorem mapError {f : ε → δ} (h : Agree S K act act') :
    Agree S K (act.mapError f) (act'.mapError f) :=
  Act.Agree.map h

theorem forM {xs : List β} {f f' : β → Fallible ε σ PUnit} (h : ∀ x, Agree S K (f x) (f' x)) :
    Agree S K (xs.forM f) (xs.forM f') := by
  induction xs with
  | nil => exact pure
  | cons x xs ih => exact bind (h x) fun _ => ih

variable [Journaled σ]
  (hrecord : ∀ s s' e, S s s' → S (Journaled.record e s) (Journaled.record e s'))

include hrecord

theorem timed {fields : Fields} (h : Agree S K act act') :
    Agree S K (Performance.timed fields act) (Performance.timed fields act') :=
  Act.Agree.ensuring h fun s s' => hrecord s s' _

theorem wait {w : Waiter} {clock : σ → Nat} {operation : String}
    {check check' : Fallible DriverError σ Bool} (hclock : ∀ s s', S s s' → clock s' = clock s)
    (h : Agree S K check check') {limit : Option Nat} {fuel : Nat} :
    Agree S K (w.wait clock operation check limit fuel) (w.wait clock operation check' limit fuel) := by
  have hlog : ∀ {e : Event}, Agree S K (log e : Fallible DriverError σ Unit) (log e) :=
    change fun s s' => hrecord s s' _
  refine get fun s s' hs => ?_
  rw [hclock s s' hs]
  generalize clock s = started, 0 = polls, none = reported
  induction fuel generalizing polls reported with
  | zero => exact pure
  | succ fuel ih =>
    refine bind h fun done => get fun s s' hs => ?_
    rw [hclock s s' hs]
    cases done with
    | true => exact bind hlog fun _ => pure
    | false =>
      simp only [Bool.false_eq_true, if_false]
      split
      · exact pure
      · split
        · exact bind hlog fun _ => ih _ _
        · exact ih _ _

end Agree

/-- How an act ends that does the same from both states. -/
theorem Regardless.pairs {S : σ → σ → Prop} {act : Fallible ε σ α} (h : act.Regardless S)
    (hs : S s s') : act.Pairs act s s' (fun a a' t t' => a = a' ∧ S t t')
      (fun e e' t t' => e = e' ∧ S t t') fun _ _ => False := by
  obtain ⟨hsame, hkept, hend⟩ := h s s' hs
  cases hleft : act.run s with
  | mk r t =>
    cases hright : act.run s' with
    | mk r' t' =>
      rw [hleft, hright] at hsame hkept
      rw [hleft] at hend
      cases hsame
      cases r with
      | ok answer =>
        cases answer with
        | ok a => exact .answered hleft hright ⟨rfl, hkept⟩
        | error e => exact .failed hleft hright ⟨rfl, hkept⟩
      | error r => cases hend.resolve_left id

end Fallible

end StreamCompute
