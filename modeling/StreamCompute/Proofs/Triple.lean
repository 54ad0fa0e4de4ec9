/-
  StreamCompute.Proofs.Triple

  What an act leads to. `Act.Leads act s ok cut` says that `act`, started in
  `s`, ends in a state where `ok` holds of it and of the answer, or is cut off
  in a state where `cut` holds. `Fallible.Leads` has one more ending, the error.

  Each way of building an act has a lemma that reduces what the whole leads to
  to what its parts lead to. A function's own lemma is used through `mono`.
-/
import StreamCompute.Tracing.Performance

namespace StreamCompute

/-- The report of a span that has no threshold. -/
def Performance.report (fields : Fields) : Event :=
  (Event.debug "performance_span_complete" []).inside fields

namespace Act

variable {σ α β : Type} {s : σ} {ok ok' : α → σ → Prop} {cut cut' : σ → Prop}
  {act : Act σ α}

/-- `act` from `s` answers with `ok`, or is cut off with `cut`. -/
def Leads (act : Act σ α) (s : σ) (ok : α → σ → Prop) (cut : σ → Prop) : Prop :=
  match act s with
  | (.ok a, s') => ok a s'
  | (.error _, s') => cut s'

theorem Leads.mono (h : act.Leads s ok cut)
    (hok : ∀ a s', ok a s' → ok' a s') (hcut : ∀ s', cut s' → cut' s') :
    act.Leads s ok' cut' := by
  unfold Leads at h ⊢
  split at h
  · exact hok _ _ h
  · exact hcut _ h

theorem Leads.imp (h : act.Leads s ok cut)
    (hok : ∀ a s', ok a s' → ok' a s') : act.Leads s ok' cut :=
  h.mono hok fun _ h => h

/-- The state once an act is over, however it ends. -/
theorem Leads.final {I : σ → Prop} (h : act.Leads s (fun _ => I) I) :
    I (act s).2 := by
  unfold Leads at h
  split at h <;> rename_i heq <;> rw [heq] <;> exact h

theorem leads_true : act.Leads s (fun _ _ => True) fun _ => True := by
  unfold Leads
  split <;> trivial

theorem leads_pure {a : α} : (pure a : Act σ α).Leads s ok cut ↔ ok a s := Iff.rfl

theorem leads_bind {x : Act σ β} {f : β → Act σ α} :
    (x >>= f).Leads s ok cut ↔ x.Leads s (fun b s' => (f b).Leads s' ok cut) cut := by
  have hb : (x >>= f) s = match x s with
      | (.ok b, s') => f b s'
      | (.error e, s') => (.error e, s') := by
    show (ExceptT.bind x f) s = _
    simp only [ExceptT.bind, ExceptT.mk, bind, StateT.bind]
    rcases x s with ⟨_ | _, _⟩ <;> rfl
  unfold Leads
  rw [hb]
  rcases x s with ⟨_ | _, _⟩ <;> exact Iff.rfl

theorem Leads.bind {x : Act σ β} {f : β → Act σ α} {mid : β → σ → Prop} (hx : x.Leads s mid cut)
    (hf : ∀ b s', mid b s' → (f b).Leads s' ok cut) : (x >>= f).Leads s ok cut :=
  leads_bind.mpr (hx.imp hf)

theorem leads_map {x : Act σ β} {f : β → α} :
    (f <$> x).Leads s ok cut ↔ x.Leads s (fun b s' => ok (f b) s') cut := by
  rw [map_eq_pure_bind, leads_bind]
  rfl

theorem leads_get {ok : σ → σ → Prop} : (get : Act σ σ).Leads s ok cut ↔ ok s s := Iff.rfl

theorem leads_modify {f : σ → σ} {ok : PUnit → σ → Prop} :
    (modify f : Act σ PUnit).Leads s ok cut ↔ ok ⟨⟩ (f s) := Iff.rfl

theorem leads_log [Journaled σ] {e : Event} {ok : Unit → σ → Prop} :
    (log e : Act σ Unit).Leads s ok cut ↔ ok () (Journaled.record e s) := Iff.rfl

theorem leads_ensuring {after : σ → σ} : (act.ensuring after).Leads s ok cut ↔
      act.Leads s (fun a s' => ok a (after s')) (fun s' => cut (after s')) := by
  unfold Leads ensuring
  rcases act s with ⟨_ | _, _⟩ <;> exact Iff.rfl

theorem leads_onCutOff {after : σ → σ} :
    (act.onCutOff after).Leads s ok cut ↔ act.Leads s ok (fun s' => cut (after s')) := by
  unfold Leads onCutOff
  rcases act s with ⟨_ | _, _⟩ <;> exact Iff.rfl

/-- An observed act is never cut off. -/
theorem leads_observe {ok : Except Abort α → σ → Prop} :
    act.observe.Leads s ok cut ↔
      ok (act s).1 (act s).2 := by
  unfold Leads observe
  exact Iff.rfl

theorem leads_forM_nil {f : β → Act σ PUnit} {ok : PUnit → σ → Prop} :
    (([] : List β).forM f).Leads s ok cut ↔ ok ⟨⟩ s := Iff.rfl

theorem leads_forM_cons {b : β} {rest : List β} {f : β → Act σ PUnit} {ok : PUnit → σ → Prop} :
    ((b :: rest).forM f).Leads s ok cut ↔
      (f b).Leads s (fun _ s' => (rest.forM f).Leads s' ok cut) cut := by
  rw [show (b :: rest).forM f = (f b >>= fun _ => rest.forM f) from rfl, leads_bind]

/-- A loop keeps what each of its rounds keeps. -/
theorem leads_forM {I : σ → Prop} {list : List β} {f : β → Act σ PUnit}
    (hround : ∀ b ∈ list, ∀ s, I s → (f b).Leads s (fun _ => I) cut) (h : I s) :
    (list.forM f).Leads s (fun _ => I) cut := by
  induction list generalizing s with
  | nil => exact h
  | cons b rest ih =>
    rw [leads_forM_cons]
    refine (hround b List.mem_cons_self s h).mono (fun _ s' hs' => ?_) (fun _ hs' => hs')
    exact ih (fun b' hb' => hround b' (List.mem_cons_of_mem b hb')) hs'

end Act

namespace Fallible

variable {ε ε' σ α β : Type} {s : σ} {ok ok' : α → σ → Prop} {err err' : ε → σ → Prop}
  {cut cut' : σ → Prop} {act : Fallible ε σ α}

/-- `act` from `s` answers with `ok`, fails with `err`, or is cut off with `cut`. -/
def Leads (act : Fallible ε σ α) (s : σ) (ok : α → σ → Prop) (err : ε → σ → Prop)
    (cut : σ → Prop) : Prop :=
  match act.run s with
  | (.ok (.ok a), s') => ok a s'
  | (.ok (.error e), s') => err e s'
  | (.error _, s') => cut s'

theorem Leads.mono (h : act.Leads s ok err cut)
    (hok : ∀ a s', ok a s' → ok' a s') (herr : ∀ e s', err e s' → err' e s')
    (hcut : ∀ s', cut s' → cut' s') : act.Leads s ok' err' cut' := by
  unfold Leads at h ⊢
  split at h
  · exact hok _ _ h
  · exact herr _ _ h
  · exact hcut _ h

theorem Leads.imp (h : act.Leads s ok err cut)
    (hok : ∀ a s', ok a s' → ok' a s') : act.Leads s ok' err cut :=
  h.mono hok (fun _ _ h => h) fun _ h => h

theorem Leads.of_eq_ok {a : α} {s' : σ} (h : act.Leads s ok err cut)
    (he : act.run s = (.ok (.ok a), s')) : ok a s' := by
  unfold Leads at h
  rw [he] at h
  exact h

theorem Leads.of_eq_error {e : ε} {s' : σ} (h : act.Leads s ok err cut)
    (he : act.run s = (.ok (.error e), s')) : err e s' := by
  unfold Leads at h
  rw [he] at h
  exact h

theorem Leads.and (h : act.Leads s ok err cut) (h' : act.Leads s ok' err' cut') :
    act.Leads s (fun a s' => ok a s' ∧ ok' a s') (fun e s' => err e s' ∧ err' e s')
      fun s' => cut s' ∧ cut' s' := by
  unfold Leads at *
  revert h h'
  rcases act.run s with ⟨_ | (_ | _), _⟩ <;> exact fun h h' => ⟨h, h'⟩

/-- The state once an act is over, however it ends. -/
theorem Leads.final {I : σ → Prop}
    (h : act.Leads s (fun _ => I) (fun _ => I) I) : I (act.run s).2 := by
  unfold Leads at h
  revert h
  rcases act.run s with ⟨_ | (_ | _), _⟩ <;> exact id

/-- How an act ends, with what is known of that ending. -/
theorem Leads.run_cases (h : act.Leads s ok err cut) :
    (∃ a s', act.run s = (.ok (.ok a), s') ∧ ok a s') ∨
      (∃ e s', act.run s = (.ok (.error e), s') ∧ err e s') ∨
      ∃ r s', act.run s = (.error r, s') ∧ cut s' := by
  unfold Leads at h
  revert h
  rcases act.run s with ⟨r | (e | a), s'⟩
  · exact fun h => Or.inr (Or.inr ⟨r, s', rfl, h⟩)
  · exact fun h => Or.inr (Or.inl ⟨e, s', rfl, h⟩)
  · exact fun h => Or.inl ⟨a, s', rfl, h⟩

/-- The act answers, where nothing else can come of it. -/
theorem answers_of_leads (h : act.Leads s ok (fun _ _ => False) fun _ => False) :
    ∃ a s', act.run s = (.ok (.ok a), s') ∧ ok a s' := by
  rcases h.run_cases with h | ⟨_, _, _, h⟩ | ⟨_, _, _, h⟩
  · exact h
  · exact h.elim
  · exact h.elim

theorem run_of_leads_ok {s' : σ} {a : α}
    (h : act.Leads s (fun b s₁ => b = a ∧ s₁ = s') (fun _ _ => False) fun _ => False) :
    act.run s = (.ok (.ok a), s') := by
  obtain ⟨_, _, hrun, rfl, rfl⟩ := answers_of_leads h
  exact hrun

/-- The error, where nothing else can come of the act. -/
theorem run_of_leads_error {P : ε → σ → Prop}
    (h : act.Leads s (fun _ _ => False) P fun _ => False) :
    ∃ e s', act.run s = (.ok (.error e), s') ∧ P e s' := by
  rcases h.run_cases with ⟨_, _, _, h⟩ | h | ⟨_, _, _, h⟩
  · exact h.elim
  · exact h
  · exact h.elim

theorem leads_true :
    act.Leads s (fun _ _ => True) (fun _ _ => True) fun _ => True := by
  unfold Leads
  split <;> trivial

/-- What an act leads to under a condition, when only its answer matters. -/
theorem leads_imp {p : Prop} (h : p → act.Leads s ok (fun _ _ => True) fun _ => True) :
    act.Leads s (fun a s' => p → ok a s') (fun _ _ => True) fun _ => True := by
  by_cases hp : p
  · exact (h hp).imp fun _ _ hs _ => hs
  · exact leads_true.imp fun _ _ _ hp' => absurd hp' hp

theorem leads_run {ok : Except ε α → σ → Prop} : (ExceptT.run act).Leads s ok cut ↔
      act.Leads s (fun a => ok (.ok a)) (fun e => ok (.error e)) cut := by
  unfold Leads Act.Leads
  rcases act.run s with ⟨_ | (_ | _), _⟩ <;> exact Iff.rfl

theorem leads_attempt {ok : Except ε α → σ → Prop} :
    act.attempt.Leads s ok cut ↔
      act.Leads s (fun a => ok (.ok a)) (fun e => ok (.error e)) cut :=
  leads_run

theorem leads_mk {act : Act σ (Except ε α)} :
    Fallible.Leads (ExceptT.mk act) s ok err cut ↔
      act.Leads s (fun
        | .ok a => ok a
        | .error e => err e) cut := by
  unfold Leads Act.Leads
  show (match act s with
    | (.ok (.ok a), s') => ok a s'
    | (.ok (.error e), s') => err e s'
    | (.error _, s') => cut s') ↔ _
  rcases act s with ⟨_ | (_ | _), _⟩ <;> exact Iff.rfl

theorem leads_pure {a : α} : (pure a : Fallible ε σ α).Leads s ok err cut ↔ ok a s := Iff.rfl

theorem leads_bind {x : Fallible ε σ β} {f : β → Fallible ε σ α} :
    (x >>= f).Leads s ok err cut ↔
      x.Leads s (fun b s' => (f b).Leads s' ok err cut) err cut := by
  have hb : (x >>= f).run s = match x.run s with
      | (.ok (.ok b), s') => (f b).run s'
      | (.ok (.error e), s') => (.ok (.error e), s')
      | (.error a, s') => (.error a, s') := by
    show (ExceptT.bind x f) s = _
    simp only [ExceptT.bind, ExceptT.mk, ExceptT.run, bind, StateT.bind]
    rcases x s with ⟨_ | (_ | _), _⟩ <;> rfl
  unfold Leads
  rw [hb]
  rcases x.run s with ⟨_ | (_ | _), _⟩ <;> exact Iff.rfl

theorem Leads.bind {x : Fallible ε σ β} {f : β → Fallible ε σ α} {mid : β → σ → Prop}
    (hx : x.Leads s mid err cut) (hf : ∀ b s', mid b s' → (f b).Leads s' ok err cut) :
    (x >>= f).Leads s ok err cut :=
  leads_bind.mpr (hx.imp hf)

theorem leads_map {x : Fallible ε σ β} {f : β → α} :
    (f <$> x).Leads s ok err cut ↔ x.Leads s (fun b s' => ok (f b) s') err cut := by
  rw [map_eq_pure_bind, leads_bind]
  rfl

theorem leads_get {ok : σ → σ → Prop} :
    (get : Fallible ε σ σ).Leads s ok err cut ↔ ok s s := Iff.rfl

theorem leads_modify {f : σ → σ} {ok : PUnit → σ → Prop} :
    (modify f : Fallible ε σ PUnit).Leads s ok err cut ↔ ok ⟨⟩ (f s) := Iff.rfl

theorem leads_log [Journaled σ] {e : Event} {ok : Unit → σ → Prop} :
    (log e : Fallible ε σ Unit).Leads s ok err cut ↔ ok () (Journaled.record e s) := Iff.rfl

theorem leads_perform {act : Act σ α} :
    (perform act).Leads s ok err cut ↔ act.Leads s ok cut := by
  rw [perform, leads_mk, Act.leads_map]

theorem Leads.perform_bind {x : Act σ β} {f : β → Fallible ε σ α} {mid : β → σ → Prop}
    (hx : x.Leads s mid cut) (hf : ∀ b s', mid b s' → (f b).Leads s' ok err cut) :
    (perform x >>= f).Leads s ok err cut :=
  .bind (leads_perform.mpr hx) hf

theorem leads_answer {r : Except ε α} :
    (answer r).Leads s ok err cut ↔
      match r with
      | .ok a => ok a s
      | .error e => err e s := by
  cases r <;> exact Iff.rfl

theorem leads_mapError {f : ε → ε'} {err : ε' → σ → Prop} :
    (act.mapError f).Leads s ok err cut ↔ act.Leads s ok (fun e => err (f e)) cut := by
  unfold mapError ExceptT.adapt
  rw [leads_mk, Act.leads_map]
  unfold Leads Act.Leads
  simp only [ExceptT.run]
  rcases act s with ⟨_ | (_ | _), _⟩ <;> exact Iff.rfl

theorem leads_ensuring {after : σ → σ} : (act.ensuring after).Leads s ok err cut ↔
      act.Leads s (fun a s' => ok a (after s')) (fun e s' => err e (after s'))
        (fun s' => cut (after s')) := by
  rw [ensuring, leads_mk, Act.leads_ensuring, leads_run]

theorem leads_timed [Journaled σ] {fields : Fields} :
    (Performance.timed fields act).Leads s ok err cut ↔
      act.Leads s (fun a s' => ok a (Journaled.record (Performance.report fields) s'))
        (fun e s' => err e (Journaled.record (Performance.report fields) s'))
        (fun s' => cut (Journaled.record (Performance.report fields) s')) :=
  leads_ensuring

theorem leads_forM_cons {b : β} {rest : List β} {f : β → Fallible ε σ PUnit}
    {ok : PUnit → σ → Prop} :
    ((b :: rest).forM f).Leads s ok err cut ↔
      (f b).Leads s (fun _ s' => (rest.forM f).Leads s' ok err cut) err cut := by
  rw [show (b :: rest).forM f = (f b >>= fun _ => rest.forM f) from rfl, leads_bind]

/-- A loop of changes is a fold. -/
theorem leads_forM_modify {list : List β} {f : β → σ → σ} {ok : PUnit → σ → Prop} :
    (list.forM fun b => (modify (f b) : Fallible ε σ PUnit)).Leads s ok err cut ↔
      ok ⟨⟩ (list.foldl (fun s b => f b s) s) := by
  induction list generalizing s with
  | nil => exact Iff.rfl
  | cons b rest ih =>
    rw [leads_forM_cons, leads_modify, ih]
    rfl

end Fallible

/-! ## What an act keeps -/

/-- The act keeps `I`, or is cut off so that `K` holds. -/
def Act.Upholds {σ α : Type} (I K : σ → Prop) (act : Act σ α) : Prop :=
  ∀ s, I s → act.Leads s (fun _ => I) K

/-- The act keeps `I`, or fails so that `B` holds, or is cut off so that `K` does. -/
def Fallible.Upholds {ε σ α : Type} (I : σ → Prop) (B : ε → σ → Prop) (K : σ → Prop)
    (act : Fallible ε σ α) : Prop :=
  ∀ s, I s → act.Leads s (fun _ => I) B K

/-- The act keeps `I`, even if it fails, unless it is cut off. -/
abbrev Fallible.Preserves {ε σ α : Type} (I : σ → Prop) (act : Fallible ε σ α) : Prop :=
  act.Upholds I (fun _ => I) fun _ => True

namespace Act.Upholds

variable {ε σ α β : Type} {I K : σ → Prop}

theorem pure {a : α} : (Pure.pure a : Act σ α).Upholds I K :=
  fun _ h => h

theorem bind {x : Act σ β} {f : β → Act σ α} (hx : x.Upholds I K)
    (hf : ∀ b, (f b).Upholds I K) : (x >>= f).Upholds I K := fun s h =>
  Act.leads_bind.mpr ((hx s h).mono (fun b s' hs' => hf b s' hs') fun _ hs' => hs')

theorem get : (MonadState.get : Act σ σ).Upholds I K :=
  fun _ h => h

theorem change {f : σ → σ} (hf : ∀ s, I s → I (f s)) : (modify f : Act σ PUnit).Upholds I K :=
  fun s h => hf s h

theorem attempt {act : Fallible ε σ α} (h : act.Upholds I (fun _ => I) K) :
    act.attempt.Upholds I K :=
  fun s hs => Fallible.leads_attempt.mpr (h s hs)

theorem forM {list : List β} {f : β → Act σ PUnit} (h : ∀ b, (f b).Upholds I K) :
    (list.forM f).Upholds I K :=
  fun _ hs => Act.leads_forM (fun b _ s' hs' => h b s' hs') hs

end Act.Upholds

namespace Fallible.Upholds

variable {ε ε' σ α β : Type} {I K : σ → Prop} {B : ε → σ → Prop}

theorem mono {act : Fallible ε σ α} {B' : ε → σ → Prop} {K' : σ → Prop}
    (h : act.Upholds I B K) (hB : ∀ e s, B e s → B' e s) (hK : ∀ s, K s → K' s) :
    act.Upholds I B' K' :=
  fun s hs => (h s hs).mono (fun _ _ hs' => hs') hB hK

theorem pure {a : α} : (Pure.pure a : Fallible ε σ α).Upholds I B K :=
  fun _ h => h

theorem throw {e : ε} (h : ∀ s, I s → B e s) :
    (MonadExcept.throw e : Fallible ε σ α).Upholds I B K :=
  fun s hs => h s hs

theorem bind {x : Fallible ε σ β} {f : β → Fallible ε σ α} (hx : x.Upholds I B K)
    (hf : ∀ b, (f b).Upholds I B K) : (x >>= f).Upholds I B K := fun s h =>
  Fallible.leads_bind.mpr
    ((hx s h).mono (fun b s' hs' => hf b s' hs') (fun _ _ hs' => hs') fun _ hs' => hs')

theorem get : (MonadState.get : Fallible ε σ σ).Upholds I B K :=
  fun _ h => h

theorem change {f : σ → σ} (hf : ∀ s, I s → I (f s)) :
    (modify f : Fallible ε σ PUnit).Upholds I B K :=
  fun s h => hf s h

theorem perform {act : Act σ α} (h : act.Upholds I K) :
    (Fallible.perform act).Upholds I B K :=
  fun s hs => Fallible.leads_perform.mpr (h s hs)

theorem mapError {act : Fallible ε σ α} {f : ε → ε'} {B : ε' → σ → Prop}
    (h : act.Upholds I (fun e => B (f e)) K) : (act.mapError f).Upholds I B K :=
  fun s hs => Fallible.leads_mapError.mpr (h s hs)

theorem forM_mem {list : List β} {f : β → Fallible ε σ PUnit}
    (h : ∀ b ∈ list, (f b).Upholds I B K) : (list.forM f).Upholds I B K := by
  induction list with
  | nil => exact fun _ hs => hs
  | cons b rest ih =>
    obtain ⟨hb, hrest⟩ := List.forall_mem_cons.mp h
    exact .bind hb fun _ => ih hrest

theorem forM {list : List β} {f : β → Fallible ε σ PUnit} (h : ∀ b, (f b).Upholds I B K) :
    (list.forM f).Upholds I B K :=
  forM_mem fun b _ => h b

theorem foldlM {list : List β} {f : α → β → Fallible ε σ α} (h : ∀ a b, (f a b).Upholds I B K)
    {a : α} : (list.foldlM f a).Upholds I B K := by
  induction list generalizing a with
  | nil => exact .pure
  | cons b rest ih => exact .bind (h a b) fun _ => ih

/-- Looking at an answer and going on from there. -/
theorem handle {x : Fallible ε' σ β} {f : Except ε' β → Fallible ε σ α} {E : ε' → σ → Prop}
    (hx : x.Upholds I E K) (hok : ∀ b, (f (.ok b)).Upholds I B K)
    (herr : ∀ e s, E e s → (f (.error e)).Leads s (fun _ => I) B K) :
    (Fallible.perform x.attempt >>= f).Upholds I B K := fun s hs =>
  Fallible.leads_bind.mpr <| Fallible.leads_perform.mpr <| Fallible.leads_attempt.mpr <|
    (hx s hs).mono (fun b s' hs' => hok b s' hs') (fun e s' hs' => herr e s' hs') fun _ hs' => hs'

end Fallible.Upholds

end StreamCompute
