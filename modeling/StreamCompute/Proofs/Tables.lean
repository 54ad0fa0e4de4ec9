/-
  StreamCompute.Proofs.Tables

  Entries of association lists. The entries of a map are among those it was
  built from, so a bound on the keys of a map is kept by every operation, and
  a key above the bound is fresh.
-/
import StreamCompute.Data.Assoc
import StreamCompute.Ident

namespace StreamCompute

namespace Assoc

variable {κ ν : Type} [DecidableEq κ] {m : Assoc κ ν} {q : κ} {v w : ν} {e : κ × ν}

/-! ## Entries -/

/-- What is found after a key was set is the new value, or was found before. -/
theorem of_get?_set {p : κ} (h : get? (set m q w) p = some v) :
    (q = p ∧ v = w) ∨ (q ≠ p ∧ get? m p = some v) := by
  rw [get?_set] at h
  split at h
  · cases h
    exact Or.inl ⟨‹_›, rfl⟩
  · exact Or.inr ⟨‹_›, h⟩

theorem of_get?_erase {p : κ} (h : get? (erase m q) p = some v) : q ≠ p ∧ get? m p = some v := by
  rw [get?_erase] at h
  split at h
  · cases h
  · exact ⟨‹_›, h⟩

theorem mem_set (h : e ∈ set m q w) : e = (q, w) ∨ e ∈ m := by
  induction m with
  | nil => exact Or.inl (by simpa [set] using h)
  | cons e' rest ih =>
    obtain ⟨k, u⟩ := e'
    by_cases hk : k = q
    · subst hk
      simp only [set, if_true, List.mem_cons] at h
      rcases h with h | h
      · exact Or.inl h
      · exact Or.inr (List.mem_cons_of_mem _ h)
    · simp only [set, hk, if_false, List.mem_cons] at h
      rcases h with h | h
      · exact Or.inr (h ▸ List.mem_cons_self)
      · rcases ih h with h | h
        · exact Or.inl h
        · exact Or.inr (List.mem_cons_of_mem _ h)

theorem mem_erase (h : e ∈ erase m q) : e ∈ m ∧ e.1 ≠ q := by
  simpa [erase] using h

omit [DecidableEq κ] in
theorem mem_keepValues {p : ν → Bool} (h : e ∈ keepValues m p) : e ∈ m ∧ p e.2 = true := by
  simpa [keepValues] using h

theorem length_set_le (m : Assoc κ ν) (q : κ) (w : ν) : (set m q w).length ≤ m.length + 1 := by
  induction m with
  | nil => exact Nat.le_refl 1
  | cons e rest ih =>
    obtain ⟨k, u⟩ := e
    by_cases hk : k = q
    · simp [set, hk]
    · simpa [set, hk] using ih

theorem get?_keepValues {p : ν → Bool} (h : get? m q = some v) (hp : p v = true) :
    get? (keepValues m p) q = some v := by
  induction m with
  | nil => cases h
  | cons e rest ih =>
    obtain ⟨k, u⟩ := e
    by_cases hk : k = q
    · simp only [get?, hk, if_true, Option.some.injEq] at h
      simp [keepValues, get?, hk, h, hp]
    · simp only [get?, hk, if_false] at h
      by_cases hu : p u = true
      · simpa [keepValues, get?, hk, hu] using ih h
      · simpa [keepValues, hu] using ih h

@[simp] theorem get?_erase_self (m : Assoc κ ν) (q : κ) : get? (erase m q) q = none := by
  simp [get?_erase]

theorem get?_erase_of_ne {q p : κ} (m : Assoc κ ν) (h : q ≠ p) :
    get? (erase m q) p = get? m p := by
  simp [get?_erase, h]

/-- Erasing a key forgets what it was set to. -/
theorem erase_set (m : Assoc κ ν) (q : κ) (w : ν) : erase (set m q w) q = erase m q := by
  induction m with
  | nil => simp [set, erase]
  | cons e rest ih =>
    obtain ⟨k, u⟩ := e
    by_cases hk : k = q
    · simp [set, erase, hk]
    · simpa [set, erase, hk] using ih

/-- The last value that a key is given counts. -/
theorem set_set (m : Assoc κ ν) (q : κ) (v w : ν) : set (set m q v) q w = set m q w := by
  induction m with
  | nil => simp [set]
  | cons e rest ih =>
    obtain ⟨k, u⟩ := e
    by_cases hk : k = q
    · simp [set, hk]
    · simp [set, hk, ih]

/-- Giving a key the value that it has changes nothing. -/
theorem set_of_get? (h : get? m q = some v) : set m q v = m := by
  induction m with
  | nil => cases h
  | cons e rest ih =>
    obtain ⟨k, u⟩ := e
    by_cases hk : k = q
    · simp only [get?, hk, if_true, Option.some.injEq] at h
      simp [set, hk, h]
    · simp only [get?, hk, if_false] at h
      simp [set, hk, ih h]

theorem has_iff : has m q = true ↔ ∃ v, get? m q = some v := by
  simp [has, Option.isSome_iff_exists]

/-! ## Views that skip entries -/

variable {β : Type} {f : κ × ν → Option β} {p : κ × ν → Bool}

/-- A new entry that is skipped makes no difference. -/
theorem filterMap_set_of_get?_eq_none (h : get? m q = none) (hf : f (q, w) = none) :
    (set m q w).filterMap f = m.filterMap f := by
  rw [set_of_get?_eq_none h, List.filterMap_append, List.filterMap_cons_none hf,
    List.filterMap_nil, List.append_nil]

/-- Setting a key whose entries are skipped makes no difference. -/
theorem filter_set (hw : p (q, w) = false) (hv : ∀ v, get? m q = some v → p (q, v) = false) :
    (set m q w).filter p = m.filter p := by
  rw [← List.filterMap_eq_filter]
  cases hq : get? m q with
  | none => exact filterMap_set_of_get?_eq_none hq (by simp [Option.guard, hw])
  | some v => exact filterMap_set hq (by simp [Option.guard, hw, hv v hq])

/-- A fresh key is skipped together with those that were skipped before. -/
theorem filter_set_fresh (h : get? m q = none) (l : List κ) :
    (set m q w).filter (fun e => e.1 ∉ l ++ [q]) = m.filter fun e => e.1 ∉ l := by
  rw [filter_set (by simp) (by simp [h])]
  refine List.filter_congr fun e he => ?_
  simp [get?_eq_none_iff.mp h e he]

/-- An erased key need not be skipped any more. -/
theorem filter_erase (m : Assoc κ ν) (q : κ) (l : List κ) :
    (erase m q).filter (fun e => e.1 ∉ l) = m.filter fun e => e.1 ∉ l ++ [q] := by
  rw [erase, List.filter_filter]
  refine List.filter_congr fun e _ => ?_
  simp

/-- A view that skips entries by their keys and shows the others under the same keys. -/
theorem get?_filterMap {μ : Type} (keep : κ → Bool) (view : κ → ν → μ) (m : Assoc κ ν) (q : κ) :
    get? (m.filterMap fun e => if keep e.1 then some (e.1, view e.1 e.2) else none) q =
      if keep q then (get? m q).map (view q) else none := by
  induction m with
  | nil => simp
  | cons e rest ih =>
    obtain ⟨k, u⟩ := e
    by_cases hk : k = q
    · subst hk
      by_cases hkeep : keep k <;> simp_all [get?]
    · by_cases hkeep : keep k <;> simp [get?, hk, hkeep, ih]

/-! ## Keys -/

omit [DecidableEq κ] in
theorem nodup_keys_filter (h : (keys m).Nodup) : (keys (m.filter p)).Nodup :=
  List.Nodup.sublist (List.filter_sublist.map Prod.fst) h

/-- Where keys have one entry each, the entries are the values. -/
theorem get?_of_mem (h : (keys m).Nodup) (he : e ∈ m) : get? m e.1 = some e.2 := by
  induction m with
  | nil => cases he
  | cons e' rest ih =>
    obtain ⟨hnot, hrest⟩ := List.nodup_cons.mp h
    rcases List.mem_cons.mp he with rfl | he
    · simp [get?]
    · have hne : e'.1 ≠ e.1 := fun heq => hnot (heq ▸ List.mem_map_of_mem he)
      simpa [get?, hne] using ih hrest he

end Assoc

/-! ## Numbers in use -/

theorem Ident.ne_of_number_lt {k : Kind} {i : Ident k} {n : Nat} (h : i.number < n) : i ≠ ⟨n⟩ := by
  rintro rfl
  exact Nat.lt_irrefl n h

/-- Every key of the table has a number below `n`, and one entry. -/
structure Below {k : Kind} {ν : Type} (n : Nat) (t : Assoc (Ident k) ν) : Prop where
  number : ∀ e ∈ t, e.1.number < n
  distinct : t.keys.Nodup

namespace Below

variable {k : Kind} {ν : Type} {n n' : Nat} {t : Assoc (Ident k) ν} {i : Ident k} {v : ν}

theorem nil : Below n ([] : Assoc (Ident k) ν) :=
  ⟨nofun, List.nodup_nil⟩

variable (h : Below n t)

include h

theorem mono (hn : n ≤ n') : Below n' t :=
  ⟨fun e he => Nat.lt_of_lt_of_le (h.number e he) hn, h.distinct⟩

theorem of_keys {t' : Assoc (Ident k) ν} (hkeys : t'.keys = t.keys) :
    Below n t' := by
  refine ⟨fun e he => ?_, hkeys ▸ h.distinct⟩
  have hkey : e.1 ∈ t.keys := hkeys ▸ List.mem_map_of_mem he
  obtain ⟨v, hv⟩ := Assoc.mem_keys_iff.mp hkey
  exact h.number (e.1, v) (Assoc.mem_of_get? hv)

theorem lt_of_get? (hi : t.get? i = some v) : i.number < n :=
  h.number _ (Assoc.mem_of_get? hi)

theorem fresh : t.get? ⟨n⟩ = none := by
  rw [Assoc.get?_eq_none_iff]
  exact fun e he => Ident.ne_of_number_lt (h.number e he)

theorem set (hi : i.number < n) : Below n (Assoc.set t i v) := by
  refine ⟨fun e he => ?_, Assoc.nodup_keys_set h.distinct⟩
  rcases Assoc.mem_set he with rfl | he
  · exact hi
  · exact h.number e he

theorem reset {w : ν} (hi : t.get? i = some w) : Below n (Assoc.set t i v) :=
  h.set (h.lt_of_get? hi)

/-- Setting the next number leaves all numbers below the one after. -/
theorem set_next : Below (n + 1) (Assoc.set t ⟨n⟩ v) :=
  (h.mono (Nat.le_succ n)).set (Nat.lt_succ_self n)

theorem filter {p : Ident k × ν → Bool} : Below n (t.filter p) :=
  ⟨fun e he => h.number e (List.mem_filter.mp he).1, Assoc.nodup_keys_filter h.distinct⟩

theorem erase : Below n (Assoc.erase t i) :=
  h.filter

theorem keepValues {p : ν → Bool} : Below n (Assoc.keepValues t p) :=
  h.filter

end Below

end StreamCompute
