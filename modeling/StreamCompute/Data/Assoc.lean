/-
  StreamCompute.Data.Assoc

  Finite maps as association lists. The order of the entries is the order in
  which their keys were first set, so a key that was fresh when it was set
  and is erased again leaves the list exactly as it was.

  The view of a map is `get?`; `get?_set` and `get?_erase` say what the two
  writing operations do to it. Setting a key gives it one entry at most.
-/

namespace StreamCompute

/-- Keys with their values; the first entry of a key counts. -/
abbrev Assoc (κ ν : Type) := List (κ × ν)

namespace Assoc

variable {κ ν : Type} [DecidableEq κ]

def get? : Assoc κ ν → κ → Option ν
  | [], _ => none
  | (k, v) :: rest, q => if k = q then some v else get? rest q

def has (m : Assoc κ ν) (q : κ) : Bool :=
  (get? m q).isSome

/-- Gives the key a value, in place if it has one and at the end otherwise. -/
def set : Assoc κ ν → κ → ν → Assoc κ ν
  | [], q, w => [(q, w)]
  | (k, v) :: rest, q, w => if k = q then (k, w) :: rest else (k, v) :: set rest q w

def erase (m : Assoc κ ν) (q : κ) : Assoc κ ν :=
  m.filter fun e => decide (e.1 ≠ q)

/-- Keeps the entries whose value satisfies the test. -/
def keepValues (m : Assoc κ ν) (p : ν → Bool) : Assoc κ ν :=
  m.filter fun e => p e.2

def keys (m : Assoc κ ν) : List κ :=
  m.map Prod.fst

def values (m : Assoc κ ν) : List ν :=
  m.map Prod.snd

/-! ## The view -/

@[simp] theorem get?_nil (q : κ) : get? ([] : Assoc κ ν) q = none := rfl

theorem get?_set (m : Assoc κ ν) (q : κ) (w : ν) (p : κ) :
    get? (set m q w) p = if q = p then some w else get? m p := by
  induction m with
  | nil => simp [set, get?]
  | cons e rest ih =>
    obtain ⟨k, v⟩ := e
    by_cases hk : k = q
    · subst hk
      by_cases hp : k = p <;> simp [set, get?, hp]
    · by_cases hp : k = p
      · subst hp
        have hq : ¬ q = k := fun h => hk h.symm
        simp [set, get?, hk, hq]
      · simp [set, get?, hk, hp, ih]

@[simp] theorem get?_set_self (m : Assoc κ ν) (q : κ) (w : ν) : get? (set m q w) q = some w := by
  simp [get?_set]

theorem get?_set_of_ne {q p : κ} (m : Assoc κ ν) (w : ν) (h : q ≠ p) :
    get? (set m q w) p = get? m p := by
  simp [get?_set, h]

theorem get?_erase (m : Assoc κ ν) (q p : κ) :
    get? (erase m q) p = if q = p then none else get? m p := by
  induction m with
  | nil => simp [erase]
  | cons e rest ih =>
    obtain ⟨k, v⟩ := e
    simp only [erase] at ih
    by_cases hk : k = q
    · subst hk
      by_cases hp : k = p <;> simp_all [erase, get?]
    · by_cases hp : k = p
      · subst hp
        have hq : ¬ q = k := fun h => hk h.symm
        simp [erase, get?, hk, hq]
      · simp_all [erase, get?]

/-- A key that had no value and is set goes to the end. -/
theorem set_of_get?_eq_none {m : Assoc κ ν} {q : κ} (h : get? m q = none) (w : ν) :
    set m q w = m ++ [(q, w)] := by
  induction m with
  | nil => rfl
  | cons e rest ih =>
    obtain ⟨k, v⟩ := e
    by_cases hk : k = q
    · simp [get?, hk] at h
    · simp only [get?, hk, if_false] at h
      simp [set, hk, ih h]

/-- Erasing a key that has no value changes nothing. -/
theorem erase_of_get?_eq_none {m : Assoc κ ν} {q : κ} (h : get? m q = none) : erase m q = m := by
  induction m with
  | nil => rfl
  | cons e rest ih =>
    obtain ⟨k, v⟩ := e
    by_cases hk : k = q
    · simp [get?, hk] at h
    · simp only [get?, hk, if_false] at h
      have hrest := ih h
      simp only [erase] at hrest ⊢
      rw [List.filter_cons_of_pos (by simpa using hk), hrest]

/-- Setting a fresh key and erasing it again gives the map back, entry for entry. -/
theorem erase_set_of_get?_eq_none {m : Assoc κ ν} {q : κ} (h : get? m q = none) (w : ν) :
    erase (set m q w) q = m := by
  rw [set_of_get?_eq_none h]
  have hm := erase_of_get?_eq_none h
  simp only [erase] at hm ⊢
  rw [List.filter_append, hm, List.filter_cons_of_neg (by simp), List.filter_nil, List.append_nil]

/-! ## Entries and keys -/

section Entries

variable {m : Assoc κ ν} {q : κ} {v w : ν}

theorem mem_of_get? (h : get? m q = some v) : (q, v) ∈ m := by
  induction m with
  | nil => cases h
  | cons e rest ih =>
    obtain ⟨k, u⟩ := e
    by_cases hk : k = q
    · subst hk
      simp only [get?, if_true, Option.some.injEq] at h
      subst h
      exact List.mem_cons_self
    · simp only [get?, hk, if_false] at h
      exact List.mem_cons_of_mem _ (ih h)

theorem mem_values_of_get? (h : get? m q = some v) : v ∈ values m :=
  List.mem_map.mpr ⟨(q, v), mem_of_get? h, rfl⟩

theorem mem_values_set (h : v ∈ values (set m q w)) : v = w ∨ v ∈ values m := by
  induction m with
  | nil => exact .inl (List.mem_singleton.mp h)
  | cons e rest ih =>
    obtain ⟨k, u⟩ := e
    unfold set at h
    split at h
    · rcases List.mem_cons.mp h with rfl | h
      · exact .inl rfl
      · exact .inr (List.mem_cons_of_mem _ h)
    · rcases List.mem_cons.mp h with rfl | h
      · exact .inr List.mem_cons_self
      · exact (ih h).imp_right (List.mem_cons_of_mem _)

theorem mem_values_erase (h : v ∈ values (erase m q)) : v ∈ values m := by
  obtain ⟨e, he, rfl⟩ := List.mem_map.mp h
  exact List.mem_map_of_mem (List.mem_filter.mp he).1

theorem get?_eq_none_iff : get? m q = none ↔ ∀ e ∈ m, e.1 ≠ q := by
  induction m with
  | nil => simp
  | cons e rest ih =>
    obtain ⟨k, u⟩ := e
    by_cases hk : k = q
    · simp [get?, hk]
    · simp [get?, hk, ih]

/-- A value that looks the same may be put in place of another. -/
theorem filterMap_set {β : Type} {f : κ × ν → Option β} (h : get? m q = some v)
    (hf : f (q, w) = f (q, v)) :
    (set m q w).filterMap f = m.filterMap f := by
  induction m with
  | nil => cases h
  | cons e rest ih =>
    obtain ⟨k, u⟩ := e
    by_cases hk : k = q
    · subst hk
      simp only [get?, if_true, Option.some.injEq] at h
      subst h
      simp only [set, if_true, List.filterMap_cons, hf]
    · simp only [get?, hk, if_false] at h
      simp only [set, hk, if_false, List.filterMap_cons, ih h]

theorem mem_keys_iff : q ∈ keys m ↔ ∃ v, get? m q = some v := by
  cases h : get? m q with
  | some v => simpa [keys] using ⟨v, mem_of_get? h⟩
  | none =>
    rw [get?_eq_none_iff] at h
    simpa [keys] using fun v hv => h (q, v) hv rfl

theorem keys_set_of_get? (h : get? m q = some v) : keys (set m q w) = keys m := by
  have hkeys := filterMap_set (f := fun e => some e.1) (w := w) h rfl
  simpa [keys] using hkeys

theorem nodup_keys_set (h : (keys m).Nodup) : (keys (set m q w)).Nodup := by
  cases hq : get? m q with
  | some v => rwa [keys_set_of_get? hq]
  | none =>
    have hnew : q ∉ keys m := by simp [mem_keys_iff, hq]
    have hkeys : keys (set m q w) = keys m ++ [q] := by simp [keys, set_of_get?_eq_none hq]
    rw [hkeys]
    exact List.nodup_append.mpr ⟨h, by simp, fun k hk k' hk' heq => hnew (by simp_all)⟩

end Entries

end Assoc

end StreamCompute
