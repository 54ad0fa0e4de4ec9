/-
  StreamCompute.Proofs.KernelRun

  What running a kernel does to the resources behind the registers. Run over
  registers that are all tied, it is given what each of them starts with, and
  leaves its output behind each of them and everything else alone.
-/
import StreamCompute.Proofs.LaunchOutcome

namespace StreamCompute

def Spec.program (s : Spec) : Kernel :=
  s.kernel.getD .idle

/-! ## Writing the registers back -/

namespace Simulator

variable {s : Simulator} {contents : Registers} {id : Ident .resource}

/-- What the first of the bound registers does to the resources. -/
theorem storeRegisters_cons (s : Simulator) (contents : Registers)
    (b : String × Ident .resource) (rest : List (String × Ident .resource)) :
    ∃ s' : Simulator,
      { s with resources := storeRegisters s.resources contents (b :: rest) } =
        { s' with resources := storeRegisters s'.resources contents rest } ∧
      (∀ id, b.2 ≠ id → s'.held? id = s.held? id) ∧
      ∀ old new, s.held? b.2 = some old → contents.get? b.1 = some new →
        s'.held? b.2 = some (Bytes.overwrite old new) := by
  obtain ⟨name, resource⟩ := b
  cases hnew : contents.get? name with
  | none => exact ⟨s, by simp [storeRegisters, hnew], fun _ _ => rfl, nofun⟩
  | some bytes =>
    cases hold : s.resources.get? resource with
    | none =>
      refine ⟨s, by simp [storeRegisters, hnew, hold], fun _ _ => rfl, fun old new hheld _ => ?_⟩
      obtain ⟨res, hres, -⟩ := held?_eq_some hheld
      cases hold.symm.trans hres
    | some res =>
      refine ⟨{ s with
        resources := s.resources.set resource { res with bytes := res.bytes.overwrite bytes } },
        by simp [storeRegisters, hnew, hold], fun id hne => ?_, fun old new hheld hget => ?_⟩
      · rw [held?_of_set rfl, if_neg hne]
      · cases hget
        cases (held?_of_get? hold).symm.trans hheld
        rw [held?_of_set rfl, if_pos rfl, Contents.toList_overwrite]

/-- A resource that no register is bound to is left alone. -/
theorem held?_storeRegisters_of_ne {bound : List (String × Ident .resource)}
    (hne : ∀ b ∈ bound, b.2 ≠ id) :
    held? { s with resources := storeRegisters s.resources contents bound } id = s.held? id := by
  induction bound generalizing s with
  | nil => rfl
  | cons b rest ih =>
    obtain ⟨s', hs', hother, -⟩ := storeRegisters_cons s contents b rest
    rw [hs', ih fun b' hb' => hne b' (List.mem_cons_of_mem b hb')]
    exact hother id (hne b List.mem_cons_self)

/-- The resource behind a register takes over contents of its own length. -/
theorem held?_storeRegisters {bound : List (String × Ident .resource)}
    (hnodup : (bound.map Prod.snd).Nodup) {b : String × Ident .resource} (hb : b ∈ bound)
    {old new : Bytes} (hold : s.held? b.2 = some old) (hnew : contents.get? b.1 = some new)
    (hlength : new.length = old.length) :
    held? { s with resources := storeRegisters s.resources contents bound } b.2 = some new := by
  induction bound generalizing s with
  | nil => cases hb
  | cons b' rest ih =>
    obtain ⟨hnot, hrest⟩ := List.nodup_cons.mp hnodup
    obtain ⟨s', hs', hother, hhead⟩ := storeRegisters_cons s contents b' rest
    rw [hs']
    rcases List.mem_cons.mp hb with rfl | hb
    · have hafter : ∀ u ∈ rest, u.2 ≠ b.2 := fun u hu heq => hnot (heq ▸ List.mem_map_of_mem hu)
      rw [held?_storeRegisters_of_ne hafter, hhead old new hold hnew,
        Bytes.overwrite_of_length_eq hlength]
    · refine ih hrest hb ((hother b.2 fun heq => hnot ?_).trans hold)
      exact heq ▸ List.mem_map_of_mem hb

end Simulator

/-! ## Registers of a launch -/

namespace Loaded

variable {κ ω : Type} {base m : Machine κ ω} {site : BindSite} {a : Arena} {ties : List Tie}
  {t : BindingTable} {domain : Domain} {id : Ident .resource}

variable (h : Loaded base site ties a m)

include h

theorem boundResources_eq :
    m.platform.driver.boundResources site.context =
      ties.map fun tie => (tie.register, tie.resource) := by
  have hwiring : (m.platform.driver.bindings.get? site.context).getD [] = _ := h.wiring
  rw [Simulator.boundResources, hwiring, List.filterMap_map, ← List.filterMap_eq_map]
  refine List.filterMap_congr fun tie htie => ?_
  simp [h.memories tie htie]

/-- The kernel is given what each register starts with. -/
theorem registerContents_eq :
    m.platform.driver.registerContents site.context =
      ties.map fun tie => (tie.register, base.initial tie.register tie.binding) := by
  rw [Simulator.registerContents, h.boundResources_eq, List.filterMap_map, ← List.filterMap_eq_map]
  refine List.filterMap_congr fun tie htie => ?_
  obtain ⟨bytes, hbytes, hlist⟩ := Option.map_eq_some_iff.mp (h.held tie htie)
  simp [hbytes, hlist]

theorem nodup_keys_registerContents (hties : (ties.map Tie.entry).Perm t.entries) :
    (m.platform.driver.registerContents site.context).keys.Nodup := by
  have hregisters := (hties.map Prod.fst).nodup_iff.mpr t.distinct
  simpa [h.registerContents_eq, Assoc.keys, Function.comp_def, Tie.entry] using hregisters

theorem get?_registerContents (hties : (ties.map Tie.entry).Perm t.entries) (name : String) :
    (m.platform.driver.registerContents site.context).get? name =
      (t.get? name).map (base.initial name) := by
  rw [t.get?_eq]
  cases hget : Assoc.get? t.entries name with
  | some binding =>
    obtain ⟨tie, htie, hentry⟩ := List.mem_map.mp (hties.mem_iff.mpr (Assoc.mem_of_get? hget))
    cases hentry
    refine Assoc.get?_of_mem (h.nodup_keys_registerContents hties)
      (e := (tie.register, base.initial tie.register tie.binding)) ?_
    rw [h.registerContents_eq]
    exact List.mem_map_of_mem htie
  | none =>
    rw [h.registerContents_eq]
    refine Assoc.get?_eq_none_iff.mpr fun e he => ?_
    obtain ⟨tie, htie, rfl⟩ := List.mem_map.mp he
    exact Assoc.get?_eq_none_iff.mp hget tie.entry
      (hties.mem_iff.mp (List.mem_map_of_mem htie))

/-- A resource that no register is tied to is left alone. -/
theorem held?_ran_of_ne (hne : ∀ tie ∈ ties, tie.resource ≠ id) :
    (m.ran site.context domain).platform.driver.held? id = m.platform.driver.held? id := by
  change Simulator.held? { m.platform.driver with
    resources := m.platform.driver.executed site.context domain } id = _
  unfold Simulator.executed
  split
  · rfl
  · refine Simulator.held?_storeRegisters_of_ne fun b hb => ?_
    rw [h.boundResources_eq] at hb
    obtain ⟨tie, htie, rfl⟩ := List.mem_map.mp hb
    exact hne tie htie

/-- The resource behind a register holds what the kernel computes for it. -/
theorem held?_ran (hties : (ties.map Tie.entry).Perm t.entries) {tie : Tie} (htie : tie ∈ ties) :
    (m.ran site.context domain).platform.driver.held? tie.resource =
      (base.platform.driver.spec.program.apply domain
        (m.platform.driver.registerContents site.context)).get? tie.register := by
  have hnodup := h.nodup_keys_registerContents hties
  have hinput : (m.platform.driver.registerContents site.context).get? tie.register =
      some (base.initial tie.register tie.binding) := by
    refine Assoc.get?_of_mem hnodup
      (e := (tie.register, base.initial tie.register tie.binding)) ?_
    rw [h.registerContents_eq]
    exact List.mem_map_of_mem htie
  -- The kernel neither adds registers nor changes their length.
  have hlength := base.platform.driver.spec.program.lengths domain _ tie.register hnodup
  rw [hinput, Option.map_some, Option.map_eq_some_iff] at hlength
  obtain ⟨new, hnew, hlength⟩ := hlength
  change Simulator.held? { m.platform.driver with
    resources := m.platform.driver.executed site.context domain } _ = _
  unfold Simulator.executed
  rw [hnew]
  unfold Spec.program at hnew
  rw [← h.setup.spec] at hnew
  split
  · rename_i hkernel
    rw [hkernel, Option.getD_none] at hnew
    exact (h.held tie htie).trans (hinput.symm.trans hnew)
  · rename_i kernel hkernel
    rw [hkernel, Option.getD_some] at hnew
    refine Simulator.held?_storeRegisters (b := (tie.register, tie.resource)) ?_ ?_
      (h.held tie htie) hnew hlength
    · simpa [h.boundResources_eq, Function.comp_def] using h.distinct
    · rw [h.boundResources_eq]
      exact List.mem_map_of_mem htie

end Loaded

end StreamCompute
