/-
  StreamCompute.Proofs.Ledger

  The books of whoever uses a runtime. A `Ledger` lists what was given out and
  has not been given back: images, resources and executions. `Books l m` says
  that the driver has exactly what the ledger accounts for, where an execution
  accounts for its context, its module and all that its arena lists.

  For every operation of a runtime there is one lemma, which says how the
  ledger goes on.
-/
import StreamCompute.Proofs.LaunchAudit

namespace StreamCompute

open Fallible

variable {κ ω α : Type}

/-- What was given out and has not been given back. -/
structure Ledger where
  images : Multiset Image := 0
  locals : Multiset Local := 0
  remotes : Multiset Remote := 0
  executions : Multiset Execution := 0

/-- The memory objects that an execution owns, with its context. -/
def Execution.memories (m : Machine κ ω) (e : Execution) :
    Multiset (Ident .memory × Ident .context) :=
  (e.arena m).memories.map fun memory => (memory, e.context)

/-- The resources that were made for an execution. -/
def Execution.transients (m : Machine κ ω) (e : Execution) : Multiset (Ident .resource) :=
  (e.arena m).transients.map Prod.snd

/-- The objects of the driver that a ledger accounts for. -/
def Ledger.inventory (l : Ledger) (m : Machine κ ω) : Inventory where
  images := l.images.map Image.id
  contexts := l.executions.map Execution.context
  modules := l.executions.map fun e => (e.module, e.context)
  memories := l.executions.bind (Execution.memories m)
  resources := l.remotes.map Remote.id + l.locals.map Local.id +
    l.executions.bind (Execution.transients m)

namespace Ledger

variable {l : Ledger} {m m' : Machine κ ω}

theorem inventory_congr
    (h : ∀ e ∈ l.executions, m'.arenas.get? e.key = m.arenas.get? e.key) :
    l.inventory m' = l.inventory m := by
  have harena : ∀ e ∈ l.executions, e.arena m' = e.arena m := fun e he => by
    rw [Execution.arena, h e he, Execution.arena]
  have hmemories : l.executions.bind (Execution.memories m') =
      l.executions.bind (Execution.memories m) :=
    Multiset.bind_congr fun e he => by rw [Execution.memories, harena e he, Execution.memories]
  have htransients : l.executions.bind (Execution.transients m') =
      l.executions.bind (Execution.transients m) :=
    Multiset.bind_congr fun e he => by
      rw [Execution.transients, harena e he, Execution.transients]
  rw [inventory, hmemories, htransients, inventory]

theorem inventory_image (image : Image) :
    ({ l with images := image ::ₘ l.images } : Ledger).inventory m =
      { l.inventory m with images := image.id ::ₘ (l.inventory m).images } := by
  simp [inventory]

theorem inventory_local {x : Local} :
    ({ l with locals := x ::ₘ l.locals } : Ledger).inventory m =
      { l.inventory m with resources := x.id ::ₘ (l.inventory m).resources } := by
  simp [inventory]

theorem inventory_remote {r : Remote} :
    ({ l with remotes := r ::ₘ l.remotes } : Ledger).inventory m =
      { l.inventory m with resources := r.id ::ₘ (l.inventory m).resources } := by
  simp [inventory]

theorem inventory_execution {e : Execution} {a : Arena} (ha : m.arenas.get? e.key = some a) :
    ({ l with executions := e ::ₘ l.executions } : Ledger).inventory m =
      ((l.inventory m).opened e.context e.module).within e.context a := by
  have harena : e.arena m = a := by rw [Execution.arena, ha, Option.getD_some]
  simp [inventory, Inventory.opened, Inventory.within, Execution.memories, Execution.transients,
    harena, add_left_comm, add_assoc]

theorem inventory_of_execution {e : Execution} {a : Arena} (h : e ∈ l.executions)
    (ha : m.arenas.get? e.key = some a) :
    l.inventory m = ((({ l with executions := l.executions.erase e } : Ledger).inventory m).opened
      e.context e.module).within e.context a := by
  rw [← inventory_execution (l := { l with executions := l.executions.erase e }) ha]
  rw [Multiset.cons_erase h]

end Ledger

/-! ## Books that are in order -/

/-- The driver has what the ledger accounts for. -/
structure Books (l : Ledger) (m : Machine κ ω) : Prop where
  audited : Audited m (l.inventory m) m
  unfreed : ∀ r, (m.status r).freed = false ↔ r ∈ l.remotes
  executions : ∀ e ∈ l.executions, e.home = m.platform.serial ∧
    e.id.number < m.platform.nextExecution ∧ ∃ a, m.arenas.get? e.key = some a
  housed : ∀ key a, m.arenas.get? key = some a → ∃ e ∈ l.executions, e.key = key
  keys : (l.executions.map Execution.key).Nodup

/-- The books of the second machine are in order, and executions that were there before have kept
    what they own. -/
structure Later (l : Ledger) (m : Machine κ ω) (l' : Ledger) (m' : Machine κ ω) : Prop where
  books : Books l' m'
  spec : m'.platform.driver.spec = m.platform.driver.spec
  executions : m.platform.nextExecution ≤ m'.platform.nextExecution
  old : ∀ e ∈ l'.executions, e.id.number < m.platform.nextExecution → e ∈ l.executions
  arenas : ∀ e ∈ l'.executions, e.id.number < m.platform.nextExecution →
    m'.arenas.get? e.key = m.arenas.get? e.key

variable {l l' l'' : Ledger} {m m' m'' : Machine κ ω}

theorem Later.refl (h : Books l m) : Later l m l m :=
  ⟨h, rfl, Nat.le_refl _, fun _ he _ => he, fun _ _ _ => rfl⟩

theorem Later.trans (h : Later l m l' m') (h' : Later l' m' l'' m'') : Later l m l'' m'' where
  books := h'.books
  spec := h'.spec.trans h.spec
  executions := Nat.le_trans h.executions h'.executions
  old e he hnumber :=
    h.old e (h'.old e he (Nat.lt_of_lt_of_le hnumber h.executions)) hnumber
  arenas e he hnumber := by
    have hnumber' := Nat.lt_of_lt_of_le hnumber h.executions
    exact (h'.arenas e he hnumber').trans (h.arenas e (h'.old e he hnumber') hnumber)

namespace Books

/-- The next ledger, with no new executions. -/
theorem next (h : Books l m) (base : Machine κ ω) (hexecutions : l'.executions ≤ l.executions)
    (hbase : base = { m with remotes := base.remotes, arenas := base.arenas })
    (harenas : ∀ e ∈ l'.executions, base.arenas.get? e.key = m.arenas.get? e.key)
    (hhoused : ∀ key a, base.arenas.get? key = some a → ∃ e ∈ l'.executions, e.key = key)
    (hunfreed : ∀ r, (base.status r).freed = false ↔ r ∈ l'.remotes)
    (hm' : Audited base (l'.inventory m) m') : Later l m l' m' := by
  have hplatform : base.platform = m.platform := by rw [hbase]
  have hmem : ∀ e ∈ l'.executions, e ∈ l.executions :=
    fun e he => Multiset.mem_of_le hexecutions he
  have hkept : ∀ e ∈ l'.executions, m'.arenas.get? e.key = m.arenas.get? e.key :=
    fun e he => (hm'.arenas e.key).trans (harenas e he)
  have hserial : m'.platform.serial = m.platform.serial := by rw [hm'.serial, hplatform]
  have hgrown : m.platform.nextExecution ≤ m'.platform.nextExecution := by
    rw [← hplatform]
    exact hm'.executions
  refine ⟨⟨?_, fun r => ?_, fun e he => ?_, fun key a ha => ?_, ?_⟩, ?_, hgrown,
    fun e he _ => hmem e he, fun e he _ => hkept e he⟩
  · rw [Ledger.inventory_congr hkept]
    exact hm'.self
  · rw [hm'.freed]
    exact hunfreed r
  · obtain ⟨hhome, hnumber, a, ha⟩ := h.executions e (hmem e he)
    exact ⟨hhome.trans hserial.symm, Nat.lt_of_lt_of_le hnumber hgrown, a, (hkept e he).trans ha⟩
  · exact hhoused key a ((hm'.arenas key).symm.trans ha)
  · exact Multiset.nodup_of_le (Multiset.map_le_map hexecutions) h.keys
  · rw [hm'.driver.spec, hplatform]

/-- The next ledger, with the same remote resources and executions. -/
theorem traded (h : Books l m) (hremotes : l'.remotes = l.remotes)
    (hexecutions : l'.executions = l.executions) (hm' : Audited m (l'.inventory m) m') :
    Later l m l' m' :=
  h.next m (le_of_eq hexecutions) rfl (fun _ _ => rfl) (hexecutions ▸ h.housed)
    (fun r => hremotes ▸ h.unfreed r) hm'

theorem kept (h : Books l m) (hm' : Audited m (l.inventory m) m') : Later l m l m' :=
  h.traded rfl rfl hm'

/-- What matters neither to the inventory nor to who owns it does not matter to the books. -/
theorem preserves {ε : Type} {act : Fallible ε (Machine κ ω) α}
    (hact : act.Preserves (Audited m (l.inventory m))) (h : Books l m) :
    act.Leads m (fun _ => Later l m l) (fun _ => Later l m l) fun _ => True :=
  (hact m h.audited).mono (fun _ _ hm' => h.kept hm') (fun _ _ hm' => h.kept hm') fun _ hm' => hm'

theorem remotes_nodup (h : Books l m) : l.remotes.Nodup := by
  have hresources := h.audited.driver.resources.nodup id fun _ => rfl
  have hle : l.remotes.map Remote.id ≤ (l.inventory m).resources :=
    (Multiset.le_add_right ..).trans (Multiset.le_add_right ..)
  exact .of_map _ (Multiset.nodup_of_le hle hresources)

/-- Executions that are yet to be launched have no arenas. -/
theorem fresh (h : Books l m) (key : ExecutionKey)
    (hkey : m.platform.nextExecution ≤ key.2.number) : m.arenas.get? key = none := by
  cases ha : m.arenas.get? key with
  | none => rfl
  | some a =>
    obtain ⟨e, he, rfl⟩ := h.housed key a ha
    exact absurd (h.executions e he).2.1 (Nat.not_lt.mpr hkey)

/-- The execution holds what its arena lists. -/
theorem holding {e : Execution} (h : Books l m) (he : e ∈ l.executions) :
    ∃ a, m.arenas.get? e.key = some a ∧ Audited m
      (((({ l with executions := l.executions.erase e } : Ledger).inventory m).opened
        e.context e.module).within e.context a) m := by
  obtain ⟨-, -, a, ha⟩ := h.executions e he
  exact ⟨a, ha, Ledger.inventory_of_execution he ha ▸ h.audited⟩

theorem ended {e : Execution} (h : Books l m) (he : e ∈ l.executions)
    (hm' : Audited (m.closeArena e.key)
      (({ l with executions := l.executions.erase e } : Ledger).inventory m) m') :
    Later l m { l with executions := l.executions.erase e } m' := by
  refine h.next (m.closeArena e.key) (Multiset.erase_le ..) rfl (fun e' he' => ?_)
    (fun key a ha => ?_) h.unfreed hm'
  · have hkeys := h.keys
    rw [← Multiset.cons_erase he, Multiset.map_cons, Multiset.nodup_cons] at hkeys
    refine Assoc.get?_erase_of_ne _ fun hkey => hkeys.1 ?_
    rw [hkey]
    exact Multiset.mem_map_of_mem _ he'
  · obtain ⟨hne, ha⟩ := Assoc.of_get?_erase ha
    obtain ⟨e', he', rfl⟩ := h.housed key a ha
    have hother : e' ≠ e := fun heq => hne (heq ▸ rfl)
    exact ⟨e', (Multiset.mem_erase_of_ne hother).mpr he', rfl⟩

variable [Reentry κ ω] {device : Device} {shape : Shape} {format : Format} {flags : AllocFlags}

/-! ## Images -/

theorem compile {source : String} (h : Books l m) :
    (Images.compile source).Leads m
      (fun image => Later l m { l with images := image ::ₘ l.images })
      (fun _ => Later l m l) fun _ => True :=
  (Images.compile_audited h.audited).mono
    (fun _ _ hm' => h.traded rfl rfl (Ledger.inventory_image _ ▸ hm')) (fun _ _ hm' => h.kept hm')
    fun _ hm' => hm'

theorem compileFor {source : String} (h : Books l m) :
    (Images.compileFor device source).Leads m
      (fun image => Later l m { l with images := image ::ₘ l.images })
      (fun _ => Later l m l) fun _ => True :=
  (Images.compileFor_audited h.audited).mono
    (fun _ _ hm' => h.traded rfl rfl (Ledger.inventory_image _ ▸ hm')) (fun _ _ hm' => h.kept hm')
    fun _ hm' => hm'

theorem freeImage {image : Image} {err : Error → Machine κ ω → Prop} (h : Books l m)
    (himage : image ∈ l.images) :
    (Images.free image).Leads m (fun _ => Later l m { l with images := l.images.erase image }) err
      fun _ => True := by
  have hinventory := Ledger.inventory_image (l := { l with images := l.images.erase image }) (m := m)
    image
  rw [Multiset.cons_erase himage] at hinventory
  exact (Images.free_audited (hinventory ▸ h.audited)).mono (fun _ _ hm' => h.traded rfl rfl hm')
    (fun _ _ hm' => hm') fun _ hm' => hm'

/-! ## Resources -/

theorem allocateLocal (h : Books l m) :
    (Memory.allocateLocal device shape format flags).Leads m
      (fun x => Later l m { l with locals := x ::ₘ l.locals })
      (fun _ => Later l m l) fun _ => True :=
  (Memory.allocateLocal_audited h.audited).mono
    (fun _ _ hm' => h.traded rfl rfl (Ledger.inventory_local ▸ hm')) (fun _ _ hm' => h.kept hm')
    fun _ hm' => hm'

theorem freeLocal {x : Local} {err : Error → Machine κ ω → Prop} (h : Books l m)
    (hx : x ∈ l.locals) :
    (Memory.freeLocal x).Leads m (fun _ => Later l m { l with locals := l.locals.erase x }) err
      fun _ => True := by
  have hinventory := Ledger.inventory_local (m := m) (x := x)
    (l := { l with locals := l.locals.erase x })
  rw [Multiset.cons_erase hx] at hinventory
  exact (Memory.freeLocal_audited (hinventory ▸ h.audited)).mono (fun _ _ hm' => h.traded rfl rfl hm')
    (fun _ _ hm' => hm') fun _ hm' => hm'

/-- A new remote resource is not on the ledger yet, since its number is new. -/
theorem allocateRemote (h : Books l m) :
    (Memory.allocateRemote device shape format flags).Leads m
      (fun r => Later l m { l with remotes := r ::ₘ l.remotes })
      (fun _ => Later l m l) fun _ => True := by
  refine (Memory.allocateRemote_audited h.audited).mono (fun r m' ⟨_, status, hfreed, hm'⟩ => ?_)
    (fun _ _ hm' => h.kept hm') fun _ hm' => hm'
  refine h.next (m.onStatus r fun _ => status) le_rfl rfl (fun _ _ => rfl) h.housed
    (fun r' => ?_) (Ledger.inventory_remote ▸ hm')
  rw [Machine.status_onStatus, Multiset.mem_cons]
  split
  · rename_i heq
    simp [hfreed, heq]
  · rename_i hne
    simp [h.unfreed r', Ne.symm hne]

omit [Reentry κ ω] in
theorem released {r : Remote} (h : Books l m)
    (hm' : Audited (m.onStatus r RemoteStatus.released)
      (({ l with remotes := l.remotes.erase r } : Ledger).inventory m) m') :
    Later l m { l with remotes := l.remotes.erase r } m' := by
  refine h.next (m.onStatus r RemoteStatus.released) le_rfl rfl (fun _ _ => rfl) h.housed
    (fun r' => ?_) hm'
  rw [Machine.status_onStatus, h.remotes_nodup.mem_erase_iff, ← h.unfreed r']
  split
  · rename_i heq
    simp [RemoteStatus.released, heq]
  · rename_i hne
    simp [Ne.symm hne]

/-- What is freed is on the ledger; anything else cannot be claimed. -/
theorem freeRemote {r : Remote} (h : Books l m) :
    (Memory.freeRemote r).Leads m
      (fun _ => Later l m { l with remotes := l.remotes.erase r }) (fun _ => Later l m l)
      fun _ => True := by
  by_cases hr : r ∈ l.remotes
  · have hinventory := Ledger.inventory_remote (m := m) (r := r)
      (l := { l with remotes := l.remotes.erase r })
    rw [Multiset.cons_erase hr] at hinventory
    exact (Memory.freeRemote_audited (hinventory ▸ h.audited)).mono
      (fun _ _ hm' => h.released hm') (fun _ m' hm' => h.kept (hinventory ▸ hm')) fun _ hm' => hm'
  · have hfreed : (m.status r).freed = true := by
      rw [← Bool.not_eq_false, h.unfreed r]
      exact hr
    unfold Memory.freeRemote
    rw [leads_bind]
    refine (Memory.claim_refuses hfreed).mono (fun _ _ hm' => hm'.elim)
      (fun _ m' hm' => ?_) fun _ hm' => hm'
    rw [hm']
    exact .refl h

omit [Reentry κ ω] in
theorem changed {id : Ident .resource} {f : Contents → Contents} (h : Books l m) :
    Later l m l (m.onDriver (Memory.changed id f)) := by
  have hdriver := h.audited.driver
  have hchanged : Stocks m.platform.driver (l.inventory m)
      (Memory.changed id f m.platform.driver) := by
    unfold Memory.changed
    split
    · rename_i res hres
      exact { hdriver with resources := hdriver.resources.set hres rfl }
    · exact hdriver
  exact h.kept { h.audited with driver := hchanged }

omit [Reentry κ ω] in
/-- Writing through a mapping changes bytes only. -/
theorem write {r : Remote} {offset : Nat} {data : Bytes} (h : Books l m) :
    (Memory.write r offset data).Leads m (fun _ => Later l m l) (fun _ => Later l m l)
      fun _ => True := by
  unfold Memory.write
  rw [leads_bind, leads_get, leads_bind, leads_answer]
  split
  · rename_i link haccess
    have hhome : m.platform.serial = link.home :=
      (h.audited.links r link (Remote.access_eq_ok_iff.mp haccess).1).symm
    rw [leads_bind, leads_modify, leads_pure, Memory.onDriverOf,
      if_pos hhome]
    exact h.changed
  · exact .refl h

/-! ## Executions -/

theorem launch {image : Image} {q : LaunchRequest} (h : Books l m) :
    (Launch.launch image q).Leads m
      (fun e => Later l m { l with executions := e ::ₘ l.executions }) (fun _ => Later l m l)
      fun _ => True := by
  refine (Launch.launch_audited h.fresh h.audited).mono
    (fun e m' ⟨hhome, hfresh, hnumber, a, hm'⟩ => ?_) (fun _ _ hm' => h.kept hm') fun _ hm' => hm'
  have ha : m'.arenas.get? e.key = some a := (hm'.arenas _).trans (Assoc.get?_set_self ..)
  -- The new execution has a number that no other one has.
  have hne : ∀ e' : Execution, e'.id.number < m.platform.nextExecution → e.key ≠ e'.key := by
    intro e' hnumber' hkey
    have hid : e.id = e'.id := congrArg Prod.snd hkey
    exact absurd (hid ▸ hnumber') (Nat.not_lt.mpr hfresh)
  have hkept : ∀ e' : Execution, e'.id.number < m.platform.nextExecution →
      m'.arenas.get? e'.key = m.arenas.get? e'.key :=
    fun e' hnumber' => (hm'.arenas e'.key).trans (Assoc.get?_set_of_ne _ _ (hne e' hnumber'))
  have hinventory : Audited (m.housing e.key a)
      (({ l with executions := e ::ₘ l.executions } : Ledger).inventory m') m' := by
    rw [Ledger.inventory_execution ha,
      Ledger.inventory_congr fun e' he' => hkept e' (h.executions e' he').2.1]
    exact hm'
  refine ⟨⟨hinventory.self, fun r => ?_, fun e' he' => ?_, fun key a' ha' => ?_, ?_⟩,
    hm'.driver.spec, hm'.executions, fun e' he' hold => ?_, fun e' _ => hkept e'⟩
  · rw [hm'.freed]
    exact h.unfreed r
  · rcases Multiset.mem_cons.mp he' with rfl | he'
    · exact ⟨hhome.trans hm'.serial.symm, hnumber, a, ha⟩
    · obtain ⟨hhome', hnumber', a', ha'⟩ := h.executions e' he'
      exact ⟨hhome'.trans hm'.serial.symm, Nat.lt_of_lt_of_le hnumber' hm'.executions, a',
        (hkept e' hnumber').trans ha'⟩
  · rcases Assoc.of_get?_set ((hm'.arenas key).symm.trans ha') with ⟨rfl, -⟩ | ⟨-, hold⟩
    · exact ⟨e, Multiset.mem_cons_self .., rfl⟩
    · obtain ⟨e', he', hkey⟩ := h.housed key a' hold
      exact ⟨e', Multiset.mem_cons_of_mem he', hkey⟩
  · refine (Multiset.map_cons .. ▸ Multiset.nodup_cons.mpr ⟨fun hin => ?_, h.keys⟩)
    obtain ⟨e', he', hkey⟩ := Multiset.mem_map.mp hin
    exact hne e' (h.executions e' he').2.1 hkey.symm
  · exact (Multiset.mem_cons.mp he').resolve_left fun heq => hne e' hold (heq ▸ rfl)

theorem run {image : Image} {q : LaunchRequest} (h : Books l m) :
    (Launch.run image q).Leads m (fun _ => Later l m l) (fun _ => Later l m l) fun _ => True :=
  h.preserves fun _ hm => Launch.run_audited h.fresh hm

theorem join {e : Execution} (h : Books l m) (he : e ∈ l.executions) :
    e.join.Leads m (fun _ => Later l m { l with executions := l.executions.erase e })
      (fun _ => Later l m { l with executions := l.executions.erase e }) fun _ => True := by
  obtain ⟨a, ha, haudited⟩ := h.holding he
  exact (Execution.join_audited ha haudited).mono (fun _ _ hm' => h.ended he hm')
    (fun _ _ hm' => h.ended he hm') fun _ hm' => hm'

theorem joinWithin {e : Execution} {limit : Option Nat} (h : Books l m) (he : e ∈ l.executions) :
    (e.joinWithin limit).Leads m
      (fun summary => Later l m (match summary with
        | none => l
        | some _ => { l with executions := l.executions.erase e }))
      (fun _ => Later l m { l with executions := l.executions.erase e }) fun _ => True := by
  obtain ⟨a, ha, haudited⟩ := h.holding he
  refine (Execution.joinWithin_audited ha haudited).mono (fun summary m' hm' => ?_)
    (fun _ _ hm' => h.ended he hm') fun _ hm' => hm'
  cases summary with
  | none => exact h.kept (Ledger.inventory_of_execution he ha ▸ hm')
  | some summary => exact h.ended he hm'

theorem isComplete {e : Execution} (h : Books l m) :
    e.isComplete.Leads m (fun _ => Later l m l) (fun _ => Later l m l) fun _ => True :=
  h.preserves Execution.isComplete_audited

end Books

end StreamCompute
