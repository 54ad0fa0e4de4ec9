/-
  StreamCompute.Proofs.Inventory

  What a driver has, item by item. `Stocks base v s` says that the driver `s`
  has exactly the images, contexts, modules, memory objects and resources that
  the inventory `v` lists, each once, and that every token belongs to a context
  of the list.

  Each driver call changes the inventory in one way, or not at all. A call that
  gives something on the list back is never refused, as long as no failures are
  injected into such calls.
-/
import Mathlib.Data.Multiset.Bind
import StreamCompute.Proofs.DeviceCalls

namespace StreamCompute

open Fallible

/-- The entry points that give something back for good. -/
def Operation.releases : Operation → Bool
  | .releaseMemory => true
  | .unloadModule => true
  | .destroyContext => true
  | .freeResource => true
  | .freeImage => true
  | _ => false

/-! ## Tables and lists -/

/-- Where keys have one entry each, a table is an entry and what is left without it. -/
theorem Assoc.perm_cons_erase {κ ν : Type} [DecidableEq κ] {m : Assoc κ ν} {q : κ} {v : ν}
    (hm : (keys m).Nodup) (h : get? m q = some v) : m.Perm ((q, v) :: erase m q) := by
  induction m with
  | nil => cases h
  | cons e rest ih =>
    obtain ⟨k, u⟩ := e
    obtain ⟨hnot, hrest⟩ := List.nodup_cons.mp hm
    by_cases hk : k = q
    · subst hk
      have hnone : get? rest k = none := by
        cases hget : get? rest k with
        | none => rfl
        | some w => exact absurd (mem_keys_iff.mpr ⟨w, hget⟩) hnot
      have hu : u = v := by simpa [get?] using h
      have herase : erase ((k, u) :: rest) k = erase rest k := by simp [erase]
      rw [herase, erase_of_get?_eq_none hnone, hu]
    · have hget : get? rest q = some v := by simpa [get?, hk] using h
      have herase : erase ((k, u) :: rest) q = (k, u) :: erase rest q := by simp [erase, hk]
      rw [herase]
      exact ((ih hrest hget).cons _).trans (.swap ..)

/-- The entries of a table, seen in some way, are those on the list; numbers are below `n`. -/
structure Tallied {k : Kind} {ν β : Type} (n : Nat) (view : Ident k × ν → β)
    (t : Assoc (Ident k) ν) (l : Multiset β) : Prop where
  below : Below n t
  entries : (t.map view : Multiset β) = l

namespace Tallied

variable {k : Kind} {ν β : Type} {n n' : Nat} {view : Ident k × ν → β} {t : Assoc (Ident k) ν}
  {l : Multiset β} {i : Ident k} {v w : ν}

theorem nil : Tallied n view [] 0 :=
  ⟨.nil, rfl⟩

theorem mono (h : Tallied n view t l) (hn : n ≤ n') : Tallied n' view t l :=
  ⟨h.below.mono hn, h.entries⟩

/-- Where the keys can be seen, nothing is on the list twice. -/
theorem nodup (h : Tallied n view t l) (key : β → Ident k) (hkey : ∀ e, key (view e) = e.1) :
    l.Nodup := by
  refine .of_map key ?_
  rw [← h.entries, Multiset.map_coe, List.map_map, Multiset.coe_nodup]
  rw [show key ∘ view = Prod.fst from funext hkey]
  exact h.below.distinct

/-- What is on the list is in the table. -/
theorem exists_of_mem {x : β} (h : Tallied n view t l) (hx : x ∈ l) :
    ∃ i v, t.get? i = some v ∧ view (i, v) = x := by
  rw [← h.entries, Multiset.mem_coe] at hx
  obtain ⟨e, he, rfl⟩ := List.mem_map.mp hx
  exact ⟨e.1, e.2, Assoc.get?_of_mem h.below.distinct he, rfl⟩

theorem set_next (h : Tallied n view t l) :
    Tallied (n + 1) view (Assoc.set t ⟨n⟩ w) (view (⟨n⟩, w) ::ₘ l) := by
  refine ⟨h.below.set_next, ?_⟩
  rw [Assoc.set_of_get?_eq_none h.below.fresh, List.map_append, ← h.entries, Multiset.cons_coe,
    Multiset.coe_eq_coe]
  exact List.perm_append_singleton ..

/-- An entry may change where it cannot be seen. -/
theorem set (h : Tallied n view t l) (hi : t.get? i = some v) (hview : view (i, w) = view (i, v)) :
    Tallied n view (Assoc.set t i w) l := by
  refine ⟨h.below.reset hi, ?_⟩
  have hmap : (Assoc.set t i w).map view = t.map view := by
    simpa using Assoc.filterMap_set (f := fun e => some (view e)) (w := w) hi (by rw [hview])
  rw [hmap, h.entries]

theorem erase (h : Tallied n view t (view (i, v) ::ₘ l)) (hi : t.get? i = some v) :
    Tallied n view (Assoc.erase t i) l := by
  refine ⟨h.below.erase, ?_⟩
  have hperm := (Assoc.perm_cons_erase h.below.distinct hi).map view
  have hentries := h.entries
  rw [Multiset.coe_eq_coe.mpr hperm, List.map_cons, ← Multiset.cons_coe] at hentries
  exact (Multiset.cons_inj_right _).mp hentries

end Tallied

/-! ## Inventories -/

/-- The objects that a driver should have. Modules and memory objects are listed with their
    contexts. -/
structure Inventory where
  images : Multiset (Ident .image) := 0
  contexts : Multiset (Ident .context) := 0
  modules : Multiset (Ident .module × Ident .context) := 0
  memories : Multiset (Ident .memory × Ident .context) := 0
  resources : Multiset (Ident .resource) := 0

/-- The driver has come about from the first one, and has exactly what is on the list; no call
    that gives something back will be made to fail. -/
structure Stocks (base : Simulator) (v : Inventory) (s : Simulator) : Prop where
  spec : s.spec = base.spec
  numbers : base.nextNumber ≤ s.nextNumber
  spared : ∀ i ∈ s.injections, i.operation.releases = false
  images : Tallied s.nextNumber Prod.fst s.images v.images
  contexts : Tallied s.nextNumber Prod.fst s.contexts v.contexts
  modules : Tallied s.nextNumber (fun e => (e.1, e.2.1)) s.modules v.modules
  memories : Tallied s.nextNumber (fun e => (e.1, e.2.1)) s.memories v.memories
  resources : Tallied s.nextNumber Prod.fst s.resources v.resources
  tokens : ∀ e ∈ s.tokens, e.2.context ∈ v.contexts

namespace Stocks

variable {base s : Simulator} {v : Inventory} {context : Ident .context}

theorem relogged (h : Stocks base v s) {calls : List Call} {counts : Assoc Operation Nat} :
    Stocks base v (s.relogged calls counts) :=
  { h with }

theorem next (h : Stocks base v s) : Stocks base v { s with nextNumber := s.nextNumber + 1 } :=
  { h with
    numbers := Nat.le_succ_of_le h.numbers
    images := h.images.mono (Nat.le_succ _)
    contexts := h.contexts.mono (Nat.le_succ _)
    modules := h.modules.mono (Nat.le_succ _)
    memories := h.memories.mono (Nat.le_succ _)
    resources := h.resources.mono (Nat.le_succ _) }

theorem tokenMade (h : Stocks base v s) (hcontext : context ∈ v.contexts) {op : Operation} :
    Stocks base v (s.tokenMade op context) := by
  refine { h.next with tokens := fun e he => ?_ }
  rcases Assoc.mem_set he with rfl | he
  · exact hcontext
  · exact h.tokens e he

/-- The devices are not on the list. -/
theorem sameButDevices {s' : Simulator} (h : Stocks base v s) (hs : s.SameButDevices s') :
    Stocks base v s' := by
  obtain ⟨calls, counts, started, devices, next, hnext, rfl⟩ := hs
  exact { h with
    numbers := Nat.le_trans h.numbers hnext
    images := h.images.mono hnext
    contexts := h.contexts.mono hnext
    modules := h.modules.mono hnext
    memories := h.memories.mono hnext
    resources := h.resources.mono hnext }

/-- What a kernel leaves behind are the same resources. -/
theorem executed (h : Stocks base v s) {domain : Domain} :
    Tallied s.nextNumber Prod.fst (s.executed context domain) v.resources := by
  have hstore : ∀ contents bound (t : Assoc (Ident .resource) Resource),
      Tallied s.nextNumber Prod.fst t v.resources →
      Tallied s.nextNumber Prod.fst (Simulator.storeRegisters t contents bound) v.resources := by
    intro contents bound
    induction bound with
    | nil => exact fun _ ht => ht
    | cons e rest ih =>
      intro t ht
      obtain ⟨name, resource⟩ := e
      unfold Simulator.storeRegisters
      split
      · rename_i bytes r _ hr
        exact ih _ (ht.set hr rfl)
      · exact ih t ht
  unfold Simulator.executed
  split
  · exact h.resources
  · exact hstore _ _ _ h.resources

end Stocks

/-! ## Calls -/

namespace Simulator

variable {base s : Simulator} {v : Inventory} {α : Type} {context : Ident .context}
  {resource : Ident .resource} {module : Ident .module}

/-- The call leaves the inventory as it is, whether it is accepted or refused. -/
def Neutral (c : Command α) : Prop :=
  ∀ {base s : Simulator} {v : Inventory}, Stocks base v s →
    c.run.Leads s (fun _ => Stocks base v) (fun _ => Stocks base v) fun _ => True

theorem findRegister_neutral {register : String} :
    Neutral (findRegister context module register) := fun h =>
  findRegister_leads (fun _ => h.relogged) { h.next with }

theorem findEntry_neutral {symbol : String} :
    Neutral (findEntry context module symbol) := fun h =>
  findEntry_leads (fun _ => h.relogged) fun _ _ => { h.next with }

theorem bindMemory_neutral {register : Ident .register} {memory : Ident .memory} :
    Neutral (bindMemory context register memory) := fun h =>
  bindMemory_leads (fun _ => h.relogged) fun _ _ _ _ _ => { h with }

theorem mapResource_neutral : Neutral (mapResource resource) :=
  fun h => mapResource_leads (fun _ => h.relogged) fun _ _ _ hr _ _ =>
    { h with resources := h.resources.set hr rfl }

theorem unmapResource_neutral : Neutral (unmapResource resource) :=
  fun h => unmapResource_leads (fun _ => h.relogged) fun _ hr _ =>
    { h with resources := h.resources.set hr rfl }

theorem queryEvent_neutral {event : Ident .event} : Neutral (queryEvent context event) := by
  intro base s v h
  refine queryEvent_leads (fun _ => h.relogged) (fun token n htoken _ _ => ?_)
    fun _ _ _ _ => h.relogged
  refine { h with tokens := fun e he => ?_ }
  rcases Assoc.mem_set he with rfl | he
  · exact h.tokens (event, token) (Assoc.mem_of_get? htoken)
  · exact h.tokens e he

section

variable (h : Stocks base v s)

include h

theorem copyMemory_stocks {source target : Ident .memory}
    (hcontext : context ∈ v.contexts) : (copyMemory context source target).run.Leads s
      (fun _ => Stocks base v) (fun _ => Stocks base v) fun _ => True := by
  refine copyMemory_leads (fun _ _ _ => h.relogged) fun _ _ _ _ _ _ _ hdst => ?_
  refine Stocks.tokenMade ?_ hcontext
  exact { h with resources := h.resources.set hdst rfl }

theorem runProgram_stocks {entry : Ident .entry} {domain : Domain}
    (hcontext : context ∈ v.contexts) : (runProgram context entry domain).run.Leads s
      (fun _ => Stocks base v) (fun _ => Stocks base v) fun _ => True := by
  refine runProgram_leads (fun _ => h.relogged) (Stocks.tokenMade ?_ hcontext)
  exact { h with resources := h.executed }

/-! ### Making things -/

theorem compile_stocks {source : String} :
    (compile source).run.Leads s (fun image => Stocks base { v with images := image ::ₘ v.images })
      (fun _ => Stocks base v) fun _ => True :=
  compile_leads (fun _ => h.relogged) { h.next with images := h.images.set_next }

theorem createContext_stocks {device : Ident .device} :
    (createContext device).run.Leads s
      (fun context => Stocks base { v with contexts := context ::ₘ v.contexts })
      (fun _ => Stocks base v) fun _ => True :=
  createContext_leads (fun _ => h.relogged) { h.next with
    contexts := h.contexts.set_next
    tokens := fun e he => Multiset.mem_cons_of_mem (h.tokens e he) }

theorem loadModule_stocks {image : Ident .image} :
    (loadModule context image).run.Leads s
      (fun module => Stocks base { v with modules := (module, context) ::ₘ v.modules })
      (fun _ => Stocks base v) fun _ => True :=
  loadModule_leads (fun _ => h.relogged) fun _ => { h.next with
    modules := h.modules.set_next }

theorem getMemory_stocks : (getMemory context resource).run.Leads s
      (fun memory => Stocks base { v with memories := (memory, context) ::ₘ v.memories })
      (fun _ => Stocks base v) fun _ => True :=
  getMemory_leads (fun _ => h.relogged) fun _ _ _ => { h.next with
    memories := h.memories.set_next }

theorem allocate_stocks {place : Placement} {device : Ident .device} {layout : Layout}
    {format : Format} {flags : AllocFlags} :
    (allocate place device layout format flags).run.Leads s
      (fun resource s' => Stocks base { v with resources := resource ::ₘ v.resources } s' ∧
        base.nextNumber ≤ resource.number ∧ resource.number < s'.nextNumber)
      (fun _ => Stocks base v) fun _ => True :=
  allocate_leads (fun _ => h.relogged) trivial fun _ _ _ =>
    ⟨{ h.next with resources := h.resources.set_next }, h.numbers, Nat.lt_succ_self _⟩

/-! ### Giving things back -/

/-- No failure was injected into what gives things back. -/
theorem spared_of_releases {op : Operation} (hop : op.releases = true) : s.Spared op := by
  intro i hi heq
  cases (h.spared i hi).symm.trans (heq ▸ hop)

end

theorem freeImage_stocks {image : Ident .image}
    (h : Stocks base { v with images := image ::ₘ v.images } s) :
    (freeImage image).run.Leads s (fun _ => Stocks base v) (fun _ _ => False) fun _ => False := by
  obtain ⟨i, source, hget, rfl⟩ := h.images.exists_of_mem (Multiset.mem_cons_self _ _)
  simp only [freeImage, leads_bind, leads_get]
  refine enter_spared (spared_of_releases h rfl) ?_
  have hhas : (s.logged (.freeImage i)).images.has i = true := Assoc.has_iff.mpr ⟨source, hget⟩
  simp only [hhas]
  exact { h with images := h.images.erase hget }

theorem destroyContext_stocks (h : Stocks base { v with contexts := context ::ₘ v.contexts } s) :
    (destroyContext context).run.Leads s (fun _ => Stocks base v) (fun _ _ => False)
      fun _ => False := by
  obtain ⟨c, device, hget, rfl⟩ := h.contexts.exists_of_mem (Multiset.mem_cons_self _ _)
  simp only [destroyContext, requireContext, leads_bind, leads_get]
  refine enter_spared (spared_of_releases h rfl) ?_
  have hhas : (s.logged (.destroyContext c)).contexts.has c = true :=
    Assoc.has_iff.mpr ⟨device, hget⟩
  simp only [hhas]
  refine { h with contexts := h.contexts.erase hget, tokens := fun e he => ?_ }
  have hkept : e ∈ s.tokens.keepValues fun token => decide (token.context ≠ c) := he
  obtain ⟨he, hne⟩ := Assoc.mem_keepValues hkept
  exact (Multiset.mem_cons.mp (h.tokens e he)).resolve_left (by simpa using hne)

theorem unloadModule_stocks
    (h : Stocks base { v with modules := (module, context) ::ₘ v.modules } s) :
    (unloadModule context module).run.Leads s (fun _ => Stocks base v) (fun _ _ => False)
      fun _ => False := by
  obtain ⟨i, ⟨c, image⟩, hget, heq⟩ := h.modules.exists_of_mem (Multiset.mem_cons_self _ _)
  cases heq
  simp only [unloadModule, leads_bind, leads_get]
  refine enter_spared (spared_of_releases h rfl) ?_
  have hmodule : (s.logged (.unloadModule c i)).moduleOf? c i = some image :=
    moduleOf?_eq_some_iff.mpr hget
  simp only [hmodule]
  exact { h with modules := h.modules.erase hget }

theorem releaseMemory_stocks {memory : Ident .memory}
    (h : Stocks base { v with memories := (memory, context) ::ₘ v.memories } s) :
    (releaseMemory context memory).run.Leads s (fun _ => Stocks base v) (fun _ _ => False)
      fun _ => False := by
  obtain ⟨i, ⟨c, resource⟩, hget, heq⟩ := h.memories.exists_of_mem (Multiset.mem_cons_self _ _)
  cases heq
  simp only [releaseMemory, leads_bind, leads_get]
  refine enter_spared (spared_of_releases h rfl) ?_
  have hmemory : (s.logged (.releaseMemory c i)).memoryOf? c i = some resource :=
    memoryOf?_eq_some_iff.mpr hget
  simp only [hmemory]
  exact { h with memories := h.memories.erase hget }

theorem freeResource_stocks (h : Stocks base { v with resources := resource ::ₘ v.resources } s) :
    (freeResource resource).run.Leads s (fun _ => Stocks base v) (fun _ _ => False)
      fun _ => False := by
  obtain ⟨i, res, hget, rfl⟩ := h.resources.exists_of_mem (Multiset.mem_cons_self _ _)
  simp only [freeResource, leads_bind, leads_get]
  refine enter_spared (spared_of_releases h rfl) ?_
  have hhas : (s.logged (.freeResource i)).resources.has i = true :=
    Assoc.has_iff.mpr ⟨res, hget⟩
  simp only [hhas]
  exact { h with resources := h.resources.erase hget }

end Simulator

end StreamCompute
