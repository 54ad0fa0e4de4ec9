/-
  StreamCompute.Proofs.Extension

  What a launch adds to a driver. `Extends contexts modules a s s'` says that
  the driver `s'` is `s` and in addition has the given contexts and modules,
  with what belongs to them, and what the arena `a` says was acquired. If
  nothing was added, the two have the same objects.

  Each step of a launch adds something, and each step of taking a launch down
  removes something; there is one lemma for each.
-/
import Mathlib.Data.List.Basic
import StreamCompute.Binding.Acquired
import StreamCompute.Proofs.Commands

namespace StreamCompute

/-- The resource apart from its address. -/
def Resource.settled (res : Resource) : Resource :=
  { res with moves := 0, everMapped := false }

/-! ## What an arena accounts for -/

namespace Arena

def made (a : Arena) (id : Ident .resource) : Bool :=
  a.transients.any fun t => t.2 = id

/-- The execution ended the mapping of the resource. -/
def withdrew (a : Arena) (id : Ident .resource) : Bool :=
  a.unmapped.any fun u => u.2.id = id

/-- The resource as it was before the execution ended its mapping. -/
def restored (a : Arena) (id : Ident .resource) (res : Resource) : Resource :=
  { res.settled with mapped := res.mapped || a.withdrew id }

/-- The resources that were not made for the execution, as they were before it. -/
def others (a : Arena) (resources : Assoc (Ident .resource) Resource) :
    Assoc (Ident .resource) Resource :=
  resources.filterMap fun e => if !a.made e.1 then some (e.1, a.restored e.1 e.2) else none

variable {a : Arena} {x : Acquired} {id : Ident .resource}
  {resources : Assoc (Ident .resource) Resource}

theorem made_grown : (a.grown x).made id = (a.made id || x.transient?.any (·.2 = id)) := by
  cases x <;> simp [made]

theorem withdrew_grown :
    (a.grown x).withdrew id = (a.withdrew id || x.unmapped?.any (·.2.id = id)) := by
  cases x <;> simp [withdrew]

theorem others_grown (htransient : x.transient? = none) (hunmapped : x.unmapped? = none) :
    (a.grown x).others resources = a.others resources := by
  cases x <;> simp_all [others, restored, made_grown, withdrew_grown]

theorem get?_others (hid : a.made id = false) :
    (a.others resources).get? id = (resources.get? id).map (a.restored id) := by
  have hview := Assoc.get?_filterMap (fun id => !a.made id) a.restored resources id
  simpa [others, hid] using hview

end Arena

namespace Simulator

/-- The two drivers have the same objects; resources may have other addresses. -/
structure Same (s s' : Simulator) : Prop where
  devices : s'.devices = s.devices
  images : s'.images = s.images
  contexts : s'.contexts = s.contexts
  modules : s'.modules = s.modules
  entries : s'.entries = s.entries
  memories : s'.memories = s.memories
  bindings : s'.bindings = s.bindings
  tokens : s'.tokens = s.tokens
  resources : (s'.resources.map fun e => (e.1, e.2.settled)) =
    s.resources.map fun e => (e.1, e.2.settled)

theorem Same.refl {s : Simulator} : s.Same s :=
  ⟨rfl, rfl, rfl, rfl, rfl, rfl, rfl, rfl, rfl⟩

/-- The second driver is the first with contexts opened, modules loaded into them and what the
    arena accounts for acquired. -/
structure Extends (opened : List (Ident .context)) (loaded : List (Ident .module)) (a : Arena)
    (s s' : Simulator) : Prop where
  devices : s'.devices = s.devices
  images : s'.images = s.images
  contexts : s'.contexts.filter (fun e => e.1 ∉ opened) = s.contexts
  modules : s'.modules.filter (fun e => e.1 ∉ loaded) = s.modules
  entries : s'.entries.filter (fun e => e.2 ∉ loaded) = s.entries
  memories : s'.memories.filter (fun e => e.1 ∉ a.memories) = s.memories
  bindings : s'.bindings.filter (fun e => e.1 ∉ opened) = s.bindings
  tokens : s'.tokens.filter (fun e => e.2.context ∉ opened) = s.tokens
  resources : a.others s'.resources = s.resources.map fun e => (e.1, e.2.settled)

namespace Extends

variable {opened : List (Ident .context)} {loaded : List (Ident .module)} {a : Arena}
  {s s' : Simulator} {context : Ident .context} {module : Ident .module}

theorem refl : Extends [] [] { context } s s where
  devices := rfl
  images := rfl
  contexts := by simp
  modules := by simp
  entries := by simp
  memories := by simp
  bindings := by simp
  tokens := by simp
  resources := by simp [Arena.others, Arena.made, Arena.withdrew, Arena.restored, Resource.settled]

theorem same (h : Extends [] [] a s s') (ha : a.acquired = []) : s.Same s' := by
  have hall {ν : Type} {p : ν → Bool} {l l' : List ν} (hp : ∀ x, p x = true)
      (hl : l.filter p = l') : l = l' :=
    (List.filter_eq_self.mpr fun x _ => hp x).symm.trans hl
  exact {
    devices := h.devices
    images := h.images
    contexts := hall (by simp) h.contexts
    modules := hall (by simp) h.modules
    entries := hall (by simp) h.entries
    memories := hall (by simp [Arena.memories, ha]) h.memories
    bindings := hall (by simp) h.bindings
    tokens := hall (by simp) h.tokens
    resources := by
      simpa [Arena.others, Arena.made, Arena.transients, Arena.withdrew, Arena.unmapped,
        Arena.restored, Resource.settled, ha] using h.resources }

/-- A resource that was not made for the execution is the one of before. -/
theorem get?_resources (h : Extends opened loaded a s s') {id : Ident .resource}
    (hid : a.made id = false) :
    (s'.resources.get? id).map (a.restored id) = (s.resources.get? id).map Resource.settled := by
  rw [← Arena.get?_others hid, h.resources]
  induction s.resources with
  | nil => rfl
  | cons e rest ih => by_cases hk : e.1 = id <;> simp [Assoc.get?, hk, ih]

/-! ## Adding -/

theorem createContext (h : Extends [] loaded a s s') (hn : s'.Numbered) {device : Ident .device} :
    Extends [⟨s'.nextNumber⟩] loaded a s { s' with
      contexts := s'.contexts.set ⟨s'.nextNumber⟩ device
      bindings := s'.bindings.set ⟨s'.nextNumber⟩ [] } :=
  { h with
    contexts := (Assoc.filter_set_fresh hn.contexts.fresh []).trans h.contexts
    bindings := (Assoc.filter_set_fresh hn.bindings.fresh []).trans h.bindings
    tokens := by
      rw [← h.tokens]
      refine List.filter_congr fun e he => ?_
      have hne : e.2.context ≠ ⟨s'.nextNumber⟩ := Ident.ne_of_number_lt (hn.tokenContexts e he)
      simp [hne] }

theorem loadModule (h : Extends opened [] a s s') (hn : s'.Numbered)
    {v : Ident .context × Ident .image} :
    Extends opened [⟨s'.nextNumber⟩] a s { s' with
      modules := s'.modules.set ⟨s'.nextNumber⟩ v } :=
  { h with
    modules := (Assoc.filter_set_fresh hn.modules.fresh []).trans h.modules
    entries := by
      rw [← h.entries]
      refine List.filter_congr fun e he => ?_
      have hne : e.2 ≠ ⟨s'.nextNumber⟩ := Ident.ne_of_number_lt (hn.entryModules e he)
      simp [hne] }

section

variable (h : Extends opened loaded a s s')

include h

theorem findEntry (hn : s'.Numbered) (hin : module ∈ loaded) :
    Extends opened loaded a s { s' with
      entries := s'.entries.set ⟨s'.nextNumber⟩ module } :=
  { h with
    entries := by
      rw [← h.entries]
      exact Assoc.filter_set (by simp [hin]) (by simp [hn.entries.fresh]) }

theorem getMemory (hn : s'.Numbered) {v : Ident .context × Ident .resource} :
    Extends opened loaded (a.grown (.memory ⟨s'.nextNumber⟩)) s { s' with
      memories := s'.memories.set ⟨s'.nextNumber⟩ v } :=
  { h with
    memories := by
      rw [← h.memories, Arena.memories_grown]
      exact Assoc.filter_set_fresh hn.memories.fresh a.memories
    resources := (Arena.others_grown rfl rfl).trans h.resources }

theorem bindMemory (hin : context ∈ opened) {bound : Assoc String (Ident .memory)} :
    Extends opened loaded a s { s' with bindings := s'.bindings.set context bound } :=
  { h with
    bindings := by
      rw [← h.bindings]
      exact Assoc.filter_set (by simp [hin]) (by simp [hin]) }

theorem setToken {event : Ident .event} {token : Token} (hin : token.context ∈ opened)
    (hold : ∀ old, s'.tokens.get? event = some old → old.context ∈ opened) :
    Extends opened loaded a s { s' with tokens := s'.tokens.set event token } :=
  { h with
    tokens := by
      rw [← h.tokens]
      exact Assoc.filter_set (by simp [hin]) fun old hget => by simp [hold old hget] }

theorem tokenMade (hn : s'.Numbered) (hin : context ∈ opened)
    {op : Operation} : Extends opened loaded a s (s'.tokenMade op context) :=
  { h with
    tokens := by
      rw [← h.tokens]
      exact Assoc.filter_set (by simp [hin]) (by simp [hn.tokens.fresh]) }

/-- The execution may do anything to a resource that was made for it. -/
theorem setMade {id : Ident .resource} {res : Resource} (hid : a.made id = true) :
    Extends opened loaded a s { s' with resources := s'.resources.set id res } :=
  { h with
    resources := by
      rw [← h.resources]
      unfold Arena.others
      cases hget : s'.resources.get? id with
      | none => exact Assoc.filterMap_set_of_get?_eq_none hget (by simp [hid])
      | some old => exact Assoc.filterMap_set hget (by simp [hid]) }

theorem allocate (hn : s'.Numbered) {register : String} {res : Resource} :
    Extends opened loaded (a.grown (.transient register ⟨s'.nextNumber⟩)) s { s' with
      resources := s'.resources.set ⟨s'.nextNumber⟩ res } :=
  { h with
    memories := by simpa using h.memories
    resources := by
      rw [← h.resources]
      unfold Arena.others
      rw [Assoc.filterMap_set_of_get?_eq_none hn.resources.fresh (by simp [Arena.made_grown])]
      refine List.filterMap_congr fun e he => ?_
      have hne : e.1 ≠ ⟨s'.nextNumber⟩ := Ident.ne_of_number_lt (hn.resources.number e he)
      simp [Arena.made_grown, Arena.restored, Arena.withdrew_grown, hne.symm] }

theorem unmapResource (hn : s'.Numbered) {register : String}
    {r : Remote} {res : Resource} (hget : s'.resources.get? r.id = some res)
    (hmapped : res.mapped = true) :
    Extends opened loaded (a.grown (.unmapped register r)) s { s' with
      resources := s'.resources.set r.id { res with mapped := false } } :=
  { h with
    memories := by simpa using h.memories
    resources := by
      rw [← h.resources]
      unfold Arena.others
      rw [Assoc.filterMap_set hget
        (by simp [Arena.made_grown, Arena.restored, Arena.withdrew_grown, Resource.settled])]
      refine List.filterMap_congr fun e he => ?_
      by_cases heq : r.id = e.1
      · have hres : some e.2 = some res := by
          rw [← Assoc.get?_of_mem hn.resources.distinct he, ← heq, hget]
        cases hres
        simp [Arena.made_grown, Arena.restored, hmapped]
      · simp [Arena.made_grown, Arena.restored, Arena.withdrew_grown, heq] }

end

/-- Claims are not known to the driver. -/
theorem flight_iff {r : Remote} :
    Extends opened loaded (a.grown (.flight r)) s s' ↔ Extends opened loaded a s s' := by
  have hmemories : (a.grown (.flight r)).memories = a.memories := by simp
  have hothers : (a.grown (.flight r)).others s'.resources = a.others s'.resources :=
    Arena.others_grown rfl rfl
  constructor
  · exact fun h => { h with
      memories := hmemories ▸ h.memories, resources := hothers.symm.trans h.resources }
  · exact fun h => { h with
      memories := hmemories.symm ▸ h.memories, resources := hothers.trans h.resources }

/-! ## Removing -/

theorem releaseMemory {memory : Ident .memory}
    (h : Extends opened loaded (a.grown (.memory memory)) s s') (hin : context ∈ opened) :
    Extends opened loaded a s { s' with
      memories := s'.memories.erase memory
      bindings := s'.unbound context memory } :=
  { h with
    memories := by
      rw [← h.memories, Arena.memories_grown]
      exact Assoc.filter_erase s'.memories memory a.memories
    bindings := by
      rw [← h.bindings]
      unfold Simulator.unbound
      split
      · exact Assoc.filter_set (by simp [hin]) (by simp [hin])
      · rfl
    resources := (Arena.others_grown rfl rfl).symm.trans h.resources }

theorem freeResource {register : String} {id : Ident .resource}
    (h : Extends opened loaded (a.grown (.transient register id)) s s') :
    Extends opened loaded a s { s' with resources := s'.resources.erase id } :=
  { h with
    memories := by simpa using h.memories
    resources := by
      rw [← h.resources]
      unfold Arena.others Assoc.erase
      rw [List.filterMap_filter]
      refine List.filterMap_congr fun e _ => ?_
      by_cases heq : id = e.1
      · simp [heq, Arena.made_grown]
      · simp [heq, Ne.symm heq, Arena.made_grown, Arena.restored, Arena.withdrew_grown] }

theorem mapResource {register : String} {r : Remote}
    (h : Extends opened loaded (a.grown (.unmapped register r)) s s') (hn : s'.Numbered)
    {res : Resource} (hget : s'.resources.get? r.id = some res) {moves : Nat} :
    Extends opened loaded a s { s' with
      resources := s'.resources.set r.id { res with mapped := true, everMapped := true, moves } } :=
  { h with
    memories := by simpa using h.memories
    resources := by
      rw [← h.resources]
      unfold Arena.others
      -- Once the mapping is back it does not matter any more that it was away.
      rw [← Assoc.filterMap_set (w := { res with mapped := true, everMapped := true, moves }) hget
        (by simp [Arena.made_grown, Arena.restored, Arena.withdrew_grown, Resource.settled])]
      refine List.filterMap_congr fun e he => ?_
      by_cases heq : r.id = e.1
      · have hvalue := Assoc.get?_of_mem (Assoc.nodup_keys_set hn.resources.distinct) he
        rw [← heq, Assoc.get?_set_self, Option.some.injEq] at hvalue
        simp [Arena.made_grown, Arena.restored, ← hvalue]
      · simp [Arena.made_grown, Arena.restored, Arena.withdrew_grown, heq] }

theorem unloadModule (h : Extends opened [module] a s s') :
    Extends opened [] a s { s' with
      modules := s'.modules.erase module
      entries := s'.entries.keepValues (· ≠ module) } :=
  { h with
    modules := (Assoc.filter_erase s'.modules module []).trans h.modules
    entries := by
      rw [← h.entries, Assoc.keepValues, List.filter_filter]
      exact List.filter_congr fun e _ => by simp }

theorem destroyContext (h : Extends [context] loaded a s s') :
    Extends [] loaded a s { s' with
      contexts := s'.contexts.erase context
      bindings := s'.bindings.erase context
      tokens := s'.tokens.keepValues (·.context ≠ context) } :=
  { h with
    contexts := (Assoc.filter_erase s'.contexts context []).trans h.contexts
    bindings := (Assoc.filter_erase s'.bindings context []).trans h.bindings
    tokens := by
      rw [← h.tokens, Assoc.keepValues, List.filter_filter]
      exact List.filter_congr fun e _ => by simp }

end Extends

end Simulator

end StreamCompute
