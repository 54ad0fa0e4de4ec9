/-
  StreamCompute.Proofs.Conservation

  Device objects are conserved. Whatever is asked of a runtime, in whatever
  order, and whichever driver calls are made to fail short of those that give
  something back: its driver has exactly what callers were given and have not
  given back, with what their executions own.

  `Transacts` is one errand that a caller sends the runtime on, or one change
  of the failures to come. Errands that give something up are only sent by its
  owner.
-/
import Mathlib.Logic.Relation
import StreamCompute.Proofs.Ledger

namespace StreamCompute

open Fallible

/-- What a runtime can be asked for. -/
inductive Errand
  | countDevices
  | device (index : Nat)
  | shutdown
  | compile (source : String)
  | compileFor (device : Device) (source : String)
  | freeImage (image : Image)
  | allocateLocal (device : Device) (shape : Shape) (format : Format) (flags : AllocFlags)
  | freeLocal (x : Local)
  | allocateRemote (device : Device) (shape : Shape) (format : Format) (flags : AllocFlags)
  | freeRemote (r : Remote)
  | map (r : Remote)
  | unmap (r : Remote)
  | read (r : Remote)
  | write (r : Remote) (offset : Nat) (data : Bytes)
  | launch (image : Image) (q : LaunchRequest)
  | run (image : Image) (q : LaunchRequest)
  | poll (e : Execution)
  | join (e : Execution)
  | joinWithin (e : Execution) (micros : Nat)

inductive Proceeds
  | nothing
  | image (image : Image)
  | localResource (x : Local)
  | remote (r : Remote)
  | execution (e : Execution)
  | running

namespace Errand

variable {κ ω : Type} [Reentry κ ω]

def perform : Errand → Task κ ω Proceeds
  | .countDevices => do let _ ← Devices.count; return .nothing
  | .device index => do let _ ← Devices.get index; return .nothing
  | .shutdown => do Devices.shutdown; return .nothing
  | .compile source => return .image (← Images.compile source)
  | .compileFor d source => return .image (← Images.compileFor d source)
  | .freeImage i => do Images.free i; return .nothing
  | .allocateLocal d shape format flags =>
    return .localResource (← Memory.allocateLocal d shape format flags)
  | .freeLocal x => do Memory.freeLocal x; return .nothing
  | .allocateRemote d shape format flags =>
    return .remote (← Memory.allocateRemote d shape format flags)
  | .freeRemote r => do Memory.freeRemote r; return .nothing
  | .map r => do Memory.map r; return .nothing
  | .unmap r => do Memory.unmap r; return .nothing
  | .read r => do let _ ← Memory.read r; return .nothing
  | .write r offset data => do let _ ← Memory.write r offset data; return .nothing
  | .launch i q => return .execution (← Launch.launch i q)
  | .run i q => do let _ ← Launch.run i q; return .nothing
  | .poll e => do let _ ← e.isComplete; return .nothing
  | .join e => do let _ ← e.join; return .nothing
  | .joinWithin e micros => do
    match ← e.joinWithin (some micros) with
    | some _ => return .nothing
    | none => return .running

/-- Whoever gives something up owns it. -/
def Owned (l : Ledger) : Errand → Prop
  | .freeImage i => i ∈ l.images
  | .freeLocal x => x ∈ l.locals
  | .join e => e ∈ l.executions
  | .joinWithin e _ => e ∈ l.executions
  | _ => True

instance {l : Ledger} : DecidablePred (Owned l)
  | .freeImage i => inferInstanceAs (Decidable (i ∈ l.images))
  | .freeLocal x => inferInstanceAs (Decidable (x ∈ l.locals))
  | .join e => inferInstanceAs (Decidable (e ∈ l.executions))
  | .joinWithin e _ => inferInstanceAs (Decidable (e ∈ l.executions))
  | .countDevices | .device _ | .shutdown | .compile _ | .compileFor .. | .allocateLocal ..
  | .allocateRemote .. | .freeRemote _ | .map _ | .unmap _ | .read _ | .write .. | .launch ..
  | .run .. | .poll _ => isTrue trivial

end Errand

/-- What is owned after an errand. An execution that was joined is finished, even if joining it
    failed. -/
def Ledger.after (l : Ledger) : Errand → Except Error Proceeds → Ledger
  | _, .ok (.image image) => { l with images := image ::ₘ l.images }
  | .freeImage image, .ok _ => { l with images := l.images.erase image }
  | _, .ok (.localResource x) => { l with locals := x ::ₘ l.locals }
  | .freeLocal x, .ok _ => { l with locals := l.locals.erase x }
  | _, .ok (.remote r) => { l with remotes := r ::ₘ l.remotes }
  | .freeRemote r, .ok _ => { l with remotes := l.remotes.erase r }
  | _, .ok (.execution e) => { l with executions := e ::ₘ l.executions }
  | _, .ok .running => l
  | .join e, _ => { l with executions := l.executions.erase e }
  | .joinWithin e _, _ => { l with executions := l.executions.erase e }
  | _, _ => l

variable {κ ω : Type} [Reentry κ ω]

def Machine.unused {κ ω : Type} (serial : Nat) (spec : Spec) (config : Config) (host : ω) :
    Machine κ ω :=
  { platform := { serial, driver := { spec }, config }, host }

/-- One errand that was not cut off, or another plan of failures. -/
inductive Transacts : Ledger × Machine κ ω → Ledger × Machine κ ω → Prop
  | errand {l : Ledger} {m m' : Machine κ ω} {c : Errand} {answer : Except Error Proceeds}
      (howned : c.Owned l) (hrun : c.perform.run m = (.ok answer, m')) :
      Transacts (l, m) (l.after c answer, m')
  | sabotage {l : Ledger} {m : Machine κ ω} (injections : List Injection)
      (tokenErrors : List (Operation × String))
      (hspared : ∀ i ∈ injections, i.operation.releases = false) :
      Transacts (l, m) (l, m.onDriver fun s => { s with injections, tokenErrors })

abbrev Deals : Ledger × Machine κ ω → Ledger × Machine κ ω → Prop :=
  Relation.ReflTransGen Transacts

namespace Books

variable {l l' : Ledger} {m m' : Machine κ ω}

theorem errand {c : Errand} (h : Books l m) (howned : c.Owned l) :
    c.perform.Leads m (fun answer => Later l m (l.after c (.ok answer)))
      (fun e => Later l m (l.after c (.error e))) fun _ => True := by
  cases c with
  | countDevices =>
    exact leads_bind.mpr (h.preserves (Devices.count_stands audited_blind.aside))
  | device index =>
    exact leads_bind.mpr (h.preserves (Devices.get_stands audited_blind.aside))
  | shutdown =>
    exact leads_bind.mpr (h.preserves (Devices.shutdown_stands audited_blind.aside))
  | compile source => exact leads_bind.mpr h.compile
  | compileFor d source => exact leads_bind.mpr h.compileFor
  | freeImage i => exact leads_bind.mpr (h.freeImage howned)
  | allocateLocal d shape format flags => exact leads_bind.mpr h.allocateLocal
  | freeLocal x => exact leads_bind.mpr (h.freeLocal howned)
  | allocateRemote d shape format flags => exact leads_bind.mpr h.allocateRemote
  | freeRemote r => exact leads_bind.mpr h.freeRemote
  | map r => exact leads_bind.mpr (h.preserves Memory.map_audited)
  | unmap r => exact leads_bind.mpr (h.preserves Memory.unmap_audited)
  | read r => exact leads_bind.mpr (h.preserves Memory.read_stands)
  | write r offset data => exact leads_bind.mpr h.write
  | launch i q => exact leads_bind.mpr h.launch
  | run i q => exact leads_bind.mpr h.run
  | poll e => exact leads_bind.mpr h.isComplete
  | join e => exact leads_bind.mpr (h.join howned)
  -- The ledger gives the execution up exactly if there is a summary.
  | joinWithin e micros =>
    refine leads_bind.mpr ((h.joinWithin howned).mono (fun summary m' hm' => ?_)
      (fun _ _ hm' => hm') fun _ hm' => hm')
    cases summary <;> exact hm'

omit [Reentry κ ω] in
/-- Other driver calls are made to fail, but for those that give something back. -/
theorem sabotaged (h : Books l m) {injections : List Injection}
    {tokenErrors : List (Operation × String)}
    (hspared : ∀ i ∈ injections, i.operation.releases = false) :
    Later l m l (m.onDriver fun s => { s with injections, tokenErrors }) where
  books := { h with
    audited := { h.audited with driver := { h.audited.driver with spared := hspared } } }
  spec := rfl
  executions := Nat.le_refl _
  old _ he _ := he
  arenas _ _ _ := rfl

theorem transacts (h : Books l m) (ht : Transacts (l, m) (l', m')) : Later l m l' m' := by
  cases ht with
  | @errand _ _ _ c answer howned hrun =>
    cases answer with
    | ok a => exact (h.errand howned).of_eq_ok hrun
    | error e => exact (h.errand howned).of_eq_error hrun
  | sabotage injections tokenErrors hspared => exact h.sabotaged hspared

theorem deals (h : Books l m) (hd : Deals (l, m) (l', m')) : Later l m l' m' := by
  suffices ∀ p, Deals (l, m) p → Later l m p.1 p.2 from this _ hd
  intro p hp
  induction hp with
  | refl => exact .refl h
  | tail _ ht ih => exact ih.trans (ih.books.transacts ht)

omit [Reentry κ ω] in
/-- At first nothing is owned, and the driver has nothing. -/
theorem unused {serial : Nat} {spec : Spec} {config : Config} {host : ω} :
    Books {} (Machine.unused serial spec config host : Machine κ ω) where
  audited := {
    driver := {
      spec := rfl
      numbers := Nat.le_refl _
      spared := nofun
      images := .nil
      contexts := .nil
      modules := .nil
      memories := .nil
      resources := .nil
      tokens := nofun }
    hooks := rfl
    serial := rfl
    executions := Nat.le_refl _
    freed := fun _ => rfl
    links := nofun
    arenas := fun _ => rfl }
  unfreed _ := ⟨nofun, nofun⟩
  executions := nofun
  housed := nofun
  keys := Multiset.nodup_zero

end Books

/-! ## Conservation -/

def Simulator.inventory (s : Simulator) : Inventory where
  images := s.images.keys
  contexts := s.contexts.keys
  modules := s.modules.map fun e => (e.1, e.2.1)
  memories := s.memories.map fun e => (e.1, e.2.1)
  resources := s.resources.keys

/-- Nothing is listed twice. -/
structure Inventory.Distinct (v : Inventory) : Prop where
  images : v.images.Nodup
  contexts : v.contexts.Nodup
  modules : v.modules.Nodup
  memories : v.memories.Nodup
  resources : v.resources.Nodup

namespace Stocks

variable {base s : Simulator} {v : Inventory}

theorem inventory (h : Stocks base v s) : s.inventory = v := by
  obtain ⟨images, contexts, modules, memories, resources⟩ := v
  rw [Simulator.inventory, Inventory.mk.injEq]
  exact ⟨h.images.entries, h.contexts.entries, h.modules.entries, h.memories.entries,
    h.resources.entries⟩

theorem distinct (h : Stocks base v s) : v.Distinct where
  images := h.images.nodup id fun _ => rfl
  contexts := h.contexts.nodup id fun _ => rfl
  modules := h.modules.nodup Prod.fst fun _ => rfl
  memories := h.memories.nodup Prod.fst fun _ => rfl
  resources := h.resources.nodup id fun _ => rfl

theorem available (h : Stocks base v s) :
    s.available = s.spec.capacity - Multiset.card v.resources := by
  rw [Simulator.available, Simulator.live, ← h.resources.entries, Multiset.coe_card,
    List.length_map]

end Stocks

/-- The driver has exactly what callers own: the images and resources that were not freed, and the
    contexts, modules, memory objects and resources of the executions that were not finished. Every
    token belongs to one of these. Once everything that came later is freed and joined again, as
    many resources can be allocated as before. -/
theorem driver_has_what_callers_own {serial : Nat} {spec : Spec} {config : Config} {host : ω}
    {l : Ledger} {m : Machine κ ω} (h : Deals ({}, .unused serial spec config host) (l, m)) :
    m.platform.driver.inventory = l.inventory m ∧ (l.inventory m).Distinct ∧
      (∀ e ∈ m.platform.driver.tokens, e.2.context ∈ l.executions.map Execution.context) ∧
      (∀ r, r ∈ l.remotes ↔ (m.status r).freed = false) ∧
      ∀ l' m', Deals (l, m) (l', m') → l'.locals = l.locals → l'.remotes = l.remotes →
        l'.executions = l.executions →
        m'.platform.driver.available = m.platform.driver.available := by
  have hbooks := (Books.unused.deals h).books
  have hdriver := hbooks.audited.driver
  refine ⟨hdriver.inventory, hdriver.distinct, hdriver.tokens, fun r => (hbooks.unfreed r).symm,
    fun l' m' hd hlocals hremotes hexecutions => ?_⟩
  have honward := hbooks.deals hd
  have hkept : ∀ e ∈ l'.executions, m'.arenas.get? e.key = m.arenas.get? e.key := fun e he =>
    honward.arenas e he (hbooks.executions e (hexecutions ▸ he)).2.1
  have hresources : (l'.inventory m').resources = (l.inventory m).resources := by
    rw [Ledger.inventory_congr hkept, Ledger.inventory, Ledger.inventory, hlocals, hremotes,
      hexecutions]
  rw [honward.books.audited.driver.available, hdriver.available, honward.spec, hresources]

/-! ## A scene -/

/-- Sends the runtime on errands, one after the other; none if one is not the owner's or is cut
    off. -/
def Errand.carryOut : List Errand → Ledger × Machine κ ω → Option (Ledger × Machine κ ω)
  | [], p => some p
  | c :: rest, (l, m) =>
    if c.Owned l then
      match c.perform.run m with
      | (.ok answer, m') => carryOut rest (l.after c answer, m')
      | (.error _, _) => none
    else none

theorem Errand.deals_of_carryOut {list : List Errand} {p p' : Ledger × Machine κ ω}
    (h : carryOut list p = some p') : Deals p p' := by
  fun_induction carryOut list p with
  | case1 p =>
    cases h
    exact .refl
  | case2 c rest l m howned answer m' hrun ih =>
    exact .head (.errand howned hrun) (ih h)
  | case3 => cases h
  | case4 => cases h

namespace Scenario

instance : Reentry Unit Unit := ⟨fun _ _ => pure ()⟩

def soleDevice : Device := ⟨0, ⟨1⟩, {}, 1⟩

def plainFormat : Format := ⟨.float32, .one⟩

def borrowedRemote : Remote := ⟨0, ⟨3⟩, ⟨1⟩, ⟨1, 1⟩, plainFormat, .plain⟩

def launchWith (register : String) (binding : Binding) : Errand :=
  .launch ⟨⟨2⟩, 5⟩ ⟨soleDevice, ⟨0, 0, 1, 1⟩, ⟨[(register, binding)], by simp⟩⟩

/-- An image is compiled, resources are allocated and a kernel is launched. -/
def borrowed : Ledger × Machine Unit Unit :=
  (Errand.carryOut [.device 0, .compile "o0",
    .allocateRemote soleDevice ⟨1, 1⟩ plainFormat .plain,
    .allocateLocal soleDevice ⟨1, 1⟩ plainFormat .plain,
    launchWith "o0" (.copied borrowedRemote none)] ({}, .unused 0 {} {} ())).getD
      ({}, .unused 0 {} {} ())

/-- While the kernel runs, the remote resource cannot be freed. Of two more launches one fails
    half-way; the other one is joined. -/
def returned : Ledger × Machine Unit Unit :=
  (Errand.carryOut [.freeRemote borrowedRemote,
    launchWith "o0" (.scratch ⟨1, 1⟩ plainFormat), launchWith "o1" (.scratch ⟨1, 1⟩ plainFormat),
    .join ⟨0, ⟨2⟩, ⟨13⟩, ⟨14⟩, ⟨19⟩, ⟨60⟩⟩] borrowed).getD borrowed

theorem borrowed_is_accounted_for :
    (Deals ({}, .unused 0 {} {} ()) borrowed ∧ Deals borrowed returned ∧
      returned.1.locals = borrowed.1.locals ∧ returned.1.remotes = borrowed.1.remotes ∧
      returned.1.executions = borrowed.1.executions ∧ borrowed.1.executions ≠ 0) ∧
    borrowed.2.platform.driver.inventory = borrowed.1.inventory borrowed.2 ∧
      returned.2.platform.driver.available = borrowed.2.platform.driver.available := by
  have hdeals : ∀ {list : List Errand} {p : Ledger × Machine Unit Unit},
      (Errand.carryOut list p).isSome = true →
      Deals p ((Errand.carryOut list p).getD p) := by
    intro list p hsome
    obtain ⟨p', hp'⟩ := Option.isSome_iff_exists.mp hsome
    rw [hp', Option.getD_some]
    exact Errand.deals_of_carryOut hp'
  have hborrowed : Deals ({}, .unused 0 {} {} ()) borrowed := hdeals (by decide +kernel)
  have hreturned : Deals borrowed returned := hdeals (by decide +kernel)
  have hsame : returned.1.locals = borrowed.1.locals ∧
      returned.1.remotes = borrowed.1.remotes ∧
      returned.1.executions = borrowed.1.executions ∧ borrowed.1.executions ≠ 0 := by
    decide +kernel
  have hconserved : ∀ p p' : Ledger × Machine Unit Unit, Deals ({}, .unused 0 {} {} ()) p →
      Deals p p' → p'.1.locals = p.1.locals → p'.1.remotes = p.1.remotes →
      p'.1.executions = p.1.executions → p.2.platform.driver.inventory = p.1.inventory p.2 ∧
        p'.2.platform.driver.available = p.2.platform.driver.available := by
    intro p p' hp hp' hlocals hremotes hexecutions
    obtain ⟨hinventory, -, -, -, havailable⟩ := driver_has_what_callers_own hp
    exact ⟨hinventory, havailable _ _ hp' hlocals hremotes hexecutions⟩
  obtain ⟨hlocals, hremotes, hexecutions, hnonempty⟩ := hsame
  exact ⟨⟨hborrowed, hreturned, hlocals, hremotes, hexecutions, hnonempty⟩,
    hconserved _ _ hborrowed hreturned hlocals hremotes hexecutions⟩

end Scenario

end StreamCompute
