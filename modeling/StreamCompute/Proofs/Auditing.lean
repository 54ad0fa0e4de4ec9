/-
  StreamCompute.Proofs.Auditing

  What the operations of a runtime do to the inventory of its driver, where no
  hook interferes. `Audited base v m` compares a machine with an earlier one:
  the driver has what the inventory `v` lists, and nothing else has changed
  that says who owns what, neither the arenas of executions nor which remote
  resources are freed.
-/
import StreamCompute.Proofs.Custody
import StreamCompute.Proofs.DeskJoins
import StreamCompute.Proofs.Inventory

namespace StreamCompute

open Fallible

variable {κ ω α β : Type} {base m m' : Machine κ ω} {v v' : Inventory}

/-- The driver has what the inventory lists, and who owns what has not changed since the first
    machine. -/
structure Audited (base : Machine κ ω) (v : Inventory) (m : Machine κ ω) : Prop where
  driver : Stocks base.platform.driver v m.platform.driver
  hooks : m.platform.hooks = []
  serial : m.platform.serial = base.platform.serial
  executions : base.platform.nextExecution ≤ m.platform.nextExecution
  freed : ∀ r, (m.status r).freed = (base.status r).freed
  links : ∀ r link, (m.status r).link = some link → link.home = base.platform.serial
  arenas : ∀ key, m.arenas.get? key = base.arenas.get? key

/-- The machine in which an execution has this arena. -/
def Machine.housing (m : Machine κ ω) (owner : ExecutionKey) (a : Arena) : Machine κ ω :=
  { m with arenas := m.arenas.set owner a }

/-- Launching an execution and taking it down again leaves the arenas as they were. -/
theorem Machine.closeArena_housing {owner : ExecutionKey} {a : Arena}
    (h : m.arenas.get? owner = none) : (m.housing owner a).closeArena owner = m := by
  rw [closeArena, housing, Assoc.erase_set, Assoc.erase_of_get?_eq_none h]

namespace Audited

section

variable (h : Audited base v m)

include h

theorem trans (h' : Audited m v' m') : Audited base v' m' where
  driver := { h'.driver with
    spec := h'.driver.spec.trans h.driver.spec
    numbers := Nat.le_trans h.driver.numbers h'.driver.numbers }
  hooks := h'.hooks
  serial := h'.serial.trans h.serial
  executions := Nat.le_trans h.executions h'.executions
  freed r := (h'.freed r).trans (h.freed r)
  links r link hlink := (h'.links r link hlink).trans h.serial
  arenas key := (h'.arenas key).trans (h.arenas key)

theorem self : Audited m v m where
  driver := { h.driver with spec := rfl, numbers := Nat.le_refl _ }
  hooks := h.hooks
  serial := rfl
  executions := Nat.le_refl _
  freed _ := rfl
  links r link hlink := (h.links r link hlink).trans h.serial.symm
  arenas _ := rfl

theorem journal {journal : List Event} :
    Audited base v { m with journal } :=
  { h with }

theorem record {e : Event} : Audited base v (Journaled.record e m) :=
  h.journal

theorem onProgress {e : Execution} {f : Progress → Progress} :
    Audited base v (e.onProgress f m) :=
  { h with }

theorem onStatus {r : Remote} {f : RemoteStatus → RemoteStatus} (hf : ∀ s, (f s).freed = s.freed)
    (hlink : ∀ s link, (f s).link = some link → s.link = some link ∨
      link.home = m.platform.serial) : Audited base v (m.onStatus r f) :=
  { h with
    freed := fun r' => by
      rw [Machine.status_onStatus, ← h.freed r']
      split
      · exact hf _
      · rfl
    links := fun r' link hr' => by
      rw [Machine.status_onStatus] at hr'
      split at hr'
      · rcases hlink _ link hr' with hold | hhome
        · exact h.links r' link hold
        · exact hhome.trans h.serial
      · exact h.links r' link hr' }

/-- The same is written down on a record of both machines. -/
theorem onRecords {r : Remote} {f g : RemoteStatus → RemoteStatus}
    (hfg : ∀ s s', (f s).freed = (g s').freed)
    (hlink : ∀ s link, (f s).link = some link → link.home = m.platform.serial) :
    Audited (base.onStatus r g) v (m.onStatus r f) :=
  { h with
    freed := fun r' => by
      rw [Machine.status_onStatus, Machine.status_onStatus]
      split
      · exact hfg _ _
      · exact h.freed r'
    links := fun r' link hr' => by
      rw [Machine.status_onStatus] at hr'
      split at hr'
      · exact (hlink _ link hr').trans h.serial
      · exact h.links r' link hr' }

/-- An execution of both machines has this arena now. -/
theorem housing {owner : ExecutionKey} {a : Arena} :
    Audited (base.housing owner a) v (m.housing owner a) :=
  { h with
    arenas := fun key => by
      rw [Machine.housing, Machine.housing, Assoc.get?_set, Assoc.get?_set, h.arenas] }

/-- An execution of both machines has ended. -/
theorem closeArena {owner : ExecutionKey} :
    Audited (base.closeArena owner) v (m.closeArena owner) :=
  { h with
    arenas := fun key => by
      rw [Machine.closeArena, Machine.closeArena, Assoc.get?_erase, Assoc.get?_erase, h.arenas] }

end

/-! ## Driver calls -/

theorem handled (h : Audited base v m) {op : Operation} {verdict : Verdict} {s : Simulator}
    (hs : Stocks base.platform.driver v' s) : Audited base v' (m.handled op verdict s) :=
  { h with driver := { hs with } }

variable [Reentry κ ω] {c : Command α}

theorem drive (h : Audited base v m) {V : α → Inventory}
    (hc : c.run.Leads m.platform.driver (fun a => Stocks base.platform.driver (V a))
      (fun _ => Stocks base.platform.driver v) fun _ => True) :
    (Machine.drive c).Leads m (fun a => Audited base (V a)) (fun _ => Audited base v)
      fun _ => True := by
  have hooks : m.Unhooked fun _ => true := .of_nil h.hooks
  rw [Machine.leads_drive hooks rfl]
  exact hc.mono (fun _ _ hs => h.handled hs) (fun _ _ hs => h.handled hs)
    fun _ hs => hs

theorem release (h : Audited base v m) {err : DriverError → Machine κ ω → Prop}
    (hc : c.run.Leads m.platform.driver (fun _ => Stocks base.platform.driver v')
      (fun _ _ => False) fun _ => False) :
    (Machine.drive c).Leads m (fun _ => Audited base v') err fun _ => True := by
  have hooks : m.Unhooked fun _ => true := .of_nil h.hooks
  rw [Machine.leads_drive hooks rfl]
  exact hc.mono (fun _ _ hs => h.handled hs) (fun _ _ hs => hs.elim) fun _ hs => hs.elim

end Audited

theorem Simulator.Neutral.preserves [Reentry κ ω] {c : Command α} (hc : Neutral c) :
    (Machine.drive c).Preserves (Audited base v) := fun _ h =>
  h.drive (hc h.driver)

theorem audited_blind : Devices.Blind (Audited base v) where
  hooks _ h := h.hooks
  handled _ _ _ _ h _ _ hs _ := h.handled (h.driver.sameButDevices hs)
  registry _ _ _ h := { h with }
  journal _ _ h := h.journal

theorem Audited.unlogged :
    Unlogged (Audited base v : Machine κ ω → Prop) fun _ => True where
  journal _ _ h := h.journal
  cut _ _ h := h

/-! ## Waiting -/

namespace Completion

variable [Reentry κ ω] {op : Operation} {context : Ident .context} {event : Ident .event}

theorem query_audited : (Machine.drive (Simulator.queryEvent context event)).Preserves
    (Audited base v : Machine κ ω → Prop) :=
  Simulator.queryEvent_neutral.preserves

theorem copy_audited {w : Waiter} {source target : Ident .memory} (hcontext : context ∈ v.contexts) :
    (copy w context source target).Preserves (Audited base v) :=
  copy_stands Audited.unlogged
    (fun _ h => h.drive (Simulator.copyMemory_stocks h.driver hcontext)) fun _ => query_audited

theorem wait_completes {w : Waiter} (h : Audited base v m) :
    (wait w op context event none).Leads m
      (fun outcome m' => (∃ polls, outcome = .completed polls) ∧ Audited base v m')
      (fun _ => Audited base v) fun _ => True := by
  unfold wait
  rw [leads_bind, leads_get]
  refine Waiter.wait_completes
    (I := fun n m => Audited base v m ∧ pollsLeft m.platform.driver event ≤ n)
    (fun _ _ _ h => ⟨h.1.record, h.2⟩) (fun _ _ h => h.record) (fun m hm => ?_)
    (fun n m hm => ?_) ⟨h, Nat.le_refl _⟩
  · exact absurd hm.2 (Nat.not_le.mpr pollsLeft_pos)
  · -- A poll that finds the token pending has used one poll up.
    have hooks : m.Unhooked fun _ => true := .of_nil hm.1.hooks
    unfold check
    rw [leads_bind, Machine.leads_drive hooks rfl]
    refine ((Simulator.queryEvent_neutral hm.1.driver).and Simulator.queryEvent_counts).mono
      (fun status s ⟨hs, hcount⟩ => ?_) (fun _ _ hs => hm.1.handled hs.1)
      fun _ _ => trivial
    have hm' : Audited base v (m.handled .queryEvent .accepted s) := hm.1.handled hs
    cases status with
    | pending => exact ⟨hm', Nat.le_of_succ_le_succ (Nat.le_trans (hcount rfl) hm.2)⟩
    | done => exact hm'
    | failed message => exact hm'

end Completion

/-! ## Resources and images -/

namespace Memory

variable [Reentry κ ω] {r : Remote}

omit [Reentry κ ω] in
theorem claim_audited : (claim r).Preserves (Audited base v) := by
  refine .bind .get fun m => ?_
  split
  · exact .throw fun _ h => h
  · exact .change fun _ h => h.onStatus (fun _ => rfl) fun _ _ => Or.inl

omit [Reentry κ ω] in
theorem unclaimed_audited (h : Audited base v m) : Audited base v (unclaimed r m) :=
  h.onStatus (fun _ => rfl) fun _ _ => Or.inl

theorem withdraw_audited : (withdraw r).Preserves (Audited base v) :=
  withdraw_stands Simulator.unmapResource_neutral.preserves fun _ h =>
    h.onStatus (fun _ => rfl) nofun

theorem restore_audited : (restore r).Preserves (Audited base v) :=
  restore_stands Audited.unlogged Simulator.mapResource_neutral.preserves fun _ _ _ h =>
    h.onStatus (fun _ => rfl) fun _ link hlink => Or.inr (by cases hlink; rfl)

theorem map_audited : (map r).Preserves (Audited base v) :=
  claimed_stands claim_audited restore_audited fun _ => unclaimed_audited

theorem unmap_audited : (unmap r).Preserves (Audited base v) :=
  .bind (claimed_stands claim_audited withdraw_audited fun _ => unclaimed_audited) fun _ => .pure

theorem accept_audited {device : Device} {shape : Shape} :
    (accept device shape).Preserves (Audited base v) := by
  refine .bind (Devices.check_stands audited_blind.aside) fun _ => ?_
  cases shape.validate device.info <;> exact fun _ h => h

theorem allocateLocal_audited {device : Device} {shape : Shape} {format : Format}
    {flags : AllocFlags} (h : Audited base v m) :
    (allocateLocal device shape format flags).Leads m
      (fun l => Audited base { v with resources := l.id ::ₘ v.resources })
      (fun _ => Audited base v) fun _ => True := by
  unfold allocateLocal
  refine .bind (accept_audited m h) fun _ m₁ h₁ => ?_
  rw [leads_bind, Machine.leads_driveAs]
  refine (h₁.drive ((Simulator.allocate_stocks h₁.driver).imp fun _ _ hs => hs.1)).imp
    fun id m₂ h₂ => ?_
  exact h₂.record

/-- A new resource that cannot be mapped is freed. -/
theorem firstMapping_audited {id : Ident .resource}
    (h : Audited base { v with resources := id ::ₘ v.resources } m) :
    (firstMapping id).Leads m
      (fun _ => Audited base { v with resources := id ::ₘ v.resources })
      (fun _ => Audited base v) fun _ => True := by
  unfold firstMapping Machine.tryDrive
  rw [leads_bind, leads_perform, leads_attempt]
  refine (Simulator.mapResource_neutral.preserves m h).mono (fun _ _ h => h) (fun e m₁ h₁ => ?_)
    fun _ h => h
  rw [leads_bind, leads_perform, leads_attempt]
  exact h₁.release (Simulator.freeResource_stocks h₁.driver)

/-- A new remote resource has a number that was not given out before. -/
theorem allocateRemote_audited {device : Device} {shape : Shape} {format : Format}
    {flags : AllocFlags} (h : Audited base v m) :
    (allocateRemote device shape format flags).Leads m
      (fun r m' => base.platform.driver.nextNumber ≤ r.id.number ∧
        ∃ status : RemoteStatus, status.freed = false ∧
          Audited (base.onStatus r fun _ => status)
            { v with resources := r.id ::ₘ v.resources } m')
      (fun _ => Audited base v) fun _ => True := by
  unfold allocateRemote
  refine .bind (accept_audited m h) fun _ m₁ h₁ => ?_
  rw [leads_bind, Machine.leads_driveAs]
  have hooks : m₁.Unhooked fun _ => true := .of_nil h₁.hooks
  rw [Machine.leads_drive hooks rfl]
  refine (Simulator.allocate_stocks h₁.driver).mono (fun id s ⟨hs, hnew, _⟩ => ?_)
    (fun _ _ hs => h₁.handled hs) fun _ hs => hs
  rw [leads_bind]
  refine (firstMapping_audited (h₁.handled hs)).imp fun view m₂ h₂ => ?_
  exact ⟨hnew, _, rfl, h₂.record.onRecords (fun _ _ => rfl) fun _ link hlink => by
    cases hlink; rfl⟩

theorem freeLocal_audited {l : Local} {err : Error → Machine κ ω → Prop}
    (h : Audited base { v with resources := l.id ::ₘ v.resources } m) :
    (freeLocal l).Leads m (fun _ => Audited base v) err fun _ => True := by
  unfold freeLocal Machine.driveAs
  rw [leads_bind, leads_mapError]
  exact (h.release (Simulator.freeResource_stocks h.driver)).imp fun _ _ h => h.record

omit [Reentry κ ω] in
/-- What is freed cannot be claimed. -/
theorem claim_refuses (h : (m.status r).freed = true) :
    (claim r).Leads m (fun _ _ => False) (fun _ m' => m' = m) fun _ => True := by
  have hrefused : r.claimRefusal? (m.status r) = some (.resourceFreed r.id) := by
    simp [Remote.claimRefusal?, h]
  unfold claim
  rw [leads_bind, leads_get, hrefused]
  rfl

theorem freeRemote_audited (h : Audited base { v with resources := r.id ::ₘ v.resources } m) :
    (freeRemote r).Leads m (fun _ => Audited (base.onStatus r RemoteStatus.released) v)
      (fun _ => Audited base { v with resources := r.id ::ₘ v.resources }) fun _ => True := by
  unfold freeRemote
  refine .bind (claim_audited m h) fun _ m₁ h₁ => ?_
  rw [leads_bind, leads_perform, leads_attempt, leads_bind]
  refine (withdraw_audited m₁ h₁).mono (fun _ m₂ h₂ => ?_) (fun _ _ h => ?_) fun _ h => h
  · refine (h₂.release (Simulator.freeResource_stocks h₂.driver)).imp fun _ m₃ h₃ => ?_
    have hfreed : Audited (base.onStatus r RemoteStatus.released) v
        (m₃.onStatus r RemoteStatus.released) := h₃.onRecords (fun _ _ => rfl) nofun
    exact hfreed.record
  · exact unclaimed_audited h

end Memory

namespace Images

variable [Reentry κ ω]

theorem compileFor_audited {device : Device} {source : String} (h : Audited base v m) :
    (compileFor device source).Leads m
      (fun image => Audited base { v with images := image.id ::ₘ v.images })
      (fun _ => Audited base v) fun _ => True := by
  unfold compileFor
  refine .bind (Devices.check_stands audited_blind.aside m h) fun _ m₁ h₁ => ?_
  rw [leads_bind, Machine.leads_driveAs]
  exact (h₁.drive (Simulator.compile_stocks h₁.driver)).imp fun _ _ h => h.record

theorem compile_audited {source : String} (h : Audited base v m) :
    (compile source).Leads m
      (fun image => Audited base { v with images := image.id ::ₘ v.images })
      (fun _ => Audited base v) fun _ => True := by
  unfold compile
  exact .bind (Devices.get_stands audited_blind.aside m h) fun _ _ h => compileFor_audited h

theorem free_audited {image : Image} {err : Error → Machine κ ω → Prop}
    (h : Audited base { v with images := image.id ::ₘ v.images } m) :
    (free image).Leads m (fun _ => Audited base v) err fun _ => True := by
  unfold free Machine.driveAs
  rw [leads_bind, leads_mapError]
  exact (h.release (Simulator.freeImage_stocks h.driver)).imp fun _ _ h => h.record

end Images

end StreamCompute
