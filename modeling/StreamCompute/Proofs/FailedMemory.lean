/-
  StreamCompute.Proofs.FailedMemory

  Calls about remote resources that fail while nobody interferes. `SameMemory`
  says that no record and no resource of the driver has changed; a driver call
  that is refused keeps it, and so does a claim that is given back. A failed
  allocation, mapping or unmapping ends with the same memory, unless the
  resource that a failed allocation has made cannot be freed either.

  Freeing has one more ending. It ends the mapping first, so that a resource
  which the driver then refuses to free is left without one (`Stranded`).
-/
import StreamCompute.Proofs.DeviceCalls
import StreamCompute.Proofs.RecordAgreement
import StreamCompute.Proofs.SetupSteps

namespace StreamCompute

open Fallible

variable {κ ω α : Type}

/-! ## Nothing has changed -/

/-- From the first machine to the second, no record has changed, and no hook waits. -/
structure Machine.SameRecords (m m' : Machine κ ω) : Prop where
  hooks : m'.platform.hooks = []
  serial : m'.platform.serial = m.platform.serial
  parked : m'.parked = m.parked
  remotes : m'.remotes = m.remotes
  history : m.history <:+ m'.history

/-- No resource has changed either. -/
structure Machine.SameMemory (m m' : Machine κ ω) : Prop extends m.SameRecords m' where
  resources : m'.platform.driver.resources = m.platform.driver.resources
  grown : m.platform.driver.nextNumber ≤ m'.platform.driver.nextNumber
  numbered : Below m'.platform.driver.nextNumber m'.platform.driver.resources

/-- What the host can read from the resource, it can read again, and it reads the same. -/
def Machine.ReadsAlike (r : Remote) (m m' : Machine κ ω) : Prop :=
  ∀ bytes, (Memory.read r).run m = (.ok (.ok bytes), m) →
    (Memory.read r).run m' = (.ok (.ok bytes), m')

section SameMemory

variable {base m m' : Machine κ ω} {r : Remote}

/-- The same is read through the same record from the same bytes. -/
theorem Machine.readsAlike_of (hserial : m'.platform.serial = m.platform.serial)
    (hparked : m'.parked = m.parked) (hrecord : m'.remotes.get? r = m.remotes.get? r)
    (hbytes : m'.platform.driver.bytes? r.id = m.platform.driver.bytes? r.id) :
    m.ReadsAlike r m' := by
  intro bytes hread
  obtain ⟨-, link, hlink, rfl⟩ := Memory.read_eq_ok_iff.mp hread
  have hstatus : m'.status r = m.status r := by
    rw [Machine.status, Machine.status, hrecord]
  have hat : Memory.bytesAt m' r link = Memory.bytesAt m r link := by
    unfold Memory.bytesAt Machine.platform?
    rw [hserial, hparked]
    split
    · simp only [Option.bind_some, hbytes]
    · rfl
  exact Memory.read_eq_ok_iff.mpr ⟨rfl, link, hstatus ▸ hlink, by rw [hstatus, hat]⟩

namespace Machine.SameRecords

theorem unhooked (h : base.SameRecords m) : m.Unhooked fun _ => true := .of_nil h.hooks

theorem handled (h : base.SameRecords m) {op : Operation} {verdict : Verdict} {s : Simulator} :
    base.SameRecords (m.handled op verdict s) :=
  ⟨h.hooks, h.serial, h.parked, h.remotes, h.history.trans (List.suffix_cons ..)⟩

end Machine.SameRecords

namespace Machine.SameMemory

theorem refl (hooks : m.platform.hooks = [])
    (hnumbered : Below m.platform.driver.nextNumber m.platform.driver.resources) :
    m.SameMemory m :=
  ⟨⟨hooks, rfl, rfl, rfl, List.suffix_refl _⟩, rfl, Nat.le_refl _, hnumbered⟩

theorem journal (h : base.SameMemory m) {journal : List Event} :
    base.SameMemory { m with journal } :=
  { h with }

theorem handled (h : base.SameMemory m) {op : Operation} {verdict : Verdict} {s : Simulator}
    (hresources : s.resources = m.platform.driver.resources)
    (hgrown : m.platform.driver.nextNumber ≤ s.nextNumber) :
    base.SameMemory (m.handled op verdict s) where
  toSameRecords := h.toSameRecords.handled
  resources := hresources.trans h.resources
  grown := Nat.le_trans h.grown hgrown
  numbered := by
    show Below s.nextNumber s.resources
    rw [hresources]
    exact h.numbered.mono hgrown

theorem refused (h : base.SameMemory m) {op : Operation} {e : DriverError} {calls : List Call}
    {counts : Assoc Operation Nat} :
    base.SameMemory (m.handled op (.refused e) (m.platform.driver.relogged calls counts)) :=
  h.handled rfl (Nat.le_refl _)

/-- Looking for devices leaves the memory alone. -/
theorem blind : Devices.Blind base.SameMemory where
  hooks _ h := h.hooks
  handled m op verdict s h _ _ hs _ := by
    obtain ⟨_, _, _, _, _, hgrown, rfl⟩ := hs
    exact h.handled rfl hgrown
  registry _ _ _ h := { h with }
  journal _ _ h := h.journal

/-- The host reads what it could read before. -/
theorem readsAlike (h : m.SameMemory m') (r : Remote) : m.ReadsAlike r m' := by
  refine Machine.readsAlike_of h.serial h.parked (by rw [h.remotes]) ?_
  rw [Simulator.bytes?, Simulator.bytes?, h.resources]

end Machine.SameMemory

/-- A claim that can be made, and is given back, leaves the record as it was. -/
theorem Machine.remotes_unclaimed (hr : r.claimRefusal? (m.status r) = none)
    (hremotes : m'.remotes = (m.onStatus r fun s => { s with inFlight := true }).remotes) :
    (Memory.unclaimed r m').remotes = m.remotes := by
  obtain ⟨hfreed, hflight⟩ := Remote.claimable_of_refusal?_eq_none hr
  obtain ⟨status, hstatus⟩ := Machine.recorded_of_not_freed hfreed
  have hclaimed : m'.status r = { status with inFlight := true } := by
    rw [Machine.status, hremotes]
    simp [Machine.onStatus, Machine.status_of_get? hstatus]
  have hback : { status with inFlight := false } = status := by
    rw [Machine.status_of_get? hstatus] at hflight
    rw [← hflight]
  show m'.remotes.set r { m'.status r with inFlight := false } = _
  rw [hclaimed, hremotes]
  simp only [Machine.onStatus]
  rw [Assoc.set_set, hback, Assoc.set_of_get? hstatus]

/-- Whatever happens to a claimed resource, the claim is given back. -/
theorem Machine.SameMemory.unclaimed (hr : r.claimRefusal? (m.status r) = none)
    (h : (m.onStatus r fun s => { s with inFlight := true }).SameMemory m') :
    m.SameMemory (Memory.unclaimed r m') :=
  { h with remotes := Machine.remotes_unclaimed hr h.remotes }

end SameMemory

/-! ## Mapping and unmapping -/

section Mapping

variable [Reentry κ ω] {m : Machine κ ω} {r : Remote}

namespace Memory

/-- A mapping that is not made leaves the memory as it was. -/
theorem restore_fails_alike (h : m.SameMemory m) :
    (restore r).Leads m (fun _ _ => True) (fun _ => m.SameMemory) fun _ => True := by
  unfold restore
  rw [leads_bind, leads_get]
  split
  · trivial
  · rw [leads_bind, Machine.leads_drive h.unhooked rfl]
    refine Simulator.mapResource_leads (fun e => h.refused) ?_
    intro res moves notices _ _ _
    rw [leads_bind, leads_get]
    dsimp only
    split <;> trivial

/-- A mapping that is not ended leaves the memory as it was. -/
theorem withdraw_fails_alike (h : m.SameMemory m) :
    (withdraw r).Leads m (fun _ _ => True) (fun _ => m.SameMemory) fun _ => True := by
  unfold withdraw
  rw [leads_bind, leads_get]
  split
  · rw [leads_bind, Machine.leads_drive h.unhooked rfl]
    exact Simulator.unmapResource_leads (fun e => h.refused) fun _ _ _ => trivial
  · trivial

omit [Reentry κ ω] in
/-- What fails while the resource is claimed leaves the memory as it was, and so does the whole. -/
theorem claimed_fails_alike {act : Drive κ ω α} (h : m.SameMemory m)
    (hact : ∀ m : Machine κ ω, m.SameMemory m →
      act.Leads m (fun _ _ => True) (fun _ => m.SameMemory) fun _ => True) :
    (claimed r act).Leads m (fun _ _ => True) (fun _ => m.SameMemory) fun _ => True := by
  unfold claimed claim
  rw [leads_bind, leads_bind, leads_get]
  split
  · exact h
  · rename_i hr
    have hclaimed : (m.onStatus r fun s => { s with inFlight := true }).SameMemory
        (m.onStatus r fun s => { s with inFlight := true }) := .refl h.hooks h.numbered
    rw [leads_modify, leads_bind, leads_perform, leads_attempt]
    refine (hact _ hclaimed).mono (fun a m' _ => ?_) (fun e m' hm' => ?_) fun _ _ => trivial
    · rw [leads_bind, leads_modify, leads_mapError, leads_answer]
      trivial
    · rw [leads_bind, leads_modify, leads_mapError, leads_answer]
      exact hm'.unclaimed hr

theorem map_fails_alike (h : m.SameMemory m) :
    (map r).Leads m (fun _ _ => True) (fun _ => m.SameMemory) fun _ => True :=
  claimed_fails_alike h fun _ => restore_fails_alike

theorem unmap_fails_alike (h : m.SameMemory m) :
    (unmap r).Leads m (fun _ _ => True) (fun _ => m.SameMemory) fun _ => True := by
  unfold unmap
  rw [leads_bind]
  exact (claimed_fails_alike h fun _ => withdraw_fails_alike).mono (fun _ _ _ => trivial)
    (fun _ _ hm' => hm') fun _ hm' => hm'

end Memory

end Mapping

/-! ## Freeing -/

/-- From the first machine to the second, the mapping of the resource was ended, and the driver
    refused to free it. Nothing else has changed. -/
structure Machine.Stranded (r : Remote) (m m' : Machine κ ω) : Prop where
  mapped : (m.status r).mapped = true
  remotes : m'.remotes = m.remotes.set r { m.status r with link := none }
  resources : ∃ res, m.platform.driver.resources.get? r.id = some res ∧
    m'.platform.driver.resources = m.platform.driver.resources.set r.id { res with mapped := false }
  serial : m'.platform.serial = m.platform.serial
  parked : m'.parked = m.parked
  refused : ∃ mo d, m'.history.head? = some mo ∧ mo.operation = .freeResource ∧
    mo.verdict = .refused d

/-- The bytes of every other resource are read as before. -/
theorem Machine.Stranded.readsAlike {m m' : Machine κ ω} {r r' : Remote} (h : m.Stranded r m')
    (hne : r' ≠ r) : m.ReadsAlike r' m' := by
  obtain ⟨res, hres, hset⟩ := h.resources
  refine Machine.readsAlike_of h.serial h.parked ?_ ?_
  · rw [h.remotes, Assoc.get?_set_of_ne _ _ hne.symm]
  · -- A resource has the same bytes whether it is mapped or not.
    unfold Simulator.bytes?
    rw [hset, Assoc.get?_set]
    split
    · rename_i heq
      rw [← heq, hres]
      rfl
    · rfl

section Freeing

variable [Reentry κ ω] {m : Machine κ ω} {r : Remote}

omit [Reentry κ ω] in
/-- The driver refuses to free a claimed resource whose mapping was ended, and the claim is given
    back. -/
theorem Machine.stranded_of_refused (hr : r.claimRefusal? (m.status r) = none)
    (hmapped : (m.status r).mapped = true) {res : Resource}
    (hres : m.platform.driver.resources.get? r.id = some res) {unmapped freed : Simulator}
    (hunmapped : unmapped.resources =
      m.platform.driver.resources.set r.id { res with mapped := false })
    (hfreed : freed.resources = unmapped.resources) {d : DriverError} :
    m.Stranded r (Memory.unclaimed r ((((m.onStatus r fun s => { s with inFlight := true }).handled
      .unmapResource .accepted unmapped).onStatus r fun s => { s with link := none }).handled
        .freeResource (.refused d) freed)) := by
  have hflight := (Remote.claimable_of_refusal?_eq_none hr).2
  refine ⟨hmapped, ?_, ⟨res, hres, hfreed.trans hunmapped⟩, rfl, rfl, _, d, rfl, rfl, rfl⟩
  simp only [Memory.unclaimed, Machine.onStatus, Machine.handled, Machine.putDriver,
    Machine.status, Assoc.get?_set_self, Option.getD_some, Assoc.set_set] at hflight ⊢
  rw [← hflight]

/-- A resource that is not freed is as it was, or has lost its mapping. -/
theorem Memory.freeRemote_fails_alike (h : m.SameMemory m) :
    (freeRemote r).Leads m (fun _ _ => True) (fun _ m' => m.SameMemory m' ∨ m.Stranded r m')
      fun _ => True := by
  unfold freeRemote claim
  rw [leads_bind, leads_bind, leads_get]
  split
  · exact .inl h
  · rename_i hr
    have hclaimed : (m.onStatus r fun s => { s with inFlight := true }).SameMemory
        (m.onStatus r fun s => { s with inFlight := true }) := .refl h.hooks h.numbered
    have hstatus : (m.onStatus r fun s => { s with inFlight := true }).status r =
        { m.status r with inFlight := true } := by
      rw [Machine.status_onStatus, if_pos rfl]
    rw [leads_modify, leads_bind, leads_perform, leads_attempt,
      leads_bind]
    unfold withdraw
    rw [leads_bind, leads_get, hstatus]
    split
    · rename_i hmapped
      rw [leads_bind, Machine.leads_drive hclaimed.unhooked rfl]
      refine Simulator.unmapResource_leads (fun e => ?_) fun res hres _ => ?_
      · exact .inl (hclaimed.refused.unclaimed hr)
      · -- The mapping is ended; what becomes of the resource is up to the last call.
        have hooks : ∀ s : Simulator, Machine.Unhooked (fun _ => true)
            (((m.onStatus r fun s => { s with inFlight := true }).handled .unmapResource .accepted
              s).onStatus r fun s => { s with link := none }) := fun _ => hclaimed.unhooked
        rw [leads_bind, leads_modify, leads_pure]
        refine (Machine.leads_drive (hooks _) rfl).mpr ?_
        refine Simulator.freeResource_leads (fun e => ?_) fun _ _ => trivial
        refine .inr (Machine.stranded_of_refused hr hmapped hres ?_ ?_)
        · rfl
        · rfl
    · rw [leads_pure, Machine.leads_drive hclaimed.unhooked rfl]
      refine Simulator.freeResource_leads (fun e => ?_) fun _ _ => trivial
      exact .inl (hclaimed.refused.unclaimed hr)

end Freeing

/-! ## Allocating -/

/-- From the first machine to the second, a resource was made and has not been freed; nothing else
    has changed. -/
structure Machine.WithNew (id : Ident .resource) (m m' : Machine κ ω) : Prop
    extends m.SameRecords m' where
  resources : ∃ res, m'.platform.driver.resources = m.platform.driver.resources.set id res
  fresh : m.platform.driver.nextNumber ≤ id.number
  given : id.number < m'.platform.driver.nextNumber
  numbered : Below m.platform.driver.nextNumber m.platform.driver.resources

/-- A resource that was made could not be mapped, and could not be freed either. -/
def Machine.Leaked (m m' : Machine κ ω) : Prop :=
  (∃ id, m.WithNew id m') ∧ ∃ recent, m'.history = recent ++ m.history ∧
    ∃ mo ∈ recent, mo.operation = .freeResource ∧ mo.verdict ≠ .accepted

namespace Machine.WithNew

variable {base m m' : Machine κ ω} {id : Ident .resource} {op : Operation}

theorem unused (h : base.WithNew id m) : base.platform.driver.resources.get? id = none := by
  cases hget : base.platform.driver.resources.get? id with
  | none => rfl
  | some res => exact absurd (h.numbered.lt_of_get? hget) (Nat.not_lt.mpr h.fresh)

theorem of_allocated (h : base.SameMemory m)
    (hnumbered : Below base.platform.driver.nextNumber base.platform.driver.resources)
    {s : Simulator} {res : Resource}
    (hresources : s.resources =
      m.platform.driver.resources.set ⟨m.platform.driver.nextNumber⟩ res)
    (hnext : s.nextNumber = m.platform.driver.nextNumber + 1) :
    base.WithNew ⟨m.platform.driver.nextNumber⟩ (m.handled op .accepted s) := by
  have hgiven : m.platform.driver.nextNumber < s.nextNumber := by
    omega
  exact ⟨h.toSameRecords.handled, ⟨res, h.resources ▸ hresources⟩, h.grown, hgiven, hnumbered⟩

theorem refused (h : base.WithNew id m) {e : DriverError} {calls : List Call}
    {counts : Assoc Operation Nat} :
    base.WithNew id (m.handled op (.refused e) (m.platform.driver.relogged calls counts)) :=
  { h with toSameRecords := h.toSameRecords.handled }

/-- The new resource is not freed again. -/
theorem leaked (h : base.WithNew id m) {d : DriverError} {calls : List Call}
    {counts : Assoc Operation Nat} {e : Event} :
    base.Leaked (Journaled.record e
      (m.handled .freeResource (.refused d) (m.platform.driver.relogged calls counts))) := by
  have hleft : base.WithNew id (m.handled .freeResource (.refused d)
      (m.platform.driver.relogged calls counts)) := h.refused
  obtain ⟨recent, hrecent⟩ := h.history
  exact ⟨⟨id, { hleft with }⟩, _ :: recent, congrArg (_ :: ·) hrecent.symm, _, List.mem_cons_self, rfl,
    nofun⟩

theorem freed (h : base.WithNew id m) {s : Simulator}
    (hresources : s.resources = m.platform.driver.resources.erase id)
    (hnext : s.nextNumber = m.platform.driver.nextNumber) :
    base.SameMemory (m.handled op .accepted s) := by
  obtain ⟨res, hset⟩ := h.resources
  have hback : s.resources = base.platform.driver.resources := by
    rw [hresources, hset, Assoc.erase_set_of_get?_eq_none h.unused]
  have hgrown : base.platform.driver.nextNumber ≤ s.nextNumber := by
    have hfresh := h.fresh
    have hgiven := h.given
    omega
  have hnumbered : Below s.nextNumber s.resources := by
    rw [hback]
    exact h.numbered.mono hgrown
  exact ⟨h.toSameRecords.handled, hback, hgrown, hnumbered⟩

theorem readsAlike (h : base.WithNew id m) {r : Remote}
    (hr : r.id.number < base.platform.driver.nextNumber) : base.ReadsAlike r m := by
  obtain ⟨res, hset⟩ := h.resources
  have hne : id ≠ r.id := by
    intro heq
    have hfresh := h.fresh
    rw [heq] at hfresh
    omega
  refine Machine.readsAlike_of h.serial h.parked (by rw [h.remotes]) ?_
  rw [Simulator.bytes?, Simulator.bytes?, hset, Assoc.get?_set_of_ne _ _ hne]

end Machine.WithNew

section Allocating

variable [Reentry κ ω] {base m : Machine κ ω}

namespace Memory

/-- A new resource that cannot be mapped is freed, or leaked. -/
theorem firstMapping_fails_alike {id : Ident .resource} (h : base.WithNew id m) :
    (firstMapping id).Leads m (fun _ _ => True)
      (fun _ m' => base.SameMemory m' ∨ base.Leaked m') fun _ => True := by
  unfold firstMapping Machine.tryDrive
  rw [leads_bind, leads_perform, leads_attempt,
    Machine.leads_drive h.unhooked rfl]
  refine Simulator.mapResource_leads (fun e => ?_) fun _ _ _ _ _ _ => trivial
  have hunmapped : base.WithNew id (m.handled .mapResource (.refused e)
      (m.platform.driver.logged (.mapResource id))) := h.refused
  rw [leads_bind, leads_perform, leads_attempt]
  refine (Machine.leads_drive hunmapped.unhooked rfl).mpr ?_
  refine Simulator.freeResource_leads (fun f => ?_) fun res _ => ?_
  · exact .inr hunmapped.leaked
  · exact .inl (hunmapped.freed rfl rfl)

/-- An allocation that fails leaves the memory as it was, unless it leaks the resource. -/
theorem allocateRemote_fails_alike (h : m.SameMemory m) {device : Device} {shape : Shape}
    {format : Format} {flags : AllocFlags} :
    (allocateRemote device shape format flags).Leads m (fun _ _ => True)
      (fun _ m' => m.SameMemory m' ∨ m.Leaked m') fun _ => True := by
  unfold allocateRemote accept
  rw [leads_bind, leads_bind]
  refine (Devices.check_stands Machine.SameMemory.blind.aside m h).mono (fun _ m₁ h₁ => ?_)
    (fun _ _ h₁ => .inl h₁) fun _ _ => trivial
  rw [leads_answer]
  split
  · unfold Machine.driveAs
    rw [leads_bind, leads_mapError, Machine.leads_drive h₁.unhooked rfl]
    refine Simulator.allocate_leads (fun e => .inl h₁.refused) trivial ?_
    intro notices _ _
    rw [leads_bind]
    exact (firstMapping_fails_alike (.of_allocated h₁ h.numbered rfl rfl)).mono
      (fun _ _ _ => trivial) (fun _ _ hm' => hm') fun _ _ => trivial
  · exact .inl h₁

end Memory

end Allocating

namespace Scenario

variable {m : RuntimeScene}

theorem Reachable.sameMemory (hm : Reachable m) (hooks : m.platform.hooks = []) :
    m.SameMemory m :=
  .refl hooks hm.inOrder.numbered.resources

/-- A resource that the host can read is on record, and has a number from before. -/
theorem Reachable.readsAlike_of_withNew (hm : Reachable m) {m' : RuntimeScene}
    {id : Ident .resource} (h : m.WithNew id m') (r : Remote) : m.ReadsAlike r m' := by
  intro bytes hread
  obtain ⟨-, link, hlink, -⟩ := Memory.read_eq_ok_iff.mp hread
  obtain ⟨-, -, hfreed⟩ := Remote.access_eq_ok_iff.mp hlink
  obtain ⟨status, hstatus⟩ := Machine.recorded_of_not_freed hfreed
  exact h.readsAlike (hm.inOrder.issued r status hstatus) bytes hread

/-- A call about remote resources that fails leaves every record as it was, and the host reads the
    same bytes. The driver has the same resources, unless a failed allocation could not free the
    one that it had made. One call is different: where the driver ends the mapping of a resource
    and then refuses to free it, the resource has lost its mapping, and only that has changed. -/
theorem failed_memory_calls_spare_records [Reentry (List (Step RuntimeStep)) Cast]
    (hm : Reachable m) (hooks : m.platform.hooks = []) :
    (∀ device shape format flags err m',
      (Memory.allocateRemote device shape format flags).run m = (.ok (.error err), m') →
        m'.remotes = m.remotes ∧ (∀ r, m.ReadsAlike r m') ∧
        ∃ recent, m'.history = recent ++ m.history ∧
          ((∀ mo ∈ recent, mo.operation = .freeResource → mo.verdict = .accepted) →
            m'.platform.driver.resources = m.platform.driver.resources)) ∧
    (∀ r err m', (Memory.map r).run m = (.ok (.error err), m') ∨
        (Memory.unmap r).run m = (.ok (.error err), m') →
      m'.remotes = m.remotes ∧ (∀ r, m.ReadsAlike r m') ∧
        m'.platform.driver.resources = m.platform.driver.resources) ∧
    ∀ r err m', (Memory.freeRemote r).run m = (.ok (.error err), m') →
      (m'.remotes = m.remotes ∧ (∀ r, m.ReadsAlike r m') ∧
        m'.platform.driver.resources = m.platform.driver.resources) ∨
      (m.Stranded r m' ∧ ∀ r' ≠ r, m.ReadsAlike r' m') := by
  have hstart := hm.sameMemory hooks
  have hsame : ∀ {m' : RuntimeScene}, m.SameMemory m' →
      m'.remotes = m.remotes ∧ (∀ r, m.ReadsAlike r m') ∧
        m'.platform.driver.resources = m.platform.driver.resources :=
    fun h => ⟨h.remotes, h.readsAlike, h.resources⟩
  refine ⟨fun device shape format flags err m' hrun => ?_, fun r err m' hrun => ?_,
    fun r err m' hrun => ?_⟩
  · rcases (Memory.allocateRemote_fails_alike hstart).of_eq_error hrun with h | ⟨⟨id, h⟩, hrefused⟩
    · obtain ⟨recent, hrecent⟩ := h.history
      exact ⟨h.remotes, h.readsAlike, recent, hrecent.symm, fun _ => h.resources⟩
    · obtain ⟨recent, hrecent, mo, hmo, hop, hverdict⟩ := hrefused
      exact ⟨h.remotes, hm.readsAlike_of_withNew h, recent, hrecent,
        fun hall => absurd (hall mo hmo hop) hverdict⟩
  · rcases hrun with hrun | hrun
    · exact hsame ((Memory.map_fails_alike hstart).of_eq_error hrun)
    · exact hsame ((Memory.unmap_fails_alike hstart).of_eq_error hrun)
  · rcases (Memory.freeRemote_fails_alike hstart).of_eq_error hrun with h | h
    · exact .inl (hsame h)
    · exact .inr ⟨h, fun _ => h.readsAlike⟩

/-- A mapped resource with some bytes, where the next mapping will fail. -/
def failingMapping : List (Step RuntimeStep) :=
  [.own (.device "d" 0), .own (.allocRemote "a" "d" ⟨⟨3, 2⟩, ⟨.float32, .one⟩, .plain⟩),
    .own (.write "a" 0 [1, 2, 3]), .control (.failOn (some .mapResource) 2)]

def failedAllocation : Except Abort (Except Error Remote) × RuntimeScene :=
  (@Memory.allocateRemote _ _ ⟨fun _ _ => pure ()⟩ ⟨0, ⟨1⟩, {}, 1⟩ ⟨4, 1⟩ ⟨.float32, .one⟩
    .plain).run (after 0 failingMapping (opening {} {}))

/-- The allocation fails, and what it has made is freed: the resource can be read as before. -/
theorem failedAllocation_spares_records :
    (Reachable (after 0 failingMapping (opening {} {})) ∧
      (after 0 failingMapping (opening {} {})).platform.hooks = [] ∧
      failedAllocation.1 = .ok (.error (.allocation ⟨"calResMap", "injected failure on call 2"⟩))) ∧
    failedAllocation.2.remotes = (after 0 failingMapping (opening {} {})).remotes ∧
    (after 0 failingMapping (opening {} {})).ReadsAlike
      ⟨0, ⟨2⟩, ⟨1⟩, ⟨3, 2⟩, ⟨.float32, .one⟩, .plain⟩ failedAllocation.2 ∧
    ∃ recent, failedAllocation.2.history =
        recent ++ (after 0 failingMapping (opening {} {})).history ∧
      ((∀ mo ∈ recent, mo.operation = .freeResource → mo.verdict = .accepted) →
        failedAllocation.2.platform.driver.resources =
          (after 0 failingMapping (opening {} {})).platform.driver.resources) := by
  have hm : Reachable (after 0 failingMapping (opening {} {})) := ⟨_, _, 0, failingMapping, rfl, rfl⟩
  have hooks : (after 0 failingMapping (opening {} {})).platform.hooks = [] := by decide +kernel
  have hfailed : failedAllocation.1 =
      .ok (.error (.allocation ⟨"calResMap", "injected failure on call 2"⟩)) := by decide +kernel
  have hrun : failedAllocation =
      (.ok (.error (.allocation ⟨"calResMap", "injected failure on call 2"⟩)),
        failedAllocation.2) := by
    rw [← hfailed]
  obtain ⟨hallocation, -⟩ := @failed_memory_calls_spare_records _ ⟨fun _ _ => pure ()⟩ hm hooks
  obtain ⟨hremotes, hreads, hresources⟩ := hallocation _ _ _ _ _ _ hrun
  exact ⟨⟨hm, hooks, hfailed⟩, hremotes, hreads _, hresources⟩

/-- A mapped resource that the driver refuses to free, of which the record is looked at and the
    bytes are read then. -/
def refusedFree : List (Step RuntimeStep) :=
  [.own (.device "d" 0), .own (.allocRemote "r" "d" ⟨⟨1, 1⟩, ⟨.float32, .one⟩, .plain⟩),
    .control (.failOn (some .freeResource) 1), .own (.freeRemote "r"), .own (.remoteInfo "r"),
    .own (.read "r" 0 none)]

/-- A mapped resource that the driver refuses to free has lost its mapping, and the host cannot
    read it. -/
theorem refused_free_ends_mapping :
    ((runtimeSession.play (opening {} {}) refusedFree).map (·.outcome))[1]? =
        some (.ok (.remote ⟨0, ⟨2⟩, ⟨1⟩, ⟨1, 1⟩, ⟨.float32, .one⟩, .plain⟩
          { link := some ⟨0, 0⟩, pitch := 64 })) ∧
      ((runtimeSession.play (opening {} {}) refusedFree).map (·.outcome)).drop 3 =
        [.error (.runtime (.allocation ⟨"calResFree", "injected failure on call 1"⟩)),
          .ok (.remote ⟨0, ⟨2⟩, ⟨1⟩, ⟨1, 1⟩, ⟨.float32, .one⟩, .plain⟩ { link := none, pitch := 64 }),
          .error (.runtime (.notMapped ⟨2⟩))] := by
  decide +kernel

end Scenario

end StreamCompute
