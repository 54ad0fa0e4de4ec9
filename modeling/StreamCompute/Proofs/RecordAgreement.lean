/-
  StreamCompute.Proofs.RecordAgreement

  The record of a remote resource tells the truth. Between the steps of a
  scenario in which nothing was cut off, a record is marked as freed, mapped
  or in flight exactly if the resource is, its pitch and its address are the
  driver's, and the host reads exactly the bytes that the driver has.
-/
import Mathlib.Logic.ExistsUnique
import StreamCompute.Proofs.CustodySession

namespace StreamCompute

namespace Machine

variable {κ ω : Type}

/-- The execution has not been taken down yet, and claims the remote resource. -/
def Claims (m : Machine κ ω) (key : ExecutionKey) (r : Remote) : Prop :=
  ∃ a, m.arenas.get? key = some a ∧ r ∈ a.claims

/-- What the host reads is what the driver has, all of it, and its length can be computed in
    64 bits. -/
structure ReadsCurrent (m : Machine κ ω) (r : Remote) (status : RemoteStatus)
    (bytes : Contents) : Prop where
  current : (m.platform.driver.bytes? r.id).map (·.toList) = some bytes.toList
  size : bytes.size = status.pitch * r.shape.height * r.format.elementSize
  elements : status.pitch * r.shape.height < UInt64.size
  small : status.pitch * r.shape.height * r.format.elementSize < UInt64.size

/-- The record of a remote resource tells the truth. -/
structure Truthful (m : Machine κ ω) (r : Remote) (status : RemoteStatus) : Prop where
  freed : status.freed = true ↔ m.platform.driver.resources.get? r.id = none
  mapped : status.mapped = m.platform.driver.isMapped r.id
  inFlight : status.inFlight = true ↔ ∃! key, m.Claims key r
  withdrawn : status.inFlight = true → status.mapped = false
  gone : status.freed = true → status.mapped = false ∧ status.inFlight = false
  pitch : ∀ res, m.platform.driver.resources.get? r.id = some res → status.pitch = res.pitch
  address : ∀ res link, m.platform.driver.resources.get? r.id = some res →
    status.link = some link → link = ⟨m.platform.serial, res.moves⟩
  readable : (∃ bytes m', (Memory.read r).run m = (.ok (.ok bytes), m')) ↔
    status.mapped = true ∧ status.inFlight = false ∧ status.freed = false
  reads : ∀ bytes m', (Memory.read r).run m = (.ok (.ok bytes), m') →
    m' = m ∧ m.ReadsCurrent r status bytes

end Machine

variable {κ ω : Type} {m : Machine κ ω} {r : Remote} {status : RemoteStatus} {serial : Nat}
  {res : Resource} {resources : Assoc (Ident .resource) Resource}

/-! ## Reading -/

theorem Memory.read_run (m : Machine κ ω) (r : Remote) :
    (Memory.read r).run m = (.ok ((r.access (m.status r)).map fun link =>
      (Memory.bytesAt m r link).take (r.size (m.status r))), m) := by
  show Prod.mk _ _ = _
  cases r.access (m.status r) <;> rfl

theorem Memory.read_eq_ok_iff {bytes : Contents} {m' : Machine κ ω} :
    (Memory.read r).run m = (.ok (.ok bytes), m') ↔
      m' = m ∧ ∃ link, r.access (m.status r) = .ok link ∧
        bytes = (Memory.bytesAt m r link).take (r.size (m.status r)) := by
  rw [Memory.read_run, Prod.mk.injEq]
  cases r.access (m.status r) <;> simp [Except.map, eq_comm, and_comm]

/-- The host may touch a resource exactly if it is mapped, unclaimed and not freed. -/
theorem Remote.exists_access_iff :
    (∃ link, r.access status = .ok link) ↔
      status.mapped = true ∧ status.inFlight = false ∧ status.freed = false := by
  simp [Remote.access_eq_ok_iff, RemoteStatus.mapped, Option.isSome_iff_exists]

/-- As many bytes as the record says are all that the resource has. -/
theorem Matches.take_size (h : Matches serial r status res) :
    (res.bytes.take (r.size status)).toList = res.bytes.toList := by
  have hsize : r.size status = res.bytes.size := by
    rw [h.size_eq, Remote.size, Remote.rowBytes, Nat.mul_right_comm]
  rw [Contents.toList_take, hsize, ← Contents.length_toList, List.take_length]

/-! ## Records and the driver -/

theorem Agrees.freed_iff (h : Agrees serial resources r status) :
    status.freed = true ↔ resources.get? r.id = none := by
  refine ⟨fun hfreed => (h.freed hfreed).1, fun hnone => ?_⟩
  cases hlive : status.freed with
  | true => rfl
  | false =>
    obtain ⟨res, hres, -⟩ := h.live hlive
    cases hnone.symm.trans hres

theorem Agrees.matches_of_get? (h : Agrees serial resources r status)
    (hres : resources.get? r.id = some res) : Matches serial r status res := by
  have hlive : status.freed = false := by
    rw [← Bool.not_eq_true, h.freed_iff, hres]
    exact Option.some_ne_none res
  obtain ⟨res', hres', hmatch⟩ := h.live hlive
  cases hres.symm.trans hres'
  exact hmatch

theorem Agrees.mapped_eq (h : Agrees serial resources r status) :
    status.mapped = (resources.get? r.id).any (·.mapped) := by
  cases hres : resources.get? r.id with
  | none =>
    have hlink := (h.freed (h.freed_iff.mpr hres)).2.1
    simp [RemoteStatus.mapped, hlink]
  | some res => exact (h.matches_of_get? hres).mapped.symm

/-! ## Machines in order -/

section InOrder

variable [Keeper ω] {allowed : κ → Prop} {g : Holdings}

theorem InOrder.claims_unique (h : InOrder allowed g m) {key key' : ExecutionKey}
    (hclaims : m.Claims key r) (hclaims' : m.Claims key' r) : key' = key := by
  obtain ⟨a, ha, hr⟩ := hclaims
  obtain ⟨a', ha', hr'⟩ := hclaims'
  exact Decidable.byContradiction fun hne =>
    (h.apart key' a' key a ha' ha hne).claims r hr' hr

/-- If no call is under way, exactly the claims of unfinished executions are marked. -/
theorem InOrder.inFlight_iff (h : InOrder allowed {} m) (hquiet : Quiet m.history)
    (hr : m.remotes.get? r = some status) :
    status.inFlight = true ↔ ∃! key, m.Claims key r := by
  constructor
  · intro hflight
    rcases h.tight hquiet r status hr hflight with hcall | ⟨key, a, ha, hclaim⟩
    · cases hcall
    · exact ⟨key, ⟨a, ha, hclaim⟩, fun key' hkey' => h.claims_unique ⟨a, ha, hclaim⟩ hkey'⟩
  · rintro ⟨key, ⟨a, ha, hclaim⟩, -⟩
    obtain ⟨status', hr', hflight⟩ := (h.entered key a ha).claims r hclaim
    cases hr.symm.trans hr'
    exact hflight

theorem InOrder.not_mapped_of_inFlight (h : InOrder allowed {} m) (hquiet : Quiet m.history)
    (hr : m.remotes.get? r = some status) (hflight : status.inFlight = true) :
    status.mapped = false := by
  rcases h.tight hquiet r status hr hflight with hcall | ⟨key, a, ha, hclaim⟩
  · cases hcall
  · rw [RemoteStatus.mapped, h.settled hquiet key a ha List.not_mem_nil r hclaim status hr]
    rfl

/-- What the host reads through a record of a machine in order. -/
theorem InOrder.readsCurrent (h : InOrder allowed g m) (hr : m.remotes.get? r = some status)
    {link : HostLink} (hlink : r.access status = .ok link) :
    m.ReadsCurrent r status ((Memory.bytesAt m r link).take (r.size status)) := by
  obtain ⟨hlinked, -, hlive⟩ := Remote.access_eq_ok_iff.mp hlink
  obtain ⟨res, hres, hmatch⟩ := (h.records r status hr).live hlive
  cases hmatch.link link hlinked
  have hbytes : Memory.bytesAt m r ⟨m.platform.serial, res.moves⟩ = res.bytes := by
    simp [Memory.bytesAt, Machine.platform?, Simulator.bytes?, hres]
  have hsmall : status.pitch * r.shape.height * r.format.elementSize < UInt64.size :=
    hmatch.size_eq ▸ hmatch.small
  rw [hbytes]
  exact {
    current := by rw [Simulator.bytes?, hres, hmatch.take_size]; rfl
    size := by
      rw [← hmatch.size_eq, ← Contents.length_toList, hmatch.take_size, Contents.length_toList]
    elements := Nat.lt_of_le_of_lt (Nat.le_mul_of_pos_right _ r.format.elementSize_pos) hsmall
    small := hsmall }

/-- Records of a machine in order tell the truth when no call is under way. -/
theorem InOrder.truthful (h : InOrder allowed {} m) (hquiet : Quiet m.history)
    (hr : m.remotes.get? r = some status) : m.Truthful r status := by
  have hagrees := h.records r status hr
  have hstatus : m.status r = status := Machine.status_of_get? hr
  exact {
    freed := hagrees.freed_iff
    mapped := hagrees.mapped_eq
    inFlight := h.inFlight_iff hquiet hr
    withdrawn := h.not_mapped_of_inFlight hquiet hr
    gone := fun hfreed => by
      obtain ⟨-, hlink, hflight⟩ := hagrees.freed hfreed
      exact ⟨congrArg Option.isSome hlink, hflight⟩
    pitch := fun res hres => (hagrees.matches_of_get? hres).pitch.symm
    address := fun res link hres hlink => (hagrees.matches_of_get? hres).link link hlink
    readable := by
      simp only [Memory.read_eq_ok_iff, hstatus]
      rw [← Remote.exists_access_iff (r := r)]
      exact ⟨fun ⟨_, _, _, link, hlink, _⟩ => ⟨link, hlink⟩,
        fun ⟨link, hlink⟩ => ⟨_, m, rfl, link, hlink, rfl⟩⟩
    reads := by
      intro bytes m' hread
      rw [Memory.read_eq_ok_iff, hstatus] at hread
      obtain ⟨hm, link, hlink, rfl⟩ := hread
      exact ⟨hm, h.readsCurrent hr hlink⟩ }

/-- A resource that is seen freed may be relied on to be freed. -/
theorem InOrder.miss (h : InOrder allowed g m) (hr : m.remotes.get? r = some status)
    (hfreed : status.freed = true) : InOrder allowed (g.missing r) m :=
  { h with
    freed := fun r' hr' => by
      rcases List.mem_cons.mp hr' with rfl | hr'
      · exact ⟨status, hr, hfreed⟩
      · exact h.freed r' hr' }

end InOrder

/-! ## Scenarios -/

namespace Scenario

/-- Every record tells the truth in every state that a scenario within the runtime reaches
    without anything being cut off. A resource that was freed stays freed, whatever happens
    next, and the executions that the scenario holds are among the unfinished ones. -/
theorem records_agree_with_driver (spec : Spec) (config : Config) (fuel : Nat)
    (steps : List (Step RuntimeStep)) (hsteps : allWithin steps = true)
    (hquiet : Quiet (after fuel steps (opening spec config)).history) :
    (∀ r status, (after fuel steps (opening spec config)).remotes.get? r = some status →
      (after fuel steps (opening spec config)).Truthful r status ∧
      (status.freed = true → ∀ fuel' more, allWithin more = true →
        ∃ status', (after fuel' more (after fuel steps (opening spec config))).remotes.get? r =
          some status' ∧ status'.freed = true)) ∧
    ∀ e ∈ (after fuel steps (opening spec config)).host.executions.values,
      ∃ a, (after fuel steps (opening spec config)).arenas.get? e.key = some a := by
  have horder : InOrder Within {} (after fuel steps (opening spec config)) :=
    inOrder_after hsteps (inOrder_opening spec config)
  refine ⟨fun r status hr => ⟨horder.truthful hquiet hr, fun hfreed fuel' more hmore => ?_⟩, ?_⟩
  · exact (inOrder_after hmore (horder.miss hr hfreed)).freed r List.mem_cons_self
  · intro e he
    obtain ⟨a, ha, -⟩ := horder.held e he
    exact ⟨a, ha⟩

/-- Three remote resources: one was mapped a second time after a failure, one is freed, and
    an execution that nobody joins claims the third. -/
def assortedRecords : List (Step RuntimeStep) :=
  [.own (.device "d" 0), .own (.compile "k" "o0" none),
    .own (.allocRemote "a" "d" ⟨⟨3, 2⟩, ⟨.float32, .one⟩, .plain⟩),
    .own (.unmap "a"), .control (.failOn (some .mapResource) 2), .own (.map "a"), .own (.map "a"),
    .own (.allocRemote "b" "d" ⟨⟨4, 1⟩, ⟨.float32, .one⟩, .plain⟩), .own (.freeRemote "b"),
    .own (.allocRemote "c" "d" ⟨⟨4, 1⟩, ⟨.float32, .one⟩, .plain⟩),
    .own (.bindDirect "t" "o0" "c"), .own (.launch "e" ⟨"k", "d", some "t", ⟨0, 0, 4, 1⟩⟩)]

/-- The three records differ in every mark, and all of them tell the truth. -/
theorem assortedRecords_agree :
    (allWithin assortedRecords = true ∧
      Quiet (after 0 assortedRecords (opening { relocates := true } {})).history) ∧
    (after 0 assortedRecords (opening { relocates := true } {})).remotes.values.map
      (fun status => (status.link, status.inFlight, status.freed)) =
        [(some ⟨0, 1⟩, false, false), (none, false, true), (none, true, false)] ∧
    (∀ r status,
      (after 0 assortedRecords (opening { relocates := true } {})).remotes.get? r = some status →
        (after 0 assortedRecords (opening { relocates := true } {})).Truthful r status ∧
        (status.freed = true → ∀ fuel' more, allWithin more = true →
          ∃ status',
            (after fuel' more
              (after 0 assortedRecords (opening { relocates := true } {}))).remotes.get? r =
                some status' ∧ status'.freed = true)) ∧
    ∀ e ∈ (after 0 assortedRecords (opening { relocates := true } {})).host.executions.values,
      ∃ a, (after 0 assortedRecords (opening { relocates := true } {})).arenas.get? e.key =
        some a := by
  have hquiet : Quiet (after 0 assortedRecords (opening { relocates := true } {})).history := by
    unfold Quiet
    decide +kernel
  exact ⟨⟨rfl, hquiet⟩, by decide +kernel,
    records_agree_with_driver { relocates := true } {} 0 assortedRecords rfl hquiet⟩

end Scenario

end StreamCompute
