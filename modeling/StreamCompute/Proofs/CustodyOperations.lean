/-
  StreamCompute.Proofs.CustodyOperations

  The operations of a runtime on devices, resources and completion tokens keep
  the machine in order. Most of them hold nothing when they begin or end; that
  is what `Keeps` says, and it is closed under everything acts are built from.
-/
import StreamCompute.Proofs.CustodyCalls
import StreamCompute.Proofs.Operations

namespace StreamCompute

open Fallible

variable {κ ω : Type} [Keeper ω] {allowed : κ → Prop} {g : Holdings} {m : Machine κ ω}
  {ε ε' α β : Type}

/-! ## Acts that hold nothing -/

/-- The act keeps the machine in order, whatever the calls under way hold. -/
def Act.Keeps (allowed : κ → Prop) (act : Act (Machine κ ω) α) : Prop :=
  ∀ g m, InOrder allowed g m → act.Leads m (fun _ => InOrder allowed g) (Broken allowed g)

/-- The act keeps the machine in order, whatever the calls under way hold. -/
def Fallible.Keeps (allowed : κ → Prop) (act : Fallible ε (Machine κ ω) α) : Prop :=
  ∀ g m, InOrder allowed g m →
    act.Leads m (fun _ => InOrder allowed g) (fun _ => InOrder allowed g) (Broken allowed g)

namespace Act.Keeps

theorem pure {a : α} : (Pure.pure a : Act (Machine κ ω) α).Keeps allowed :=
  fun _ _ h => h

theorem bind {x : Act (Machine κ ω) β} {f : β → Act (Machine κ ω) α} (hx : x.Keeps allowed)
    (hf : ∀ b, (f b).Keeps allowed) : (x >>= f).Keeps allowed := fun g m h =>
  Act.leads_bind.mpr ((hx g m h).mono (fun b m' hm' => hf b g m' hm') fun _ hm' => hm')

theorem log {e : Event} : (StreamCompute.log e : Act (Machine κ ω) Unit).Keeps allowed :=
  fun _ _ h => h.record

theorem attempt {act : Fallible ε (Machine κ ω) α} (h : act.Keeps allowed) :
    act.attempt.Keeps allowed :=
  fun g m hm => leads_attempt.mpr (h g m hm)

end Act.Keeps

namespace Fallible.Keeps

theorem pure {a : α} : (Pure.pure a : Fallible ε (Machine κ ω) α).Keeps allowed :=
  fun _ _ h => h

theorem throw {e : ε} : (MonadExcept.throw e : Fallible ε (Machine κ ω) α).Keeps allowed :=
  fun _ _ h => h

theorem bind {x : Fallible ε (Machine κ ω) β} {f : β → Fallible ε (Machine κ ω) α}
    (hx : x.Keeps allowed) (hf : ∀ b, (f b).Keeps allowed) : (x >>= f).Keeps allowed := fun g m h =>
  leads_bind.mpr
    ((hx g m h).mono (fun b m' hm' => hf b g m' hm') (fun _ _ hm' => hm') fun _ hm' => hm')

theorem get : (MonadState.get : Fallible ε (Machine κ ω) (Machine κ ω)).Keeps allowed :=
  fun _ _ h => h

theorem change {f : Machine κ ω → Machine κ ω}
    (hf : ∀ g m, InOrder allowed g m → InOrder allowed g (f m)) :
    (modify f : Fallible ε (Machine κ ω) PUnit).Keeps allowed :=
  fun g m h => hf g m h

theorem log {e : Event} : (StreamCompute.log e : Fallible ε (Machine κ ω) Unit).Keeps allowed :=
  fun _ _ h => h.record

theorem answer {r : Except ε α} :
    (Fallible.answer r : Fallible ε (Machine κ ω) α).Keeps allowed := fun g m hm =>
  leads_answer.mpr (by cases r <;> exact hm)

theorem mapError {act : Fallible ε (Machine κ ω) α} {f : ε → ε'} (h : act.Keeps allowed) :
    (act.mapError f).Keeps allowed :=
  fun g m hm => leads_mapError.mpr (h g m hm)

end Fallible.Keeps

theorem inOrder_unlogged : Unlogged (InOrder allowed g : Machine κ ω → Prop) (Broken allowed g) where
  journal _ _ h := h.journal
  cut _ _ h := ⟨h.1.journal, h.2⟩

/-! ## Driver calls -/

variable [Reentry κ ω] (hooks : Courteous ω allowed)

include hooks

variable {c : Command α} [c.Requested] (hop : c.operation.calm = true)

include hop

omit [Reentry κ ω] hooks hop [c.Requested] in
theorem Operation.calm_of_ofDevices {op : Operation} (h : op.ofDevices = true) :
    op.calm = true := by
  cases op <;> first | rfl | cases h

theorem drive_keeps : (Machine.drive c : Drive κ ω α).Keeps allowed :=
  fun _ _ h => drive_calm hooks (c.calm hop) h

theorem tryDrive_keeps : (Machine.tryDrive c : Act (Machine κ ω) _).Keeps allowed :=
  .attempt (drive_keeps hooks hop)

theorem driveAs_keeps {wrap : DriverError → Error} :
    (Machine.driveAs wrap c : Task κ ω α).Keeps allowed :=
  .mapError (drive_keeps hooks hop)

omit hop

/-! ## Devices -/

namespace Devices

theorem aside : Aside (InOrder allowed g : Machine κ ω → Prop) (Broken allowed g) where
  toUnlogged := inOrder_unlogged
  registry _ _ _ h := { h with }
  call hop := drive_keeps hooks (Operation.calm_of_ofDevices hop) g

theorem count_keeps : (count : Task κ ω Nat).Keeps allowed := fun _ =>
  count_stands (aside hooks)

theorem get_keeps {index : Nat} : (get index : Task κ ω Device).Keeps allowed := fun _ =>
  get_stands (aside hooks)

theorem check_keeps {d : Device} : (check d : Task κ ω Unit).Keeps allowed := fun _ =>
  check_stands (aside hooks)

theorem shutdown_keeps : (shutdown : Task κ ω Unit).Keeps allowed := fun _ =>
  shutdown_stands (aside hooks)

end Devices

/-! ## Images -/

namespace Images

theorem compileFor_keeps {d : Device} {source : String} :
    (compileFor d source : Task κ ω Image).Keeps allowed :=
  .bind (Devices.check_keeps hooks) fun _ =>
    .bind (driveAs_keeps hooks rfl) fun _ => .bind .log fun _ => .pure

theorem compile_keeps {source : String} : (compile source : Task κ ω Image).Keeps allowed :=
  .bind (Devices.get_keeps hooks) fun _ => compileFor_keeps hooks

theorem free_keeps {image : Image} : (free image : Task κ ω Unit).Keeps allowed :=
  .bind (driveAs_keeps hooks rfl) fun _ => .log

end Images

/-! ## Waiting -/

namespace Completion

/-- A token that is done was asked and said so. -/
theorem check_asked {op : Operation} {context : Ident .context} {event : Ident .event}
    (h : InOrder allowed g m) :
    (check op context event).Leads m
      (fun done m' => InOrder allowed g m' ∧
        (done = true → ∃ mo ∈ m'.history, mo.Asked context event .done))
      (fun _ => InOrder allowed g) (Broken allowed g) := by
  unfold check
  rw [leads_bind]
  refine drive_leads hooks h (fun _ hm => hm) fun m hm => ?_
  have hlogs : (Simulator.queryEvent context event).Logs (.queryEvent context event)
      m.platform.driver := Command.logs rfl
  have hquery := Simulator.queryEvent_answers.and hlogs
  refine ((hm.handles_calm (Command.calm _ rfl)).and hquery).mono
    (fun status s ⟨hm', hanswer, hcalls⟩ => ?_) (fun _ _ hs => hs.1) fun _ hs => hs.1
  have hasked : (m.moment .queryEvent .accepted s).Asked context event status :=
    ⟨rfl, Machine.call?_moment hcalls, rfl, hanswer⟩
  cases status with
  | pending => exact ⟨hm', nofun⟩
  | done => exact ⟨hm', fun _ => ⟨_, List.mem_cons_self, hasked⟩⟩
  | failed message => exact hm'

theorem wait_keeps {w : Waiter} {op : Operation} {context : Ident .context} {event : Ident .event}
    {limit : Option Nat} : (wait w op context event limit : Drive κ ω WaitOutcome).Keeps allowed :=
  fun g => wait_stands inOrder_unlogged (drive_keeps hooks rfl g)

/-- An execution at work copies between its own memory objects, and waits. -/
theorem copy_leads {f : Frame} (h : InOrder allowed (g.working f) m) {w : Waiter}
    {source target : Ident .memory}
    (hsource : source ∈ f.arena.memories) (htarget : target ∈ f.arena.memories) :
    (copy w f.arena.context source target : Drive κ ω Unit).Leads m
      (fun _ => InOrder allowed (g.working f)) (fun _ => InOrder allowed (g.working f))
      (Broken allowed (g.working f)) := by
  unfold copy
  rw [leads_bind]
  refine (drive_copyMemory hooks h hsource htarget).mono (fun event m' hm' => ?_)
    (fun _ _ hm' => hm') fun _ hm' => hm'
  exact Fallible.Keeps.bind (wait_keeps hooks) (fun _ => .pure) _ m' hm'

end Completion

/-! ## Remote resources -/

namespace Memory

omit [Reentry κ ω] hooks in
theorem claim_leads (h : InOrder allowed g m) {r : Remote} :
    (claim r).Leads m (fun _ => InOrder allowed (g.calling r))
      (fun _ => InOrder allowed g) (Broken allowed g) := by
  unfold claim
  rw [leads_bind, leads_get]
  split
  · exact h
  · rename_i hnone
    unfold Remote.claimRefusal? at hnone
    split at hnone
    · cases hnone
    · rename_i hfreed
      split at hnone
      · cases hnone
      · rename_i hflight
        exact h.claimed (Bool.eq_false_iff.mpr hfreed) (Bool.eq_false_iff.mpr hflight)

/-- Whoever knows that the resource has a record can end its mapping. -/
theorem withdraw_leads (h : InOrder allowed g m) {r : Remote}
    (hrecorded : ∀ m : Machine κ ω, InOrder allowed g m → ∃ status, m.remotes.get? r = some status) :
    (withdraw r).Leads m
      (fun _ m' => InOrder allowed g m' ∧
        ∃ status, m'.remotes.get? r = some status ∧ status.link = none)
      (fun _ => InOrder allowed g) (Broken allowed g) := by
  unfold withdraw
  rw [leads_bind, leads_get]
  split
  · rw [leads_bind]
    refine drive_leads hooks h (fun _ hm => hm) fun m hm => ?_
    refine Simulator.unmapResource_leads (fun _ => hm.handled_refused) fun res hres _ => ?_
    obtain ⟨status, hr⟩ := hrecorded m hm
    exact ⟨hm.withdrawn hr hres, _, Assoc.get?_set_self .., rfl⟩
  · rename_i hmapped
    obtain ⟨status, hr⟩ := hrecorded m h
    rw [Machine.status_of_get? hr] at hmapped
    refine ⟨h, status, hr, ?_⟩
    simpa [RemoteStatus.mapped] using hmapped

/-- Whoever knows that nobody needs the resource unmapped can map it. -/
theorem restore_leads (h : InOrder allowed g m) {r : Remote}
    (hrecorded : ∀ m : Machine κ ω, InOrder allowed g m →
      (∃ status, m.remotes.get? r = some status) ∧ Released g m r) :
    (restore r).Leads m (fun _ => InOrder allowed g)
      (fun _ => InOrder allowed g) (Broken allowed g) := by
  unfold restore
  rw [leads_bind, leads_get]
  split
  · exact h
  · rw [leads_bind]
    refine drive_leads hooks h (fun _ hm => hm) fun m hm => ?_
    refine Simulator.mapResource_leads (fun _ => hm.handled_refused)
      fun res moves notices hres _ _ => ?_
    obtain ⟨⟨status, hr⟩, hrel⟩ := hrecorded m hm
    rw [leads_bind, leads_get]
    dsimp only
    split
    · exact (hm.restored hr hrel hres).journal
    · exact hm.restored hr hrel hres

omit [Reentry κ ω] hooks in
/-- A call that claims a remote resource may do what keeps its claim. -/
theorem claimed_keeps {r : Remote} {act : Drive κ ω α}
    (hact : ∀ (g : Holdings) (m : Machine κ ω), InOrder allowed (g.calling r) m →
      act.Leads m (fun _ => InOrder allowed (g.calling r)) (fun _ => InOrder allowed (g.calling r))
        (Broken allowed (g.calling r))) :
    (claimed r act).Keeps allowed := by
  intro g m h
  unfold claimed
  rw [leads_bind]
  refine (claim_leads h).mono (fun _ m' hm' => ?_) (fun _ _ hm' => hm') fun _ hm' => hm'
  rw [leads_bind, leads_perform, leads_attempt]
  refine (hact g m' hm').mono (fun a m' hm' => ?_) (fun e m' hm' => ?_) fun _ hm' =>
    hm'.part .calling
  · exact hm'.unclaimed
  · exact hm'.unclaimed

theorem map_keeps {r : Remote} : (map r : Task κ ω Unit).Keeps allowed :=
  claimed_keeps fun _ _ h => restore_leads hooks h fun _ hm =>
    ⟨hm.recorded_of_calling.imp fun _ hs => hs.1, hm.released_of_calling⟩

theorem unmap_keeps {r : Remote} : (unmap r : Task κ ω Unit).Keeps allowed := by
  refine .bind (claimed_keeps fun g m h => ?_) fun _ => .pure
  refine (withdraw_leads hooks h fun m hm => hm.recorded_of_calling.imp fun _ hs => hs.1).imp
    fun _ _ hm => hm.1

theorem freeRemote_keeps {r : Remote} : (freeRemote r : Task κ ω Unit).Keeps allowed := by
  intro g m h
  unfold freeRemote
  rw [leads_bind]
  refine (claim_leads h).mono (fun _ m' hm' => ?_) (fun _ _ hm' => hm') fun _ hm' => hm'
  rw [leads_bind, leads_perform, leads_attempt, leads_bind]
  refine (withdraw_leads hooks hm' fun m hm => hm.recorded_of_calling.imp fun _ hs => hs.1).mono
    (fun _ m' hm' => ?_) (fun e m' hm' => ?_) fun _ hm' => hm'.part .calling
  · refine drive_leads hooks hm'.1 (fun _ hm => hm.part .calling) fun m hm => ?_
    refine Simulator.freeResource_leads (fun _ => ?_) fun res hres => ?_
    · exact hm.handled_refused.unclaimed
    · exact hm.released.journal
  · exact hm'.unclaimed

/-! ## Allocating -/

theorem accept_keeps {d : Device} {shape : Shape} :
    (accept d shape : Task κ ω Unit).Keeps allowed :=
  .bind (Devices.check_keeps hooks) fun _ => .answer

/-- A resource in device memory is held by whoever asked for it. -/
theorem drive_request_local (h : InOrder allowed g m) {d : Ident .device} {shape : Shape}
    {format : Format} {flags : AllocFlags} :
    (Machine.drive (request .onDevice d shape format flags)).Leads m
      (fun id => InOrder allowed (g.keeping id)) (fun _ => InOrder allowed g)
      (Broken allowed g) := by
  refine drive_leads hooks h (fun _ hm => hm) fun m hm => ?_
  exact Simulator.allocate_leads (fun _ => hm.handled_refused) hm.handled_cutOff
    fun _ _ _ => hm.handled_allocate_local rfl

theorem allocateLocal_leads (h : InOrder allowed g m) {d : Device} {shape : Shape}
    {format : Format} {flags : AllocFlags} :
    (allocateLocal d shape format flags : Task κ ω Local).Leads m
      (fun l => InOrder allowed (g.keeping l.id)) (fun _ => InOrder allowed g)
      (Broken allowed g) := by
  unfold allocateLocal
  refine .bind (accept_keeps hooks g m h) fun _ m hm => ?_
  rw [leads_bind, Machine.leads_driveAs]
  refine (drive_request_local hooks hm).imp fun id m hm => ?_
  exact hm.record

/-- The first mapping of a host resource: it is mapped, or it is given up. -/
theorem firstMapping_leads {id : Ident .resource} {layout : Layout} {format : Format}
    (h : InOrder allowed (g.bearing id layout format) m) :
    (firstMapping id).Leads m
      (fun view m' => InOrder allowed (g.bearing id layout format) m' ∧
        ∃ res, m'.platform.driver.resources.get? id = some res ∧ res.mapped = true ∧
          view = ⟨res.pitch, res.moves⟩)
      (fun _ => InOrder allowed g) (Broken allowed g) := by
  unfold firstMapping
  rw [leads_bind, leads_perform, Machine.tryDrive, leads_attempt]
  refine drive_leads hooks h (fun _ hm => hm.part .bearing) fun m hm => ?_
  refine Simulator.mapResource_leads (fun e => ?_) fun res moves notices hres _ _ => ?_
  · dsimp only
    rw [leads_bind, leads_perform, Machine.tryDrive, leads_attempt]
    refine drive_leads hooks hm.handled_refused (fun _ hm => hm.part .bearing) fun m hm => ?_
    refine Simulator.freeResource_leads (fun _ => ?_) fun res hres => ?_
    · exact hm.handled_refused.of_bearing.record
    · exact hm.handled_free_newborn
  · exact ⟨hm.handled_map_newborn hres, _, Assoc.get?_set_self .., rfl, rfl⟩

theorem allocateRemote_keeps {d : Device} {shape : Shape} {format : Format} {flags : AllocFlags} :
    (allocateRemote d shape format flags : Task κ ω Remote).Keeps allowed := by
  intro g m h
  unfold allocateRemote
  refine .bind (accept_keeps hooks g m h) fun _ m hm => ?_
  rw [leads_bind, Machine.leads_driveAs]
  refine drive_leads hooks hm (fun _ hm => hm) fun m hm => ?_
  refine Simulator.allocate_leads (fun _ => hm.handled_refused) hm.handled_cutOff
    fun _ _ hsmall => ?_
  refine .bind (firstMapping_leads hooks (hm.handled_allocate_remote hsmall)) fun view m' hm' => ?_
  obtain ⟨hm', res, hres, hmapped, rfl⟩ := hm'
  exact InOrder.recorded hm'.record hres hmapped

/-! ## Freeing and host access -/

theorem freeLocal_leads {l : Local} (h : InOrder allowed (g.keeping l.id) m) :
    (freeLocal l).Leads m (fun _ => InOrder allowed g)
      (fun _ => InOrder allowed g) (Broken allowed g) := by
  unfold freeLocal
  rw [leads_bind, Machine.leads_driveAs]
  refine drive_leads hooks h (fun _ hm => hm.part .keeping) fun m hm => ?_
  refine Simulator.freeResource_leads (fun _ => hm.handled_refused.of_keeping) fun res hres => ?_
  have hl := hm.locals l.id List.mem_cons_self
  exact (hm.of_keeping.handled_free_device hres (hl.place res hres)
    fun key a _ ha => hl.unowned key a ha).record

omit [Reentry κ ω] hooks in
theorem read_keeps {r : Remote} : (read r : Task κ ω Contents).Keeps allowed :=
  .bind .get fun _ => .bind .answer fun _ => .pure

omit [Reentry κ ω] hooks in
/-- The host may change bytes at any time. -/
theorem changed_inOrder (h : InOrder allowed g m) {id : Ident .resource} {f : Contents → Contents}
    (hf : ∀ c, (f c).size = c.size) : InOrder allowed g (m.onDriver (changed id f)) := by
  unfold changed Machine.onDriver Machine.onPlatform
  dsimp only
  split
  · rename_i res hres
    have hrefilled : Refilled m.platform.driver.resources
        (m.platform.driver.resources.set id { res with bytes := f res.bytes }) :=
      Refilled.set hres (hf res.bytes)
    exact h.refilled h.safe (List.Subset.refl _)
      { h.numbered with resources := h.numbered.resources.reset hres } (Nat.le_refl _) hrefilled
      rfl rfl
  · exact h

omit [Reentry κ ω] hooks in
theorem write_keeps {r : Remote} {offset : Nat} {data : Bytes} :
    (write r offset data : Task κ ω Nat).Keeps allowed := by
  refine .bind .get fun _ => .bind .answer fun _ => .bind (.change fun g m h => ?_) fun _ => .pure
  unfold onDriverOf
  split
  · refine changed_inOrder h fun c => ?_
    unfold Contents.writeAt
    split <;> rfl
  · split
    · exact { h with }
    · exact h

end Memory

end StreamCompute
