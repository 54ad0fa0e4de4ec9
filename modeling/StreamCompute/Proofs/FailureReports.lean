/-
  StreamCompute.Proofs.FailureReports

  Every operation of a runtime reports the first failure among its calls, from
  any machine whose hooks keep aloof. Each operation is followed call by call:
  up to the first failure nothing has failed, and from there on only cleanups
  are made, which keep that failure the first.

  A launch has no other way to fail halfway: its checks come before its first
  call, and they make sure that every claim which the table asks for is granted.
-/
import StreamCompute.Proofs.Failures
import StreamCompute.Proofs.LaunchOutcome

namespace StreamCompute

open Fallible

variable {κ ω α : Type} [Reentry κ ω] [Setoid ω] {base m : Machine κ ω} {spare : List Remote}
  {first : Option DriverError} {d : DriverError} {err : Error} {K : Machine κ ω → Prop}

/-! ## Errors of the runtime's own -/

theorem Excused.misuse (h : Tracked base [] none m) (herr : err.operation? = none) :
    Excused base err m :=
  ⟨h, .inl fun _ => herr ▸ nofun⟩

/-- A refused shape names no entry point of the driver. -/
theorem Error.operation?_invalidShape {detail : String} (op : Operation) :
    (Error.invalidShape detail).operation? ≠ some op.name := by
  have hname : (Error.invalidShape detail).operation? = some "validate_shape" := rfl
  rw [hname]
  cases op <;> decide

theorem Excused.invalidShape (h : Tracked base [] none m) {detail : String} :
    Excused base (.invalidShape detail) m :=
  ⟨h, .inl Error.operation?_invalidShape⟩

theorem Remote.operation?_of_claimRefusal? {r : Remote} {s : RemoteStatus}
    (h : r.claimRefusal? s = some err) : err.operation? = none := by
  unfold claimRefusal? at h
  split at h
  · cases h
    rfl
  · split at h
    · cases h
      rfl
    · cases h

/-- A refused table names no entry point of the driver. -/
theorem BindingTable.operation?_of_refusal? {info : DeviceInfo} {status : Remote → RemoteStatus}
    {entries : List (String × Binding)} {seen : List Remote}
    (h : refusal? info status entries seen = some err) (op : Operation) :
    err.operation? ≠ some op.name := by
  induction entries generalizing seen with
  | nil => cases h
  | cons e rest ih =>
    obtain ⟨register, binding⟩ := e
    unfold refusal? at h
    split at h
    · rename_i hscratch
      cases h
      cases binding with
      | direct r => cases hscratch
      | copied r asked => cases hscratch
      | scratch shape format =>
        obtain ⟨detail, -, rfl⟩ := Option.map_eq_some_iff.mp hscratch
        exact Error.operation?_invalidShape op
    · split at h
      · exact ih h
      · split at h
        · cases h
          exact Option.some_ne_none _ ∘ Eq.symm
        · split at h
          · cases h
            exact Option.some_ne_none _ ∘ Eq.symm
          · exact ih h

/-! ## Cleaning up -/

/-- An error that is answered after a cleanup. -/
theorem Act.Tidies.leads_throw {act : Act (Machine κ ω) Unit} (h : act.Tidies base K)
    (hm : Tracked base [] (some d) m) (hcause : err.cause? = some d)
    {ok : α → Machine κ ω → Prop} :
    (do Fallible.perform act; throw err).Leads m ok (Blamed base none)
      K :=
  Fallible.leads_bind.mpr <| leads_perform.mpr <|
    (h d m hm).imp fun _ _ hm => ⟨d, hcause, hm⟩

/-- A driver call whose failure is logged at most. -/
theorem Machine.tryDrive_logs_tidies {c : Command Unit} (hc : c.Plain)
    {e : DriverError → Event} :
    (do
      match ← tryDrive c with
      | .ok () => pure ()
      | .error f => log (e f)).Tidies base K := fun d =>
  .bind (tryDrive_tidies hc d) fun answer => match answer with
    | .ok () => .pure
    | .error _ => fun _ h => h.aside .record

/-! ## Devices -/

namespace Devices

theorem giveUp_tidies {opened : List Device} : (giveUp opened).Tidies base K := fun d =>
  .bind (.forM fun _ => .bind (Machine.tryDrive_tidies (Command.plain rfl rfl) d)
    fun _ => .pure) fun _ =>
    .bind (Machine.tryDrive_tidies (Command.plain rfl rfl) d) fun _ => .pure

theorem openOne_reports {generation index : Nat} :
    (openOne generation index).Reports base [] none K :=
  .bind (Machine.drive_reports (Command.plain rfl rfl)) fun _ =>
    .bind (Machine.drive_reports (Command.plain rfl rfl)) fun _ => .pure

theorem openAll_blames {generation : Nat} (indices : List Nat) (opened : List Device) :
    (openAll generation indices opened).Blames base [] none K := by
  induction indices generalizing opened with
  | nil => exact .pure
  | cons index rest ih =>
    exact .handle openOne_reports (fun _ => .bind Tracked.log fun _ => ih _)
      fun _ _ hm => giveUp_tidies.leads_throw hm rfl

theorem discover_blames : discover.Blames base [] none K := by
  refine .bind (.change fun m h => h.onPlatform rfl fun _ _ hfailed => hfailed) fun _ => ?_
  refine .bind .get fun _ => ?_
  refine .bind (Machine.driveAs_blames (fun _ => rfl) (Command.plain rfl rfl)) fun _ => ?_
  exact .handle (Machine.drive_reports (Command.plain rfl rfl))
    (fun _ => .bind (openAll_blames _ _) fun _ => .bind Tracked.log fun _ => .pure)
    fun _ _ hm => giveUp_tidies.leads_throw hm rfl

/-- The devices; a failure of an earlier discovery is repeated. -/
theorem devices_honest : devices.Honest base K := by
  intro m h
  unfold devices
  rw [leads_bind, leads_get]
  split
  · exact h
  · rename_i e hfailed
    exact .inr ⟨h, .inr (h.registry rfl e hfailed)⟩
  · refine Fallible.Upholds.handle discover_blames (fun found => ?_) (fun e m hm => ?_) m h
    · exact .bind (.change fun m h => h.onPlatform rfl fun _ _ hfailed => nomatch hfailed)
        fun _ => .pure
    · obtain ⟨d, hcause, hm⟩ := hm
      exact .inl ⟨d, hcause, (hm.aside .record).onPlatform rfl nofun⟩

theorem count_honest : count.Honest base K :=
  .bind devices_honest fun _ => .pure

theorem get_honest {index : Nat} : (get index).Honest base K := by
  refine .bind devices_honest fun found => ?_
  split
  · exact .pure
  · exact .throw fun _ h => .inr (.misuse h rfl)

theorem check_honest {device : Device} : (check device).Honest base K := by
  refine .bind devices_honest fun found => ?_
  split
  · exact .pure
  · exact .throw fun _ h => .inr (.misuse h rfl)

/-- The answer is the first failure, if there was none before. -/
theorem closeEach_tracks (found : List Device) (h : Tracked base [] first m) :
    (closeEach found).Leads m (fun o => Tracked base [] (first.or o)) K := by
  induction found generalizing first m with
  | nil =>
    rw [← Option.or_none (o := first)] at h
    exact h
  | cons device rest ih =>
    unfold closeEach Machine.tryDrive
    rw [Act.leads_bind, leads_attempt]
    refine (Machine.drive_reports (Command.plain rfl rfl) m h).mono (fun _ m₁ h₁ => ih h₁)
      (fun e m₁ h₁ => ?_) fun _ hm => hm
    rw [Act.leads_bind, Act.leads_log]
    refine .bind (ih (h₁.aside .record)) fun o m₂ h₂ => ?_
    rw [Option.or_assoc, Option.some_or] at h₂
    exact h₂

theorem stopDriver_tracks (h : Tracked base [] first m) :
    stopDriver.Leads m (fun o => Tracked base [] (first.or o)) K := by
  unfold stopDriver Machine.tryDrive
  rw [Act.leads_bind, leads_attempt]
  refine (Machine.drive_reports (Command.plain rfl rfl) m h).mono (fun _ m₁ h₁ => ?_)
    (fun e m₁ h₁ => h₁.aside .record) fun _ hm => hm
  rw [← Option.or_none (o := first)] at h₁
  exact h₁

theorem shutdown_blames : shutdown.Blames base [] none K := by
  intro m h
  unfold shutdown
  rw [leads_bind, leads_get, leads_bind, leads_modify]
  have h₁ : Tracked base [] none (setRegistry .uninitialized m) := h.onPlatform rfl nofun
  split
  · refine .perform_bind (closeEach_tracks _ h₁) fun closing m₂ h₂ => ?_
    refine .perform_bind (stopDriver_tracks h₂) fun stopping m₃ h₃ => ?_
    rw [leads_bind, leads_log]
    rw [Option.none_or] at h₃
    split
    · rename_i e he
      exact ⟨e, rfl, he ▸ h₃.aside .record⟩
    · rename_i he
      exact he ▸ h₃.aside .record
  · exact h₁

end Devices

/-! ## Images -/

namespace Images

theorem compileFor_honest {device : Device} {source : String} :
    (compileFor device source).Honest base K :=
  .bind Devices.check_honest fun _ =>
    .bind (Machine.driveAs_blames (fun _ => rfl) (Command.plain rfl rfl)).honest fun _ =>
      .bind Tracked.log fun _ => .pure

theorem compile_honest {source : String} : (compile source).Honest base K :=
  .bind Devices.get_honest fun _ => compileFor_honest

theorem free_blames {image : Image} : (free image).Blames base [] none K :=
  .bind (Machine.driveAs_blames (fun _ => rfl) (Command.plain rfl rfl)) fun _ => Tracked.log

end Images

/-! ## Resources -/

/-- A change of the record of a resource that is not among those to be claimed. -/
theorem Tracked.onStatus (h : Tracked base spare first m) {r : Remote} (hr : r ∉ spare)
    {f : RemoteStatus → RemoteStatus} : Tracked base spare first (m.onStatus r f) where
  hooks := h.hooks
  aloof := h.aloof
  parked := h.parked
  host := h.host
  registry := h.registry
  claimable r' hr' := by
    have hne : r ≠ r' := fun heq => hr (heq ▸ hr')
    rw [Machine.status_onStatus, if_neg hne]
    exact h.claimable r' hr'
  trace := h.trace

namespace Memory

variable {r : Remote}

theorem claim_honest : (claim r).Honest base K := by
  intro m h
  unfold claim
  rw [leads_bind, leads_get]
  split
  · rename_i e he
    exact .inr (.misuse h (Remote.operation?_of_claimRefusal? he))
  · exact h.onStatus List.not_mem_nil

omit [Reentry κ ω] [Setoid ω] in
/-- Giving a claim back, ending a mapping and making one let a resource be claimed. -/
theorem aside_unclaimed :
    Machine.Aside (unclaimed r : Machine κ ω → Machine κ ω) :=
  .onStatus (f := fun s => { s with inFlight := false }) fun s hs => by
    simp [Remote.claimRefusal?, (Remote.claimable_of_refusal?_eq_none hs).1]

omit [Reentry κ ω] [Setoid ω] in
theorem aside_link {f : RemoteStatus → Option HostLink} {pitch : RemoteStatus → Nat} :
    Machine.Aside (Machine.onStatus r fun s => { s with link := f s, pitch := pitch s } :
      Machine κ ω → Machine κ ω) :=
  .onStatus fun _ hs => hs

theorem withdraw_reports : (withdraw r).Reports base spare first K := by
  refine .bind .get fun m => ?_
  split
  · exact .bind (Machine.drive_reports (Command.plain rfl rfl)) fun _ =>
      .bind (Tracked.change aside_link) fun _ => .pure
  · exact .pure

theorem restore_reports : (restore r).Reports base spare first K := by
  refine .bind .get fun m => ?_
  split
  · exact .pure
  · refine .bind (Machine.drive_reports (Command.plain rfl rfl)) fun view => ?_
    refine .bind .get fun m' => ?_
    dsimp only
    split
    · exact .bind Tracked.log fun _ => .bind .get fun _ => Tracked.change aside_link
    · exact .bind .get fun _ => Tracked.change aside_link

theorem claimed_honest {act : Drive κ ω α} (hact : act.Reports base [] none K) :
    (claimed r act).Honest base K := by
  refine .bind claim_honest fun _ => .handle hact (fun a => ?_) fun e m hm => ?_
  · exact .bind (Tracked.change aside_unclaimed) fun _ m h => h
  · exact .inl ⟨e, rfl, hm.aside aside_unclaimed⟩

theorem map_honest : (map r).Honest base K :=
  claimed_honest restore_reports

theorem unmap_honest : (unmap r).Honest base K :=
  .bind (claimed_honest withdraw_reports) fun _ => .pure

theorem accept_honest {device : Device} {shape : Shape} :
    (accept device shape).Honest base K := by
  refine .bind Devices.check_honest fun _ m h => ?_
  unfold Shape.validate
  split
  · exact .inr (.invalidShape h)
  · exact h

theorem request_blames {place : Placement} {device : Ident .device} {shape : Shape}
    {format : Format} {flags : AllocFlags} :
    (Machine.driveAs .allocation (request place device shape format flags)).Blames base spare none
      (Tracked base [] none) :=
  Machine.allocate_reports.blames fun _ => rfl

variable {device : Device} {shape : Shape} {format : Format} {flags : AllocFlags}

theorem allocateLocal_honest :
    (allocateLocal device shape format flags).Honest base (Tracked base [] none) :=
  .bind accept_honest fun _ => .bind request_blames.honest fun _ =>
    .bind Tracked.log fun _ => .pure

theorem firstMapping_blames {id : Ident .resource} :
    (firstMapping id).Blames base [] none K := by
  refine .handle (Machine.drive_reports (Command.plain rfl rfl)) (fun _ => .pure)
    fun e m hm => ?_
  refine .perform_bind (Machine.tryDrive_tidies (Command.plain rfl rfl) e m hm)
    fun answer m' hm' => ?_
  cases answer with
  | ok _ => exact ⟨e, rfl, hm'⟩
  | error f => exact ⟨e, rfl, hm'.aside .record⟩

theorem allocateRemote_honest :
    (allocateRemote device shape format flags).Honest base (Tracked base [] none) :=
  .bind accept_honest fun _ => .bind request_blames.honest fun _ =>
    .bind firstMapping_blames.honest fun _ => .bind Tracked.log fun _ => .bind .get fun _ =>
      .bind (.change fun _ h => h.onStatus List.not_mem_nil) fun _ => .pure

theorem freeLocal_blames {l : Local} : (freeLocal l).Blames base [] none K :=
  .bind (Machine.driveAs_blames (fun _ => rfl) (Command.plain rfl rfl)) fun _ => Tracked.log

omit [Setoid ω] in
theorem freeRemote_refused (h : r.claimRefusal? (m.status r) = some err)
    {ok : Unit → Machine κ ω → Prop} {bad : Error → Machine κ ω → Prop} (hbad : bad err m) :
    (freeRemote r).Leads m ok bad K := by
  unfold freeRemote claim
  rw [leads_bind, leads_bind, leads_get, h]
  exact hbad

/-- Freeing a resource that can be claimed. -/
theorem freeRemote_blames (h : Tracked base [r] none m) :
    (freeRemote r).Leads m (fun _ => Tracked base [] none) (Blamed base none) K := by
  have hfreeing : (do
        let _ ← withdraw r
        Machine.drive (Simulator.freeResource r.id)).Reports base [] none K :=
    .bind withdraw_reports fun _ => Machine.drive_reports (Command.plain rfl rfl)
  have hclaimed : Tracked base [] none (m.onStatus r fun s => { s with inFlight := true }) :=
    h.spareless.onStatus List.not_mem_nil
  unfold freeRemote claim
  rw [leads_bind, leads_bind, leads_get,
    h.claimable r List.mem_cons_self, leads_modify]
  refine Fallible.Upholds.handle hfreeing (fun _ => ?_) (fun e m hm => ?_) _ hclaimed
  · exact .bind (.change fun _ h => h.onStatus List.not_mem_nil) fun _ => Tracked.log
  · exact ⟨e, rfl, hm.aside aside_unclaimed⟩

/-- Freeing a resource fails with a failure of the driver, unless it cannot be claimed. -/
theorem freeRemote_honest : (freeRemote r).Honest base K := by
  intro m h
  cases hclaim : r.claimRefusal? (m.status r) with
  | none =>
    have hspare : Tracked base [r] none m :=
      { h with claimable := List.forall_mem_singleton.mpr hclaim }
    exact (freeRemote_blames hspare).mono (fun _ _ hm => hm) (fun _ _ hm => .inl hm)
      fun _ hm => hm
  | some e =>
    exact freeRemote_refused hclaim (.inr (.misuse h (Remote.operation?_of_claimRefusal? hclaim)))

end Memory

/-! ## Binding -/

namespace Binder

variable {site : BindSite}

theorem binds_of_tracked {e : String × Binding} :
    Binds site e (Tracked base spare none) (Blamed base none) (Tracked base [] none) where
  journal _ _ h := h.aside .journal
  arena _ _ h := h.aside .onArena
  withdraw := Memory.withdraw_reports.blames fun _ => rfl
  memory := Machine.driveAs_blames (fun _ => rfl) (Command.plain rfl rfl)
  register := Machine.driveAs_blames (fun _ => rfl) (Command.plain rfl rfl)
  bind := Machine.driveAs_blames (fun _ => rfl) (Command.plain rfl rfl)
  copyIn := Fallible.Blames.timed <| .bind (Completion.copy_reports.blames fun _ => rfl) fun _ =>
    .bind .get fun _ => Tracked.log
  scratch _ := Memory.request_blames
  transient _ := Memory.request_blames _

/-- Binding an entry whose remote resource can be claimed. -/
theorem bindEntry_blames {conventions : Bool} {e : String × Binding}
    (hnodup : (e.2.remote?.toList ++ spare).Nodup)
    (h : Tracked base (e.2.remote?.toList ++ spare) none m) :
    (bindEntry site conventions e).Leads m (fun _ => Tracked base spare none) (Blamed base none)
      (Tracked base [] none) := by
  refine bindEntry_leads binds_of_tracked (fun hnone => ?_) fun r hr => ?_
  · rw [hnone] at h
    exact h
  · rw [hr] at hnodup h
    unfold Memory.claim
    rw [leads_bind, leads_get, h.claimable r List.mem_cons_self]
    have hspare : Tracked base spare none m :=
      { h with claimable := fun r' hr' => h.claimable r' (List.mem_cons_of_mem r hr') }
    exact hspare.onStatus (List.nodup_cons.mp hnodup).1

/-- The loop: what the entries still to be bound need stays to be claimed. -/
theorem forM_bindEntry_blames {conventions : Bool} (entries : List (String × Binding))
    (hnodup : (entries.filterMap (·.2.remote?)).Nodup)
    (h : Tracked base (entries.filterMap (·.2.remote?)) none m) :
    (entries.forM (bindEntry site conventions)).Leads m (fun _ => Tracked base [] none)
      (Blamed base none) (Tracked base [] none) := by
  induction entries generalizing m with
  | nil => exact h
  | cons e rest ih =>
    have hsplit : (e :: rest).filterMap (·.2.remote?) =
        e.2.remote?.toList ++ rest.filterMap (·.2.remote?) := by
      cases he : e.2.remote? <;> simp [he]
    rw [hsplit] at hnodup h
    rw [leads_forM_cons]
    exact (bindEntry_blames hnodup h).imp
      fun _ m₁ h₁ => ih (List.nodup_append.mp hnodup).2.1 h₁

end Binder

namespace Arena

variable {context : Ident .context}

theorem giveBack_reports {x : Acquired} : (giveBack context x).Reports base [] first K := by
  cases x with
  | flight r => exact Tracked.change Memory.aside_unclaimed
  | unmapped register r => exact Memory.restore_reports
  | memory memory => exact Machine.drive_reports (Command.plain rfl rfl)
  | transient register resource => exact Machine.drive_reports (Command.plain rfl rfl)

theorem rollback_tidies {owner : ExecutionKey} : (rollback owner context).Tidies base K := by
  refine fun d => .bind .get fun _ => .forM fun x => ?_
  refine .bind (.attempt giveBack_reports) fun answer => ?_
  cases answer with
  | ok _ => exact .change fun _ h => h.aside .onArena
  | error e =>
    exact .bind (fun _ h => h.aside .record) fun _ => .change fun _ h => h.aside .onArena

end Arena

/-! ## Launching -/

namespace Launch

variable {site : BindSite}

theorem dropModule_tidies {context : Ident .context} {module : Ident .module} :
    (dropModule context module).Tidies base K :=
  Machine.tryDrive_logs_tidies (Command.plain rfl rfl)

theorem dropContext_tidies {context : Ident .context} : (dropContext context).Tidies base K :=
  Machine.tryDrive_logs_tidies (Command.plain rfl rfl)

theorem undo_tidies : (undo site).Tidies base K := fun d =>
  .bind (Arena.rollback_tidies d) fun _ => .bind (dropModule_tidies d) fun _ =>
    .bind (dropContext_tidies d) fun _ => .change fun _ h => h.aside .closeArena

theorem openSite_blames {owner : ExecutionKey} {image : Image} {device : Device} :
    (openSite owner image device).Blames base spare none K := by
  refine .bind .get fun _ => ?_
  refine .bind (Machine.driveAs_blames (fun _ => rfl) (Command.plain rfl rfl)) fun _ => ?_
  refine .bind (Tracked.change .openArena) fun _ => ?_
  refine .handle (Machine.drive_reports (Command.plain rfl rfl)) (fun _ => .pure)
    fun e m hm => ?_
  exact .perform_bind (dropContext_tidies e m hm.spareless)
    fun _ _ hm => ⟨e, rfl, hm.aside .closeArena⟩

/-- Submitting the kernel makes its token. -/
theorem submit_makes (h : Tracked base [] none m) {domain : Domain} :
    (submit site domain).Leads m
      (fun event m' => Tracked base [] none m' ∧ MadeBy .runProgram event m'.history)
      (fun d => Tracked base [] (some d)) K := by
  unfold submit
  rw [leads_bind, leads_get]
  refine .bind (Machine.drive_reports (Command.plain rfl rfl) m h) fun entry m₁ h₁ => ?_
  exact Machine.drive_makes (.inr rfl)
    (fun _ => Simulator.runProgram_leads (fun _ => trivial) rfl) h₁

theorem begin_makes {id : ExecutionId} {image : Image} {q : LaunchRequest}
    (hnodup : (q.table.entries.filterMap (·.2.remote?)).Nodup)
    (h : Tracked base (q.table.entries.filterMap (·.2.remote?)) none m) :
    (begin id image q).Leads m
      (fun e m' => Tracked base [] none m' ∧ MadeBy .runProgram e.event m'.history)
      (Blamed base none) (Tracked base [] none) := by
  have hperm := q.table.ordered_perm.filterMap (·.2.remote?)
  refine leads_begin (F := fun _ => Blamed base none) (Q := fun _ => Tracked base [] none)
    (openSite_blames m h) (fun site m₁ h₁ => ?_) (fun site m₂ h₂ => ?_)
    fun site e m₃ ⟨d, hcause, h₃⟩ => (undo_tidies d m₃ h₃).imp fun _ _ hm => ⟨d, hcause, hm⟩
  · have h₁' : Tracked base (q.table.ordered.filterMap (·.2.remote?)) none m₁ :=
      { h₁ with claimable := fun r hr => h₁.claimable r (hperm.subset hr) }
    exact (Binder.forM_bindEntry_blames _ (hperm.nodup_iff.mpr hnodup) h₁').mono
      (fun _ _ hm => hm) (fun _ _ ⟨d, hcause, hm⟩ _ => ⟨d, hcause, hm.aside .journal⟩) fun _ hm => hm
  · exact (submit_makes h₂).mono (fun _ _ hm _ => ⟨hm.1.aside .journal, hm.2⟩)
      (fun d _ hm => ⟨d, rfl, hm⟩) fun _ hm => hm

/-- A launch that succeeds made the token of its execution. -/
theorem launch_makes {image : Image} {q : LaunchRequest} (h : Tracked base [] none m) :
    (launch image q).Leads m
      (fun e m' => Tracked base [] none m' ∧ MadeBy .runProgram e.event m'.history)
      (fun err m' => Blamed base none err m' ∨ Excused base err m') (Tracked base [] none) := by
  refine leads_launch (Devices.check_honest m h)
    (fun _ _ h₁ he => .inr ⟨h₁, .inl (BindingTable.operation?_of_refusal? he)⟩) fun m₁ h₁ hnone => ?_
  obtain ⟨hclaimable, hnodup⟩ := BindingTable.remotes_of_refusal?_eq_none hnone
  have hnumbering : Tracked base (q.table.entries.filterMap (·.2.remote?)) none m₁.numbering :=
    { h₁ with claimable := fun r hr => (hclaimable r hr).1 }
  exact (begin_makes hnodup hnumbering).mono (fun _ _ hm _ => ⟨{ hm.1 with }, hm.2⟩)
    (fun _ _ ⟨d, hcause, hm⟩ _ => .inl ⟨d, hcause, { hm with }⟩) fun _ hm _ => { hm with }

end Launch

/-! ## Joining -/

/-- The error carried so far, if there is one, is that of the first failure. -/
def Carried (base : Machine κ ω) (m : Machine κ ω) : Option Error → Prop
  | none => Tracked base [] none m
  | some err => Blamed base none err m

theorem Carried.aside {carried : Option Error} (h : Carried base m carried)
    {f : Machine κ ω → Machine κ ω} (hf : Machine.Aside f) : Carried base (f m) carried := by
  cases carried with
  | none => exact Tracked.aside h hf
  | some err =>
    obtain ⟨d, hcause, hm⟩ := h
    exact ⟨d, hcause, hm.aside hf⟩

/-- A step adds its failure to an error that is carried only if there was none. -/
theorem Carried.step {step : Task κ ω α} (hstep : ∀ first, step.Blames base [] first K) :
    Execution.Carries (fun first m => Carried base m first) (fun first m => Carried base m first) K
      step := by
  intro carried m h
  cases carried with
  | none => exact hstep none m h
  | some err =>
    obtain ⟨d, hcause, hm⟩ := h
    exact (hstep (some d) m hm).mono (fun _ _ hm => ⟨d, hcause, hm⟩)
      (fun _ _ ⟨_, _, hm⟩ => ⟨d, hcause, hm⟩) fun _ hm => hm

namespace Execution

variable {e : Execution} {carried : Option Error}

theorem isComplete_blames (h : Tracked base [] none m)
    (hmade : MadeBy .runProgram e.event m.history) :
    e.isComplete.Leads m (fun _ => Tracked base [] none) (Blamed base none)
      K := by
  unfold isComplete
  rw [leads_bind, leads_get]
  split
  · exact h
  · rw [leads_bind, leads_modify, leads_bind, leads_mapError]
    exact (Completion.check_reports (h.aside .onProgress) hmade).mono
      (fun _ _ hm => hm.aside .onProgress) (fun d _ hm => ⟨d, rfl, hm⟩) fun _ hm => hm

theorem copyOut_blames {c : CopyRecord} : (copyOut e c).Blames base [] first K :=
  .bind (Completion.copy_reports.blames fun _ => rfl) fun _ => .bind .get fun _ =>
    .bind Tracked.log fun _ => .bind Tracked.log fun _ => .pure

theorem remap_blames {register : String} {r : Remote} :
    (remap register r).Blames base [] first K :=
  .bind (Memory.restore_reports.blames fun _ => rfl) fun _ => .bind Tracked.log fun _ => .pure

theorem takesDown_carried {a : Arena} :
    TakesDown e a (fun _ carried m => Carried base m carried) fun _ => False := by
  have hdrive : ∀ {α : Type} {wrap : DriverError → Error} {c : Command α} [c.Requested],
      (∀ d, (wrap d).cause? = some d) → c.Plain → Carries (fun carried m => Carried base m carried)
        (fun carried m => Carried base m carried) (fun _ => False) (Machine.driveAs wrap c) :=
    fun hwrap hc => Carried.step fun _ => Machine.driveAs_blames hwrap hc
  exact ⟨fun _ _ _ _ h => h.aside .journal, fun _ _ h => h,
    fun _ _ _ => Carried.step fun _ => copyOut_blames, fun _ _ h => h,
    fun _ _ => hdrive (fun _ => rfl) (Command.plain rfl rfl), fun _ _ h => h,
    hdrive (fun _ => rfl) (Command.plain rfl rfl), hdrive (fun _ => rfl) (Command.plain rfl rfl),
    fun _ _ _ => hdrive (fun _ => rfl) (Command.plain rfl rfl), fun _ _ h => h,
    fun _ _ _ => Carried.step fun _ => remap_blames, fun carried _ h =>
      (List.foldlRecOn (motive := fun m => Carried base m carried) _ _ h
        fun _ h _ _ => h.aside Memory.aside_unclaimed).aside .closeArena⟩

/-- Taking an execution down answers with the error that it started with, or with that of the
    first step that fails. -/
theorem finalize_blames (h : Carried base m carried) :
    (finalize e carried).Leads m (fun _ => Tracked base [] none) (Blamed base none) K :=
  (takesDown_carried.finalize rfl h).mono (fun _ _ h => h.1) (fun _ _ h => h) fun _ h => h.elim

theorem await_reports (h : Tracked base [] none m)
    (hmade : MadeBy .runProgram e.event m.history) {limit : Option Nat} :
    (e.await limit).Leads m
      (fun outcome m' => Tracked base [] none m' ∧
        ∀ polls, outcome = .timedOut polls → limit ≠ none)
      (fun d => Tracked base [] (some d)) K := by
  unfold await
  rw [leads_mk, Act.leads_onCutOff, leads_run, leads_timed]
  exact (Completion.wait_reports h hmade).mono (fun _ _ hm => ⟨{ hm.1 with }, hm.2⟩)
    (fun _ _ hm => { hm with }) fun _ hm => hm

theorem joinWithin_blames (h : Tracked base [] none m)
    (hmade : MadeBy .runProgram e.event m.history) {limit : Option Nat} :
    (e.joinWithin limit).Leads m
      (fun answer m' => Tracked base [] none m' ∧ (answer = none → limit ≠ none))
      (Blamed base none) K := by
  have hnone : ∀ {m}, Tracked base [] none m → Carried base m none := fun h => h
  refine leads_joinWithin (fun _ => (finalize_blames (hnone h)).imp fun _ _ hm => ⟨hm, nofun⟩)
    (await_reports h hmade) (fun polls m₁ h₁ => ?_) (fun polls m₁ _ h₁ => ?_) fun d m₁ _ h₁ => ?_
  · exact (finalize_blames ((hnone h₁.1).aside .onProgress)).imp fun _ _ hm => ⟨hm, nofun⟩
  · exact ⟨(h₁.1.aside .onProgress).aside .record, fun _ => h₁.2 polls rfl⟩
  · have hsome : Carried base m₁ (some (.execution d)) := ⟨d, rfl, h₁⟩
    exact (finalize_blames (hsome.aside .record)).imp fun _ _ hm => ⟨hm, nofun⟩

theorem join_blames (h : Tracked base [] none m)
    (hmade : MadeBy .runProgram e.event m.history) :
    e.join.Leads m (fun _ => Tracked base [] none) (Blamed base none) K := by
  unfold join
  refine .bind (joinWithin_blames h hmade) fun answer m₁ ⟨h₁, hlimit⟩ => ?_
  cases answer with
  | some summary => exact h₁
  | none => exact absurd rfl (hlimit rfl)

end Execution

theorem Launch.run_honest {image : Image} {q : LaunchRequest} :
    (run image q).Honest base (Tracked base [] none) := by
  intro m h
  unfold run
  refine .bind (launch_makes h) fun e m₁ ⟨h₁, hmade⟩ => ?_
  exact (Execution.join_blames h₁ hmade).mono (fun _ _ hm => hm) (fun _ _ hm => .inl hm)
    fun _ hm => hm

end StreamCompute
