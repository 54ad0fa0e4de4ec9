/-
  StreamCompute.Proofs.Abiding

  A property that no move ends is kept by launching and joining, and so by
  everything that a runtime can be asked for, up to looking for devices,
  shutting down and freeing remote resources.

  A launch asks for two kinds of resources. Scratch registers have shapes that
  were checked beforehand; a copied register gets a resource with the rows of
  its remote resource, which is claimed by then and therefore not freed.
-/
import StreamCompute.Proofs.Moves

namespace StreamCompute

open Fallible

variable {κ ω α β ε : Type} [Reentry κ ω] {info : DeviceInfo} {I : Machine κ ω → Prop}
  (hI : Abides info I)

include hI

/-! ## Launching -/

namespace Binder

variable {site : BindSite} {e : String × Binding}

/-- As long as it is claimed, a remote resource is not freed, so that its record has the pitch of
    its rows. A shape of an entry of its own was checked against the limits. -/
theorem binds_of_abides (he : BindingTable.scratchRefusal? info e.1 e.2 = none) :
    Binds site e (fun m => I m ∧ ∀ r, e.2.remote? = some r → (m.status r).freed = false)
      (fun _ => I) I := by
  have hJ := hI.unfreed (p := fun r => e.2.remote? = some r)
  have hdrop : ∀ {α : Type} {p : Machine κ ω → Prop} {act : Task κ ω α},
      act.Stands (fun m => I m ∧ p m) (fun m => I m ∧ p m) →
      act.Upholds (fun m => I m ∧ p m) (fun _ => I) I :=
    fun hact => hact.mono (fun _ _ h => h.1) fun _ h => h.1
  exact {
    journal := fun m _ => hJ.moves m _ .journal
    arena := fun m _ => hJ.moves m _ .onArena
    withdraw := hdrop (.mapError hJ.withdraw)
    memory := hdrop (hJ.driveAs rfl rfl)
    register := hdrop (hJ.driveAs rfl rfl)
    bind := hdrop (hJ.driveAs rfl rfl)
    copyIn := hdrop <| hJ.unlogged.timed <| .bind (.mapError hJ.copy) fun _ => .bind .get fun _ =>
      hJ.log
    scratch := fun {shape format} hscratch => by
      rw [hscratch, BindingTable.scratchRefusal?, Option.map_eq_none_iff] at he
      exact hdrop (.mapError fun m hm => hJ.allocate hm (Or.inl ⟨shape, rfl, he⟩))
    transient := fun {r _ m} hcopied hm => by
      have hfreed : (m.status r).freed = false := hm.2 r (by rw [hcopied]; rfl)
      unfold Machine.driveAs Memory.request
      rw [leads_mapError]
      exact (hJ.allocate hm (Or.inr ⟨rfl, r, hfreed, rfl⟩)).mono (fun _ _ h => h)
        (fun _ _ h => h.1) fun _ h => h.1 }

/-- The table was checked against the limits. -/
theorem bindAll_abides {conventions : Bool} {t : BindingTable}
    (ht : ∀ e ∈ t.entries, BindingTable.scratchRefusal? info e.1 e.2 = none) :
    (t.ordered.forM (bindEntry site conventions)).Stands I I := by
  refine .forM_mem fun e he m hm => (bindEntry_leads
    (binds_of_abides hI (ht e (t.ordered_perm.mem_iff.mp he)))
    (fun hnone => ⟨hm, fun r hr => ?_⟩) fun r hr => ?_).imp fun _ _ h => h.1
  · cases hnone.symm.trans hr
  · refine (Memory.claim_abides hI hm).imp fun _ _ h => ⟨h.1, fun r' hr' => ?_⟩
    cases hr.symm.trans hr'
    exact h.2

end Binder

namespace Arena

variable {context : Ident .context}

theorem giveBack_abides {x : Acquired} : (giveBack context x).Stands I I := by
  cases x with
  | memory memory => exact hI.drive rfl rfl
  | transient register resource => exact hI.drive rfl rfl
  | unmapped register r => exact Memory.restore_abides hI
  | flight r => exact .change fun _ h => Memory.unclaimed_abides hI h

end Arena

namespace Launch

variable {site : BindSite} {context : Ident .context}

theorem dropContext_abides : (dropContext context).Upholds I I :=
  dropContext_stands hI.unlogged (hI.drive rfl rfl)

theorem undo_abides : (undo site).Upholds I I :=
  .bind (Arena.rollback_stands hI.unlogged (fun _ => Arena.giveBack_abides hI)
      fun m => hI.moves m _ .onArena) fun _ =>
    .bind (dropModule_stands hI.unlogged (hI.drive rfl rfl)) fun _ =>
      .bind (dropContext_abides hI) fun _ => .change fun m => hI.moves m _ .ended

section Opening

/-! A launch opens an arena, which is not among the moves. -/

variable (hopened : ∀ m key context, I m → I (m.openArena key context))

include hopened

theorem openSite_abides {owner : ExecutionKey} {image : Image} {device : Device} :
    (openSite owner image device).Stands I I := by
  refine .bind .get fun _ => .bind (hI.driveAs rfl rfl) fun context => ?_
  refine .bind (.change fun m hm => hopened m owner context hm) fun _ => ?_
  refine .bind (.perform (hI.tryDrive rfl rfl)) fun answer => ?_
  cases answer with
  | ok module => exact .pure
  | error e =>
    exact .bind (.perform (dropContext_abides hI)) fun _ =>
      .bind (hI.change fun _ => .ended) fun _ => .throw fun _ h => h

theorem begin_abides {id : ExecutionId} {image : Image} {q : LaunchRequest}
    (ht : ∀ e ∈ q.table.entries, BindingTable.scratchRefusal? info e.1 e.2 = none) :
    (begin id image q).Stands I I := by
  intro m hm
  refine leads_begin (F := fun _ _ => I) (Q := fun _ => I) (openSite_abides hI hopened m hm)
    (fun site m₁ h₁ => ?_)
    (fun site m₂ h₂ => ?_) fun _ _ m₃ h₃ => undo_abides hI m₃ h₃
  · exact (Binder.bindAll_abides hI ht m₁ h₁).mono (fun _ _ h => h)
      (fun _ m₂ h _ => hI.moves m₂ _ .journal h) fun _ h => h
  · have hsubmit : (submit site q.domain).Stands I I :=
      .bind .get fun _ => .bind (hI.drive rfl rfl) fun _ => hI.drive rfl rfl
    exact (hsubmit m₂ h₂).mono (fun _ m₃ h _ => hI.moves m₃ _ .journal h) (fun _ _ h => h)
      fun _ h => h

omit hI hopened [Reentry κ ω] in
/-- What passes the check has no scratch shape beyond the limits. -/
theorem scratchRefusal?_of_refusal? {status : Remote → RemoteStatus}
    {entries : List (String × Binding)} {seen : List Remote}
    (h : BindingTable.refusal? info status entries seen = none) :
    ∀ e ∈ entries, BindingTable.scratchRefusal? info e.1 e.2 = none := by
  induction entries generalizing seen with
  | nil => exact List.forall_mem_nil _
  | cons e rest ih =>
    obtain ⟨register, binding⟩ := e
    unfold BindingTable.refusal? at h
    split at h
    · cases h
    · rename_i hscratch
      refine List.forall_mem_cons.mpr ⟨hscratch, ?_⟩
      split at h
      · exact ih h
      · split at h
        · cases h
        · split at h
          · cases h
          · exact ih h

theorem launch_abides {image : Image} {q : LaunchRequest} (hinfo : q.device.info = info)
    (hcheck : (Devices.check q.device).Stands I I) :
    (launch image q).Stands I I := by
  intro m hm
  refine leads_launch (hcheck m hm) (fun _ _ h₁ _ => h₁) fun m₁ h₁ hrefusal => ?_
  rw [hinfo] at hrefusal
  exact (begin_abides hI hopened (scratchRefusal?_of_refusal? hrefusal) _
    (hI.moves m₁ _ .beside h₁)).mono (fun _ m' h _ => hI.moves m' _ .beside h)
    (fun _ m' h _ => hI.moves m' _ .beside h) fun m' h _ => hI.moves m' _ .beside h

end Opening

end Launch

/-! ## Joining -/

namespace Execution

variable {e : Execution} {first : Option Error}

theorem isComplete_abides : e.isComplete.Stands I I :=
  isComplete_stands (hI.drive rfl rfl) fun m _ => hI.moves m _ .beside

theorem joins_of_abides : Joins e I I where
  toUnlogged := hI.unlogged
  copy := hI.copy
  query := hI.drive rfl rfl
  unload := hI.drive rfl rfl
  release _ := hI.drive rfl rfl
  free _ := hI.drive rfl rfl
  restore := Memory.restore_abides hI
  unclaimed _ _ := Memory.unclaimed_abides hI
  ended m := hI.moves m _ .ended
  progress _ m := hI.moves m _ .beside

theorem finalize_abides {failure : Option Error} : (finalize e failure).Stands I I := fun _ =>
  finalize_leads_down (joins_of_abides hI).toEnds (joins_of_abides hI).toEnds (hI.drive rfl rfl)

theorem joinWithin_abides {limit : Option Nat} : (joinWithin e limit).Stands I I :=
  joinWithin_stands (joins_of_abides hI) (hI.drive rfl rfl)

theorem join_abides : (join e).Stands I I :=
  join_stands (joinWithin_abides hI)

end Execution

/-! ## Errands -/

omit hI [Reentry κ ω] in
def Errand.device? : Errand → Option Device
  | .compileFor d _ => some d
  | .allocateLocal d .. => some d
  | .allocateRemote d .. => some d
  | .launch _ q => some q.device
  | .run _ q => some q.device
  | _ => none

section Errands

variable (hdevices : Devices.devices.Stands I I)

include hdevices

/-- What abides, and is kept where devices are looked for, is kept by every errand. -/
theorem Errand.perform_abides {c : Errand} (hinfo : ∀ d, c.device? = some d → d.info = info)
    (hshutdown : c = .shutdown → Devices.shutdown.Stands I I)
    (hreleased : ∀ r m, I m → I (m.onStatus r RemoteStatus.released))
    (hopened : ∀ m key context, I m → I (m.openArena key context)) :
    c.perform.Stands I I := by
  have hcheck : ∀ d, (Devices.check d).Stands I I := fun _ =>
    Devices.check_stands_of_devices hdevices
  -- Most errands begin by looking for devices, which `hdevices` answers for.
  cases c with
  | countDevices => exact .bind (.bind hdevices fun _ => .pure) fun _ => .pure
  | device index => exact .bind (Devices.get_stands_of_devices hdevices) fun _ => .pure
  | shutdown => exact .bind (hshutdown rfl) fun _ => .pure
  | compile source =>
    exact .bind (.bind (Devices.get_stands_of_devices hdevices) fun d =>
      Images.compileFor_abides hI (hcheck d)) fun _ => .pure
  | compileFor d source => exact .bind (Images.compileFor_abides hI (hcheck d)) fun _ => .pure
  | freeImage i => exact .bind (Images.free_abides hI) fun _ => .pure
  | allocateLocal d shape format flags =>
    exact .bind (Memory.allocateLocal_abides hI (hcheck d) (hinfo d rfl)) fun _ => .pure
  | freeLocal x => exact .bind (Memory.freeLocal_abides hI) fun _ => .pure
  | allocateRemote d shape format flags =>
    exact .bind (Memory.allocateRemote_abides hI (hcheck d) (hinfo d rfl)) fun _ => .pure
  | freeRemote r => exact .bind (Memory.freeRemote_abides hI (hreleased r)) fun _ => .pure
  | map r => exact .bind (Memory.map_abides hI) fun _ => .pure
  | unmap r => exact .bind (Memory.unmap_abides hI) fun _ => .pure
  | read r => exact .bind Memory.read_stands fun _ => .pure
  | write r offset data => exact .bind (Memory.write_abides hI) fun _ => .pure
  | launch i q =>
    exact .bind (Launch.launch_abides hI hopened (hinfo q.device rfl) (hcheck q.device)) fun _ => .pure
  | run i q =>
    exact .bind (.bind (Launch.launch_abides hI hopened (hinfo q.device rfl) (hcheck q.device)) fun _ =>
      Execution.join_abides hI) fun _ => .pure
  | poll e => exact .bind (Execution.isComplete_abides hI) fun _ => .pure
  | join e => exact .bind (Execution.join_abides hI) fun _ => .pure
  | joinWithin e micros =>
    refine .bind (Execution.joinWithin_abides hI) fun summary => ?_
    cases summary with
    | some summary => exact .pure
    | none => exact .pure

end Errands

end StreamCompute
