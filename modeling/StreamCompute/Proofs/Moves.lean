/-
  StreamCompute.Proofs.Moves

  What an operation of a runtime can do, one move at a time, where no hook
  interferes and apart from looking for devices. A move is a driver call, a
  change of a record, or a change of what is kept beside both. A call asks for
  a resource only if the limits of a device allow its shape, or if it is to
  hold the rows of a remote resource as the record has them.

  A property that no move ends abides: every operation keeps it, however the
  operation ends. Operations that need a device look for devices first, so
  there the property must also be kept by that.
-/
import StreamCompute.Proofs.Conservation
import StreamCompute.Proofs.Served

namespace StreamCompute

open Fallible

variable {κ ω α β ε : Type}

theorem Operation.ofDevices_allocate (place : Placement) (layout : Layout) :
    (Operation.allocate place layout).ofDevices = false := by
  cases place <;> cases layout <;> rfl

/-- The limits allow the resource that is asked for, or a remote resource has such rows. -/
def Machine.Asks (info : DeviceInfo) (m : Machine κ ω) : Option (Placement × Layout) → Prop
  | none => True
  | some (place, layout) =>
    (∃ shape : Shape, layout = .ofShape shape ∧ shape.refusal? info = none) ∨
      place = .onDevice ∧ ∃ r : Remote, (m.status r).freed = false ∧
        layout = .ofShape ⟨(m.status r).pitch, r.shape.height⟩

/-- One thing that an operation can do. -/
inductive Machine.Moves (info : DeviceInfo) (m : Machine κ ω) : Machine κ ω → Prop
  | call {op : Operation} {verdict : Verdict} {request? : Option (Placement × Layout)}
      {s : Simulator} (hop : op.ofDevices = false) (hasks : m.Asks info request?)
      (hs : m.platform.driver.Served request? s) : Moves info m (m.handled op verdict s)
  /-- A record has another claim or mapping. -/
  | marked {r : Remote} {f : RemoteStatus → RemoteStatus} (hpitch : ∀ s, (f s).pitch = s.pitch)
      (hfreed : ∀ s, (f s).freed = s.freed) : Moves info m (m.onStatus r f)
  /-- A record has a new mapping, with the pitch of the resource. -/
  | mapped {r : Remote} {res : Resource} {link : Option HostLink}
      (hres : m.platform.driver.resources.get? r.id = some res) :
      Moves info m (m.onStatus r fun s => { s with pitch := res.pitch, link })
  | recorded {r : Remote} {res : Resource} {status : RemoteStatus}
      (hres : m.platform.driver.resources.get? r.id = some res) (hplace : res.place = .onHost)
      (hlayout : res.layout = .ofShape r.shape) (hpitch : status.pitch = res.pitch)
      (hfreed : status.freed = false) (hshape : r.shape.refusal? info = none) :
      Moves info m (m.onStatus r fun _ => status)
  | written {id : Ident .resource} {f : Contents → Contents} :
      Moves info m (m.onDriver (Memory.changed id f))
  /-- An unfinished execution has acquired something or given something back. -/
  | arena {key : ExecutionKey} {a a' : Arena} (ha : m.arenas.get? key = some a) :
      Moves info m { m with arenas := m.arenas.set key a' }
  | ended {key : ExecutionKey} : Moves info m (m.closeArena key)
  | beside {nextExecution : Nat} {parked : Assoc Nat (Platform κ)}
      {progress : Assoc ExecutionKey Progress} {journal : List Event} :
      Moves info m { m with
        platform := { m.platform with nextExecution }, parked, progress, journal }

/-- The property says that no hook waits, and no move ends it. -/
structure Abides (info : DeviceInfo) (I : Machine κ ω → Prop) : Prop where
  hooks : ∀ m, I m → m.platform.hooks = []
  moves : ∀ m m', m.Moves info m' → I m → I m'

namespace Machine.Moves

variable {info : DeviceInfo} {m m' : Machine κ ω} {r : Remote}

theorem journal {journal : List Event} : m.Moves info { m with journal } :=
  .beside

theorem onArena {key : ExecutionKey} {f : Arena → Arena} : m.Moves info (m.onArena key f) := by
  unfold Machine.onArena
  split
  · rename_i ha
    exact .arena ha
  · exact .beside

theorem onDriverOf {serial : Nat} {id : Ident .resource} {f : Contents → Contents} :
    m.Moves info (Memory.onDriverOf serial (Memory.changed id f) m) := by
  unfold Memory.onDriverOf
  split
  · exact .written
  · split
    · exact .beside
    · exact .beside

theorem hooks (h : m.Moves info m') : m'.platform.hooks = m.platform.hooks := by
  cases h <;> rfl

theorem unfreed (h : m.Moves info m') (hr : (m.status r).freed = false) :
    (m'.status r).freed = false := by
  cases h with
  | call => exact hr
  | written => exact hr
  | arena => exact hr
  | ended => exact hr
  | beside => exact hr
  | marked _ hfreed =>
    rw [status_onStatus]
    split
    · exact (hfreed _).trans hr
    · exact hr
  | mapped =>
    rw [status_onStatus]
    split
    · exact hr
    · exact hr
  | recorded _ _ _ _ hfreed =>
    rw [status_onStatus]
    split
    · exact hfreed
    · exact hr

end Machine.Moves

section Pass

variable [Reentry κ ω] {info : DeviceInfo} {I : Machine κ ω → Prop} (hI : Abides info I)

include hI

namespace Abides

omit [Reentry κ ω] in
/-- It abides also together with the fact that remote resources are not freed. -/
theorem unfreed {p : Remote → Prop} :
    Abides info fun m => I m ∧ ∀ r, p r → (m.status r).freed = false where
  hooks m h := hI.hooks m h.1
  moves m m' hmoves h := ⟨hI.moves m m' hmoves h.1, fun r hr => hmoves.unfreed (h.2 r hr)⟩

omit [Reentry κ ω] in
theorem change {f : Machine κ ω → Machine κ ω} (hf : ∀ m : Machine κ ω, m.Moves info (f m)) :
    (modify f : Fallible ε (Machine κ ω) PUnit).Stands I I :=
  .change fun m h => hI.moves m _ (hf m) h

omit [Reentry κ ω] in
theorem unlogged : Unlogged I I where
  journal m _ := hI.moves m _ .journal
  cut m _ := hI.moves m _ .journal

omit [Reentry κ ω] in
theorem log {e : Event} : (StreamCompute.log e : Fallible ε (Machine κ ω) Unit).Stands I I :=
  hI.unlogged.log

omit [Reentry κ ω] in
theorem unhooked {m : Machine κ ω} (hm : I m) : m.Unhooked fun _ => true := .of_nil (hI.hooks m hm)

variable {c : Command α} [c.Requested] (hop : c.operation.ofDevices = false)

include hop

/-- A call that asks for a resource, if for any, that may be asked for. -/
theorem driveAsking {m : Machine κ ω} (hm : I m) (hasks : m.Asks info c.request.asks?) :
    (Machine.drive c).Leads m (fun _ => I) (fun _ => I) I := by
  rw [Machine.leads_drive (hI.unhooked hm) rfl]
  exact (c.serves hop m.platform.driver).mono (fun _ s hs => hI.moves m _ (.call hop hasks hs) hm)
    (fun _ s hs => hI.moves m _ (.call hop hasks hs) hm)
    fun s hs => hI.moves m _ (.call hop hasks hs) hm

omit hop in
theorem allocate {m : Machine κ ω} (hm : I m) {place : Placement} {device : Ident .device}
    {layout : Layout} {format : Format} {flags : AllocFlags}
    (hasks : m.Asks info (some (place, layout))) :
    (Machine.drive (Simulator.allocate place device layout format flags)).Leads m (fun _ => I)
      (fun _ => I) I :=
  hI.driveAsking (c := Simulator.allocate place device layout format flags)
    (Operation.ofDevices_allocate ..) hm hasks

variable (hasks : c.request.asks? = none)

include hasks

theorem drive : (Machine.drive c).Stands I I :=
  fun _ hm => hI.driveAsking hop hm (hasks ▸ trivial)

theorem driveAs {wrap : DriverError → Error} :
    (Machine.driveAs wrap c).Stands I I :=
  .mapError (hI.drive hop hasks)

theorem tryDrive : (Machine.tryDrive c).Upholds I I :=
  .attempt (hI.drive hop hasks)

omit hop hasks

theorem copy {w : Waiter} {context : Ident .context} {source target : Ident .memory} :
    (Completion.copy w context source target).Stands I I :=
  Completion.copy_stands hI.unlogged (hI.drive rfl rfl) fun _ => hI.drive rfl rfl

theorem withdraw {r : Remote} : (Memory.withdraw r).Stands I I :=
  Memory.withdraw_stands (hI.drive rfl rfl) fun m =>
    hI.moves m _ (.marked (fun _ => rfl) fun _ => rfl)

end Abides

/-! ## Resources and images -/

namespace Memory

variable {r : Remote}

omit [Reentry κ ω] in
theorem unclaimed_abides {m : Machine κ ω} (hm : I m) : I (unclaimed r m) :=
  hI.moves m _ (.marked (fun _ => rfl) fun _ => rfl) hm

omit [Reentry κ ω] in
theorem claim_abides {m : Machine κ ω} (hm : I m) :
    (claim r).Leads m (fun _ m' => I m' ∧ (m'.status r).freed = false) (fun _ => I) I := by
  unfold claim
  rw [leads_bind, leads_get]
  split
  · exact hm
  · rename_i hclaim
    have hfreed : (m.status r).freed = false := by
      cases hf : (m.status r).freed with
      | false => rfl
      | true => simp [Remote.claimRefusal?, hf] at hclaim
    have hmoves : m.Moves info (m.onStatus r fun s => { s with inFlight := true }) :=
      .marked (fun _ => rfl) fun _ => rfl
    exact ⟨hI.moves m _ hmoves hm, hmoves.unfreed hfreed⟩

/-- A resource that was mapped is there, and its pitch is the one that was answered. -/
theorem mapResource_abides {id : Ident .resource} {m : Machine κ ω} (hm : I m) :
    (Machine.drive (Simulator.mapResource id)).Leads m
      (fun view m' => I m' ∧ ∃ res₀ res, m.platform.driver.resources.get? id = some res₀ ∧
        m'.platform.driver.resources.get? id = some res ∧ res₀.SameShape res ∧
        res.pitch = view.pitch) (fun _ => I) I := by
  have hview : (Machine.drive (Simulator.mapResource id)).Leads m
      (fun view m' => ∃ res₀ res, m.platform.driver.resources.get? id = some res₀ ∧
        m'.platform.driver.resources.get? id = some res ∧ res₀.SameShape res ∧
        res.pitch = view.pitch) (fun _ _ => True) fun _ => True := by
    rw [Machine.leads_drive (hI.unhooked hm) rfl]
    exact Simulator.mapResource_leads (fun _ => trivial) fun res _ _ hres _ _ =>
      ⟨res, _, hres, Assoc.get?_set_self .., ⟨rfl, rfl, rfl, rfl⟩, rfl⟩
  exact ((hI.drive rfl rfl m hm).and hview).mono (fun _ _ h => h)
    (fun _ _ h => h.1) fun _ h => h.1

theorem restore_abides : (restore r).Stands I I := by
  refine .bind .get fun m₀ => ?_
  split
  · exact .pure
  · intro m hm
    refine .bind (mapResource_abides hI hm) fun view m₁ h₁ => ?_
    obtain ⟨hm₁, -, res, -, hres, -, hpitch⟩ := h₁
    -- The record takes the pitch that the driver answered, which is the one of the resource.
    have hset : ∀ journal, I ({ m₁ with journal }.onStatus r fun s =>
        { s with pitch := view.pitch, link := some ⟨m₁.platform.serial, view.moves⟩ }) := by
      intro journal
      have hjournal : I { m₁ with journal } := hI.moves m₁ _ .journal hm₁
      rw [← hpitch]
      exact hI.moves _ _ (.mapped hres) hjournal
    rw [leads_bind, leads_get]
    dsimp only
    split
    · exact hset _
    · exact hset m₁.journal

omit [Reentry κ ω] in
theorem claim_stands_of_abides : (claim r).Stands I I := fun _ hm =>
  (claim_abides hI hm).imp fun _ _ h => h.1

theorem map_abides : (map r).Stands I I :=
  claimed_stands (claim_stands_of_abides hI) (restore_abides hI) fun _ => unclaimed_abides hI

theorem unmap_abides : (unmap r).Stands I I :=
  .bind (claimed_stands (claim_stands_of_abides hI) hI.withdraw fun _ => unclaimed_abides hI)
    fun _ => .pure

theorem freeLocal_abides {x : Local} : (freeLocal x).Stands I I :=
  .bind (hI.driveAs rfl rfl) fun _ => hI.log

/-- Freeing a remote resource is a move only up to the record of it. -/
theorem freeRemote_abides (hreleased : ∀ m, I m → I (m.onStatus r RemoteStatus.released)) :
    (freeRemote r).Stands I I := by
  have hfreeing : (do
      let _ ← withdraw r
      Machine.drive (Simulator.freeResource r.id)).Stands I I :=
    .bind hI.withdraw fun _ => hI.drive rfl rfl
  refine .bind (claim_stands_of_abides hI) fun _ => ?_
  refine .bind (.perform (.attempt hfreeing)) fun answer => ?_
  cases answer with
  | ok => exact .bind (.change hreleased) fun _ => hI.log
  | error e => exact .bind (.change fun _ h => unclaimed_abides hI h) fun _ => .throw fun _ h => h

omit [Reentry κ ω] in
theorem write_abides {offset : Nat} {data : Bytes} :
    (write r offset data).Stands I I := by
  refine .bind .get fun m => .bind (fun m' hm' => ?_) fun link => ?_
  · rw [leads_answer]
    split <;> exact hm'
  · exact .bind (hI.change fun _ => .onDriverOf) fun _ => .pure

theorem firstMapping_abides {id : Ident .resource} {m : Machine κ ω} (hm : I m) :
    (firstMapping id).Leads m
      (fun view m' => I m' ∧ ∃ res₀ res, m.platform.driver.resources.get? id = some res₀ ∧
        m'.platform.driver.resources.get? id = some res ∧ res₀.SameShape res ∧
        res.pitch = view.pitch) (fun _ => I) I := by
  unfold firstMapping Machine.tryDrive
  rw [leads_bind, leads_perform, leads_attempt]
  refine (mapResource_abides hI hm).mono (fun _ _ h => h) (fun e m₁ h₁ => ?_) fun _ h => h
  rw [leads_bind, leads_perform, leads_attempt]
  exact (hI.drive rfl rfl m₁ h₁).mono (fun _ _ h => h)
    (fun _ m₂ h₂ => hI.moves m₂ _ .journal h₂) fun _ h => h

/-! Where a device is needed, it is checked first. -/

section Device

variable {d : Device} (hcheck : (Devices.check d).Stands I I)

include hcheck

omit hI in
theorem accept_abides {shape : Shape} {m : Machine κ ω} (hm : I m) :
    (accept d shape).Leads m (fun _ m' => I m' ∧ shape.refusal? d.info = none) (fun _ => I) I := by
  unfold accept
  refine .bind (hcheck m hm) fun _ m₁ h₁ => ?_
  rw [leads_answer]
  unfold Shape.validate
  cases hshape : shape.refusal? d.info with
  | some detail => exact h₁
  | none => exact ⟨h₁, rfl⟩

variable (hinfo : d.info = info) {shape : Shape} {format : Format} {flags : AllocFlags}

include hinfo

theorem allocateLocal_abides :
    (allocateLocal d shape format flags).Stands I I := by
  intro m hm
  unfold allocateLocal Machine.driveAs
  refine .bind (accept_abides hcheck hm) fun _ m₁ h₁ => ?_
  rw [leads_bind, leads_mapError]
  refine (hI.allocate h₁.1
    (Or.inl ⟨shape, rfl, hinfo ▸ h₁.2⟩)).imp fun _ m₂ h₂ => ?_
  exact hI.moves m₂ _ .journal h₂

theorem allocateRemote_abides :
    (allocateRemote d shape format flags).Stands I I := by
  intro m hm
  unfold allocateRemote Machine.driveAs request
  refine .bind (accept_abides hcheck hm) fun _ m₁ h₁ => ?_
  obtain ⟨hm₁, hshape⟩ := h₁
  rw [leads_bind, leads_mapError]
  -- The new resource has the layout that was asked for.
  have hnew : (Machine.drive (Simulator.allocate .onHost d.id (.ofShape shape) format flags)).Leads
      m₁ (fun id m' => ∃ res, m'.platform.driver.resources.get? id = some res ∧
        res.place = .onHost ∧ res.layout = .ofShape shape) (fun _ _ => True) fun _ => True := by
    rw [Machine.leads_drive (hI.unhooked hm₁) rfl]
    exact Simulator.allocate_leads (fun _ => trivial) trivial fun _ _ _ =>
      ⟨_, Assoc.get?_set_self .., rfl, rfl⟩
  have hkept : (Machine.drive (Simulator.allocate .onHost d.id (.ofShape shape) format flags)).Leads
      m₁ (fun _ => I) (fun _ => I) I :=
    hI.allocate hm₁
      (Or.inl ⟨shape, rfl, hinfo ▸ hshape⟩)
  refine (hkept.and hnew).mono (fun id m₂ h₂ => ?_) (fun _ _ h => h.1) fun _ h => h.1
  obtain ⟨hm₂, res, hres, hplace, hlayout⟩ := h₂
  refine .bind (firstMapping_abides hI hm₂) fun view m₃ h₃ => ?_
  obtain ⟨hm₃, res₀, res₁, hres₀, hres₁, hsame, hpitch⟩ := h₃
  have heq : res₀ = res := Option.some.inj (hres₀.symm.trans hres)
  subst heq
  exact hI.moves _ _ (.recorded hres₁ (hsame.place.trans hplace) (hsame.layout.trans hlayout)
    hpitch.symm rfl (hinfo ▸ hshape)) (hI.moves m₃ _ .journal hm₃)

end Device

end Memory

namespace Images

theorem compileFor_abides {d : Device} {source : String}
    (hcheck : (Devices.check d).Stands I I) :
    (compileFor d source).Stands I I :=
  .bind hcheck fun _ => .bind (hI.driveAs rfl rfl) fun _ =>
    .bind hI.log fun _ => .pure

theorem free_abides {image : Image} : (free image).Stands I I :=
  .bind (hI.driveAs rfl rfl) fun _ => hI.log

end Images

end Pass

end StreamCompute
