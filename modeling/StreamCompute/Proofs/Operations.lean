/-
  StreamCompute.Proofs.Operations

  What an operation of a runtime keeps if its driver calls keep it. Beside its
  calls an operation writes to the journal and takes notes, so for each one it
  is said here, for every property at once, which calls and notes have to keep
  the property.
-/
import Mathlib.Logic.Basic
import StreamCompute.Proofs.Effects

namespace StreamCompute

open Fallible

/-- The entry points of the driver as a whole and of its devices. -/
def Operation.ofDevices : Operation → Bool
  | .start => true
  | .stop => true
  | .countDevices => true
  | .describeDevice => true
  | .openDevice => true
  | .closeDevice => true
  | _ => false

variable {κ ω α β ε : Type}

/-- The act keeps `I` even if it fails; if it is cut off, `K` holds. -/
abbrev Fallible.Stands {σ : Type} (I K : σ → Prop) (act : Fallible ε σ α) : Prop :=
  act.Upholds I (fun _ => I) K

/-- Neither property depends on the journal. -/
structure Unlogged (I K : Machine κ ω → Prop) : Prop where
  journal : ∀ m journal, I m → I { m with journal }
  cut : ∀ m journal, K m → K { m with journal }

variable {I K : Machine κ ω → Prop}

section Journal

variable (hI : Unlogged I K)

include hI

namespace Unlogged

theorem log {e : Event} : (StreamCompute.log e : Fallible ε (Machine κ ω) Unit).Stands I K :=
  .change fun m => hI.journal m _

theorem logAct {e : Event} : (StreamCompute.log e : Act (Machine κ ω) Unit).Upholds I K :=
  .change fun m => hI.journal m _

theorem timed {fields : Fields} {act : Fallible ε (Machine κ ω) α} (hact : act.Stands I K) :
    (Performance.timed fields act).Stands I K :=
  fun m hm => leads_timed.mpr <| (hact m hm).mono (fun _ m' => hI.journal m' _)
    (fun _ m' => hI.journal m' _) fun m' => hI.cut m' _

end Unlogged

end Journal

/-! ## Binding -/

namespace Binding

def isCopied : Binding → Bool
  | copied .. => true
  | _ => false

def isDirect : Binding → Bool
  | direct _ => true
  | _ => false

def isScratch : Binding → Bool
  | scratch .. => true
  | _ => false

end Binding

/-- The entries in the order in which they are bound. -/
def BindingTable.ordered (t : BindingTable) : List (String × Binding) :=
  t.entries.filter (·.2.isCopied) ++
    (t.entries.filter (·.2.isDirect) ++ t.entries.filter (·.2.isScratch))

theorem BindingTable.ordered_perm (t : BindingTable) : t.ordered.Perm t.entries := by
  unfold ordered
  induction t.entries with
  | nil => exact .refl _
  | cons e rest ih =>
    obtain ⟨register, binding⟩ := e
    cases binding with
    | copied r asked => exact ih.cons _
    | direct r => exact List.perm_middle.trans (ih.cons _)
    | scratch shape format =>
      refine List.Perm.trans ?_ (ih.cons _)
      rw [← List.append_assoc, ← List.append_assoc]
      exact List.perm_middle

namespace Binder

/-- A loop that skips entries is a loop over the others. -/
theorem forM_eq_forM_filter {β : Type} {p : β → Bool} {f g : β → Task κ ω Unit}
    (htake : ∀ b, p b = true → f b = g b) (hskip : ∀ b, p b = false → f b = pure ())
    (list : List β) : list.forM f = (list.filter p).forM g := by
  simp only [List.forM_eq_forM]
  induction list with
  | nil => rfl
  | cons b rest ih =>
    cases hp : p b with
    | true => rw [List.filter_cons_of_pos hp, List.forM_cons, List.forM_cons, htake b hp, ih]
    | false =>
      rw [List.filter_cons_of_neg (by simp [hp]), List.forM_cons, hskip b hp, pure_bind, ih]

variable [Reentry κ ω]

/-- Binds one entry, whichever kind it is of. -/
def bindEntry (site : BindSite) (conventions : Bool) (e : String × Binding) : Task κ ω Unit :=
  match e.2 with
  | .copied r asked => bindCopied site e.1 r (asked.getD (.standard conventions e.1))
  | .direct r => bindDirect site e.1 r
  | .scratch shape format => bindScratch site e.1 shape format

theorem apply_eq (site : BindSite) (conventions : Bool) (t : BindingTable) :
    (apply site conventions t : Task κ ω Unit) = t.ordered.forM (bindEntry site conventions) := by
  unfold apply BindingTable.ordered
  simp only [List.forM_eq_forM, List.forM_append]
  refine congrArg₂ (· >>= ·) ?_ (funext fun _ => congrArg₂ (· >>= ·) ?_ (funext fun _ => ?_))
  all_goals
    refine forM_eq_forM_filter ?_ ?_ _ <;> rintro ⟨register, binding⟩ hkind <;> cases binding <;>
      first | rfl | cases hkind

/-- What binding an entry keeps, up to the claim: `J`. If it fails, `B` holds, and if it is cut off,
    `K` holds. -/
structure Binds (site : BindSite) (e : String × Binding) (J : Machine κ ω → Prop)
    (B : Error → Machine κ ω → Prop) (K : Machine κ ω → Prop) : Prop where
  journal : ∀ m journal, J m → J { m with journal }
  arena : ∀ m f, J m → J (m.onArena site.owner f)
  withdraw : ∀ {r}, ((Memory.withdraw r).mapError (.binding e.1)).Upholds J B K
  memory : ∀ {resource}, (Machine.driveAs (.binding e.1)
    (Simulator.getMemory site.context resource)).Upholds J B K
  register : (Machine.driveAs (.binding e.1)
    (Simulator.findRegister site.context site.module e.1)).Upholds J B K
  bind : ∀ {found memory}, (Machine.driveAs (.binding e.1)
    (Simulator.bindMemory site.context found memory)).Upholds J B K
  copyIn : ∀ {r source target}, (copyIn site e.1 r source target).Upholds J B K
  scratch : ∀ {shape format}, e.2 = .scratch shape format → (Machine.driveAs .allocation
    (Memory.request .onDevice site.device shape format (transientFlags e.1))).Upholds J B K
  /-- The resource for a copy has the rows of the remote resource. -/
  transient : ∀ {r asked m}, e.2 = .copied r asked → J m → (Machine.driveAs .allocation
    (Memory.request .onDevice site.device ⟨(m.status r).pitch, r.shape.height⟩ r.format
      (transientFlags e.1))).Leads m (fun _ => J) B K

theorem bindEntry_leads {site : BindSite} {e : String × Binding} {J : Machine κ ω → Prop}
    {B : Error → Machine κ ω → Prop} (hJ : Binds site e J B K) {conventions : Bool}
    {m : Machine κ ω} (hm : e.2.remote? = none → J m)
    (hclaim : ∀ r, e.2.remote? = some r → (Memory.claim r).Leads m (fun _ => J) B K) :
    (bindEntry site conventions e).Leads m (fun _ => J) B K := by
  obtain ⟨register, binding⟩ := e
  have hacquire : ∀ x, (acquire site x).Upholds J B K := fun _ => .change fun m => hJ.arena m _
  have hlog : ∀ e, (log e : Task κ ω Unit).Upholds J B K := fun _ => .change fun m => hJ.journal m _
  have hmemory : ∀ resource, (getMemory site register resource).Upholds J B K := fun _ =>
    .bind hJ.memory fun _ => .bind (hacquire _) fun _ => .pure
  have hregister : ∀ memory, (bindRegister site register memory).Upholds J B K := fun _ =>
    .bind hJ.register fun _ => hJ.bind
  have hclaimed : ∀ r, binding.remote? = some r →
      (claim site register r).Leads m (fun _ => J) B K := by
    intro r hr
    refine .bind (hclaim r hr) fun _ => Fallible.Upholds.bind (hacquire _) (fun _ => ?_)
    refine .bind hJ.withdraw fun had => ?_
    split
    · exact hacquire _
    · exact .pure
  -- Only a copied register allocates a resource whose size depends on the pitch of another.
  cases binding with
  | scratch shape format =>
    have hallocate : (allocate site register shape format).Upholds J B K :=
      .bind (hJ.scratch rfl) fun _ => .bind (hacquire _) fun _ => .pure
    exact Fallible.Upholds.bind hallocate (fun _ => .bind (hmemory _) fun _ =>
      .bind (hregister _) fun _ => hlog _) m (hm rfl)
  | direct r =>
    exact .bind (hclaimed r rfl) fun _ => Fallible.Upholds.bind (hmemory _) fun _ =>
      .bind (hregister _) fun _ => hlog _
  | copied r asked =>
    refine .bind (hclaimed r rfl) fun _ m₁ h₁ => .bind (hmemory _ m₁ h₁) fun source m₂ h₂ => ?_
    have hnote : ∀ e c, (do log e; noteCopy site c).Upholds J B K := fun e c =>
      .bind (hlog e) fun _ => .change fun m => hJ.arena m _
    rw [leads_bind, leads_get]
    refine .bind (.bind (hJ.transient rfl h₂) fun _ m₃ => hJ.arena m₃ _) fun _ =>
      Fallible.Upholds.bind (hmemory _) fun target => .bind (hregister _) fun _ => ?_
    split
    · exact .bind hJ.copyIn fun _ => hnote _ _
    · exact hnote _ _

end Binder

/-- Once a site is open, the entries are bound and the kernel is submitted. Whichever of these
    fails, what was done at the site is undone. -/
theorem Launch.leads_begin [Reentry κ ω] {id : ExecutionId} {image : Image} {q : LaunchRequest}
    {m : Machine κ ω} {P Q : BindSite → Machine κ ω → Prop}
    {F : BindSite → Error → Machine κ ω → Prop} {ok : Execution → Machine κ ω → Prop}
    {err : Error → Machine κ ω → Prop}
    (hopen : (openSite (m.platform.serial, id) image q.device).Leads m P err K)
    (hbind : ∀ site m₁, P site m₁ →
      (q.table.ordered.forM (Binder.bindEntry site m₁.platform.config.conventions)).Leads m₁
        (fun _ => Q site) (fun e m₂ => ∀ journal, F site e { m₂ with journal }) K)
    (hsubmit : ∀ site m₂, Q site m₂ → (submit site q.domain).Leads m₂
      (fun event m₃ => ∀ journal, ok ⟨m.platform.serial, id, site.context, site.module, event,
        site.waiter⟩ { m₃ with journal }) (fun d => F site (.execution d)) K)
    (hundo : ∀ site e m₃, F site e m₃ → (undo site).Leads m₃ (fun _ => err e) K) :
    (begin id image q).Leads m ok err K := by
  unfold begin applyTable
  rw [leads_bind, leads_get]
  refine .bind hopen fun site m₁ h₁ => ?_
  rw [leads_bind, leads_perform, leads_attempt, leads_bind, leads_get, Binder.apply_eq]
  refine (hbind site m₁ h₁).mono (fun _ m₂ h₂ => ?_) (fun e m₂ h₂ => ?_) fun _ h => h
  · rw [leads_bind, leads_perform, leads_attempt]
    refine (hsubmit site m₂ h₂).mono (fun _ _ h₃ => h₃ _) (fun d m₃ h₃ => ?_) fun _ h => h
    rw [leads_bind, leads_perform]
    exact hundo site _ m₃ h₃
  · rw [leads_bind, leads_log, leads_bind, leads_perform]
    exact hundo site e _ (h₂ _)

variable [Reentry κ ω]

/-! ## Devices -/

/-- Neither property depends on what is known of the devices, and calls about them keep both. -/
structure Devices.Aside (I K : Machine κ ω → Prop) : Prop extends Unlogged I K where
  registry : ∀ m registry generation, I m →
    I (m.onPlatform fun p => { p with registry, generation })
  call : ∀ {α : Type} {c : Command α} [c.Requested], c.operation.ofDevices = true →
    (Machine.drive c).Stands I K

namespace Devices

section Lookup

variable (hdevices : devices.Stands I K)

include hdevices

theorem get_stands_of_devices {index : Nat} : (get index).Stands I K := by
  refine .bind hdevices fun found => ?_
  split
  · exact .pure
  · exact .throw fun _ h => h

theorem check_stands_of_devices {d : Device} : (check d).Stands I K := by
  refine .bind hdevices fun found => ?_
  split
  · exact .pure
  · exact .throw fun _ h => h

end Lookup

variable (hI : Aside I K)

include hI

theorem giveUp_stands {opened : List Device} : (giveUp opened).Upholds I K :=
  .bind (.forM fun _ => .bind (.attempt (hI.call rfl)) fun _ => .pure) fun _ =>
    .bind (.attempt (hI.call rfl)) fun _ => .pure

theorem openAll_stands {generation : Nat} (indices : List Nat) (opened : List Device) :
    (openAll generation indices opened).Stands I K := by
  have hopen : ∀ index, (openOne generation index).Stands I K := fun _ =>
    .bind (hI.call rfl) fun _ => .bind (hI.call rfl) fun _ => .pure
  induction indices generalizing opened with
  | nil => exact .pure
  | cons index rest ih =>
    refine .bind (.perform (.attempt (hopen index))) fun answer => ?_
    cases answer with
    | ok device => exact .bind hI.log fun _ => ih _
    | error e => exact .bind (.perform (giveUp_stands hI)) fun _ => .throw fun _ h => h

theorem discover_stands : discover.Stands I K := by
  refine .bind (.change fun m => hI.registry m m.platform.registry _) fun _ => ?_
  refine .bind .get fun _ => .bind (.mapError (hI.call rfl)) fun _ => ?_
  refine .bind (.perform (.attempt (hI.call rfl))) fun answer => ?_
  cases answer with
  | error e => exact .bind (.perform (giveUp_stands hI)) fun _ => .throw fun _ h => h
  | ok count => exact .bind (openAll_stands hI _ _) fun _ => .bind hI.log fun _ => .pure

theorem setRegistry_stands {r : Registry} :
    (modify (setRegistry r) : Task κ ω PUnit).Stands I K :=
  .change fun m => hI.registry m r m.platform.generation

theorem devices_stands : devices.Stands I K := by
  refine .bind .get fun m => ?_
  cases m.platform.registry with
  | ready found => exact .pure
  | failed e => exact .throw fun _ h => h
  | uninitialized =>
    refine .bind (.perform (.attempt (discover_stands hI))) fun answer => ?_
    cases answer with
    | ok found => exact .bind (setRegistry_stands hI) fun _ => .pure
    | error e =>
      exact .bind hI.log fun _ => .bind (setRegistry_stands hI) fun _ => .throw fun _ h => h

theorem count_stands : count.Stands I K :=
  .bind (devices_stands hI) fun _ => .pure

theorem get_stands {index : Nat} : (get index).Stands I K :=
  get_stands_of_devices (devices_stands hI)

theorem check_stands {d : Device} : (check d).Stands I K :=
  check_stands_of_devices (devices_stands hI)

theorem closeEach_stands {found : List Device} : (closeEach found).Upholds I K := by
  induction found with
  | nil => exact .pure
  | cons d rest ih =>
    refine .bind (.attempt (hI.call rfl)) fun answer => ?_
    cases answer with
    | ok => exact ih
    | error e => exact .bind hI.logAct fun _ => .bind ih fun _ => .pure

theorem stopDriver_stands : stopDriver.Upholds I K := by
  refine .bind (.attempt (hI.call rfl)) fun answer => ?_
  cases answer with
  | ok => exact .pure
  | error e => exact .bind hI.logAct fun _ => .pure

theorem shutdown_stands : shutdown.Stands I K := by
  refine .bind .get fun m => .bind (setRegistry_stands hI) fun _ => ?_
  split
  · refine .bind (.perform (closeEach_stands hI)) fun closing => ?_
    refine .bind (.perform (stopDriver_stands hI)) fun stopping => .bind hI.log fun _ => ?_
    split
    · exact .throw fun _ h => h
    · exact .pure
  · exact .pure

end Devices

/-! ## Waiting -/

namespace Completion

variable {op : Operation} {context : Ident .context} {event : Ident .event}

theorem check_stands (hquery : (Machine.drive (Simulator.queryEvent context event)).Stands I K) :
    (check op context event).Stands I K := by
  refine .bind hquery fun status => ?_
  cases status with
  | pending => exact .pure
  | done => exact .pure
  | failed message => exact .throw fun _ h => h

variable (hI : Unlogged I K)

include hI

theorem wait_stands (hquery : (Machine.drive (Simulator.queryEvent context event)).Stands I K)
    {w : Waiter} {limit : Option Nat} : (wait w op context event limit).Stands I K :=
  .bind .get fun _ _ hm =>
    Waiter.wait_leads (fun _ m => hI.journal m _) (check_stands hquery) hm

theorem copy_stands {w : Waiter} {source target : Ident .memory}
    (hcopy : (Machine.drive (Simulator.copyMemory context source target)).Stands I K)
    (hquery : ∀ event, (Machine.drive (Simulator.queryEvent context event)).Stands I K) :
    (copy w context source target).Stands I K :=
  .bind hcopy fun event => .bind (wait_stands hI (hquery event)) fun _ => .pure

end Completion

/-! ## Launching and joining -/

section Calls

variable (hI : Unlogged I K) {context : Ident .context}

include hI

namespace Arena

theorem rollback_stands {owner : ExecutionKey} (hback : ∀ x, (giveBack context x).Stands I K)
    (harena : ∀ m, I m → I (m.onArena owner shrunk)) : (rollback owner context).Upholds I K := by
  refine .bind .get fun m => .forM fun x => .bind (.attempt (hback x)) fun answer => ?_
  cases answer with
  | ok => exact .change harena
  | error e => exact .bind hI.logAct fun _ => .change harena

end Arena

namespace Launch

theorem dropModule_stands {module : Ident .module}
    (hcall : (Machine.drive (Simulator.unloadModule context module)).Stands I K) :
    (dropModule context module).Upholds I K := by
  refine .bind (.attempt hcall) fun answer => ?_
  cases answer with
  | ok => exact .pure
  | error e => exact hI.logAct

theorem dropContext_stands
    (hcall : (Machine.drive (Simulator.destroyContext context)).Stands I K) :
    (dropContext context).Upholds I K := by
  refine .bind (.attempt hcall) fun answer => ?_
  cases answer with
  | ok => exact .pure
  | error e => exact hI.logAct

end Launch

namespace Execution

variable {e : Execution} {first : Option Error}

theorem copyOut_stands {c : CopyRecord} (hcopy : (Completion.copy e.waiter e.context
    c.transientMemory c.remoteMemory).Stands I K) : (copyOut e c).Stands I K :=
  .bind (.mapError hcopy) fun _ => .bind .get fun _ => .bind hI.log fun _ =>
    .bind hI.log fun _ => .pure

theorem remap_stands {register : String} {r : Remote} (hrestore : (Memory.restore r).Stands I K) :
    (remap register r).Stands I K :=
  .bind (.mapError hrestore) fun _ => .bind hI.log fun _ => .pure

variable
  (hquery : (Machine.drive (Simulator.queryEvent e.context e.event)).Stands I K)

include hquery

omit hI in
theorem isComplete_stands (hprogress : ∀ m f, I m → I (e.onProgress f m)) :
    e.isComplete.Stands I K := by
  refine .bind .get fun m => ?_
  split
  · exact .pure
  · refine .bind (.change fun m => hprogress m _) fun _ => ?_
    exact .bind (.mapError (Completion.check_stands hquery)) fun _ =>
      .bind (.change fun m => hprogress m _) fun _ => .pure

theorem await_stands {limit : Option Nat} : (await e limit).Stands I K := by
  intro m hm
  unfold await
  rw [leads_mk, Act.leads_onCutOff, leads_run]
  exact (hI.timed (Completion.wait_stands hI hquery) m hm).mono (fun _ _ h => h) (fun _ _ h => h)
    fun m' => hI.cut m' _

omit hI hquery in
theorem join_stands (h : (joinWithin e none).Stands I K) : e.join.Stands I K := by
  refine .bind h fun summary => ?_
  cases summary with
  | some summary => exact .pure
  | none => exact .throw fun _ h => h

end Execution

end Calls

/-- What taking the execution down does, up to destroying its context, keeps `I`. -/
structure Ends (e : Execution) (I K : Machine κ ω → Prop) : Prop extends Unlogged I K where
  copy : ∀ {source target}, (Completion.copy e.waiter e.context source target).Stands I K
  unload : (Machine.drive (Simulator.unloadModule e.context e.module)).Stands I K
  release : ∀ memory, (Machine.drive (Simulator.releaseMemory e.context memory)).Stands I K
  free : ∀ resource, (Machine.drive (Simulator.freeResource resource)).Stands I K
  restore : ∀ {r}, (Memory.restore r).Stands I K
  unclaimed : ∀ r m, I m → I (Memory.unclaimed r m)
  ended : ∀ m, I m → I (m.closeArena e.key)

/-- What a join of the execution does, up to destroying its context, keeps `I`. -/
structure Joins (e : Execution) (I K : Machine κ ω → Prop) : Prop extends Ends e I K where
  query : (Machine.drive (Simulator.queryEvent e.context e.event)).Stands I K
  progress : ∀ f m, I m → I (e.onProgress f m)

namespace Execution

/-- The first property up to destroying the context, and from then on the second. -/
def Stage.split (I I' : Machine κ ω → Prop) : Stage → Machine κ ω → Prop
  | freeing _ => I'
  | remapping _ => I'
  | closed => I'
  | _ => I

/-! The context of the execution itself may be one that matters: until it is destroyed one
property stands, and from then on another. -/

variable {e : Execution} {m : Machine κ ω} {I' : Machine κ ω → Prop}
  (hI : Ends e I K) (hI' : Ends e I' K)
  (hdestroy : ∀ m, I m → (Machine.drive (Simulator.destroyContext e.context)).Leads m
    (fun _ => I') (fun _ => I') K)

include hI hI' hdestroy

theorem takesDown_split {a : Arena} : TakesDown e a (fun stage _ => stage.split I I') K where
  journal stage _ m journal := by
    cases stage <;> first | exact hI.journal m journal | exact hI'.journal m journal
  cut := hI.cut
  copy _ _ _ _ := copyOut_stands hI.toUnlogged hI.copy
  copied _ _ h := h
  release memory _ _ m h := leads_mapError.mpr (hI.release memory m h)
  released _ _ h := h
  unload _ m h := leads_mapError.mpr (hI.unload m h)
  destroy _ m h := leads_mapError.mpr (hdestroy m h)
  free t _ _ _ m h := leads_mapError.mpr (hI'.free t.2 m h)
  freed _ _ h := h
  remap _ _ _ _ := remap_stands hI'.toUnlogged hI'.restore
  close _ _ h := hI'.ended _ (List.foldlRecOn _ _ h fun _ h r _ => hI'.unclaimed r _ h)

theorem finalize_leads_down {failure : Option Error} (hm : I m) :
    (finalize e failure).Leads m (fun _ => I') (fun _ => I') K :=
  ((takesDown_split hI hI' hdestroy).finalize rfl hm).imp fun _ _ h => h.1

omit hI in
/-- A join either leaves the execution as it was or takes it down. -/
theorem joinWithin_leads_down (hI : Joins e I K) {limit : Option Nat} (hm : I m) :
    (joinWithin e limit).Leads m
      (fun summary m' => match summary with
        | none => I m'
        | some _ => I' m') (fun _ => I') K :=
  leads_joinWithin (fun _ => finalize_leads_down hI.toEnds hI' hdestroy hm)
    (await_stands hI.toUnlogged hI.query m hm)
    (fun _ _ h₁ => finalize_leads_down hI.toEnds hI' hdestroy (hI.progress _ _ h₁))
    (fun _ _ _ h₁ => hI.journal _ _ (hI.progress _ _ h₁))
    fun _ _ _ h₁ => finalize_leads_down hI.toEnds hI' hdestroy (hI.journal _ _ h₁)

omit hI hI' hdestroy in
theorem joinWithin_stands (hI : Joins e I K) {limit : Option Nat}
    (hdestroy : (Machine.drive (Simulator.destroyContext e.context)).Stands I K) :
    (joinWithin e limit).Stands I K := fun _ hm =>
  (joinWithin_leads_down hI.toEnds hdestroy hI hm).imp fun summary _ h => by cases summary <;> exact h

end Execution

/-! ## Resources -/

namespace Memory

variable {r : Remote}

omit [Reentry κ ω] in
theorem read_stands : (read r).Stands I K := by
  refine .bind .get fun m => .bind (fun m' hm' => ?_) fun _ => .pure
  rw [leads_answer]
  split <;> exact hm'

omit [Reentry κ ω] in
theorem claimed_stands {act : Drive κ ω α} (hclaim : (claim r).Stands I K) (hact : act.Stands I K)
    (hunclaimed : ∀ m, I m → I (unclaimed r m)) : (claimed r act).Stands I K := by
  refine .bind hclaim fun _ => .bind (.perform (.attempt hact)) fun answer => ?_
  refine .bind (.change hunclaimed) fun _ => .mapError ?_
  cases answer <;> exact fun _ h => h

theorem withdraw_stands (hcall : (Machine.drive (Simulator.unmapResource r.id)).Stands I K)
    (hlink : ∀ m, I m → I (m.onStatus r fun s => { s with link := none })) :
    (withdraw r).Stands I K := by
  refine .bind .get fun m => ?_
  split
  · exact .bind hcall fun _ => .bind (.change hlink) fun _ => .pure
  · exact .pure

theorem restore_stands (hI : Unlogged I K)
    (hcall : (Machine.drive (Simulator.mapResource r.id)).Stands I K)
    (hlink : ∀ m pitch moves, I m → I (m.onStatus r fun s =>
      { s with pitch, link := some ⟨m.platform.serial, moves⟩ })) : (restore r).Stands I K := by
  refine .bind .get fun m => ?_
  split
  · exact .pure
  · refine .bind hcall fun view => .bind .get fun _ => ?_
    have hset : (do
        let home := (← MonadState.get).platform.serial
        modify (Machine.onStatus r fun s =>
          { s with pitch := view.pitch, link := some ⟨home, view.moves⟩ }) :
        Drive κ ω PUnit).Stands I K := fun m => hlink m view.pitch view.moves
    dsimp only
    split
    · exact .bind hI.log fun _ => hset
    · exact hset

end Memory

end StreamCompute
