/-
  StreamCompute.Proofs.DeskWalk

  Calls at a desk that do not touch the places of executions. They look
  objects up, let a runtime do something, register and forget handles of other
  kinds, and write to the log. A property that none of this concerns is kept
  by all of these calls, a shutdown among them.
-/
import StreamCompute.Proofs.FailureReports
import StreamCompute.Proofs.Standing
import StreamCompute.Scenario.DeskSession

namespace StreamCompute

open Fallible

variable {κ ρ α ε : Type}

namespace Desk

/-- Desks are equivalent if they differ at most in what their client keeps. -/
instance : Setoid (Desk ρ) where
  r d d' := { d with client := () : Desk Unit } = { d' with client := () }
  iseqv := ⟨fun _ => rfl, Eq.symm, Eq.trans⟩

theorem tables_of_equiv {d d' : Desk ρ} (h : d ≈ d') :
    d.slots = d'.slots ∧ d.remotes = d'.remotes := by
  obtain ⟨-, hremotes, -, hslots, -⟩ := mk.inj h
  exact ⟨hslots, hremotes⟩

/-- The desk differs from before in tables other than that of executions. -/
structure Aside (d d' : Desk ρ) : Prop where
  slots : d'.slots = d.slots
  handles : d.nextHandle ≤ d'.nextHandle
  serials : d'.nextSerial = d.nextSerial
  installed : ∀ t, d'.installed = some t → d.installed = some t

theorem Aside.same {d d' : Desk ρ} (hslots : d'.slots = d.slots)
    (hnext : d'.nextHandle = d.nextHandle) (hserial : d'.nextSerial = d.nextSerial)
    (hinstalled : d'.installed = d.installed) : d.Aside d' :=
  ⟨hslots, Nat.le_of_eq hnext.symm, hserial, fun _ h => hinstalled ▸ h⟩

/-- An operation of a runtime keeps every property that stands. -/
def Stable [Reentry κ (Desk ρ)] (act : Fallible ε (Machine κ (Desk ρ)) α) : Prop :=
  ∀ {foreign : Ident .context → Prop} {I K : Machine κ (Desk ρ) → Prop}
    {J : Ident .context → Ident .event → Machine κ (Desk ρ) → Prop},
    Withstands foreign I K J → act.Stands I K

/-- A property that does not depend on what platforms do, nor on tables of the desk other than that
    of executions. -/
structure Unconcerned [Reentry κ (Desk ρ)] (I : Machine κ (Desk ρ) → Prop) : Prop where
  journal : ∀ {m journal}, I m → I { m with journal }
  tables : ∀ {m} {f : Desk ρ → Desk ρ}, m.host.Aside (f m.host) → I m → I (onDesk f m)
  written : ∀ {m serial r f}, I m → I (Memory.onDriverOf serial (Memory.changed r f) m)
  platform : ∀ {α ε : Type} {serial} {act : Fallible ε (Machine κ (Desk ρ)) α}, Stable act →
    (Machine.withPlatform serial act.attempt).Upholds I I

/-! ## Looking things up -/

/-- The name of a call at the desk is none of the driver's. -/
def Own (call : String) : Prop :=
  ∀ op : Operation, op.name ≠ call

/-- What `E` says of an error, wherever the desk itself refuses the call. -/
def Refuses (call : String) (I : Machine κ (Desk ρ) → Prop)
    (E : DeskError → Machine κ (Desk ρ) → Prop) : Prop :=
  ∀ cause, (∀ e, cause = .runtime e → e.operation? = none) → ∀ m, I m → E ⟨call, cause⟩ m

theorem Refuses.same {call : String} {I : Machine κ (Desk ρ) → Prop} : Refuses call I fun _ => I :=
  fun _ _ _ h => h

theorem desk_keeps {I K : Machine κ (Desk ρ) → Prop} : desk.Stands I K :=
  .bind .get fun _ => .pure

theorem answer_keeps {I K : Machine κ (Desk ρ) → Prop} {r : Except ε α} :
    (answer r).Stands I K := by
  intro m hm
  rw [leads_answer]
  split <;> exact hm

section Lookups

variable {I K : Machine κ (Desk ρ) → Prop} {E : DeskError → Machine κ (Desk ρ) → Prop}
  {call : String} {handle : Nat} (hE : Refuses call I E)

include hE

theorem refuse_keeps {cause : DeskCause} (h : ∀ e, cause = .runtime e → e.operation? = none) :
    (refuse call cause : DeskTask κ ρ α).Upholds I E K :=
  .throw (hE cause h)

theorem platform_keeps : (platform call : DeskTask κ ρ Nat).Upholds I E K := by
  refine .bind (.bind .get fun _ => .pure) fun d => ?_
  split
  · exact .pure
  · exact refuse_keeps hE nofun

theorem format_keeps {code : Nat} : (format call code : DeskTask κ ρ Format).Upholds I E K := by
  unfold format
  split
  · exact .pure
  · exact refuse_keeps hE nofun

theorem remote_keeps : (remote call handle : DeskTask κ ρ Remote).Upholds I E K := by
  refine .bind (.bind .get fun _ => .pure) fun d => ?_
  split
  · exact .pure
  · exact refuse_keeps hE nofun

theorem bindNext_keeps {t : BindingTable} {register : String} {binding : Binding} :
    (bindNext call t register binding).Upholds I E K := by
  intro m hm
  unfold bindNext BindingTable.bind
  split
  · refine hE _ ?_ m hm
    rintro e ⟨⟩
    rfl
  · exact hm

/-- Looking up what a request binds changes nothing. -/
theorem bindings_keeps {q : StreamRequest} :
    (bindings call q).Upholds I E K := by
  refine .bind (.foldlM fun t e => ?_) fun t => ?_
  · exact .bind (format_keeps hE) fun _ => bindNext_keeps hE
  · refine .bind (.foldlM fun t e => ?_) fun t => .foldlM fun t e => ?_
    · exact .bind (remote_keeps hE) fun _ => bindNext_keeps hE
    · exact .bind (remote_keeps hE) fun _ => bindNext_keeps hE

end Lookups

theorem remoteRead_keeps {I K : Machine κ (Desk ρ) → Prop} {handle : Nat} :
    (remoteRead handle).Stands I K :=
  .bind (remote_keeps .same) fun _ =>
    .mapError <| .bind .get fun _ => .bind answer_keeps fun _ => .pure

theorem remoteInfo_keeps {I K : Machine κ (Desk ρ) → Prop} {handle : Nat} :
    (remoteInfo handle).Stands I K :=
  .bind (remote_keeps .same) fun _ => .bind .get fun _ => .pure

/-! ## Devices and objects -/

/-- `I` is kept by calls about devices and objects; if one fails, `E` holds of its error. -/
structure Routine [Reentry κ (Desk ρ)] (I : Machine κ (Desk ρ) → Prop)
    (E : DeskError → Machine κ (Desk ρ) → Prop) : Prop where
  journal : ∀ {m journal}, I m → I { m with journal }
  tables : ∀ {m} {f : Desk ρ → Desk ρ}, m.host.Aside (f m.host) → I m → I (onDesk f m)
  refuses : ∀ {call}, Own call → Refuses call I E
  operates : ∀ {serial call α} {task : Task κ (Desk ρ) α}, Own call → Stable task →
    (∀ m, task.Honest m (Tracked m [] none)) → (onRuntime serial call task).Upholds I E I

namespace Routine

variable [Reentry κ (Desk ρ)] {I : Machine κ (Desk ρ) → Prop}
  {E : DeskError → Machine κ (Desk ρ) → Prop} {handle : Nat} (hI : Routine I E)

include hI

/-- A change of tables other than that of executions. -/
theorem table {f : Desk ρ → Desk ρ} (hf : ∀ d : Desk ρ, d.Aside (f d)) :
    (modify (onDesk f) : DeskTask κ ρ PUnit).Upholds I E I :=
  .change fun _ => hI.tables (hf _)

theorem freshHandle : freshHandle.Upholds I E I := by
  intro m hm
  unfold Desk.freshHandle desk
  simp only [leads_bind, leads_get, leads_pure, leads_modify]
  exact hI.tables ⟨rfl, Nat.le_succ _, rfl, fun _ h => h⟩ hm

theorem log {e : Event} : (log e : DeskTask κ ρ Unit).Upholds I E I :=
  .change fun _ => hI.journal

theorem countDevices : countDevices.Upholds I E I := by
  have hcall : Own "get_num_gpus" := fun op => by cases op <;> decide
  refine .bind (platform_keeps (hI.refuses hcall)) fun _ => ?_
  exact hI.operates hcall (fun h => Devices.count_stands h.aside) fun _ => Devices.count_honest

theorem compile {source : String} : (compile source).Upholds I E I := by
  have hcall : Own "compile" := fun op => by cases op <;> decide
  refine .bind (platform_keeps (hI.refuses hcall)) fun _ => ?_
  refine .bind (hI.operates hcall (fun h => Images.compile_stands h) fun _ => Images.compile_honest)
    fun image => .bind hI.freshHandle fun handle => ?_
  exact .bind (hI.table fun _ => .same rfl rfl rfl rfl) fun _ => .bind hI.log fun _ => .pure

theorem freeImage : (freeImage handle : DeskTask κ ρ Unit).Upholds I E I := by
  have hcall : Own "free_image" := fun op => by cases op <;> decide
  refine .bind (platform_keeps (hI.refuses hcall)) fun _ => ?_
  refine .bind (.bind .get fun _ => .pure) fun d => ?_
  split
  · exact refuse_keeps (hI.refuses hcall) nofun
  · refine .bind (.bind .get fun _ => .pure) fun d' => ?_
    split
    · exact refuse_keeps (hI.refuses hcall) nofun
    · refine .bind (hI.table fun _ => .same rfl rfl rfl rfl) fun _ => ?_
      exact hI.operates hcall (fun h => Images.free_stands h) fun _ => Images.free_blames.honest

theorem allocRemote {device width height code flags : Nat} :
    (allocRemote device width height code flags).Upholds I E I := by
  have hcall : Own "alloc_remote" := fun op => by cases op <;> decide
  refine .bind (platform_keeps (hI.refuses hcall)) fun _ => ?_
  refine .bind (hI.operates hcall (fun h => Devices.get_stands h.aside) fun _ =>
    Devices.get_honest) fun _ => ?_
  refine .bind (format_keeps (hI.refuses hcall)) fun f => ?_
  refine .bind (hI.operates hcall (fun h => Memory.allocateRemote_stands h) fun _ =>
    Memory.allocateRemote_honest) fun r => .bind hI.freshHandle fun handle => ?_
  exact .bind (hI.table fun _ => .same rfl rfl rfl rfl) fun _ => .pure

theorem freeRemote : (freeRemote handle).Upholds I E I := by
  have hcall : Own "free_remote" := fun op => by cases op <;> decide
  refine .bind (platform_keeps (hI.refuses hcall)) fun _ => ?_
  refine .bind (remote_keeps (hI.refuses hcall)) fun r => ?_
  exact .bind (hI.operates hcall (fun h => Memory.freeRemote_stands h) fun _ =>
    Memory.freeRemote_honest) fun _ => hI.table fun _ => .same rfl rfl rfl rfl

theorem allocLocal {device width height code flags : Nat} :
    (allocLocal device width height code flags).Upholds I E I := by
  have hcall : Own "alloc_local" := fun op => by cases op <;> decide
  refine .bind (platform_keeps (hI.refuses hcall)) fun _ => ?_
  refine .bind (hI.operates hcall (fun h => Devices.get_stands h.aside) fun _ =>
    Devices.get_honest) fun _ => ?_
  refine .bind (format_keeps (hI.refuses hcall)) fun f => ?_
  refine .bind (hI.operates hcall (fun h => Memory.allocateLocal_stands h) fun _ =>
    Memory.allocateLocal_honest) fun l => .bind hI.freshHandle fun handle => ?_
  exact .bind (hI.table fun _ => .same rfl rfl rfl rfl) fun _ => .pure

theorem freeLocal : (freeLocal handle : DeskTask κ ρ Unit).Upholds I E I := by
  have hcall : Own "free_local" := fun op => by cases op <;> decide
  refine .bind (platform_keeps (hI.refuses hcall)) fun _ => ?_
  refine .bind (.bind .get fun _ => .pure) fun d => ?_
  split
  · exact refuse_keeps (hI.refuses hcall) nofun
  · refine .bind (hI.table fun _ => .same rfl rfl rfl rfl) fun _ => ?_
    exact hI.operates hcall (fun h => Memory.freeLocal_stands h) fun _ =>
      Memory.freeLocal_blames.honest

end Routine

/-! ## Giving everything up -/

section Releasing

variable [Reentry κ (Desk ρ)] {serial : Nat} {first : Option DeskError} {m : Machine κ (Desk ρ)}
  {K : Machine κ (Desk ρ) → Prop}

theorem leads_freeLocals {Q : List Local → Option DeskError → Machine κ (Desk ρ) → Prop}
    {locals : List Local} (hlost : ∀ {m e}, K m → K (Journaled.record e m))
    (hstep : ∀ {l rest first m}, Q (l :: rest) first m →
      (step serial "free_local" (Memory.freeLocal l) first).Leads m (Q rest) K)
    (h : Q locals first m) : (freeLocals serial locals first).Leads m (Q []) K := by
  induction locals generalizing first m with
  | nil => exact h
  | cons l rest ih =>
    unfold freeLocals
    rw [Act.leads_bind, Act.leads_onCutOff]
    refine (hstep h).mono (fun _ _ => ih) fun m' hm' => ?_
    -- What is lost is only logged.
    clear ih h
    induction rest generalizing m' with
    | nil => exact hm'
    | cons l rest ih => exact ih _ (hlost hm')

theorem leads_freeRemotes {Q : List Remote → Option DeskError → Machine κ (Desk ρ) → Prop}
    {remotes : List Remote}
    (hfreed : ∀ {r rest first m}, Q (r :: rest) first m → (m.status r).freed = true →
      Q rest first m)
    (hstep : ∀ {r rest first m}, Q (r :: rest) first m → (m.status r).freed = false →
      (step serial "free_remote" (Memory.freeRemote r) first).Leads m (Q rest) K)
    (h : Q remotes first m) : (freeRemotes serial remotes first).Leads m (Q []) K := by
  induction remotes generalizing first m with
  | nil => exact h
  | cons r rest ih =>
    unfold freeRemotes
    rw [Act.leads_bind, Act.leads_get]
    cases hr : (m.status r).freed with
    | true => exact ih (hfreed h hr)
    | false => exact .bind (hstep h hr) fun _ _ => ih

theorem leads_freeImages {Q : Assoc Nat Image → Option DeskError → Machine κ (Desk ρ) → Prop}
    {images : Assoc Nat Image}
    (hheld : ∀ {entry rest first m}, Q (entry :: rest) first m →
      m.host.held.contains entry.1 = true → Q rest first m)
    (hstep : ∀ {entry rest first m}, Q (entry :: rest) first m →
      (step serial "free_image" (Images.free entry.2) first).Leads m (Q rest) K)
    (h : Q images first m) : (freeImages serial images first).Leads m (Q []) K := by
  induction images generalizing first m with
  | nil => exact h
  | cons entry rest ih =>
    unfold freeImages
    rw [Act.leads_bind, Act.leads_get]
    cases hentry : m.host.held.contains entry.1 with
    | true => exact ih (hheld h hentry)
    | false => exact .bind (hstep h) fun _ _ => ih

/-- What each step keeps, of the first failure and the machine, is kept by giving everything up. -/
theorem leads_releaseAll {Q : Option DeskError → Machine κ (Desk ρ) → Prop}
    (hlost : ∀ {m e}, K m → K (Journaled.record e m))
    (htables : ∀ {first m} {f : Desk ρ → Desk ρ}, m.host.Aside (f m.host) →
      (∀ r ∈ (f m.host).remotes.values, r ∈ m.host.remotes.values) → Q first m →
      Q first (onDesk f m))
    (hlocal : ∀ {l first m}, Q first m →
      (step serial "free_local" (Memory.freeLocal l) first).Leads m Q K)
    (hremote : ∀ {r first first₀ m m₀}, Q first₀ m₀ → r ∈ m₀.host.remotes.values → Q first m →
      (m.status r).freed = false →
      (step serial "free_remote" (Memory.freeRemote r) first).Leads m Q K)
    (himage : ∀ {image first m}, Q first m →
      (step serial "free_image" (Images.free image) first).Leads m Q K)
    (hclose : ∀ {first m}, Q first m →
      (step serial "shutdown" Devices.shutdown first).Leads m Q K)
    (h : Q none m) : (releaseAll serial).Leads m Q K := by
  unfold releaseAll
  rw [Act.leads_bind, Act.leads_get, Act.leads_bind, Act.leads_modify]
  refine .bind (leads_freeLocals (Q := fun _ => Q) hlost hlocal
    (htables (.same rfl rfl rfl rfl) (fun _ hr => hr) h)) fun first m₁ h₁ => ?_
  rw [Act.leads_bind, Act.leads_get, Act.leads_bind, Act.leads_modify]
  refine .bind (leads_freeRemotes
    (Q := fun rest first m => (∀ r ∈ rest, r ∈ m₁.host.remotes.values) ∧ Q first m)
    (fun h _ => ⟨fun r hr => h.1 r (List.mem_cons_of_mem _ hr), h.2⟩)
    (fun h hfreed => (hremote h₁ (h.1 _ List.mem_cons_self) h.2 hfreed).imp fun _ _ h' =>
      ⟨fun r hr => h.1 r (List.mem_cons_of_mem _ hr), h'⟩)
    ⟨fun _ hr => hr, htables (.same rfl rfl rfl rfl) (fun _ hr => nomatch hr) h₁⟩)
    fun first m₂ h₂ => ?_
  rw [Act.leads_bind, Act.leads_get, Act.leads_bind, Act.leads_modify]
  exact .bind (leads_freeImages (Q := fun _ => Q) (fun h _ => h) himage
    (htables (.same rfl rfl rfl rfl) (fun _ hr => hr) h₂.2)) fun _ _ => hclose

end Releasing

namespace Unconcerned

variable [Reentry κ (Desk ρ)] {I : Machine κ (Desk ρ) → Prop} {serial handle : Nat} {call : String}
  (hI : Unconcerned I)

include hI

theorem onRuntime {task : Task κ (Desk ρ) α} (h : Stable task) :
    (Desk.onRuntime serial call task).Stands I I := by
  intro m hm
  unfold Desk.onRuntime
  rw [leads_mk]
  refine (hI.platform (fun hI => .mapError (h hI)) m hm).imp fun a _ h => ?_
  cases a <;> exact h

theorem routine : Routine I fun _ => I where
  journal := hI.journal
  tables := hI.tables
  refuses _ := .same
  operates _ h _ := hI.onRuntime h

theorem remoteWrite {data : Bytes} : (remoteWrite handle data : DeskTask κ ρ Unit).Stands I I := by
  refine .bind (remote_keeps .same) fun r => .bind .get fun m => ?_
  dsimp only
  split
  · exact refuse_keeps .same nofun
  · refine .bind (.mapError <| .bind .get fun m => .bind answer_keeps fun link => ?_) fun _ => .pure
    exact .bind (.change fun _ => hI.written) fun _ => .pure

variable {first : Option DeskError}

theorem step {task : Task κ (Desk ρ) Unit} (h : Stable task) :
    (Desk.step serial call task first).Upholds I I := by
  refine .bind (hI.platform h) fun answer => ?_
  cases answer with
  | ok => exact .pure
  | error e => exact .bind (.change fun _ => hI.journal) fun _ => .pure

theorem releaseAll : (releaseAll serial).Upholds I I := fun _ hm =>
  leads_releaseAll (Q := fun _ => I) hI.journal (fun hf _ => hI.tables hf)
    (hI.step (fun h => Memory.freeLocal_stands h) _)
    (fun _ _ h _ => hI.step (fun h => Memory.freeRemote_stands h) _ h)
    (hI.step (fun h => Images.free_stands h) _)
    (hI.step (fun h => Devices.shutdown_stands h.aside) _) hm

theorem shutdown : (shutdown : DeskTask κ ρ Unit).Stands I I := by
  refine .bind desk_keeps fun d => ?_
  split
  · exact refuse_keeps .same nofun
  · split
    · exact .pure
    · refine .bind (hI.routine.table fun _ => ⟨rfl, Nat.le_refl _, rfl, fun _ h => nomatch h⟩)
        fun _ => ?_
      refine .bind (.perform hI.releaseAll) fun first => .bind hI.routine.log fun _ => ?_
      cases first with
      | none => exact .pure
      | some e => exact .throw fun _ h => h

end Unconcerned

end Desk

/-! ## Instructions of scenarios -/

namespace Scenario

open Desk

/-- All instructions keep the property, if those do that are about executions and platforms. -/
theorem performAtDesk_stands [Reentry (List (Step DeskStep)) (Desk Stage)]
    {I : DeskScene → Prop} (hI : Unconcerned I) (i : DeskStep)
    (hinstall : ∀ spec config, (install { spec } config : Act DeskScene Unit).Upholds I I)
    (hrun : ∀ q, (runStream q : DeskPlay Summary).Stands I I)
    (hasync : ∀ q, (runStreamAsync q : DeskPlay Nat).Stands I I)
    (hpoll : ∀ handle, (pollStream handle : DeskPlay Bool).Stands I I)
    (hjoin : ∀ handle, (joinStream handle : DeskPlay Summary).Stands I I)
    (hwithin : ∀ handle micros, i = .joinStreamWithin handle micros →
      (joinStreamWithin handle micros : DeskPlay (Option Summary)).Stands I I) :
    (performAtDesk i).Stands I I := by
  cases i with
  | install spec config =>
    exact .bind (.perform (hinstall spec config)) fun _ =>
      .bind (hI.routine.table fun _ => .same rfl rfl rfl rfl) fun _ => .pure
  | installVendor => exact .bind (refuse_keeps .same nofun) fun _ => .pure
  | startTracing env =>
    refine .bind (fun m hm => ?_) fun _ => .pure
    unfold startTracing
    split <;> exact hm
  | countDevices => exact .bind hI.routine.countDevices fun _ => .pure
  | compile source => exact .bind hI.routine.compile fun _ => .pure
  | freeImage handle => exact .bind hI.routine.freeImage fun _ => .pure
  | shutdown => exact .bind hI.shutdown fun _ => .pure
  | allocRemote device width height code flags => exact .bind hI.routine.allocRemote fun _ => .pure
  | allocLocal device width height code flags => exact .bind hI.routine.allocLocal fun _ => .pure
  | freeRemote handle => exact .bind hI.routine.freeRemote fun _ => .pure
  | freeLocal handle => exact .bind hI.routine.freeLocal fun _ => .pure
  | remoteInfo handle => exact .bind remoteInfo_keeps fun _ => .pure
  | remoteRead handle offset count => exact .bind remoteRead_keeps fun _ => .pure
  | remoteWrite handle data => exact .bind hI.remoteWrite fun _ => .pure
  | runStream q => exact .bind (hrun q) fun _ => .pure
  | runStreamAsync q => exact .bind (hasync q) fun _ => .pure
  | pollStream handle => exact .bind (hpoll handle) fun _ => .pure
  | joinStream handle => exact .bind (hjoin handle) fun _ => .pure
  | joinStreamWithin handle micros =>
    exact .bind (hwithin handle micros rfl) fun summary => by cases summary <;> exact .pure
  | counts => exact .bind desk_keeps fun _ => .pure
  | version => exact .pure
  | constants => exact .pure

end Scenario

end StreamCompute
