/-
  StreamCompute.Proofs.Standing

  Properties that stand through whole operations. An operation of a runtime
  changes the records, the arenas and the journal as it likes, and otherwise
  does nothing but make driver calls. So a property that does not depend on
  the former, and that is kept by the calls, is kept by every operation,
  however the operation ends and whatever hooks do in its middle.

  Four kinds of calls are set apart, because a property may depend on them:
  those that make and destroy contexts, and those that start work of the
  device.
-/
import StreamCompute.Proofs.Operations

namespace StreamCompute

open Fallible

/-- The entry points that neither make or destroy a context nor start work of the device. -/
def Operation.routine : Operation → Bool
  | .createContext => false
  | .destroyContext => false
  | .copyMemory => false
  | .runProgram => false
  | _ => true

theorem Operation.routine_allocate (place : Placement) (layout : Layout) :
    (Operation.allocate place layout).routine = true := by
  cases place <;> cases layout <;> rfl

theorem Operation.routine_of_ofDevices {op : Operation} (h : op.ofDevices = true) :
    op.routine = true := by
  cases op <;> first | rfl | cases h

/-- The second driver comes after the first: numbers were taken and none given back, and no token
    has more pending answers than before. -/
structure Simulator.Later (s s' : Simulator) : Prop where
  numbers : s.nextNumber ≤ s'.nextNumber
  tokens : Below s.nextNumber s.tokens → Below s'.nextNumber s'.tokens
  polls : Below s.nextNumber s.tokens → ∀ event : Ident .event, event.number < s.nextNumber →
    Completion.pollsLeft s' event ≤ Completion.pollsLeft s event

namespace Completion

variable {s s' : Simulator} {event : Ident .event}

theorem pollsLeft_congr (h : s'.tokens.get? event = s.tokens.get? event) :
    pollsLeft s' event = pollsLeft s event := by
  unfold pollsLeft
  rw [h]

theorem pollsLeft_pos : 0 < pollsLeft s event := by
  unfold pollsLeft
  split <;> omega

end Completion

namespace Simulator.Later

variable {s s' : Simulator}

theorem of_tokens (hnumbers : s.nextNumber ≤ s'.nextNumber) (htokens : s'.tokens = s.tokens) :
    s.Later s' where
  numbers := hnumbers
  tokens h := htokens ▸ h.mono hnumbers
  polls _ _ _ := Nat.le_of_eq (Completion.pollsLeft_congr (htokens ▸ rfl))

theorem same (hnumbers : s'.nextNumber = s.nextNumber) (htokens : s'.tokens = s.tokens) :
    s.Later s' :=
  .of_tokens (Nat.le_of_eq hnumbers.symm) htokens

theorem next (hnumbers : s'.nextNumber = s.nextNumber + 1) (htokens : s'.tokens = s.tokens) :
    s.Later s' :=
  .of_tokens (hnumbers ▸ Nat.le_succ _) htokens

/-- A new token is none of those that were made before. -/
theorem token {op : Operation} {context : Ident .context}
    {resources : Assoc (Ident .resource) Resource} :
    s.Later (tokenMade op context { s with resources }) where
  numbers := Nat.le_succ _
  tokens h := h.set_next
  polls _ event hevent := by
    have hne : (⟨s.nextNumber⟩ : Ident .event) ≠ event := (Ident.ne_of_number_lt hevent).symm
    exact Nat.le_of_eq (Completion.pollsLeft_congr (Assoc.get?_set_of_ne _ _ hne))

/-- Where there are fewer tokens, fewer polls are left. -/
theorem fewer (keep : Token → Bool) (hnumbers : s'.nextNumber = s.nextNumber)
    (htokens : s'.tokens = s.tokens.keepValues keep) : s.Later s' where
  numbers := Nat.le_of_eq hnumbers.symm
  tokens h := by
    rw [htokens, hnumbers]
    exact h.keepValues
  polls h event _ := by
    cases hget : s'.tokens.get? event with
    | none =>
      unfold Completion.pollsLeft
      rw [hget]
      exact Completion.pollsLeft_pos
    | some token =>
      have hmem := Assoc.mem_of_get? hget
      rw [htokens] at hmem
      have hbefore : s.tokens.get? event = some token :=
        Assoc.get?_of_mem h.distinct (Assoc.mem_keepValues hmem).1
      exact Nat.le_of_eq (Completion.pollsLeft_congr (hget.trans hbefore.symm))

/-- A token was asked and is still pending. -/
theorem polled {event : Ident .event} {token : Token} {n : Nat}
    (htoken : s.tokens.get? event = some token) (hn : token.pending = n + 1)
    (hnumbers : s'.nextNumber = s.nextNumber)
    (htokens : s'.tokens = s.tokens.set event { token with pending := n }) : s.Later s' where
  numbers := Nat.le_of_eq hnumbers.symm
  tokens h := by
    rw [htokens, hnumbers]
    exact h.reset htoken
  polls _ event' _ := by
    unfold Completion.pollsLeft
    rw [htokens, Assoc.get?_set]
    by_cases heq : event = event'
    · rw [if_pos heq, ← heq, htoken]
      simp [hn]
    · simp [heq]

end Simulator.Later

/-- However the call ends, the driver that it leaves comes after the one that it found. -/
def Command.Grows {α : Type} (c : Command α) : Prop :=
  ∀ s, c.run.Leads s (fun _ => s.Later) (fun _ => s.Later) s.Later

theorem Simulator.Effect.later {s t : Simulator} {r : Request} {a : Answer} (h : s.Effect r a t) :
    s.Later t := by
  cases h
  case destroyContext context => exact .fewer (·.context ≠ context) rfl rfl
  case copyMemory | runProgram => exact .token
  case stillPending htoken hn => exact .polled htoken hn rfl rfl
  all_goals first | exact .same rfl rfl | exact .next rfl rfl

theorem Command.grows {α : Type} (c : Command α) [c.Requested] : c.Grows := fun _ =>
  leads_effect (fun _ _ _ h => ⟨h.numbers, h.tokens, h.polls⟩) (.same rfl rfl) fun _ _ h => h.later

variable {κ ω α β ε ε' : Type}

/-! ## What lies beside the driver -/

/-- At most records, arenas, progress, the journal and what a runtime knows of its devices and
    numbers differ. -/
structure Machine.Beside (m m' : Machine κ ω) : Prop where
  serial : m'.platform.serial = m.platform.serial
  driver : m'.platform.driver = m.platform.driver
  hooks : m'.platform.hooks = m.platform.hooks
  parked : m'.parked = m.parked
  history : m'.history = m.history
  host : m'.host = m.host

namespace Machine.Beside

variable {m : Machine κ ω}

theorem journal {journal : List Event} : m.Beside { m with journal } :=
  ⟨rfl, rfl, rfl, rfl, rfl, rfl⟩

theorem onStatus {r : Remote} {f : RemoteStatus → RemoteStatus} : m.Beside (m.onStatus r f) :=
  ⟨rfl, rfl, rfl, rfl, rfl, rfl⟩

theorem openArena {key : ExecutionKey} {context : Ident .context} :
    m.Beside (m.openArena key context) :=
  ⟨rfl, rfl, rfl, rfl, rfl, rfl⟩

theorem closeArena {key : ExecutionKey} : m.Beside (m.closeArena key) :=
  ⟨rfl, rfl, rfl, rfl, rfl, rfl⟩

theorem onArena {key : ExecutionKey} {f : Arena → Arena} : m.Beside (m.onArena key f) := by
  unfold Machine.onArena
  split <;> exact ⟨rfl, rfl, rfl, rfl, rfl, rfl⟩

theorem onProgress {e : Execution} {f : Progress → Progress} : m.Beside (e.onProgress f m) :=
  ⟨rfl, rfl, rfl, rfl, rfl, rfl⟩

theorem onPlatform {registry : Registry} {generation nextExecution : Nat} :
    m.Beside (m.onPlatform fun p => { p with registry, generation, nextExecution }) :=
  ⟨rfl, rfl, rfl, rfl, rfl, rfl⟩

end Machine.Beside

/-! ## Properties that stand -/

/-- `I` is kept beside the driver and by driver calls; if a call is cut off, `K` holds. Only
    contexts that are `foreign` may be destroyed. A kernel that is submitted leaves `J` of its
    context and token. -/
structure Withstands [Reentry κ ω] (foreign : Ident .context → Prop) (I K : Machine κ ω → Prop)
    (J : Ident .context → Ident .event → Machine κ ω → Prop) : Prop where
  beside : ∀ {m m'}, m.Beside m' → I m → I m'
  besideCut : ∀ {m m'}, m.Beside m' → K m → K m'
  besideRun : ∀ {context event m m'}, m.Beside m' → J context event m → J context event m'
  drive : ∀ {α} {c : Command α}, c.operation.routine = true → c.Grows →
    (Machine.drive c).Stands I K
  destroy : ∀ {context}, foreign context →
    (Machine.drive (Simulator.destroyContext context)).Stands I K
  copy : ∀ {w context source target},
    (Completion.copy w context source target).Stands I K
  run : ∀ {context entry domain m}, I m →
    (Machine.drive (Simulator.runProgram context entry domain)).Leads m (J context) (fun _ => I) K

section Pass

variable [Reentry κ ω] {foreign : Ident .context → Prop} {I K : Machine κ ω → Prop}
  {J : Ident .context → Ident .event → Machine κ ω → Prop} (hI : Withstands foreign I K J)

include hI

namespace Withstands

theorem change {f : Machine κ ω → Machine κ ω} (hf : ∀ m : Machine κ ω, m.Beside (f m)) :
    (modify f : Fallible ε (Machine κ ω) PUnit).Stands I K :=
  .change fun m => hI.beside (hf m)

theorem unlogged : Unlogged I K where
  journal _ _ := hI.beside .journal
  cut _ _ := hI.besideCut .journal

theorem log {e : Event} : (log e : Fallible ε (Machine κ ω) Unit).Stands I K :=
  hI.unlogged.log

theorem weaken {K' : Machine κ ω → Prop} (hK : ∀ m, K m → K' m)
    (hbeside : ∀ {m m'}, m.Beside m' → K' m → K' m') : Withstands foreign I K' J := by
  refine ⟨hI.beside, hbeside, hI.besideRun, fun hop hc => ?_, fun hcontext => ?_, ?_, fun hm => ?_⟩
  · exact (hI.drive hop hc).mono (fun _ _ h => h) hK
  · exact (hI.destroy hcontext).mono (fun _ _ h => h) hK
  · exact hI.copy.mono (fun _ _ h => h) hK
  · exact (hI.run hm).mono (fun _ _ h => h) (fun _ _ h => h) hK

theorem call {c : Command α} [c.Requested] (hop : c.operation.routine = true) :
    (Machine.drive c).Stands I K :=
  hI.drive hop c.grows

theorem driveAs {wrap : DriverError → Error} {c : Command α} [c.Requested]
    (hop : c.operation.routine = true) : (Machine.driveAs wrap c).Stands I K :=
  .mapError (hI.call hop)

theorem tryDrive {c : Command α} [c.Requested] (hop : c.operation.routine = true) :
    (Machine.tryDrive c).Upholds I K :=
  .attempt (hI.call hop)

theorem aside : Devices.Aside I K where
  toUnlogged := hI.unlogged
  registry _ _ _ := hI.beside .onPlatform
  call hop := hI.call (Operation.routine_of_ofDevices hop)

theorem withdraw {r : Remote} : (Memory.withdraw r).Stands I K :=
  Memory.withdraw_stands (hI.call rfl) fun _ => hI.beside .onStatus

theorem restore {r : Remote} : (Memory.restore r).Stands I K :=
  Memory.restore_stands hI.unlogged (hI.call rfl) fun _ _ _ => hI.beside .onStatus

theorem joins {e : Execution} : Joins e I K where
  toUnlogged := hI.unlogged
  copy := hI.copy
  query := hI.call rfl
  unload := hI.call rfl
  release _ := hI.call rfl
  free _ := hI.call rfl
  restore := hI.restore
  unclaimed _ _ := hI.beside .onStatus
  ended _ := hI.beside .closeArena
  progress _ _ := hI.beside .onProgress

theorem isComplete {e : Execution} : e.isComplete.Stands I K :=
  Execution.isComplete_stands (hI.call rfl) fun _ _ => hI.beside .onProgress

end Withstands

/-! ## Images -/

namespace Images

theorem compileFor_stands {device : Device} {source : String} :
    (compileFor device source).Stands I K :=
  .bind (Devices.check_stands hI.aside) fun _ =>
    .bind (hI.driveAs rfl) fun _ => .bind hI.log fun _ => .pure

theorem compile_stands {source : String} : (compile source).Stands I K :=
  .bind (Devices.get_stands hI.aside) fun _ => compileFor_stands hI

theorem free_stands {image : Image} : (free image).Stands I K :=
  .bind (hI.driveAs rfl) fun _ => hI.log

end Images

/-! ## Resources -/

namespace Memory

theorem claim_stands {r : Remote} : (claim r).Stands I K := by
  refine .bind .get fun m => ?_
  split
  · exact .throw fun _ h => h
  · exact hI.change fun _ => .onStatus

theorem accept_stands {device : Device} {shape : Shape} :
    (accept device shape).Stands I K := by
  refine .bind (Devices.check_stands hI.aside) fun _ m hm => ?_
  rw [leads_answer]
  split <;> exact hm

theorem allocateLocal_stands {device : Device} {shape : Shape} {format : Format}
    {flags : AllocFlags} :
    (allocateLocal device shape format flags).Stands I K :=
  .bind (accept_stands hI) fun _ =>
    .bind (hI.driveAs (Operation.routine_allocate ..)) fun _ =>
      .bind hI.log fun _ => .pure

theorem firstMapping_stands {id : Ident .resource} :
    (firstMapping id).Stands I K := by
  refine .bind (.perform (hI.tryDrive rfl)) fun answer => ?_
  cases answer with
  | ok view => exact .pure
  | error e =>
    refine .bind (.perform (hI.tryDrive rfl)) fun answer => ?_
    cases answer with
    | ok => exact .throw fun _ h => h
    | error f => exact .bind hI.log fun _ => .throw fun _ h => h

theorem allocateRemote_stands {device : Device} {shape : Shape} {format : Format}
    {flags : AllocFlags} :
    (allocateRemote device shape format flags).Stands I K :=
  .bind (accept_stands hI) fun _ =>
    .bind (hI.driveAs (Operation.routine_allocate ..)) fun _ =>
      .bind (firstMapping_stands hI) fun _ => .bind hI.log fun _ => .bind .get fun _ =>
        .bind (hI.change fun _ => .onStatus) fun _ => .pure

theorem freeLocal_stands {l : Local} : (freeLocal l).Stands I K :=
  .bind (hI.driveAs rfl) fun _ => hI.log

theorem freeRemote_stands {r : Remote} : (freeRemote r).Stands I K := by
  refine .bind (claim_stands hI) fun _ => ?_
  have hfreeing : (do
      let _ ← withdraw r
      Machine.drive (Simulator.freeResource r.id)).Stands I K :=
    .bind hI.withdraw fun _ => hI.call rfl
  refine .bind (.perform (.attempt hfreeing)) fun answer => ?_
  cases answer with
  | ok => exact .bind (hI.change fun _ => .onStatus) fun _ => hI.log
  | error e => exact .bind (hI.change fun _ => .onStatus) fun _ => .throw fun _ h => h

end Memory

/-! ## Launching -/

namespace Binder

variable {site : BindSite}

theorem binds_of_stands {e : String × Binding} : Binds site e I (fun _ => I) K where
  journal _ _ := hI.beside .journal
  arena _ _ := hI.beside .onArena
  withdraw := .mapError hI.withdraw
  memory := hI.driveAs rfl
  register := hI.driveAs rfl
  bind := hI.driveAs rfl
  copyIn := hI.unlogged.timed <| .bind (.mapError hI.copy) fun _ => .bind .get fun _ => hI.log
  scratch _ := hI.driveAs (Operation.routine_allocate ..)
  transient _ := hI.driveAs (Operation.routine_allocate ..) _

theorem bindAll_stands {conventions : Bool} {entries : List (String × Binding)} :
    (entries.forM (bindEntry site conventions)).Stands I K :=
  .forM fun _ m hm => bindEntry_leads (binds_of_stands hI) (fun _ => hm) fun _ _ =>
    Memory.claim_stands hI m hm

end Binder

namespace Arena

variable {context : Ident .context}

theorem giveBack_stands {x : Acquired} : (giveBack context x).Stands I K := by
  cases x with
  | memory memory => exact hI.call rfl
  | transient register resource => exact hI.call rfl
  | unmapped register r => exact hI.restore
  | flight r => exact hI.change fun _ => .onStatus

end Arena

namespace Launch

variable {site : BindSite}

theorem undo_stands (hsite : foreign site.context) :
    (undo site).Upholds I K :=
  .bind (Arena.rollback_stands hI.unlogged (fun _ => Arena.giveBack_stands hI)
      fun _ => hI.beside .onArena) fun _ =>
    .bind (dropModule_stands hI.unlogged (hI.call rfl)) fun _ =>
      .bind (dropContext_stands hI.unlogged (hI.destroy hsite)) fun _ =>
        .change fun _ => hI.beside .closeArena

variable {m : Machine κ ω}

theorem submit_stands {domain : Domain} (hm : I m) :
    (submit site domain).Leads m (J site.context) (fun _ => I) K := by
  unfold submit
  rw [leads_bind, leads_get]
  exact .bind (hI.call rfl m hm) fun _ _ => hI.run

/-! Before its context is made one property stands, and from then on another one, of that
context. -/

variable {foreign' : Ident .context → Ident .context → Prop}
  {I' : Ident .context → Machine κ ω → Prop}
  {J' : Ident .context → Ident .context → Ident .event → Machine κ ω → Prop}
  (hI' : ∀ context, Withstands (foreign' context) (I' context) K (J' context))
  (hcreate : ∀ device m, I m → (Machine.drive (Simulator.createContext device)).Leads m
    (fun context m' => foreign' context context ∧ I' context m') (fun _ => I) K)
  (hback : ∀ context m, I' context m → I m)

include hI' hcreate hback

theorem openSite_leads_to {owner : ExecutionKey} {image : Image} {device : Device} (hm : I m) :
    (openSite owner image device).Leads m
      (fun site m' => foreign' site.context site.context ∧ I' site.context m') (fun _ => I) K := by
  unfold openSite Machine.driveAs
  rw [leads_bind, leads_get, leads_bind, leads_mapError]
  refine (hcreate _ m hm).imp fun context m₁ ⟨hforeign, h₁⟩ => ?_
  rw [leads_bind, leads_modify]
  refine .perform_bind ((hI' context).tryDrive rfl _
    ((hI' context).beside .openArena h₁)) fun answer m₂ h₂ => ?_
  cases answer with
  | ok module => exact ⟨hforeign, h₂⟩
  | error e =>
    exact .perform_bind
      (dropContext_stands (hI' context).unlogged ((hI' context).destroy hforeign) m₂ h₂)
      fun _ _ h => hI.beside .closeArena (hback context _ h)

theorem begin_leads_on {id : ExecutionId} {image : Image} {q : LaunchRequest}
    (hm : I m) :
    (begin id image q).Leads m
      (fun e m' => e.home = m.platform.serial ∧ J' e.context e.context e.event m')
      (fun _ => I) K := by
  refine leads_begin (F := fun site _ m => foreign' site.context site.context ∧ I' site.context m)
    (Q := fun site m => foreign' site.context site.context ∧ I' site.context m)
    (openSite_leads_to hI hI' hcreate hback hm) (fun site m₁ ⟨hforeign, h₁⟩ => ?_)
    (fun site m₂ ⟨hforeign, h₂⟩ => ?_) fun site _ m₃ ⟨hforeign, h₃⟩ => ?_
  · exact (Binder.bindAll_stands (hI' site.context) m₁ h₁).mono (fun _ _ h => ⟨hforeign, h⟩)
      (fun _ _ h _ => ⟨hforeign, (hI' site.context).beside .journal h⟩) fun _ h => h
  · exact (submit_stands (hI' site.context) h₂).mono
      (fun _ _ h _ => ⟨rfl, (hI' site.context).besideRun .journal h⟩)
      (fun _ _ h => ⟨hforeign, h⟩) fun _ h => h
  · exact (undo_stands (hI' site.context) hforeign m₃ h₃).imp fun _ _ h => hback _ _ h

/-- A launch stands, up to what its kernel leaves. -/
theorem launch_leads_on {image : Image} {q : LaunchRequest} (hm : I m) :
    (launch image q).Leads m
      (fun e m' => (∃ m₁, I m₁ ∧ e.home = m₁.platform.serial) ∧
        J' e.context e.context e.event m') (fun _ => I) K := by
  refine leads_launch (Devices.check_stands hI.aside m hm) (fun _ _ h₁ _ => h₁) fun m₁ h₁ _ => ?_
  refine (begin_leads_on hI hI' hcreate hback (hI.beside .onPlatform h₁)).mono
    (fun e m' ⟨hhome, hm'⟩ _ => ?_) (fun _ _ h _ => hI.beside .journal h)
    fun _ h _ => hI.besideCut .journal h
  exact ⟨⟨m₁, h₁, hhome⟩, (hI' e.context).besideRun .journal hm'⟩

end Launch

end Pass

/-! ## What the program on top keeps -/

section Host

variable [Reentry κ ω] {H : ω → Prop}
  (hooks : ∀ op k (m : Machine κ ω), H m.host → (Reentry.run op k).Leads m
    (fun _ m' => H m'.host) fun m' => H m'.host)

include hooks

theorem Machine.drive_host {c : Command α} :
    (Machine.drive c : Drive κ ω α).Stands (fun m => H m.host) fun m => H m.host := by
  have hfire : (Machine.fire c.operation : Act (Machine κ ω) Unit).Upholds (fun m => H m.host)
      fun m => H m.host :=
    .bind .get fun _ => .bind (.change fun _ h => h) fun _ => .forM fun hook m hm =>
      hooks _ hook.2 m hm
  intro m hm
  unfold Machine.drive
  rw [leads_bind, leads_perform, Act.leads_onCutOff]
  refine (hfire m hm).imp fun _ m₁ h₁ => ?_
  rw [Machine.leads_handle]
  exact leads_true.mono (fun _ _ _ => h₁) (fun _ _ _ => h₁) fun _ _ => h₁

/-- Operations of a runtime leave alone what the program on top keeps, as far as hooks do. -/
theorem withstands_host : Withstands (fun _ => True) (fun m : Machine κ ω => H m.host)
    (fun m => H m.host) fun _ _ m => H m.host := by
  have hbeside : ∀ {m m' : Machine κ ω}, m.Beside m' → H m.host → H m'.host :=
    fun hbeside hm => hbeside.host ▸ hm
  refine ⟨hbeside, hbeside, hbeside, fun _ _ => Machine.drive_host hooks,
    fun _ => Machine.drive_host hooks, ?_, fun hm => Machine.drive_host hooks _ hm⟩
  exact Completion.copy_stands ⟨fun _ _ hm => hm, fun _ _ hm => hm⟩ (Machine.drive_host hooks)
    fun _ => Machine.drive_host hooks

end Host

end StreamCompute
