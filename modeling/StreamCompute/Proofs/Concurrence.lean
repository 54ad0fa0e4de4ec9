/-
  StreamCompute.Proofs.Concurrence

  Launches under different hooks. What hooks do is no part of an operation, so
  two ways for hooks to act may be compared. Suppose that those which wait do
  the same under both wherever the program on top has some property, keep the
  property, and leave no others to wait. Then an operation that starts where the
  property holds cannot tell the two apart: it has the same outcome and leaves
  the same machine.

  An operation is given here as a function of what hooks do. Each step of a
  launch either ignores hooks or makes driver calls, and only there hooks are
  run.
-/
import StreamCompute.Proofs.Steadfast
import StreamCompute.Proofs.TwoRuns

namespace StreamCompute

/-- What is known wherever hooks run: which may wait, and what the program on top is like. -/
structure Terms (κ ω : Type) where
  hooks : κ → Prop
  host : ω → Prop

variable {κ ω α β ε δ : Type} {H : Terms κ ω} {R R' : Reentry κ ω}

namespace Machine

/-- What hooks depend on. -/
def surface (m : Machine κ ω) : ω × List (Operation × κ) × Assoc Nat (Platform κ) :=
  (m.host, m.platform.hooks, m.parked)

abbrev OnTerms (H : Terms κ ω) (m : Machine κ ω) : Prop :=
  m.Known H.hooks fun w _ => H.host w

theorem OnTerms.of_surface {m m' : Machine κ ω} (h : m.OnTerms H) (hsame : m'.surface = m.surface) :
    m'.OnTerms H := by
  obtain ⟨hhost, hrest⟩ := Prod.mk.inj hsame
  obtain ⟨hhooks, hparked⟩ := Prod.mk.inj hrest
  refine ⟨fun p hp hook hhook => ?_, hhost ▸ h.known⟩
  rcases List.mem_cons.mp hp with rfl | hp
  · exact h.hooks _ List.mem_cons_self hook (hhooks ▸ hhook)
  · exact h.hooks p (List.mem_cons_of_mem _ (hparked ▸ hp)) hook hhook

theorem Beside.surface {m m' : Machine κ ω} (h : m.Beside m') : m'.surface = m.surface := by
  unfold Machine.surface
  rw [h.host, h.hooks, h.parked]

/-- The machines are the same, and are on these terms. -/
def Same (H : Terms κ ω) (m m' : Machine κ ω) : Prop :=
  m' = m ∧ m.OnTerms H

theorem Same.change {f : Machine κ ω → Machine κ ω} (hf : ∀ m, m.OnTerms H → (f m).OnTerms H)
    (m m' : Machine κ ω) (h : m.Same H m') : (f m).Same H (f m') :=
  ⟨congrArg f h.1, hf m h.2⟩

theorem Same.record (m m' : Machine κ ω) (e : Event) :
    m.Same H m' → (Journaled.record e m).Same H (Journaled.record e m') :=
  change (f := Journaled.record e) (fun _ h => h.of_surface rfl) m m'

end Machine

/-- From machines on these terms, the act does the same under both kinds of hooks, and leaves the
    machine on these terms. -/
abbrev Act.Concurs (H : Terms κ ω) (R R' : Reentry κ ω)
    (act : Reentry κ ω → Act (Machine κ ω) α) : Prop :=
  Act.Agree (Machine.Same H) True (act R) (act R')

abbrev Fallible.Concurs (H : Terms κ ω) (R R' : Reentry κ ω)
    (act : Reentry κ ω → Fallible ε (Machine κ ω) α) : Prop :=
  Fallible.Agree (Machine.Same H) True (act R) (act R')

/-- Hooks are not run, and what they depend on is left alone. -/
theorem Act.Agree.still {act : Act (Machine κ ω) α}
    (h : (fun m => (act m).2.surface) = Machine.surface) :
    Act.Agree (Machine.Same H) True act act := by
  rintro _ m ⟨rfl, hm⟩
  exact ⟨rfl, ⟨rfl, hm.of_surface (congrFun h m)⟩, Or.inl trivial⟩

namespace Fallible.Agree

theorem still {act : Fallible ε (Machine κ ω) α}
    (h : (fun m => (act.run m).2.surface) = Machine.surface) :
    Fallible.Agree (Machine.Same H) True act act :=
  Act.Agree.still h

theorem onArena {key : ExecutionKey} {f : Arena → Arena} : Fallible.Agree (Machine.Same H) True
    (modify (Machine.onArena key f) : Fallible ε (Machine κ ω) PUnit)
    (modify (Machine.onArena key f)) :=
  still (funext fun _ => Machine.Beside.onArena.surface)

end Fallible.Agree

section Launch

variable (h : ∀ op k, H.hooks k → Act.Concurs H R R' fun R => R.run op k)

include h

/-! ## Driver calls -/

namespace Machine

theorem fire_concurs {op : Operation} :
    Act.Concurs H R R' fun _ => fire op := by
  refine .get ?_
  rintro _ m ⟨rfl, hm⟩
  refine .bind (.change (Same.change fun m hm => hm.onPlatform fun hook hhook => ?_)) fun _ =>
    .forM fun hook hhook => h _ _ ?_
  · exact .inl (List.mem_filter.mp hhook).1
  · exact hm.hooks _ List.mem_cons_self hook (List.mem_filter.mp hhook).1

theorem drive_concurs {c : Command α} :
    Fallible.Concurs H R R' fun _ => drive c :=
  .bind (.perform (.onCutOff (fire_concurs h) (Same.change fun _ h => h.of_surface rfl)))
    fun _ => .still rfl

theorem driveAs_concurs {wrap : DriverError → Error} {c : Command α} :
    Fallible.Concurs H R R' fun _ => driveAs wrap c :=
  .mapError (drive_concurs h)

theorem tryDrive_concurs {c : Command α} :
    Act.Concurs H R R' fun _ => tryDrive c :=
  drive_concurs h

end Machine

open Machine

/-! ## Devices -/

namespace Devices

theorem closeAll_concurs {devices : List Device} :
    Act.Concurs H R R' fun _ => closeAll devices :=
  .forM fun _ _ => .bind (tryDrive_concurs h) fun _ => .still rfl

theorem giveUp_concurs {opened : List Device} :
    Act.Concurs H R R' fun _ => giveUp opened :=
  .bind (closeAll_concurs h) fun _ => .bind (tryDrive_concurs h) fun _ => .still rfl

theorem openOne_concurs {generation index : Nat} :
    Fallible.Concurs H R R' fun _ => openOne generation index :=
  .bind (drive_concurs h) fun _ => .bind (drive_concurs h) fun _ => .still rfl

theorem openAll_concurs {generation : Nat} (indices : List Nat) (opened : List Device) :
    Fallible.Concurs H R R' fun _ => openAll generation indices opened := by
  induction indices generalizing opened with
  | nil => exact .still rfl
  | cons index rest ih =>
    refine .bind (.perform (openOne_concurs h)) fun answer => ?_
    cases answer with
    | ok device => exact .bind (.still rfl) fun _ => ih _
    | error e => exact .bind (.perform (giveUp_concurs h)) fun _ => .still rfl

theorem discover_concurs : Fallible.Concurs H R R' fun _ => discover := by
  refine .bind (.still rfl) fun _ => .bind (.still rfl) fun _ => ?_
  refine .bind (driveAs_concurs h) fun _ => .bind (.perform (tryDrive_concurs h)) fun answer => ?_
  cases answer with
  | error e => exact .bind (.perform (giveUp_concurs h)) fun _ => .still rfl
  | ok count =>
    exact .bind (openAll_concurs h _ _) fun _ => .bind (.still rfl) fun _ =>
      .still rfl

theorem devices_concurs : Fallible.Concurs H R R' fun _ => devices := by
  refine .bind (.still rfl) fun m => ?_
  cases m.platform.registry with
  | ready found => exact .still rfl
  | failed e => exact .still rfl
  | uninitialized =>
    refine .bind (.perform (discover_concurs h)) fun answer => ?_
    cases answer with
    | ok found => exact .still rfl
    | error e => exact .still rfl

theorem get_concurs {index : Nat} : Fallible.Concurs H R R' fun _ => get index := by
  refine .bind (devices_concurs h) fun found => ?_
  split <;> exact .still rfl

theorem check_concurs {d : Device} : Fallible.Concurs H R R' fun _ => check d := by
  refine .bind (devices_concurs h) fun found => ?_
  split <;> exact .still rfl

end Devices

/-! ## Resources and copies -/

namespace Memory

variable {r : Remote}

theorem withdraw_concurs : Fallible.Concurs H R R' fun _ => withdraw r := by
  refine .bind (.still rfl) fun m => ?_
  split
  · exact .bind (drive_concurs h) fun _ => .still rfl
  · exact .still rfl

theorem restore_concurs : Fallible.Concurs H R R' fun _ => restore r := by
  refine .bind (.still rfl) fun m => ?_
  split
  · exact .still rfl
  · refine .bind (drive_concurs h) fun view => .bind (.still rfl) fun m => ?_
    dsimp only
    split <;> exact .still rfl

end Memory

theorem Completion.copy_concurs {w : Waiter} {context : Ident .context}
    {source target : Ident .memory} :
    Fallible.Concurs H R R' fun _ => copy w context source target := by
  refine .bind (drive_concurs h) fun event => .bind (.bind (.still rfl) fun m => ?_)
    fun _ => .still rfl
  refine .wait Same.record (fun _ _ h => congrArg _ h.1) (.bind (drive_concurs h) fun status => ?_)
  cases status <;> exact .still rfl

/-! ## Binding -/

namespace Binder

variable {site : BindSite} {register : String} {r : Remote}

theorem claim_concurs : Fallible.Concurs H R R' fun _ => claim site register r := by
  have hclaim : Fallible.Concurs H R R' fun _ => Memory.claim r := by
    refine .bind (.still rfl) fun m => ?_
    split <;> exact .still rfl
  refine .bind hclaim fun _ => .bind .onArena fun _ => ?_
  refine .bind (.mapError (Memory.withdraw_concurs h)) fun had => ?_
  split
  · exact .onArena
  · exact .still rfl

theorem getMemory_concurs {resource : Ident .resource} :
    Fallible.Concurs H R R' fun _ => getMemory site register resource :=
  .bind (driveAs_concurs h) fun _ => .bind .onArena fun _ => .still rfl

theorem allocate_concurs {shape : Shape} {format : Format} :
    Fallible.Concurs H R R' fun _ => allocate site register shape format :=
  .bind (driveAs_concurs h) fun _ => .bind .onArena fun _ => .still rfl

theorem bindRegister_concurs {memory : Ident .memory} :
    Fallible.Concurs H R R' fun _ => bindRegister site register memory :=
  .bind (driveAs_concurs h) fun _ => driveAs_concurs h

theorem bindCopied_concurs {direction : Direction} :
    Fallible.Concurs H R R' fun _ => bindCopied site register r direction := by
  refine .bind (claim_concurs h) fun _ => .bind (getMemory_concurs h) fun remoteMemory => ?_
  refine .bind (.still rfl) fun m => .bind (allocate_concurs h) fun transient => ?_
  refine .bind (getMemory_concurs h) fun transientMemory => ?_
  refine .bind (bindRegister_concurs h) fun _ => ?_
  have hrest : ∀ e c, Fallible.Concurs H R R' fun _ => log e >>= fun _ => noteCopy site c :=
    fun _ _ => .bind (.still rfl) fun _ => .onArena
  split
  · refine .bind (.timed Same.record (.bind (.mapError (Completion.copy_concurs h)) fun _ => ?_)) fun _ =>
      hrest _ _
    exact .still rfl
  · exact hrest _ _

theorem bindDirect_concurs :
    Fallible.Concurs H R R' fun _ => bindDirect site register r :=
  .bind (claim_concurs h) fun _ => .bind (getMemory_concurs h) fun _ =>
    .bind (bindRegister_concurs h) fun _ => .still rfl

theorem bindScratch_concurs {shape : Shape} {format : Format} :
    Fallible.Concurs H R R' fun _ => bindScratch site register shape format :=
  .bind (allocate_concurs h) fun _ => .bind (getMemory_concurs h) fun _ =>
    .bind (bindRegister_concurs h) fun _ => .still rfl

theorem apply_concurs {conventions : Bool} {t : BindingTable} :
    Fallible.Concurs H R R' fun _ => apply site conventions t := by
  refine .bind (.forM fun e => ?_) fun _ => .bind (.forM fun e => ?_) fun _ => .forM fun e => ?_
  · cases e.2 with
    | copied r direction => exact bindCopied_concurs h
    | direct r => exact .still rfl
    | scratch shape format => exact .still rfl
  · cases e.2 with
    | copied r direction => exact .still rfl
    | direct r => exact bindDirect_concurs h
    | scratch shape format => exact .still rfl
  · cases e.2 with
    | copied r direction => exact .still rfl
    | direct r => exact .still rfl
    | scratch shape format => exact bindScratch_concurs h

end Binder

theorem Arena.rollback_concurs {owner : ExecutionKey} {context : Ident .context} :
    Act.Concurs H R R' fun _ => rollback owner context := by
  have hgive : ∀ x, Fallible.Concurs H R R' fun _ => giveBack context x := by
    intro x
    cases x with
    | memory memory => exact drive_concurs h
    | transient register resource => exact drive_concurs h
    | unmapped register r => exact Memory.restore_concurs h
    | flight r => exact .still rfl
  have hshrink : Act.Concurs H R R' fun _ => modify (Machine.onArena owner shrunk) :=
    .still (funext fun _ => Machine.Beside.onArena.surface)
  refine .bind (.still rfl) fun m => .forM fun x _ => .bind (hgive x) fun answer => ?_
  cases answer with
  | ok => exact hshrink
  | error e => exact .bind (.still rfl) fun _ => hshrink

/-! ## Launching -/

namespace Launch

theorem dropContext_concurs {context : Ident .context} :
    Act.Concurs H R R' fun _ => dropContext context := by
  refine .bind (tryDrive_concurs h) fun answer => ?_
  cases answer <;> exact .still rfl

theorem undo_concurs {site : BindSite} :
    Act.Concurs H R R' fun _ => undo site := by
  refine .bind (Arena.rollback_concurs h) fun _ => .bind (.bind (tryDrive_concurs h) fun answer =>
    ?_) fun _ => .bind (dropContext_concurs h) fun _ => .still rfl
  cases answer <;> exact .still rfl

theorem openSite_concurs {owner : ExecutionKey} {image : Image} {device : Device} :
    Fallible.Concurs H R R' fun _ => openSite owner image device := by
  refine .bind (.still rfl) fun m => .bind (driveAs_concurs h) fun context => ?_
  refine .bind (.still rfl) fun _ => .bind (.perform (tryDrive_concurs h)) fun answer => ?_
  cases answer with
  | ok module => exact .still rfl
  | error e => exact .bind (.perform (dropContext_concurs h)) fun _ => .still rfl

theorem begin_concurs {id : ExecutionId} {image : Image} {q : LaunchRequest} :
    Fallible.Concurs H R R' fun _ => begin id image q := by
  refine .bind (.still rfl) fun m => .bind (openSite_concurs h) fun site => ?_
  have happly : Fallible.Concurs H R R' fun _ => applyTable site q.table :=
    .bind (.still rfl) fun _ => Binder.apply_concurs h
  refine .bind (.perform happly) fun answer => ?_
  cases answer with
  | error e =>
    exact .bind (.still rfl) fun _ => .bind (.perform (undo_concurs h)) fun _ =>
      .still rfl
  | ok =>
    have hsubmit : Fallible.Concurs H R R' fun _ => submit site q.domain :=
      .bind (.still rfl) fun _ => .bind (drive_concurs h) fun _ => drive_concurs h
    refine .bind (.perform hsubmit) fun answer => ?_
    cases answer with
    | error e => exact .bind (.perform (undo_concurs h)) fun _ => .still rfl
    | ok event => exact .still rfl

/-- A launch cannot tell the two kinds of hooks apart. -/
theorem launch_concurs {image : Image} {q : LaunchRequest} :
    Fallible.Concurs H R R' fun _ => launch image q := by
  have hpreflight : Fallible.Concurs H R R' fun _ => preflight q := by
    refine .bind (.still rfl) fun m => ?_
    split <;> exact .still rfl
  exact .bind (Devices.check_concurs h) fun _ => .bind hpreflight fun _ =>
    .bind (.still rfl) fun _ => .timed Same.record (begin_concurs h)

end Launch

end Launch

end StreamCompute
