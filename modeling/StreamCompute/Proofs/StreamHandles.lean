/-
  StreamCompute.Proofs.StreamHandles

  What calls on the handle of an execution do. From when the handle was given
  out, the execution stays registered until the first join that does not time
  out; that join finalizes it, whether it succeeds or fails, and from the moment
  it has taken the execution every call on the handle is a misuse that changes
  nothing. All this holds whatever else is done at the desk meanwhile, also by
  hooks in the middle of any of the calls.
-/
import Mathlib.Data.List.Nodup
import StreamCompute.Proofs.Asking
import StreamCompute.Proofs.Finalization
import StreamCompute.Proofs.Registration
import StreamCompute.Proofs.TwoRuns

namespace StreamCompute

open Fallible

variable {κ ρ : Type}

namespace Desk

variable {handle : Nat} {m : Machine κ (Desk ρ)}

/-- The error of a call on a handle that has no execution to join. -/
def misuse (call : String) (handle : Nat) : DeskError :=
  ⟨call, .runtime (.joinMisuse s!"execution handle {handle} is unknown or already joined")⟩

/-- Every poll and every join of the handle is a misuse: it makes no driver call and changes
    nothing. -/
structure Misused (handle : Nat) (m : Machine κ (Desk ρ)) : Prop where
  flagged : ∀ call, (misuse call handle).isMisuse = true
  poll : ∀ [Reentry κ (Desk ρ)], (pollStream handle).run m =
    (.ok (.error (misuse "poll_stream" handle)), m)
  join : ∀ [Reentry κ (Desk ρ)], (joinStream handle).run m =
    (.ok (.error (misuse "join_stream" handle)), m)
  within : ∀ [Reentry κ (Desk ρ)] (micros : Nat), (joinStreamWithin handle micros).run m =
    (.ok (.error (misuse "join_stream_timeout" handle)), m)

/-- The handle has no place, or one whose execution was taken. -/
def EmptyPlace (handle : Nat) (m : Machine κ (Desk ρ)) : Prop :=
  ∀ slot, m.host.slots.get? handle = some slot → slot.execution = none ∧ slot.marked = false

/-- There is nothing to be found in an empty place. -/
theorem occupant_bind_eq {α : Type} {call : String}
    {rest : Execution → DeskTask κ ρ α} (h : EmptyPlace handle m) :
    (occupant call handle >>= rest).run m = (.ok (.error (misuse call handle)), m) := by
  refine run_bind_of_error ?_
  unfold occupant
  rw [run_bind_of_ok (rfl : desk.run m = (.ok (.ok m.host), m))]
  cases hslot : m.host.slots.get? handle with
  | none => rfl
  | some slot =>
    obtain ⟨hnone, hmarked⟩ := h slot hslot
    dsimp only
    rw [hnone, hmarked]
    rfl

theorem misused_of_empty (h : EmptyPlace handle m) : Misused handle m :=
  ⟨fun _ => rfl, occupant_bind_eq h, occupant_bind_eq h, fun _ => occupant_bind_eq h⟩

/-! ## The place of a handle under any hooks -/

/-- The desk does not depend on the platform in use. -/
theorem onRuntime_host {α : Type} {H : Desk ρ → Prop} {t : Nat} {call : String}
    {task : Task κ (Desk ρ) α} (htask : task.Stands (fun m => H m.host) fun m => H m.host) :
    (onRuntime t call task).Stands (fun m => H m.host) fun m => H m.host := by
  have hfocus : ∀ {u} {m : Machine κ (Desk ρ)}, H m.host → H (m.focus u).host := by
    intro u m hm
    unfold Machine.focus
    split
    · exact hm
    · split <;> exact hm
  intro m hm
  unfold onRuntime Machine.withPlatform
  rw [leads_mk, Act.leads_bind, Act.leads_get, Act.leads_bind, Act.leads_modify,
    Act.leads_ensuring, leads_run, leads_mapError]
  exact (htask _ (hfocus hm)).mono (fun _ _ h => hfocus h) (fun _ _ h => hfocus h)
    fun _ h => hfocus h

/-- A join forgets the handle before it waits. -/
theorem joinStream_taken [Reentry κ (Desk ρ)]
    (hooks : ∀ op k (m : Machine κ (Desk ρ)), m.host.slots.get? handle = none →
      (Reentry.run op k).Leads m (fun _ m' => m'.host.slots.get? handle = none)
        fun m' => m'.host.slots.get? handle = none)
    {e : Execution} {marked : Bool} (he : m.host.slots.get? handle = some ⟨some e, marked⟩) :
    (joinStream handle).Leads m (fun _ m' => m'.host.slots.get? handle = none)
      (fun _ m' => m'.host.slots.get? handle = none) fun m' => m'.host.slots.get? handle = none := by
  let H (d : Desk ρ) : Prop := d.slots.get? handle = none
  have hstands := withstands_host (H := H) hooks
  have hjoin : (e.join : Task κ (Desk ρ) Summary).Stands (fun m => H m.host) fun m => H m.host :=
    Execution.join_stands (Execution.joinWithin_stands hstands.joins (hstands.destroy trivial))
  unfold joinStream
  rw [leads_bind]
  refine occupant_finds.mono (fun e' m₁ ⟨hbeside, slot, hslot, he'⟩ => ?_)
    (fun _ _ ⟨_, hnone⟩ => nomatch hnone _ he) fun _ h => h.elim
  cases he.symm.trans hslot
  cases he'
  rw [leads_bind, leads_modify]
  refine onRuntime_host hjoin _ ?_
  show (m₁.host.slots.erase handle).get? handle = none
  rw [Assoc.get?_erase, if_pos rfl]

/-! ## Calls that only ask -/

/-- The place of the handle is as it was, and only such calls were made. -/
def Spectates (handle : Nat) (S : Moment → Prop) (m m' : Machine κ (Desk ρ)) : Prop :=
  m'.host.slots.get? handle = m.host.slots.get? handle ∧
    ∃ calls, m'.history = calls ++ m.history ∧ ∀ mo ∈ calls, S mo

namespace Spectates

variable {handle : Nat} {S : Moment → Prop} {m m' m'' : Machine κ (Desk ρ)}

theorem refl : Spectates handle S m m :=
  ⟨rfl, [], rfl, fun _ h => absurd h List.not_mem_nil⟩

theorem trans (h : Spectates handle S m m') (h' : Spectates handle S m' m'') :
    Spectates handle S m m'' := by
  obtain ⟨hplace, calls, hhistory, hcalls⟩ := h
  obtain ⟨hplace', calls', hhistory', hcalls'⟩ := h'
  refine ⟨hplace'.trans hplace, calls' ++ calls, ?_, fun mo hmo => ?_⟩
  · rw [hhistory', hhistory, List.append_assoc]
  · exact (List.mem_append.mp hmo).elim (hcalls' mo) (hcalls mo)

theorem beside (hbeside : m.Beside m') : Spectates handle S m m' :=
  ⟨by rw [hbeside.host], [], hbeside.history, fun _ h => absurd h List.not_mem_nil⟩

theorem focus {t : Nat} : Spectates handle S m (m.focus t) := by
  unfold Machine.focus
  split
  · exact refl
  · split
    · exact refl
    · exact ⟨rfl, [], rfl, fun _ h => absurd h List.not_mem_nil⟩

end Spectates

/-- The place of the handle and the calls do not depend on the platform in use. -/
theorem onRuntime_spectates {α : Type} {handle t : Nat} {call : String} {S : Moment → Prop}
    {m m₀ : Machine κ (Desk ρ)} {task : Task κ (Desk ρ) α} {F : α → Prop} {B : Prop}
    (htask : ∀ m, Spectates handle S m₀ m → task.Leads m
      (fun a m' => F a → Spectates handle S m₀ m') (fun _ m' => B → Spectates handle S m₀ m')
      fun _ => True) (hm : Spectates handle S m₀ m) :
    (onRuntime t call task).Leads m (fun a m' => F a → Spectates handle S m₀ m')
      (fun _ m' => B → Spectates handle S m₀ m') fun _ => True := by
  unfold onRuntime Machine.withPlatform
  rw [leads_mk, Act.leads_bind, Act.leads_get, Act.leads_bind, Act.leads_modify,
    Act.leads_ensuring, leads_run, leads_mapError]
  exact (htask _ (hm.trans .focus)).mono (fun _ _ h hF => (h hF).trans .focus)
    (fun _ _ h hB => (h hB).trans .focus) fun _ _ => trivial

theorem get?_onSlot {slot : Slot} {f : Slot → Slot} (h : m.host.slots.get? handle = some slot) :
    (onSlot handle f m).host.slots.get? handle = some (f slot) := by
  simp [onSlot, onDesk, h, Assoc.get?_set_self]

theorem history_onSlot {f : Slot → Slot} : (onSlot handle f m).history = m.history :=
  rfl

section Asking

variable [Reentry κ (Desk ρ)] {handle : Nat} {S : Moment → Prop} {m m₀ : Machine κ (Desk ρ)}
  {e : Execution} {α : Type}
  (hS : ∀ mo : Moment, mo.Asks e.context e.event → S mo)
  (hooks : ∀ op k (m : Machine κ (Desk ρ)), (Reentry.run op k).Leads m
    (fun _ => Spectates handle S m) fun _ => True)

include hS hooks

theorem query_spectates : (Machine.drive (Simulator.queryEvent e.context e.event)).Preserves
    (Spectates handle S m₀) := by
  intro m hm
  have hfire : (Machine.fire .queryEvent).Upholds
      (Spectates handle S m₀) fun _ => True := by
    refine .bind .get fun _ => .bind (.change fun _ h => ?_) fun _ => .forM fun hook m hm => ?_
    · exact h.trans ⟨rfl, [], rfl, fun _ h => absurd h List.not_mem_nil⟩
    · exact (hooks _ hook.2 m).mono (fun _ _ h => hm.trans h) fun _ _ => trivial
  unfold Machine.drive
  rw [leads_bind, leads_perform, Act.leads_onCutOff]
  refine (hfire m hm).mono (fun _ m₁ h₁ => ?_) fun _ _ => trivial
  -- The call itself asks the token.
  have hcalled : ∀ verdict (s : Simulator),
      s.calls = .queryEvent e.context e.event :: m₁.platform.driver.calls →
      Spectates handle S m₀ (m₁.handled .queryEvent verdict s) := by
    intro verdict s hcalls
    refine h₁.trans ⟨rfl, [m₁.moment .queryEvent verdict s], rfl, fun mo hmo => ?_⟩
    cases List.mem_singleton.mp hmo
    exact hS _ ⟨rfl, Machine.call?_moment hcalls⟩
  have hlogs : (Simulator.queryEvent e.context e.event).Logs (.queryEvent e.context e.event)
      m₁.platform.driver := Command.logs rfl
  rw [Machine.leads_handle]
  exact hlogs.mono (fun _ s hs => hcalled _ s hs) (fun _ s hs => hcalled _ s hs)
    fun _ _ => trivial

theorem isComplete_spectates : e.isComplete.Preserves (Spectates handle S m₀) :=
  Execution.isComplete_stands (query_spectates hS hooks) fun _ _ h => h.trans (.beside .onProgress)

/-- Waiting makes no calls but those that ask; so a join that times out makes no others. -/
theorem joinWithin_spectates {limit : Option Nat} (hm : Spectates handle S m₀ m) :
    (e.joinWithin limit).Leads m (fun summary m' => summary = none → Spectates handle S m₀ m')
      (fun _ _ => True) fun _ => True := by
  have hunlogged : Unlogged (Spectates handle S m₀) fun _ => True :=
    ⟨fun _ _ h => h.trans (.beside .journal), fun _ _ h => h⟩
  have hawait : (e.await limit).Preserves (Spectates handle S m₀) :=
    Execution.await_stands hunlogged (query_spectates hS hooks)
  exact Execution.leads_joinWithin (fun _ => leads_true.imp fun _ _ _ => nofun) (hawait m hm)
    (fun _ _ _ => leads_true.imp fun _ _ _ => nofun)
    (fun _ _ _ h₁ _ => h₁.trans ((Spectates.beside .onProgress).trans (.beside .journal)))
    fun _ _ _ _ => leads_true.imp fun _ _ _ => nofun

theorem pollStream_spectates
    (he : ∀ slot e', m.host.slots.get? handle = some slot → slot.execution = some e' → e' = e) :
    (pollStream handle).Leads m (fun _ => Spectates handle S m) (fun _ => Spectates handle S m)
      fun _ => True := by
  unfold pollStream holding
  rw [leads_bind]
  refine occupant_finds.mono (fun e' m₁ ⟨hbeside, slot, hslot, he'⟩ => ?_)
    (fun _ _ h => .beside h.1) fun _ _ => trivial
  obtain rfl := he slot e' hslot he'
  rw [leads_mk, Act.leads_onCutOff, leads_run]
  refine (onRuntime_spectates (F := fun _ => True) (B := True) (fun m hm => ?_)
    (.beside hbeside)).mono (fun _ _ h => h trivial) (fun _ _ h => h trivial) fun _ _ => trivial
  exact (isComplete_spectates hS hooks m hm).mono (fun _ _ h _ => h) (fun _ _ h _ => h)
    fun _ _ => trivial

/-- A bounded join that times out only asks, and puts the execution back. -/
theorem joinStreamWithin_spectates {micros : Nat} {marked : Bool}
    (he : m.host.slots.get? handle = some ⟨some e, marked⟩) :
    (joinStreamWithin handle micros).Leads m
      (fun summary m' => summary = none → Spectates handle S m m') (fun _ _ => True)
      fun _ => True := by
  unfold joinStreamWithin holding
  rw [leads_bind]
  refine occupant_finds.mono (fun e' m₁ ⟨hbeside, slot, hslot, he'⟩ => ?_) (fun _ _ _ => trivial)
    fun _ _ => trivial
  cases he.symm.trans hslot
  cases he'
  have hslot₁ : m₁.host.slots.get? handle = some ⟨some e, marked⟩ := hbeside.host ▸ he
  rw [leads_bind, leads_modify, leads_bind, leads_perform,
    leads_attempt, leads_mk, Act.leads_onCutOff, leads_run]
  refine (onRuntime_spectates (F := (· = none)) (B := False)
    (fun m hm => (joinWithin_spectates hS hooks hm).mono (fun _ _ h => h) (fun _ _ _ h => h.elim)
      fun _ h => h) (.refl : Spectates handle S (onSlot handle
        (fun slot => { slot with execution := none }) m₁) _)).mono
    (fun summary m₂ h₂ => ?_) (fun _ m₂ _ => ?_) fun _ _ => trivial
  · cases summary with
    | some summary =>
      dsimp only
      rw [leads_bind, leads_modify]
      exact fun h => nomatch h
    | none =>
      dsimp only
      rw [leads_bind, leads_modify]
      rintro -
      -- The place is as it was found, since nothing but questions was asked in between.
      obtain ⟨hplace, calls, hhistory, hcalls⟩ := h₂ rfl
      rw [get?_onSlot hslot₁] at hplace
      refine ⟨?_, calls, ?_, hcalls⟩
      · rw [get?_onSlot hplace, he]
      · rw [history_onSlot, hhistory, history_onSlot, hbeside.history]
  · trivial

end Asking

end Desk

namespace Scenario

open Desk

variable {handle serial : Nat} {e : Execution} {start m : DeskScene}

/-- The execution is in the place of its handle, and was not finalized since `start`. -/
def Registered (handle : Nat) (e : Execution) (start m : DeskScene) : Prop :=
  ∃ calls, m.history = calls ++ start.history ∧
    Counted e (Holds e) 0 (m.host.slots.get? handle) calls

/-- The handle is forgotten, and the execution was finalized exactly once since `start`. -/
def Retired (handle : Nat) (e : Execution) (start m : DeskScene) : Prop :=
  ∃ calls, m.history = calls ++ start.history ∧
    Counted e (· = none) 1 (m.host.slots.get? handle) calls

/-- The execution is registered; or it is not, and was finalized at most once, and exactly once,
    with its handle forgotten, if no driver call was cut off. -/
def Tracked (handle : Nat) (e : Execution) (start m : DeskScene) : Prop :=
  ∃ calls, m.history = calls ++ start.history ∧ Lifetime e (m.host.slots.get? handle) calls

/-- What calls on the handle do while the execution is registered, whatever hooks do in their
    middle. -/
structure Joinable (handle : Nat) (e : Execution) (start m : DeskScene) : Prop where
  /-- A join finalizes the execution, whatever its answer is. -/
  join : ∀ fuel, (@joinStream _ _ (deskHooks fuel) handle).Leads m
    (fun _ => Retired handle e start) (fun _ => Retired handle e start) (Tracked handle e start)
  /-- A bounded join does so too, unless it times out: then the execution stays registered. -/
  within : ∀ fuel micros, (@joinStreamWithin _ _ (deskHooks fuel) handle micros).Leads m
    (fun summary => if summary.isSome then Retired handle e start else Registered handle e start)
    (fun _ => Retired handle e start) (Tracked handle e start)
  /-- From the moment a join has taken the execution, hooks find the place of the handle empty. -/
  taken : ∀ reentry : Reentry (List (Step DeskStep)) (Desk Stage),
    (∀ op k m, m.host.slots.get? handle = none → (reentry.run op k).Leads m
      (fun _ m' => m'.host.slots.get? handle = none) fun m' => m'.host.slots.get? handle = none) →
    (@joinStream _ _ reentry handle).Leads m (fun _ m' => m'.host.slots.get? handle = none)
      (fun _ m' => m'.host.slots.get? handle = none) fun m' => m'.host.slots.get? handle = none
  /-- A poll makes no call but one that asks the token of the execution, besides what hooks do. -/
  poll : ∀ (reentry : Reentry (List (Step DeskStep)) (Desk Stage)) (S : Moment → Prop),
    (∀ mo : Moment, mo.Asks e.context e.event → S mo) →
    (∀ op k m, (reentry.run op k).Leads m (fun _ => Spectates handle S m) fun _ => True) →
    (@pollStream _ _ reentry handle).Leads m (fun _ => Spectates handle S m)
      (fun _ => Spectates handle S m) fun _ => True
  /-- Neither does a bounded join that times out. -/
  timedOut : ∀ (reentry : Reentry (List (Step DeskStep)) (Desk Stage)) (S : Moment → Prop) micros,
    (∀ mo : Moment, mo.Asks e.context e.event → S mo) →
    (∀ op k m, (reentry.run op k).Leads m (fun _ => Spectates handle S m) fun _ => True) →
    (@joinStreamWithin _ _ reentry handle micros).Leads m
      (fun summary m' => summary = none → Spectates handle S m m') (fun _ _ => True) fun _ => True

theorem joinable (hm : Kept AtDesk (Phase handle e start.history (Counted e (Holds e) 0))
    (Platforms.Knows · e) serial m) : Joinable handle e start m := by
  have hlasting : Platforms.Lasting fun v : Platforms (List (Step DeskStep)) => v.Knows e :=
    fun _ _ _ honward h => h.onward honward
  have hempty : ∀ fuel Q, Unmoved e Q → (∀ slot calls, Q slot calls → Vacant slot) →
      @Polite _ _ (deskHooks fuel) AtDesk (· = handle) (Others e)
        (Phase handle e start.history Q) (Platforms.Knows · e) :=
    fun fuel _ hunmoved hvacant => polite_vacant hunmoved hvacant fuel
  obtain ⟨calls, -, ⟨marked, hslot⟩, -⟩ := hm.desk.calls
  refine ⟨fun fuel => ?_, fun fuel micros => ?_, fun reentry hooks => ?_,
    fun reentry S hS hooks => ?_, fun reentry S micros hS hooks => ?_⟩
  · let := deskHooks fuel
    exact (joinStream_finalizes hlasting (fun _ h => h) (hempty fuel) hm).mono
      (fun _ _ h => h.desk.calls) (fun _ _ h => h.desk.calls) fun _ h => h.desk.calls
  · let := deskHooks fuel
    refine (joinStreamWithin_finalizes hlasting (fun _ h => h) (hempty fuel) hm).mono
      (fun summary _ h => ?_) (fun _ _ h => h.desk.calls) fun _ h => h.desk.calls
    cases summary <;> exact h.desk.calls
  · exact @joinStream_taken _ _ handle m reentry hooks e marked hslot
  · refine @pollStream_spectates _ _ reentry handle S m e hS hooks fun slot e' hslot' he' => ?_
    cases hslot.symm.trans hslot'
    cases he'
    rfl
  · exact @joinStreamWithin_spectates _ _ reentry handle S m e hS hooks micros marked hslot

/-- A launch by handle leaves its execution registered. -/
theorem kept_runStreamAsync {fuel : Nat} {m m₁ : DeskScene} {q : StreamRequest}
    (hm : InSession serial m)
    (hlaunch : (@runStreamAsync _ _ (deskHooks fuel) q).run m = (.ok (.ok handle), m₁)) :
    ∃ e, Kept AtDesk (Phase handle e m₁.history (Counted e (Holds e) 0)) (Platforms.Knows · e)
      serial m₁ := by
  obtain ⟨e, hknows, hin, hslot, hissued, hsole⟩ :=
    (runStreamAsync_registers fuel hm).of_eq_ok hlaunch
  exact ⟨e, hin.seated, ⟨hissued, hsole, [], rfl, ⟨false, hslot⟩, rfl⟩, hknows⟩

/-- Scenarios leave the execution registered, or gone and finalized. -/
theorem kept_lifetime
    (hstart : Kept AtDesk (Phase handle e start.history (Counted e (Holds e) 0))
      (Platforms.Knows · e) serial start) (fuel : Nat) {steps : List (Step DeskStep)}
    (hsteps : AtDesk steps) :
    Kept AtDesk (Phase handle e start.history (Lifetime e)) (Platforms.Knows · e) serial
      (deskAfter fuel steps start) :=
  kept_deskAfter (polite_lifetime fuel)
    (@tended_lifetime handle e start.history (deskHooks fuel)
      (fun _ hunmoved hvacant => polite_vacant hunmoved hvacant fuel) (polite_lifetime fuel))
    (fun _ _ _ honward h => h.onward honward) (fun _ h => h) hsteps
    (hstart.mono (fun _ _ h => h.mono fun _ _ h => .inl h) fun _ h => h)

/-- What can be said of a handle in every scene that comes after `start`. -/
structure FinalizedOnce (handle : Nat) (e : Execution) (start m : DeskScene) : Prop where
  /-- The execution is registered, or was finalized. -/
  tracked : Tracked handle e start m
  /-- While it is registered, the next join that does not time out finalizes it. -/
  joinable : Registered handle e start m → Joinable handle e start m

/-- An execution whose handle was given out is finalized exactly once, by the first join that does
    not time out. Wherever the place of a handle is empty, in the middle of a join as well as after
    it, every call on the handle is a misuse that changes nothing. -/
theorem execution_is_finalized_exactly_once {serial fuel : Nat} {m m₁ : DeskScene}
    {q : StreamRequest} {handle : Nat} (hm : InSession serial m)
    (hlaunch : (@runStreamAsync _ _ (deskHooks fuel) q).run m = (.ok (.ok handle), m₁)) :
    ∃ e, Registered handle e m₁ m₁ ∧
      (∀ fuel steps, AtDesk steps → FinalizedOnce handle e m₁ (deskAfter fuel steps m₁)) ∧
      (∀ (m' : DeskScene) n, EmptyPlace n m' → Misused n m') ∧
      ∀ (m' : DeskScene) n, m'.host.nextHandle ≤ n → InSession serial m' → Misused n m' := by
  obtain ⟨e, hstart⟩ := kept_runStreamAsync hm hlaunch
  refine ⟨e, hstart.desk.calls, fun fuel steps hsteps => ?_, fun m' n => misused_of_empty,
    fun m' n hn hm' => ?_⟩
  -- Everything is read off what the desk keeps to, from the launch on.
  · have hlater := kept_lifetime hstart fuel hsteps
    refine ⟨hlater.desk.calls, fun hregistered => ?_⟩
    exact Scenario.joinable ⟨hlater.seated, ⟨hlater.desk.issued, hlater.desk.sole, hregistered⟩,
      hlater.platforms⟩
  · refine misused_of_empty fun slot hslot => ?_
    exact absurd (hm'.seated.handles n slot hslot) (Nat.not_lt.mpr hn)

/-- A desk with an image, over a driver whose tokens are pending for two polls. -/
def imageScene : DeskScene :=
  deskAfter 0 [.own (.install { pendingPolls := 2 } {}), .own (.compile "o0")] deskOpening

def imageLaunch : Except Abort (Except DeskError Nat) × DeskScene :=
  (@runStreamAsync _ _ (deskHooks 0) ⟨1, 0, ⟨0, 0, 1, 1⟩, [], [], []⟩).run imageScene

/-- A poll, a join that is given no time, and a join in the middle of which others try as well. -/
def contendedJoin : List (Step DeskStep) :=
  [.own (.pollStream 2), .own (.joinStreamWithin 2 0),
    .hook (some .queryEvent) [.own (.joinStream 2), .own (.pollStream 2)],
    .hook (some .destroyContext) [.own (.joinStreamWithin 2 5)], .own (.joinStream 2)]

/-- The contended join finalizes the execution, and its handle is of no use any more. -/
theorem contendedJoin_finalizes_once :
    (InSession 0 imageScene ∧ imageLaunch.1 = .ok (.ok 2) ∧ AtDesk contendedJoin) ∧
      (deskAfter 2 contendedJoin imageLaunch.2).host.slots.get? 2 = none ∧
      ∃ e, Registered 2 e imageLaunch.2 imageLaunch.2 ∧
        Tracked 2 e imageLaunch.2 (deskAfter 2 contendedJoin imageLaunch.2) ∧
        Misused 2 (deskAfter 2 contendedJoin imageLaunch.2) := by
  have hm : InSession 0 imageScene := inSession_deskAfter rfl inSession_deskOpening
  have hanswer : imageLaunch.1 = .ok (.ok 2) := by decide +kernel
  have hnone : (deskAfter 2 contendedJoin imageLaunch.2).host.slots.get? 2 = none := by
    decide +kernel
  have hlaunch : imageLaunch = (.ok (.ok 2), imageLaunch.2) := by rw [← hanswer]
  obtain ⟨e, hregistered, hlater, hmisused, -⟩ := execution_is_finalized_exactly_once hm hlaunch
  refine ⟨⟨hm, hanswer, rfl⟩, hnone, e, hregistered, (hlater 2 contendedJoin rfl).tracked, ?_⟩
  exact hmisused _ 2 fun slot hslot => nomatch hnone.symm.trans hslot

end Scenario

end StreamCompute
