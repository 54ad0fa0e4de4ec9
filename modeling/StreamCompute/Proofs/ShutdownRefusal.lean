/-
  StreamCompute.Proofs.ShutdownRefusal

  When a shutdown is refused. A place in the table of executions is enough,
  whether its execution is there or was taken by a bounded join that still
  waits. So from when the handle of an execution was given out until the
  execution is finalized or a join without limit takes it, no shutdown goes
  through, at whatever moment it is tried. A join without limit forgets the
  handle before it waits, and a run has none; in the middle of these a shutdown
  does go through.
-/
import StreamCompute.Proofs.StreamHandles

namespace StreamCompute

open Fallible

variable {κ ρ : Type}

namespace Desk

/-- A shutdown is refused because executions have not been joined, and changes nothing. -/
def ShutdownRefused (m : Machine κ (Desk ρ)) : Prop :=
  ∃ count, 0 < count ∧ (⟨"shutdown", .unjoined count⟩ : DeskError).isMisuse = true ∧
    ∀ [Reentry κ (Desk ρ)],
      shutdown.run m = (.ok (.error ⟨"shutdown", .unjoined count⟩), m)

/-- Any place will do, also one whose execution is being joined. -/
theorem shutdownRefused_of_place {handle : Nat} {m : Machine κ (Desk ρ)}
    (h : m.host.slots.get? handle ≠ none) : ShutdownRefused m := by
  have hlength : 0 < m.host.slots.length := by
    refine List.length_pos_of_ne_nil fun hnil => h ?_
    rw [hnil]
    rfl
  refine ⟨m.host.slots.length, hlength, rfl, fun [_] => ?_⟩
  show (if m.host.slots.length > 0 then refuse "shutdown" (.unjoined m.host.slots.length)
    else _).run m = _
  rw [if_pos hlength]
  rfl

end Desk

namespace Scenario

open Desk

variable {handle serial n : Nat} {e : Execution} {start m : DeskScene}

/-- A bounded join has taken the execution, and keeps its place. -/
abbrev Awaited (handle : Nat) (e : Execution) (start : DeskScene) (n serial : Nat)
    (m : DeskScene) : Prop :=
  Kept AtDesk (Phase handle e start.history (Counted e Reserved n)) (Platforms.Knows · e) serial m

theorem Awaited.place (hm : Awaited handle e start n serial m) :
    Reserved (m.host.slots.get? handle) := by
  obtain ⟨calls, -, hplace, -⟩ := hm.desk.calls
  exact hplace

theorem shutdownRefused_of_reserved (h : Reserved (m.host.slots.get? handle)) :
    ShutdownRefused m := by
  obtain ⟨marked, hslot⟩ := h
  exact shutdownRefused_of_place (hslot ▸ Option.some_ne_none _)

/-- Hooks of the calls of a bounded join are run while the place is kept for it, and at no other
    time: what they keep if they are run then, the join keeps. -/
theorem joinStreamWithin_reserves [Reentry (List (Step DeskStep)) (Desk Stage)]
    {G : Stage → Prop} {micros : Nat} {marked : Bool}
    (hooks : ∀ op k (m : DeskScene), Reserved (m.host.slots.get? handle) → G m.host.client →
      (Reentry.run op k).Leads m
        (fun _ m' => Reserved (m'.host.slots.get? handle) ∧ G m'.host.client)
        fun m' => Reserved (m'.host.slots.get? handle) ∧ G m'.host.client)
    (he : m.host.slots.get? handle = some ⟨some e, marked⟩) (hG : G m.host.client) :
    (joinStreamWithin handle micros : DeskPlay (Option Summary)).Leads m
      (fun _ m' => G m'.host.client) (fun _ m' => G m'.host.client)
      fun m' => G m'.host.client := by
  let H (d : Desk Stage) : Prop := Reserved (d.slots.get? handle) ∧ G d.client
  have hstands := withstands_host (H := H) fun op k m hm => hooks op k m hm.1 hm.2
  have hjoin : (e.joinWithin (some micros) :
      Task (List (Step DeskStep)) (Desk Stage) (Option Summary)).Stands (fun m => H m.host)
      fun m => H m.host :=
    Execution.joinWithin_stands hstands.joins (hstands.destroy trivial)
  have honSlot : ∀ {f : Slot → Slot} {m : DeskScene}, G m.host.client →
      G (onSlot handle f m).host.client := by
    intro f m hm
    unfold onSlot onDesk
    dsimp only
    split <;> exact hm
  unfold joinStreamWithin holding
  rw [leads_bind]
  refine occupant_finds.mono (fun e' m₁ ⟨hbeside, slot, hslot, he'⟩ => ?_)
    (fun _ m₁ h => ?_) fun _ h => h.elim
  · cases he.symm.trans hslot
    cases he'
    -- The execution is taken out before the first call, and the place stays.
    have htaken : H (onSlot handle (fun slot => { slot with execution := none }) m₁).host := by
      have hslot₁ : m₁.host.slots.get? handle = some ⟨some e, marked⟩ := hbeside.host ▸ he
      exact ⟨⟨marked, get?_onSlot hslot₁⟩, honSlot (hbeside.host ▸ hG)⟩
    rw [leads_bind, leads_modify, leads_bind, leads_perform,
      leads_attempt, leads_mk, Act.leads_onCutOff, leads_run]
    refine (onRuntime_host hjoin _ htaken).mono (fun summary m₂ h₂ => ?_) (fun _ m₂ h₂ => ?_)
      fun m₂ h₂ => honSlot h₂.2
    · cases summary with
      | none =>
        dsimp only
        rw [leads_bind, leads_modify]
        exact honSlot h₂.2
      | some summary =>
        dsimp only
        rw [leads_bind, leads_modify]
        exact h₂.2
    · dsimp only
      rw [leads_bind, leads_modify]
      exact h₂.2
  · show G m₁.host.client
    rw [h.1.host]
    exact hG

/-- No shutdown goes through while the execution is registered. -/
structure Sheltered (handle : Nat) (e : Execution) (start m : DeskScene) : Prop where
  now : ShutdownRefused m
  /-- A bounded join has its hooks run only while a shutdown is refused and the place is kept:
      whatever they then keep of the client, the join keeps. -/
  during : ∀ (reentry : Reentry (List (Step DeskStep)) (Desk Stage)) (G : Stage → Prop) micros,
    (∀ op k m, ShutdownRefused m → Reserved (m.host.slots.get? handle) → G m.host.client →
      (reentry.run op k).Leads m
        (fun _ m' => Reserved (m'.host.slots.get? handle) ∧ G m'.host.client)
        fun m' => Reserved (m'.host.slots.get? handle) ∧ G m'.host.client) →
    G m.host.client →
    (@joinStreamWithin _ _ reentry handle micros).Leads m (fun _ m' => G m'.host.client)
      (fun _ m' => G m'.host.client) fun m' => G m'.host.client
  /-- And no steps at the desk, taken in a hook, take the place from the join that waits. -/
  unmoved : ∀ fuel op k n serial m', AtDesk k → Awaited handle e start n serial m' →
    ShutdownRefused m' ∧ ((deskHooks fuel).run op k).Leads m'
      (fun _ => Awaited handle e start n serial) (Awaited handle e start n serial)

theorem sheltered (he : Holds e (m.host.slots.get? handle)) : Sheltered handle e start m := by
  obtain ⟨marked, he⟩ := he
  refine ⟨shutdownRefused_of_place (he ▸ Option.some_ne_none _),
    fun reentry G micros hooks hG => ?_, fun fuel op k n serial m' hk hm' => ?_⟩
  · refine @joinStreamWithin_reserves handle e _ reentry G micros marked
      (fun op k m hplace hG => ?_) he hG
    exact hooks op k m (shutdownRefused_of_reserved hplace) hplace hG
  · let := deskHooks fuel
    have hunmoved : Unmoved e (Counted e Reserved n) := unmoved_counted
    have hpolite : Polite AtDesk (· = handle) (Others e)
        (Phase handle e start.history (Counted e Reserved n) : Desk Stage → _ → Prop)
        (Platforms.Knows · e) := polite_vacant hunmoved (fun slot _ h => vacant_reserved slot h.1) fuel
    refine ⟨shutdownRefused_of_reserved hm'.place, ?_⟩
    exact hpolite.hooks _ (fun _ _ _ honward h => h.onward honward) (fun _ h => h) serial op k hk
      m' hm'

/-- From the answer of a launch until a join without limit takes the execution or a bounded one has
    finalized it, every shutdown is refused and changes nothing. -/
theorem shutdown_is_refused_while_registered {serial fuel : Nat} {m m₁ : DeskScene}
    {q : StreamRequest} {handle : Nat} (hm : InSession serial m)
    (hlaunch : (@runStreamAsync _ _ (deskHooks fuel) q).run m = (.ok (.ok handle), m₁)) :
    ∃ e, Holds e (m₁.host.slots.get? handle) ∧
      (∀ fuel steps, AtDesk steps → Tracked handle e m₁ (deskAfter fuel steps m₁)) ∧
      ∀ m' : DeskScene, Holds e (m'.host.slots.get? handle) → Sheltered handle e m₁ m' := by
  obtain ⟨e, hstart⟩ := kept_runStreamAsync hm hlaunch
  obtain ⟨calls, -, hplace, -⟩ := hstart.desk.calls
  refine ⟨e, hplace, fun fuel steps hsteps => ?_, fun m' => sheltered⟩
  exact (kept_lifetime hstart fuel hsteps).desk.calls

/-- The execution of a launch that was polled and waited for in vain is still sheltered. -/
theorem imageLaunch_shelters :
    (InSession 0 imageScene ∧ imageLaunch.1 = .ok (.ok 2)) ∧
      ∃ e, Sheltered 2 e imageLaunch.2 (deskAfter 0
        [.own (.pollStream 2), .own (.joinStreamWithin 2 0), .own .shutdown] imageLaunch.2) := by
  have hm : InSession 0 imageScene := inSession_deskAfter rfl inSession_deskOpening
  have hanswer : imageLaunch.1 = .ok (.ok 2) := by decide +kernel
  have hplace : (deskAfter 0 [.own (.pollStream 2), .own (.joinStreamWithin 2 0), .own .shutdown]
      imageLaunch.2).host.slots.get? 2 = imageLaunch.2.host.slots.get? 2 := by decide +kernel
  have hlaunch : imageLaunch = (.ok (.ok 2), imageLaunch.2) := by rw [← hanswer]
  obtain ⟨e, he, -, hsheltered⟩ := shutdown_is_refused_while_registered hm hlaunch
  refine ⟨⟨hm, hanswer⟩, e, hsheltered _ ?_⟩
  rw [hplace]
  exact he

/-- A hook shuts everything down when the status of a token is first asked. -/
def shutdownHook : List (Step DeskStep) :=
  [.own (.install { pendingPolls := 1 } {}), .own (.compile "o0"),
    .hook (some .queryEvent) [.own .shutdown]]

/-- A kernel run from the only image. -/
def soleRequest : StreamRequest := ⟨1, 0, ⟨0, 0, 1, 1⟩, [], [], []⟩

/-- What the hooks of the last step answered, and the calls that the driver got in its course. -/
def lastStep (steps : List (Step DeskStep)) : Option (List (List Outcome) × List Call) :=
  (playDesk steps).getLast?.map fun r =>
    (r.hooks.map (·.outcomes), (r.driver.map (·.1)).getD [])

/-- In the middle of a join without limit, and of a run, a shutdown goes through: the image is
    freed and the driver stopped before the token is asked and the context destroyed. -/
theorem shutdown_goes_through_during_join :
    lastStep (shutdownHook ++ [.own (.runStreamAsync soleRequest), .own (.joinStream 2)]) =
        some ([[.ok .nothing]],
          [.freeImage ⟨2⟩, .closeDevice ⟨1⟩, .stop, .queryEvent ⟨3⟩ ⟨6⟩, .queryEvent ⟨3⟩ ⟨6⟩,
            .unloadModule ⟨3⟩ ⟨4⟩, .destroyContext ⟨3⟩]) ∧
      lastStep (shutdownHook ++ [.own (.runStream soleRequest)]) =
        some ([[.ok .nothing]],
          [.createContext ⟨1⟩, .loadModule ⟨3⟩ ⟨2⟩, .findEntry ⟨3⟩ "main",
            .runProgram ⟨3⟩ ⟨0, 0, 1, 1⟩, .freeImage ⟨2⟩, .closeDevice ⟨1⟩, .stop,
            .queryEvent ⟨3⟩ ⟨6⟩, .queryEvent ⟨3⟩ ⟨6⟩, .unloadModule ⟨3⟩ ⟨4⟩,
            .destroyContext ⟨3⟩]) := by
  decide +kernel

end Scenario

end StreamCompute
