/-
  StreamCompute.Proofs.HandleTables

  What a call at the desk that fails leaves in the tables of handles. A call
  registers an object once it has it, and forgets a remote resource once it is
  freed; so wherever it fails before that, the tables are as they were. The
  handles of an image and of a local resource are given up before the driver is
  asked, and are not given back if the driver refuses: these two releases are
  set apart, and what they lose is said exactly.
-/
import StreamCompute.Proofs.DeskScenes
import StreamCompute.Proofs.Steadfast

namespace StreamCompute

open Fallible

variable {κ ω ρ α β : Type}

/-- The last driver call was to this entry point, and was refused. -/
def Machine.LastRefused (op : Operation) (d : DriverError) (m : Machine κ ω) : Prop :=
  ∃ mo rest, m.history = mo :: rest ∧ mo.operation = op ∧ mo.verdict = .refused d

theorem Machine.drive_refused [Reentry κ ω] {c : Command α} {m : Machine κ ω} :
    (drive c).Leads m (fun _ _ => True) (fun d => LastRefused c.operation d) fun _ => True := by
  unfold drive
  rw [leads_bind, leads_perform, Act.leads_onCutOff]
  refine Act.leads_true.mono (fun _ m₁ _ => ?_) fun _ _ => trivial
  rw [leads_handle]
  exact leads_true.mono (fun _ _ _ => trivial) (fun _ _ _ => ⟨_, _, rfl, rfl, rfl⟩)
    fun _ _ => trivial

namespace Desk

/-- What is behind each handle. -/
structure Tables where
  images : Assoc Nat Image
  remotes : Assoc Nat Remote
  locals : Assoc Nat Local
  slots : Assoc Nat Slot

def tables (d : Desk ρ) : Tables :=
  ⟨d.images, d.remotes, d.locals, d.slots⟩

/-- Only such hooks wait, and the tables are these. -/
abbrev Tabled (allowed : κ → Prop) (t : Tables) : Machine κ (Desk ρ) → Prop :=
  Machine.Known allowed fun d _ => d.tables = t

/-- Hooks of this kind leave the tables alone, and set no hooks but of this kind. -/
def Discreet (ρ : Type) [Reentry κ (Desk ρ)] (allowed : κ → Prop) : Prop :=
  ∀ t op k, allowed k → (Reentry.run op k : Act (Machine κ (Desk ρ)) Unit).Upholds
    (Tabled allowed t) (Tabled allowed t)

variable {allowed : κ → Prop} {call : String} {serial handle : Nat} {m : Machine κ (Desk ρ)}
  {t : Tables}

/-- If the call fails, the tables are as they were. -/
def Spares (allowed : κ → Prop) (t : Tables) (act : DeskTask κ ρ α) : Prop :=
  ∀ m, Tabled allowed t m → act.Leads m (fun _ _ => True) (fun _ => Tabled allowed t)
    fun _ => True

namespace Spares

variable {act : DeskTask κ ρ α} {rest : α → DeskTask κ ρ β}

theorem of_stands (h : act.Stands (Tabled allowed t) (Tabled allowed t)) :
    Spares allowed t act := fun m hm =>
  (h m hm).mono (fun _ _ _ => trivial) (fun _ _ h => h) fun _ _ => trivial

/-- What comes first touches no table. -/
theorem after (h : act.Stands (Tabled allowed t) (Tabled allowed t))
    (hrest : ∀ a, Spares allowed t (rest a)) : Spares allowed t (act >>= rest) := by
  intro m hm
  rw [leads_bind]
  exact (h m hm).mono (fun a m₁ h₁ => hrest a m₁ h₁) (fun _ _ h => h) fun _ _ => trivial

theorem value {f : α → β} (h : Spares allowed t act) :
    Spares allowed t (act >>= fun a => pure (f a)) := by
  intro m hm
  exact .bind (h m hm) fun _ _ _ => trivial

end Spares

variable [Reentry κ (Desk ρ)] (hooks : Discreet ρ allowed)

include hooks

theorem steadfast_tabled : Steadfast (Tabled allowed t : Machine κ (Desk ρ) → Prop)
    (Tabled allowed t) :=
  Machine.steadfast_known (fun _ _ _ h => h) (fun _ _ _ _ h => h) (hooks t)

/-- A runtime does something for a call. -/
theorem runtime_spares {task : Task κ (Desk ρ) α}
    (h : ∀ {I K : Machine κ (Desk ρ) → Prop}, Steadfast I K → task.Stands I K) :
    (onRuntime serial call task).Stands (Tabled allowed t) (Tabled allowed t) :=
  onRuntime_stands (steadfast_tabled hooks) (h (steadfast_tabled hooks))

/-! ## Calls that register what they made -/

theorem compile_spares {source : String} :
    Spares allowed t (compile source : DeskTask κ ρ Nat) := by
  refine .after (platform_keeps .same) fun serial => ?_
  refine .after (runtime_spares hooks fun h => Images.compile_stands h.withstands) fun image => ?_
  -- From here on nothing can fail.
  intro m _
  unfold freshHandle desk
  simp only [leads_bind, leads_get, leads_pure, leads_modify,
    leads_log]

theorem allocRemote_spares {device width height code flags : Nat} :
    Spares allowed t (allocRemote device width height code flags : DeskTask κ ρ Nat) := by
  refine .after (platform_keeps .same) fun serial => ?_
  refine .after (runtime_spares hooks fun h => Devices.get_stands h.withstands.aside) fun found => ?_
  refine .after (format_keeps .same) fun format => ?_
  refine .after (runtime_spares hooks fun h => Memory.allocateRemote_stands h.withstands)
    fun r => ?_
  intro m _
  unfold freshHandle desk
  simp only [leads_bind, leads_get, leads_pure, leads_modify]

theorem allocLocal_spares {device width height code flags : Nat} :
    Spares allowed t (allocLocal device width height code flags : DeskTask κ ρ Nat) := by
  refine .after (platform_keeps .same) fun serial => ?_
  refine .after (runtime_spares hooks fun h => Devices.get_stands h.withstands.aside) fun found => ?_
  refine .after (format_keeps .same) fun format => ?_
  refine .after (runtime_spares hooks fun h => Memory.allocateLocal_stands h.withstands)
    fun r => ?_
  intro m _
  unfold freshHandle desk
  simp only [leads_bind, leads_get, leads_pure, leads_modify]

theorem launch_spares {q : StreamRequest} : (launch call q : DeskTask κ ρ Execution).Stands
    (Tabled allowed t) (Tabled allowed t) :=
  launch_stands (steadfast_tabled hooks) (fun hm => hm.onDesk fun h => h) fun hm => hm.onDesk fun h => h

theorem runStreamAsync_spares {q : StreamRequest} :
    Spares allowed t (runStreamAsync q : DeskTask κ ρ Nat) := by
  refine .after (launch_spares hooks) fun e => ?_
  intro m _
  unfold freshHandle desk
  simp only [leads_bind, leads_get, leads_pure, leads_modify,
    leads_log]

/-! ## Calls that register nothing -/

theorem runStream_spares {q : StreamRequest} :
    Spares allowed t (runStream q : DeskTask κ ρ Summary) :=
  .after (launch_spares hooks) fun _ => .of_stands (runtime_spares hooks fun h => h.join)

theorem freeRemote_spares : Spares allowed t (freeRemote handle : DeskTask κ ρ Unit) := by
  refine .after (platform_keeps .same) fun serial => .after (remote_keeps .same) fun r => ?_
  exact .after (runtime_spares hooks fun h => Memory.freeRemote_stands h.withstands)
    fun _ _ _ => trivial

omit hooks [Reentry κ (Desk ρ)] in
theorem remoteWrite_spares {data : Bytes} :
    Spares allowed t (remoteWrite handle data : DeskTask κ ρ Unit) := by
  refine .after (remote_keeps .same) fun r => .after .get fun m₀ => ?_
  dsimp only
  split
  · exact .of_stands (refuse_keeps .same nofun)
  · intro m hm
    unfold Memory.write
    rw [leads_bind, leads_mapError, leads_bind, leads_get,
      leads_bind, leads_answer]
    split
    · trivial
    · exact hm

theorem pollStream_spares : Spares allowed t (pollStream handle : DeskTask κ ρ Bool) := by
  intro m hm
  unfold pollStream holding
  rw [leads_bind]
  refine occupant_finds.mono (fun e m₁ h₁ => ?_) (fun _ _ h => hm.beside h.1) fun _ _ => trivial
  rw [leads_mk, Act.leads_onCutOff, leads_run]
  exact (runtime_spares hooks (fun h => h.withstands.isComplete) m₁
    (hm.beside h₁.1)).mono (fun _ _ _ => trivial) (fun _ _ h => h) fun _ _ => trivial

/-! ## The two releases that give a handle up first -/

/-- A release that a runtime makes with one driver call. -/
theorem release_fails {wrap : DriverError → Error} {c : Command Unit} {event : Event}
    (hm : Tabled allowed t m) :
    (onRuntime serial call (do
      Machine.driveAs wrap c
      log event)).Leads m (fun _ _ => True)
      (fun err m' => Tabled allowed t m' ∧ ∃ d, err = ⟨call, .runtime (wrap d)⟩ ∧
        m'.LastRefused c.operation d) fun _ => True := by
  have hI := steadfast_tabled (t := t) hooks
  unfold onRuntime Machine.driveAs
  rw [leads_mk, Machine.leads_withPlatform, leads_run, leads_mapError,
    leads_bind, leads_mapError]
  refine ((hI.drive _ (hI.focus hm)).and Machine.drive_refused).mono (fun _ _ _ => trivial)
    (fun d m₁ ⟨h₁, hrefused⟩ => ?_) fun _ _ => trivial
  refine ⟨hI.focus h₁, d, rfl, ?_⟩
  unfold Machine.LastRefused
  rw [Machine.history_focus]
  exact hrefused

theorem freeImage_fails (hm : Tabled allowed m.host.tables m) :
    (freeImage handle).Leads m (fun _ _ => True)
      (fun err m' => m'.host.tables = m.host.tables ∨ ∃ image d,
        m.host.images.get? handle = some image ∧
        m'.host.tables = { m.host with images := m.host.images.erase handle }.tables ∧
        err = ⟨"free_image", .runtime (.execution d)⟩ ∧ m'.LastRefused .freeImage d)
      fun _ => True := by
  unfold freeImage platform desk
  simp only [leads_bind, leads_get, leads_pure]
  split
  · rename_i serial _
    simp only [leads_pure]
    split
    · exact .inl rfl
    · rename_i image himage
      simp only [leads_bind, leads_get, leads_pure]
      split
      · exact .inl rfl
      · rw [leads_bind, leads_modify]
        have hgiven : Tabled allowed ({ m.host with images := m.host.images.erase handle }).tables
            (onDesk (fun d => { d with images := d.images.erase handle }) m) := hm.onDesk fun _ => rfl
        refine (release_fails hooks hgiven).mono (fun _ _ h => h) (fun err m' h => ?_) fun _ h => h
        obtain ⟨htables, d, rfl, hrefused⟩ := h
        exact .inr ⟨image, d, himage, htables.known, rfl, hrefused⟩
  · exact .inl rfl

theorem freeLocal_fails (hm : Tabled allowed m.host.tables m) :
    (freeLocal handle).Leads m (fun _ _ => True)
      (fun err m' => m'.host.tables = m.host.tables ∨ ∃ l d,
        m.host.locals.get? handle = some l ∧
        m'.host.tables = { m.host with locals := m.host.locals.erase handle }.tables ∧
        err = ⟨"free_local", .runtime (.allocation d)⟩ ∧ m'.LastRefused .freeResource d)
      fun _ => True := by
  unfold freeLocal platform desk
  simp only [leads_bind, leads_get, leads_pure]
  split
  · rename_i serial _
    simp only [leads_pure]
    split
    · exact .inl rfl
    · rename_i l hl
      rw [leads_bind, leads_modify]
      have hgiven : Tabled allowed ({ m.host with locals := m.host.locals.erase handle }).tables
          (onDesk (fun d => { d with locals := d.locals.erase handle }) m) := hm.onDesk fun _ => rfl
      refine (release_fails hooks hgiven).mono (fun _ _ h => h) (fun err m' h => ?_) fun _ h => h
      obtain ⟨htables, d, rfl, hrefused⟩ := h
      exact .inr ⟨l, d, hl, htables.known, rfl, hrefused⟩
  · exact .inl rfl

end Desk

namespace Scenario

open Desk

/-- The instructions that join an execution or give everything up. -/
def DeskStep.ends : DeskStep → Bool
  | .joinStream _ => true
  | .joinStreamWithin _ _ => true
  | .shutdown => true
  | _ => false

/-- The driver refuses a release whose handle is known, and of all handles only that one is gone
    afterwards; the object it stood for was not freed. -/
inductive Forfeits (m m' : DeskScene) : DeskStep → DeskError → Prop
  | image {handle : Nat} {image : Image} {d : DriverError}
    (known : m.host.images.get? handle = some image)
    (gone : m'.host.tables = { m.host.tables with images := m.host.images.erase handle })
    (refused : m'.LastRefused .freeImage d) :
    Forfeits m m' (.freeImage handle) ⟨"free_image", .runtime (.execution d)⟩
  | localResource {handle : Nat} {l : Local} {d : DriverError}
    (known : m.host.locals.get? handle = some l)
    (gone : m'.host.tables = { m.host.tables with locals := m.host.locals.erase handle })
    (refused : m'.LastRefused .freeResource d) :
    Forfeits m m' (.freeLocal handle) ⟨"free_local", .runtime (.allocation d)⟩

section Calls

variable [Reentry (List (Step DeskStep)) (Desk Stage)] {allowed : List (Step DeskStep) → Prop}
  {t : Tables} {m : DeskScene}

/-- Every other call leaves the tables as they were, if it fails. -/
theorem performAtDesk_spares (hooks : Discreet Stage allowed) {i : DeskStep} (hi : i.ends = false)
    (himage : ∀ handle, i ≠ .freeImage handle) (hlocal : ∀ handle, i ≠ .freeLocal handle) :
    Spares allowed t (performAtDesk i) := by
  cases i with
  -- Installing a platform never fails.
  | install spec config =>
    intro m _
    refine leads_bind.mpr (leads_perform.mpr ?_)
    exact Act.leads_true.mono (fun _ _ _ => trivial) fun _ _ => trivial
  | installVendor => exact .of_stands (.bind (refuse_keeps .same nofun) fun _ => .pure)
  | startTracing env =>
    intro m hm
    refine leads_bind.mpr ?_
    unfold startTracing
    split
    · trivial
    · exact hm
    · exact hm
  | countDevices =>
    exact .value (.after (platform_keeps .same) fun _ => .of_stands (runtime_spares hooks fun h =>
      Devices.count_stands h.withstands.aside))
  | compile source => exact .value (compile_spares hooks)
  | freeImage handle => exact absurd rfl (himage handle)
  | shutdown => cases hi
  | allocRemote device width height code flags => exact .value (allocRemote_spares hooks)
  | allocLocal device width height code flags => exact .value (allocLocal_spares hooks)
  | freeRemote handle => exact .value (freeRemote_spares hooks)
  | freeLocal handle => exact absurd rfl (hlocal handle)
  | remoteInfo handle => exact .value (.of_stands remoteInfo_keeps)
  | remoteRead handle offset count => exact .value (.of_stands remoteRead_keeps)
  | remoteWrite handle data => exact .value remoteWrite_spares
  | runStream q => exact .value (runStream_spares hooks)
  | runStreamAsync q => exact .value (runStreamAsync_spares hooks)
  | pollStream handle => exact .value (pollStream_spares hooks)
  | joinStream handle => cases hi
  | joinStreamWithin handle micros => cases hi
  | counts => exact .of_stands (.bind desk_keeps fun _ => .pure)
  | version => exact .of_stands .pure
  | constants => exact .of_stands .pure

end Calls

/-- A call that fails leaves every handle with its object, joins and shutdowns apart; but a refused
    release of an image or of a local resource has given the handle up. -/
theorem failed_call_keeps_handles {reentry : Reentry (List (Step DeskStep)) (Desk Stage)}
    {allowed : List (Step DeskStep) → Prop} {i : DeskStep} {m m' : DeskScene} {err : DeskError}
    (hooks : Discreet Stage allowed) (hm : ∀ p ∈ m.platforms, ∀ hook ∈ p.hooks, allowed hook.2)
    (hi : i.ends = false) (hfails : (performAtDesk i).run m = (.ok (.error err), m')) :
    m'.host.tables = m.host.tables ∨ Forfeits m m' i err := by
  have htabled : Tabled allowed m.host.tables m := ⟨hm, rfl⟩
  by_cases himage : ∃ handle, i = .freeImage handle
  · obtain ⟨handle, rfl⟩ := himage
    have hcall : (performAtDesk (.freeImage handle)).Leads m (fun _ _ => True) _ fun _ => True :=
      leads_bind.mpr ((freeImage_fails hooks htabled).imp fun _ _ h => h)
    rcases hcall.of_eq_error hfails with h | ⟨image, d, hknown, hgone, rfl, hrefused⟩
    · exact .inl h
    · exact .inr (.image hknown hgone hrefused)
  by_cases hlocal : ∃ handle, i = .freeLocal handle
  · obtain ⟨handle, rfl⟩ := hlocal
    have hcall : (performAtDesk (.freeLocal handle)).Leads m (fun _ _ => True) _ fun _ => True :=
      leads_bind.mpr ((freeLocal_fails hooks htabled).imp fun _ _ h => h)
    rcases hcall.of_eq_error hfails with h | ⟨l, d, hknown, hgone, rfl, hrefused⟩
    · exact .inl h
    · exact .inr (.localResource hknown hgone hrefused)
  have hspares := performAtDesk_spares (t := m.host.tables) hooks hi
    (fun handle h => himage ⟨handle, h⟩) fun handle h => hlocal ⟨handle, h⟩
  exact .inl ((hspares m htabled).of_eq_error hfails).known

/-- A remote resource that the driver will refuse to free, once. -/
def reluctantScene : DeskScene :=
  deskAfter 0 [.own (.install {} {}), .own (.allocRemote 0 1 1 0 0),
    .control (.failOn (some .freeResource) 1)] deskOpening

def reluctantFree : Except Abort (Except DeskError Value) × DeskScene :=
  (@performAtDesk (deskHooks 0) (.freeRemote 1)).run reluctantScene

/-- The resource keeps its handle. -/
theorem reluctantFree_keeps_handle :
    (reluctantFree.1 = .ok (.error ⟨"free_remote",
        .runtime (.allocation ⟨"calResFree", "injected failure on call 1"⟩)⟩) ∧
      (reluctantScene.host.remotes.get? 1).isSome = true) ∧
      reluctantFree.2.host.tables = reluctantScene.host.tables := by
  have hanswer : reluctantFree.1 = .ok (.error ⟨"free_remote",
      .runtime (.allocation ⟨"calResFree", "injected failure on call 1"⟩)⟩) := by decide +kernel
  have hhookless : ∀ p ∈ reluctantScene.platforms, p.hooks.isEmpty = true := by decide +kernel
  have hdiscreet : @Discreet _ Stage (deskHooks 0) fun _ => False := fun _ _ _ h => h.elim
  have hfails : reluctantFree = (.ok (.error ⟨"free_remote",
      .runtime (.allocation ⟨"calResFree", "injected failure on call 1"⟩)⟩), reluctantFree.2) := by
    rw [← hanswer]
  have hhooks : ∀ p ∈ reluctantScene.platforms, ∀ hook ∈ p.hooks, False := by
    intro p hp hook hhook
    rw [List.isEmpty_iff.mp (hhookless p hp)] at hhook
    cases hhook
  refine ⟨⟨hanswer, by decide +kernel⟩, ?_⟩
  rcases failed_call_keeps_handles hdiscreet hhooks rfl hfails with h | h
  · exact h
  · cases h

/-- A release is refused once and tried again. -/
def releasedTwice (make : DeskStep) (op : Operation) (release : DeskStep) :
    List (Step DeskStep) :=
  [.own (.install {} {}), .own make, .control (.failOn (some op) 1), .own release, .own release]

/-- An image, or a local resource, whose release the driver refused once cannot be released any
    more, although the driver still has it. -/
theorem refused_release_loses_handle :
    ((playDesk (releasedTwice (.compile "o0") .freeImage (.freeImage 1))).map
        fun r => (r.outcome, r.driver.map (·.2.images))).drop 3 =
      [(.error (.desk ⟨"free_image",
          .runtime (.execution ⟨"calclFreeImage", "injected failure on call 1"⟩)⟩), some 1),
        (.error (.desk ⟨"free_image", .unknownHandle .image 1⟩), some 1)] ∧
    ((playDesk (releasedTwice (.allocLocal 0 1 1 0 0) .freeResource (.freeLocal 1))).map
        fun r => (r.outcome, r.driver.map (·.2.resources))).drop 3 =
      [(.error (.desk ⟨"free_local",
          .runtime (.allocation ⟨"calResFree", "injected failure on call 1"⟩)⟩), some 1),
        (.error (.desk ⟨"free_local", .unknownHandle .localResource 1⟩), some 1)] := by
  decide +kernel

end Scenario

end StreamCompute
