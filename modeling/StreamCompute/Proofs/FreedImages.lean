/-
  StreamCompute.Proofs.FreedImages

  What joining an execution does not depend on. An execution keeps the module
  that was loaded from its image, not the image. So if the image is freed
  before the execution is joined, the join has the same answer and makes the
  same driver calls, and leaves everything as it would have been left, but for
  the image.

  The two drivers differ in the image, in the one call that freed it, and in
  nothing else. Injected failures of other entry points strike both alike.
-/
import StreamCompute.Proofs.Alike
import StreamCompute.Proofs.DeskStanding

namespace StreamCompute

/-! ## Drivers -/

namespace Simulator

/-- The second driver is the first without the image. Since the image was freed, when the first
    one's log was `base`, both have handled the same calls. -/
structure Without (image : Ident .image) (base : List Call) (s s' : Simulator) : Prop where
  same : ∃ calls counts notices,
    s' = { s with images := s.images.erase image, calls, counts, notices }
  calls : ∃ since, s.calls = since ++ base ∧ s'.calls = since ++ .freeImage image :: base
  counts : ∀ op, op ≠ .freeImage → s'.callCount op = s.callCount op

theorem Blind.without {image : Ident .image} {base : List Call} :
    Blind (· = .freeImage) (Without image base) where
  same h := by
    obtain ⟨calls, counts, notices, rfl⟩ := h.same
    exact ⟨_, calls, counts, notices, rfl⟩
  counts h := h.counts
  logged h := by
    refine ⟨?_, ?_, fun op hop => ?_⟩
    · obtain ⟨_, _, notices, rfl⟩ := h.same
      exact ⟨_, _, notices, rfl⟩
    · obtain ⟨since, hleft, hright⟩ := h.calls
      exact ⟨_ :: since, congrArg _ hleft, congrArg _ hright⟩
    · rw [callCount_logged, callCount_logged, h.counts op hop]
  notices f h := by
    refine ⟨?_, h.calls, h.counts⟩
    obtain ⟨calls, counts, notices, rfl⟩ := h.same
    exact ⟨calls, counts, f notices, rfl⟩
  -- A change that is the same whatever the images, the log and the counts are leaves them alone.
  change := fun {s s' f} hf h => by
    have hfixed : ∀ s, (f s).images = s.images ∧ (f s).calls = s.calls ∧
        (f s).counts = s.counts := by
      intro s
      have hs := hf s s.images s.calls s.counts s.notices
      exact ⟨(congrArg images hs :), (congrArg Simulator.calls hs :),
        (congrArg Simulator.counts hs :)⟩
    refine ⟨?_, ?_, fun op hop => ?_⟩
    · obtain ⟨calls, counts, notices, rfl⟩ := h.same
      rw [hf, (hfixed s).1]
      exact ⟨calls, counts, notices, rfl⟩
    · rw [(hfixed s).2.1, (hfixed s').2.1]
      exact h.calls
    · unfold callCount
      rw [(hfixed s).2.2, (hfixed s').2.2]
      exact h.counts op hop

/-- On all other platforms nothing differs. -/
theorem Blind.eq : Blind (· = .freeImage) (Eq : Simulator → Simulator → Prop) where
  same h := ⟨_, _, _, _, h.symm⟩
  counts h _ _ := h ▸ rfl
  logged h := h ▸ rfl
  notices _ h := h ▸ rfl
  change _ h := h ▸ rfl

end Simulator

/-! ## Joining -/

variable {κ ω α ε : Type} {D : Simulator → Simulator → Prop} {base base' m m' : Machine κ ω}
  {e : Execution}

/-- In step, with the same known of kernels on both sides. -/
def Machine.Together (D : Simulator → Simulator → Prop) (base base' m m' : Machine κ ω) : Prop :=
  ∃ progress, InStep D { base with progress } { base' with progress } m m'

namespace Machine.Together

theorem journal (h : Together D base base' m m') {journal journal' : List Event} :
    Together D base base' { m with journal } { m' with journal := journal' } :=
  h.imp fun _ h => h.journal

theorem known (h : Together D base base' m m') : e.progress m' = e.progress m := by
  obtain ⟨_, h⟩ := h
  exact h.known.2.trans h.known.1.symm

theorem onProgress (h : Together D base base' m m') {f : Progress → Progress} :
    Together D base base' (e.onProgress f m) (e.onProgress f m') := by
  obtain ⟨progress, h⟩ := h
  refine ⟨(e.onProgress f m).progress, { h with
    left := ⟨h.left.1, h.left.2.1, rfl, h.left.2.2.2⟩, right := ⟨h.right.1, ?_, h.right.2.2⟩ }⟩
  rw [Execution.onProgress, h.known.2, h.right.2.1, Execution.onProgress, h.known.1, h.left.2.2.1]
  rfl

theorem regardless {act : Fallible ε (Machine κ ω) α}
    (h : ∀ base base' : Machine κ ω, act.Regardless (InStep D base base')) :
    act.Regardless (Together D base base') := by
  rintro m m' ⟨progress, hm⟩
  obtain ⟨hsame, hn, hend⟩ := h _ _ m m' hm
  exact ⟨hsame, ⟨progress, hn⟩, hend⟩

end Machine.Together

namespace Execution

open Machine

variable [Reentry κ ω] {quiet : Operation → Prop} (hD : Simulator.Blind quiet D)
  (hquiet : ∀ op, quiet op → op = .freeImage)

include hD hquiet

theorem finalize_together {failure : Option Error} :
    (some <$> finalize e failure).Regardless (Together D base base') := by
  rintro m m' ⟨progress, hm⟩
  have hfinalize : (some <$> finalize e failure).Regardless
      (InStep D { base with progress } { base' with progress }) :=
    finalize_inStep hD (fun op _ hop h => hop (hquiet op h)) (fun _ h => nomatch hquiet _ h)
      fun _ _ => rfl
  obtain ⟨hsame, hn, hend⟩ := hfinalize m m' hm
  exact ⟨hsame, ⟨progress, hn⟩, hend⟩

theorem isComplete_together : (isComplete e).Regardless (Together D base base') := by
  have hcheck : (Completion.check .runProgram e.context e.event).Regardless
      (Together D base base') :=
    Together.regardless fun _ _ => InStep.check hD fun h => nomatch hquiet _ h
  refine .get fun m m' h => ?_
  rw [h.known]
  split
  · exact .pure
  · exact .bind (.change fun _ _ h => h.onProgress) fun _ => .bind (.mapError hcheck) fun _ =>
      .bind (.change fun _ _ h => h.onProgress) fun _ => .pure

theorem joinWithin_together {limit : Option Nat} :
    (joinWithin e limit).Regardless (Together D base base') := by
  have hawait : (await e limit).Regardless (Together D base base') :=
    Together.regardless fun _ _ => .onCutOff (Fallible.Agree.timed (fun _ _ _ h => h.journal)
      (InStep.wait hD fun h => nomatch hquiet _ h)) fun _ _ h => h.journal
  refine .get fun m m' h => ?_
  rw [h.known]
  split
  · exact finalize_together hD hquiet
  refine .bind (.perform hawait) fun answer => ?_
  obtain err | (polls | polls) := answer
  · exact .bind (.change fun _ _ h => h.journal) fun _ => finalize_together hD hquiet
  · exact .bind (.change fun _ _ h => h.onProgress) fun _ => finalize_together hD hquiet
  · exact .bind (.change fun _ _ h => h.onProgress) fun _ => .get fun _ _ _ =>
      .bind (.change fun _ _ h => h.journal) fun _ => .pure

theorem join_together : (join e).Regardless (Together D base base') := by
  refine .bind (joinWithin_together hD hquiet) fun summary => ?_
  cases summary with
  | some summary => exact .pure
  | none => exact .throw

end Execution

/-! ## Desks -/

namespace Desk

variable {ρ : Type} {D : Nat → Simulator → Simulator → Prop} {handle t : Nat} {call : String}
  {m m' n n' : Machine κ (Desk ρ)}

/-- No hook waits on either machine. The drivers of their platforms are related, and the second
    desk does not know the image; nothing else differs but logs. -/
structure Parted (D : Nat → Simulator → Simulator → Prop) (handle : Nat)
    (m m' : Machine κ (Desk ρ)) : Prop where
  inUse : m'.platform.serial = m.platform.serial
  labelled : m.Labelled ∧ m'.Labelled
  hooks : ∀ t p, m.platform? t = some p → p.hooks = []
  platforms : ∀ t, Option.Rel (fun p p' => ∃ driver, p' = { p with driver } ∧ D t p.driver driver)
    (m.platform? t) (m'.platform? t)
  records : m'.remotes = m.remotes ∧ m'.progress = m.progress ∧ m'.arenas = m.arenas
  host : m'.host = { m.host with images := m.host.images.erase handle }

/-- The drivers, of which the one with this serial number has freed the image. -/
def freedOn (serial : Nat) (image : Ident .image) (base : List Call) (t : Nat) :
    Simulator → Simulator → Prop :=
  if t = serial then Simulator.Without image base else Eq

theorem freedOn_blind {serial : Nat} {image : Ident .image} {base : List Call} (t : Nat) :
    Simulator.Blind (· = .freeImage) (freedOn serial image base t) := by
  unfold freedOn
  split
  · exact .without
  · exact .eq

namespace Parted

/-- A machine, and the same without the image. -/
theorem erased (hlabelled : m.Labelled) (hooks : ∀ t p, m.platform? t = some p → p.hooks = []) :
    Parted (fun _ => Eq) handle m
      (Desk.onDesk (fun d => { d with images := d.images.erase handle }) m) := by
  refine ⟨rfl, ⟨hlabelled, hlabelled⟩, hooks, fun t => ?_, ⟨rfl, rfl, rfl⟩, rfl⟩
  change Option.Rel _ (m.platform? t) (m.platform? t)
  cases m.platform? t with
  | none => exact .none
  | some p => exact .some ⟨p.driver, rfl, rfl⟩

theorem onDesk (h : Parted D handle m m') {f : Desk ρ → Desk ρ}
    (hf : ∀ d images, f { d with images } = { f d with images }) :
    Parted D handle (Desk.onDesk f m) (Desk.onDesk f m') := by
  refine ⟨h.inUse, h.labelled, h.hooks, h.platforms, h.records, ?_⟩
  have himages : (f m.host).images = m.host.images := (congrArg Desk.images (hf m.host _) :)
  show f m'.host = _
  rw [h.host, hf, ← himages]
  rfl

theorem journal (h : Parted D handle m m') {journal journal' : List Event} :
    Parted D handle { m with journal } { m' with journal := journal' } :=
  ⟨h.inUse, h.labelled, h.hooks, h.platforms, h.records, h.host⟩

theorem focus (h : Parted D handle m m') : Parted D handle (m.focus t) (m'.focus t) := by
  have hinUse : (m'.focus t).platform.serial = (m.focus t).platform.serial := by
    unfold Machine.focus
    rw [h.inUse]
    by_cases ht : m.platform.serial = t
    · rw [if_pos ht, if_pos ht]
      exact h.inUse
    · have hplatforms := h.platforms t
      rw [Machine.platform?_of_ne ht, Machine.platform?_of_ne (h.inUse ▸ ht)] at hplatforms
      rw [if_neg ht, if_neg ht]
      generalize m.parked.get? t = p, m'.parked.get? t = p' at hplatforms
      cases hplatforms with
      | none => exact h.inUse
      | some hp =>
        obtain ⟨_, rfl, -⟩ := hp
        rfl
  refine ⟨hinUse, ⟨h.labelled.1.focus, h.labelled.2.focus⟩, ?_, ?_, ?_, ?_⟩
  · rw [Machine.platform?_focus h.labelled.1]
    exact h.hooks
  · rw [Machine.platform?_focus h.labelled.1, Machine.platform?_focus h.labelled.2]
    exact h.platforms
  · obtain ⟨_, _, hleft⟩ := Machine.focus_eq t m
    obtain ⟨_, _, hright⟩ := Machine.focus_eq t m'
    rw [hleft, hright]
    exact h.records
  · obtain ⟨_, _, hleft⟩ := Machine.focus_eq t m
    obtain ⟨_, _, hright⟩ := Machine.focus_eq t m'
    rw [hleft, hright]
    exact h.host

theorem back (hlabelled : m.Labelled) (h : Parted D handle (m.focus t) n) :
    Parted D handle m (n.focus m.platform.serial) := by
  have hback := h.focus (t := m.platform.serial)
  have hview : ((m.focus t).focus m.platform.serial).platform? = m.platform? :=
    (Machine.platform?_focus hlabelled.focus).trans (Machine.platform?_focus hlabelled)
  have hserial : ((m.focus t).focus m.platform.serial).platform.serial = m.platform.serial :=
    hlabelled.focus.serial_focus
      ((Machine.platform?_focus hlabelled).symm ▸ Machine.platform?_of_eq rfl)
  have hrest : ((m.focus t).focus m.platform.serial).remotes = m.remotes ∧
      ((m.focus t).focus m.platform.serial).progress = m.progress ∧
      ((m.focus t).focus m.platform.serial).arenas = m.arenas ∧
      ((m.focus t).focus m.platform.serial).host = m.host := by
    obtain ⟨_, _, hfirst⟩ := Machine.focus_eq t m
    obtain ⟨_, _, hsecond⟩ := Machine.focus_eq m.platform.serial (m.focus t)
    rw [hsecond, hfirst]
    exact ⟨rfl, rfl, rfl, rfl⟩
  obtain ⟨hremotes, hprogress, harenas, hhost⟩ := hrest
  obtain ⟨hinUse, hlabelled', hhooks, hplatforms, hrecords, hhost'⟩ := hback
  rw [hview] at hhooks hplatforms
  rw [hremotes, hprogress, harenas] at hrecords
  exact ⟨hinUse.trans hserial, ⟨hlabelled, hlabelled'.2⟩, hhooks, hplatforms, hrecords,
    hhost ▸ hhost'⟩

theorem together (h : Parted D handle m m') :
    Machine.Together (D m.platform.serial) m m' m m' := by
  have hplatform := h.platforms m.platform.serial
  rw [Machine.platform?_of_eq rfl, Machine.platform?_of_eq h.inUse] at hplatform
  cases hplatform with
  | some hp =>
    obtain ⟨driver, hp, hdriver⟩ := hp
    exact ⟨m.progress, {
      platform := by rw [hp]
      driver := hp ▸ hdriver
      hooks := h.hooks _ _ (Machine.platform?_of_eq rfl)
      records := ⟨h.records.1, h.records.2.2⟩
      left := ⟨rfl, rfl, rfl, rfl⟩
      right := ⟨rfl, h.records.2.1, rfl⟩ }⟩

/-- On the second machine, the platform in use has freed the image. -/
theorem freed (h : Parted (fun _ => Eq) handle m m') {image : Ident .image} {e : Event} :
    Parted (freedOn m.platform.serial image m.platform.driver.calls) handle m
      (Journaled.record e (m'.handled .freeImage .accepted
        { m'.platform.driver.logged (.freeImage image) with
          images := m'.platform.driver.images.erase image })) := by
  refine ⟨h.inUse, h.labelled, h.hooks, fun t => ?_, h.records, h.host⟩
  generalize hn : Journaled.record e (m'.handled ..) = n
  have hserial : n.platform.serial = m.platform.serial := hn ▸ h.inUse
  by_cases ht : m.platform.serial = t
  · have hown := h.platforms t
    rw [Machine.platform?_of_eq ht, Machine.platform?_of_eq (h.inUse.trans ht)] at hown
    rw [Machine.platform?_of_eq ht, Machine.platform?_of_eq (hserial.trans ht), freedOn,
      if_pos ht.symm, ← hn]
    cases hown with
    | some hp =>
      obtain ⟨_, hp, rfl⟩ := hp
      obtain ⟨platform, _, _, _, _, _, _, _⟩ := m'
      dsimp only at hp
      subst hp
      exact .some ⟨_, rfl, ⟨_, _, _, rfl⟩, ⟨[], rfl, rfl⟩, fun op hop =>
        (Simulator.callCount_logged ..).trans (if_neg (Ne.symm hop))⟩
  · have hother := h.platforms t
    rw [Machine.platform?_of_ne ht, Machine.platform?_of_ne (h.inUse ▸ ht)] at hother
    rw [Machine.platform?_of_ne ht, Machine.platform?_of_ne (hserial ▸ ht), freedOn,
      if_neg (Ne.symm ht), ← hn]
    exact hother

/-- What was done on the platforms in use leaves the machines so. -/
theorem of_together (h : Parted D handle m m')
    (hn : Machine.Together (D m.platform.serial) m m' n n') : Parted D handle n n' := by
  obtain ⟨progress, hn⟩ := hn
  obtain ⟨hserial, hparked, hprogress, hhost⟩ := hn.left
  obtain ⟨hparked', hprogress', hhost'⟩ := hn.right
  -- Platforms that are not in use were not touched.
  have hother : ∀ t, n.platform.serial ≠ t →
      n.platform? t = m.platform? t ∧ n'.platform? t = m'.platform? t := by
    intro t ht
    have hm : m.platform.serial ≠ t := fun heq => ht (hserial.trans heq)
    rw [Machine.platform?_of_ne ht, Machine.platform?_of_ne hm, hparked,
      Machine.platform?_of_ne (hn.serial ▸ ht), Machine.platform?_of_ne (h.inUse ▸ hm), hparked']
    exact ⟨rfl, rfl⟩
  refine ⟨hn.serial, ⟨?_, ?_⟩, fun t p hp => ?_, fun t => ?_, ⟨hn.records.1, ?_, hn.records.2⟩, ?_⟩
  · unfold Machine.Labelled
    rw [hparked]
    exact h.labelled.1
  · unfold Machine.Labelled
    rw [hparked']
    exact h.labelled.2
  · by_cases ht : n.platform.serial = t
    · rw [Machine.platform?_of_eq ht] at hp
      cases hp
      exact hn.hooks
    · exact h.hooks t p ((hother t ht).1 ▸ hp)
  · by_cases ht : n.platform.serial = t
    · rw [Machine.platform?_of_eq ht, Machine.platform?_of_eq (hn.serial.trans ht), ← ht, hserial]
      exact .some ⟨_, hn.platform, hn.driver⟩
    · rw [(hother t ht).1, (hother t ht).2]
      exact h.platforms t
  · rw [hprogress, hprogress']
  · rw [hhost, hhost', ← h.host]

end Parted

section Joining

variable [Reentry κ (Desk ρ)] {quiet : Operation → Prop} (hD : ∀ t, Simulator.Blind quiet (D t))
  (hquiet : ∀ op, quiet op → op = .freeImage)

omit [Reentry κ (Desk ρ)] in
theorem onRuntime_parted {task : Task κ (Desk ρ) α} (htask : ∀ t (base base' : Machine κ (Desk ρ)),
      task.Regardless (Machine.Together (D t) base base')) :
    (onRuntime t call task).Regardless (Parted D handle) := by
  intro m m' h
  have hfocus := h.focus (t := t)
  obtain ⟨hsame, hn, hend⟩ := Fallible.Agree.mapError (f := fun e => DeskError.mk call (.runtime e))
    (htask _ _ _) (m.focus t) (m'.focus t) hfocus.together
  refine ⟨hsame, ?_, hend⟩
  change Parted D handle (Machine.focus m.platform.serial _) (Machine.focus m'.platform.serial _)
  rw [h.inUse]
  exact (hfocus.of_together hn).focus

omit [Reentry κ (Desk ρ)] in
theorem occupant_parted : (occupant call t).Regardless (Parted D handle (κ := κ) (ρ := ρ)) := by
  refine .get fun m m' h => ?_
  have hslots : m'.host.slots = m.host.slots := by rw [h.host]
  rw [hslots]
  cases m.host.slots.get? t with
  | none => exact .throw
  | some slot =>
    dsimp only
    cases slot.execution <;> split
    · exact .bind (.change fun _ _ h => h.journal) fun _ => .throw
    · exact .throw
    · exact .bind (.change fun _ _ h => h.journal) fun _ => .pure
    · exact .pure

include hD hquiet

omit [Reentry κ (Desk ρ)] hD hquiet in
theorem Parted.onSlot (h : Parted D handle m m') {f : Slot → Slot} :
    Parted D handle (Desk.onSlot t f m) (Desk.onSlot t f m') := by
  refine h.onDesk fun d images => ?_
  dsimp only
  split <;> rfl

theorem pollStream_parted : (pollStream t).Regardless (Parted D handle (κ := κ) (ρ := ρ)) :=
  .bind occupant_parted fun _ => .onCutOff (onRuntime_parted fun t _ _ =>
    Execution.isComplete_together (hD t) hquiet) fun _ _ h => h.onSlot

/-- The join of an execution whose image was freed meanwhile. -/
theorem joinStream_parted : (joinStream t).Regardless (Parted D handle (κ := κ) (ρ := ρ)) :=
  .bind occupant_parted fun _ => .bind (.change fun _ _ h => h.onDesk fun _ _ => rfl) fun _ =>
    onRuntime_parted fun t _ _ => Execution.join_together (hD t) hquiet

theorem joinStreamWithin_parted {micros : Nat} :
    (joinStreamWithin t micros).Regardless (Parted D handle (κ := κ) (ρ := ρ)) := by
  refine .bind occupant_parted fun e => .bind (.change fun _ _ h => h.onSlot) fun _ => ?_
  refine .bind (.perform (.onCutOff (onRuntime_parted fun t _ _ =>
    Execution.joinWithin_together (hD t) hquiet) fun _ _ h => h.onSlot)) fun answer => ?_
  obtain err | (_ | summary) := answer
  · exact .bind (.change fun _ _ h => h.onDesk fun _ _ => rfl) fun _ => .throw
  · exact .bind (.change fun _ _ h => h.onSlot) fun _ => .pure
  · exact .bind (.change fun _ _ h => h.onDesk fun _ _ => rfl) fun _ => .pure

end Joining

/-! ## Freeing -/

/-- Freeing an image parts the machines. -/
theorem freeImage_parted [Reentry κ (Desk ρ)] {serial : Nat} {p : Platform κ} {image : Image}
    (hlabelled : m.Labelled) (hooks : ∀ t p, m.platform? t = some p → p.hooks = [])
    (hinstalled : m.host.installed = some serial) (hp : m.platform? serial = some p)
    (himage : m.host.images.get? handle = some image) :
    (freeImage handle).Leads m
      (fun _ => Parted (freedOn serial image.id p.driver.calls) handle m) (fun _ _ => True)
      fun _ => True := by
  let erased := Desk.onDesk (fun d => { d with images := d.images.erase handle }) m
  have hleft : Parted (fun _ => Eq) handle m erased := .erased hlabelled hooks
  obtain ⟨_, hstep⟩ := (hleft.focus (t := serial)).together
  have hunhooked : (erased.focus serial).Unhooked fun _ => true := .of_nil hstep.hooks_right
  have hD : freedOn serial image.id p.driver.calls = freedOn (m.focus serial).platform.serial
      image.id (m.focus serial).platform.driver.calls := by
    rw [hlabelled.serial_focus hp, hlabelled.platform_focus hp]
  unfold freeImage platform desk
  simp only [Fallible.leads_bind, Fallible.leads_get, Fallible.leads_pure, hinstalled, himage]
  split
  · trivial
  · unfold onRuntime Images.free Machine.driveAs
    rw [Fallible.leads_bind, Fallible.leads_modify, Fallible.leads_mk, Machine.leads_withPlatform,
      Fallible.leads_run, Fallible.leads_mapError, Fallible.leads_bind, Fallible.leads_mapError,
      Machine.leads_drive hunhooked rfl]
    refine Simulator.freeImage_leads (fun _ => trivial) ?_
    rw [Fallible.leads_log, hD]
    exact hleft.focus.freed.back hlabelled

end Desk

end StreamCompute
