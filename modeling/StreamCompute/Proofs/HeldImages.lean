/-
  StreamCompute.Proofs.HeldImages

  An image cannot be freed under a launch. From when a launch has found its
  image until it is over, the desk has a mark that the image is in use; an
  attempt to free it from a hook is refused and changes nothing at all. So the
  launch goes as it would have gone without such attempts.

  Once the launch is over its mark is gone, and the image can be freed, joined
  or not. `Proofs.FreedImages` tells what a later join makes of that.
-/
import StreamCompute.Proofs.Concurrence
import StreamCompute.Proofs.FreedImages
import StreamCompute.Proofs.Registration

namespace StreamCompute.Desk

open Fallible

variable {κ ρ : Type} {handle marks : Nat} {image : Image} {call : String} {q : StreamRequest}
  {m : Machine κ (Desk ρ)}

/-- A runtime is installed, the image is registered, and so many launches use it. -/
structure HasImage (handle : Nat) (image : Image) (marks : Nat) (d : Desk ρ) : Prop where
  installed : d.installed.isSome
  image : d.images.get? handle = some image
  held : d.held.count handle = marks

/-- So many launches use the image, and only such hooks wait. -/
abbrev holdingImage (allowed : κ → Prop) (handle : Nat) (image : Image) (marks : Nat) :
    Terms κ (Desk ρ) :=
  ⟨allowed, HasImage handle image marks⟩

/-- The refusal to free an image that is in use. -/
def inUse : DeskError :=
  ⟨"free_image", .imageInUse⟩

/-- An image in use cannot be freed, and the attempt leaves no trace. -/
theorem freeImage_refused [Reentry κ (Desk ρ)] (h : HasImage handle image (marks + 1) m.host) :
    (freeImage handle).run m = (.ok (.error inUse), m) := by
  obtain ⟨serial, hserial⟩ := Option.isSome_iff_exists.mp h.installed
  have hheld : m.host.held.contains handle = true :=
    List.contains_iff_mem.mpr (List.count_pos_iff.mp (h.held ▸ Nat.succ_pos marks))
  have hleads : (freeImage handle).Leads m (fun _ _ => False) (fun e m' => e = inUse ∧ m' = m)
      fun _ => False := by
    unfold freeImage platform desk
    simp only [leads_bind, leads_get, leads_pure, hserial, h.image, hheld, if_true]
    exact ⟨rfl, rfl⟩
  obtain ⟨_, _, hrun, rfl, rfl⟩ := run_of_leads_error hleads
  exact hrun

/-! ## Hooks that try to free the image -/

/-- However the act ends, it leaves the machine on the terms on which it found it. -/
def Retains {α : Type} (H : Terms κ (Desk ρ)) (act : Act (Machine κ (Desk ρ)) α) : Prop :=
  ∀ m, m.OnTerms H → (act m).2.OnTerms H

/-- The second act is the first, but takes it for granted that the image cannot be freed. Both keep
    the machine on these terms meanwhile. -/
inductive TakesRefusal (handle : Nat) (H : Terms κ (Desk ρ)) :
    Act (Machine κ (Desk ρ)) Unit → Act (Machine κ (Desk ρ)) Unit → Prop
  | same {act : Act (Machine κ (Desk ρ)) Unit} (h : Retains H act) : TakesRefusal handle H act act
  | attempt {β : Type} (R : Reentry κ (Desk ρ)) {before : Act (Machine κ (Desk ρ)) β}
      {after : β → Except Abort (Except DeskError Unit) → Act (Machine κ (Desk ρ)) Unit}
      {after' : β → Act (Machine κ (Desk ρ)) Unit} (hbefore : Retains H before)
      (hafter : ∀ b, TakesRefusal handle H (after b (.ok (.error inUse))) (after' b)) :
      TakesRefusal handle H
        (do
          let b ← before
          let answer ← (freeImage handle).attempt.observe
          after b answer)
        (do
          let b ← before
          after' b)

/-- Wherever the image is in use, the two acts do the same. -/
theorem TakesRefusal.eq {allowed : κ → Prop} {act act' : Act (Machine κ (Desk ρ)) Unit}
    (h : TakesRefusal handle (holdingImage allowed handle image (marks + 1)) act act')
    (hm : m.OnTerms (holdingImage allowed handle image (marks + 1))) :
    act m = act' m ∧ (act m).2.OnTerms (holdingImage allowed handle image (marks + 1)) := by
  induction h generalizing m with
  | same h => exact ⟨rfl, h m hm⟩
  | attempt R hbefore _ ih =>
    rename_i before after after' _
    have hkept := hbefore m hm
    cases hrun : before m with
    | mk answer m₁ =>
      rw [hrun] at hkept
      cases answer with
      | error r =>
        rw [Act.bind_apply_of_error hrun, Act.bind_apply_of_error hrun]
        exact ⟨rfl, hkept⟩
      | ok b =>
        have hrefused : (freeImage handle).attempt.observe m₁ =
            (.ok (.ok (.error inUse)), m₁) := Act.observe_apply (freeImage_refused hkept.known)
        rw [Act.bind_apply_of_ok hrun, Act.bind_apply_of_ok hrun, Act.bind_apply_of_ok hrefused]
        exact ih b hkept

/-! ## Launching -/

section Launching

variable {R R' : Reentry κ (Desk ρ)} {H : Terms κ (Desk ρ)} {serial : Nat}

theorem onRuntime_concurs {α : Type} {task task' : Task κ (Desk ρ) α}
    (h : Fallible.Agree (Machine.Same H) True task task') :
    Fallible.Agree (Machine.Same H) True (onRuntime serial call task)
      (onRuntime serial call task') :=
  Act.Agree.bind (.still rfl) fun _ => .bind (.change (Machine.Same.change fun _ hm => hm.focus))
    fun _ => .ensuring (Fallible.Agree.mapError h) (Machine.Same.change fun _ hm => hm.focus)

theorem launchImage_concurs (h : ∀ op k, H.hooks k → Act.Concurs H R R' fun R => R.run op k) :
    Fallible.Concurs H R R' fun _ => launchImage call serial image q := by
  have hbindings : Fallible.Concurs H R R' fun _ => bindings call q := by
    refine .still (funext fun m => ?_)
    have hstill : (bindings call q).attempt.Leads m (fun _ => (· = m)) (· = m) :=
      Act.Upholds.attempt (bindings_keeps .same) m rfl
    exact congrArg Machine.surface hstill.final
  exact .bind (onRuntime_concurs (Devices.get_concurs h)) fun _ =>
    .bind hbindings fun _ => onRuntime_concurs (Launch.launch_concurs h)

/-- A launch sets a mark on its image for as long as it takes. -/
theorem run_launch (hserial : m.host.installed = some serial)
    (himage : m.host.images.get? q.image = some image) :
    (@launch κ ρ R call q).run m =
      (((@launchImage κ ρ R call serial image q).run (hold q.image m)).1,
        release q.image ((@launchImage κ ρ R call serial image q).run (hold q.image m)).2) := by
  have hplatform : (platform call).run m = (.ok (.ok serial), m) := by
    apply run_of_leads_ok
    simp only [platform, desk, leads_bind, leads_get, leads_pure, hserial, and_self]
  unfold launch
  rw [run_bind_of_ok hplatform, run_bind_of_ok (rfl : desk.run m = (.ok (.ok m.host), m)), himage]
  rfl

/-- While an image is registered and not in use, it can be freed if the driver frees it. -/
theorem freeImage_goes [Reentry κ (Desk ρ)] (hserial : m.host.installed = some serial)
    (himage : m.host.images.get? handle = some image) (hheld : handle ∉ m.host.held)
    {n : Machine κ (Desk ρ)}
    (hdrive : (Machine.drive (Simulator.freeImage image.id)).run
      ((onDesk (fun d => { d with images := d.images.erase handle }) m).focus serial) =
        (.ok (.ok ()), n)) :
    ∃ n', (freeImage handle).run m = (.ok (.ok ()), n') := by
  have hleads : (freeImage handle).Leads m (fun _ _ => True) (fun _ _ => False)
      fun _ => False := by
    unfold freeImage platform desk onRuntime Images.free Machine.driveAs
    simp only [leads_bind, leads_get, leads_pure, hserial, himage, List.contains_iff_mem, hheld,
      if_false, leads_modify, leads_mk, Machine.leads_withPlatform, leads_run, leads_mapError]
    unfold Leads
    rw [hdrive]
    trivial
  obtain ⟨_, n', hrun, -⟩ := answers_of_leads hleads
  exact ⟨n', hrun⟩

variable {allowed : κ → Prop} (hm : m.OnTerms (holdingImage allowed q.image image marks))
  (hhooks : ∀ op k, allowed k → TakesRefusal q.image
    (holdingImage allowed q.image image (marks + 1)) (R.run op k) (R'.run op k))

include hm hhooks

/-- A launch cannot tell whether hooks try to free its image, or are told at once that they
    cannot. -/
theorem launch_takesRefusal (call : String) :
    (@launch κ ρ R call q).run m = (@launch κ ρ R' call q).run m ∧
      ((@launch κ ρ R call q).run m).2.OnTerms (holdingImage allowed q.image image marks) := by
  obtain ⟨serial, hserial⟩ := Option.isSome_iff_exists.mp hm.known.installed
  have hheld : (hold q.image m).OnTerms (holdingImage allowed q.image image (marks + 1)) :=
    ⟨hm.hooks, hm.known.installed, hm.known.image,
      List.count_cons_self.trans (congrArg (· + 1) hm.known.held)⟩
  have hconcurs : Fallible.Concurs (holdingImage allowed q.image image (marks + 1)) R R'
      fun _ => launchImage call serial image q :=
    launchImage_concurs fun op k hk => by
      rintro _ n ⟨rfl, hn⟩
      obtain ⟨hact, hafter⟩ := (hhooks op k hk).eq hn
      exact ⟨(congrArg Prod.fst hact).symm, ⟨(congrArg Prod.snd hact).symm, hafter⟩, Or.inl trivial⟩
  obtain ⟨hanswer, ⟨hstate, hkept⟩, -⟩ := hconcurs (hold q.image m) _ ⟨rfl, hheld⟩
  have hsame := (Prod.ext hanswer hstate).symm
  rw [run_launch hserial hm.known.image, run_launch hserial hm.known.image, hsame]
  refine ⟨rfl, ?_⟩
  rw [← hsame]
  exact ⟨hkept.hooks, hkept.known.installed, hkept.known.image,
    List.count_erase_self.trans (congrArg (· - 1) hkept.known.held)⟩

/-- Registering the execution does not touch the image. -/
theorem runStreamAsync_takesRefusal :
    (@runStreamAsync κ ρ R q).run m = (@runStreamAsync κ ρ R' q).run m ∧
      ((@runStreamAsync κ ρ R q).run m).2.OnTerms (holdingImage allowed q.image image marks) := by
  obtain ⟨hsame, hafter⟩ := launch_takesRefusal hm hhooks "run_stream_async"
  refine ⟨run_bind_congr hsame, ?_⟩
  unfold runStreamAsync
  rcases hrun : (@launch κ ρ R "run_stream_async" q).run m with ⟨r | (err | e), m₁⟩
  all_goals rw [hrun] at hafter
  · rw [run_bind_of_cut hrun]
    exact hafter
  · rw [run_bind_of_error hrun]
    exact hafter
  · rw [run_bind_of_ok hrun]
    exact ⟨hafter.hooks, hafter.known.installed, hafter.known.image, hafter.known.held⟩

end Launching

end StreamCompute.Desk

namespace StreamCompute.Scenario

open Desk Fallible

/-! ## Attempts in a scenario -/

/-- What a hook is told that tried to free an image. -/
def told : Except Abort (Except DeskError Unit) → Outcome
  | .ok (.ok ()) => .ok .nothing
  | .ok (.error e) => .error (.desk e)
  | .error abort => .error (.cutOff abort.reason)

/-- Hooks that are told at once that the image is in use, as often as they have steps. -/
abbrev toldAtOnce : Reentry (List (Step DeskStep)) (Desk Stage) :=
  ⟨fun op steps => deskSession.report op (steps.map fun _ => told (.ok (.error inUse)))⟩

/-- The step is an attempt to free this image. -/
def frees (handle : Nat) : Step DeskStep → Bool
  | .own (.freeImage h) => h == handle
  | _ => false

/-- A hook that does nothing but try to free this image. -/
abbrev OnlyTries (handle : Nat) (steps : List (Step DeskStep)) : Prop :=
  steps.all (frees handle) = true

theorem eq_of_frees {handle : Nat} {step : Step DeskStep} (h : frees handle step = true) :
    step = .own (.freeImage handle) := by
  unfold frees at h
  split at h
  · rw [eq_of_beq h]
  · cases h

section Attempts

variable [Reentry (List (Step DeskStep)) (Desk Stage)] {handle marks : Nat} {image : Image}
  {allowed : List (Step DeskStep) → Prop} {op : Operation}

theorem takeWhole_freeImage : deskSession.takeWhole (.own (.freeImage handle)) =
    told <$> (freeImage handle : DeskPlay Unit).attempt.observe := by
  funext m
  rw [map_eq_pure_bind]
  rcases hrun : (freeImage handle : DeskPlay Unit).attempt m with ⟨r | (err | _), m'⟩
  all_goals rw [Act.bind_apply_of_ok (Act.observe_apply hrun)]
  · have htaken : deskSession.take (.own (.freeImage handle)) m = (.error r, m') :=
      Act.bind_apply_of_error (run_bind_of_cut hrun)
    exact Act.bind_apply_of_ok (Act.observe_apply htaken)
  · have htaken : deskSession.take (.own (.freeImage handle)) m = (.ok (.error (.desk err)), m') :=
      Act.bind_apply_of_ok (run_bind_of_error hrun)
    exact Act.bind_apply_of_ok (Act.observe_apply htaken)
  · have hdone : (performAtDesk (.freeImage handle)).attempt m = (.ok (.ok .nothing), m') :=
      run_bind_of_ok hrun
    have htaken : deskSession.take (.own (.freeImage handle)) m = (.ok (.ok .nothing), m') :=
      Act.bind_apply_of_ok hdone
    exact Act.bind_apply_of_ok (Act.observe_apply htaken)

/-- Hooks that only try might as well be told at once. -/
theorem playHook_takesRefusal {steps : List (Step DeskStep)} {outcomes : List Outcome}
    (hsteps : OnlyTries handle steps) :
    TakesRefusal handle (holdingImage allowed handle image marks)
      (deskSession.playHook op steps outcomes)
      (deskSession.report op (outcomes ++ steps.map fun _ => told (.ok (.error inUse)))) := by
  -- Induction on the steps, which are all alike. The session writes down one outcome for each.
  induction steps generalizing outcomes with
  | nil =>
    rw [List.map_nil, List.append_nil]
    exact .same fun m hm => ⟨hm.hooks, hm.known.installed, hm.known.image, hm.known.held⟩
  | cons step rest ih =>
    rw [OnlyTries, List.all_cons, Bool.and_eq_true] at hsteps
    obtain ⟨hstep, hrest⟩ := hsteps
    obtain rfl := eq_of_frees hstep
    have hplay : deskSession.playHook op (.own (.freeImage handle) :: rest) outcomes =
        (pure () : Act DeskScene Unit) >>= fun _ =>
          (freeImage handle : DeskPlay Unit).attempt.observe >>= fun answer =>
            deskSession.playHook op rest (outcomes ++ [told answer]) := by
      change (deskSession.takeWhole (.own (.freeImage handle)) >>= fun outcome =>
        deskSession.playHook op rest (outcomes ++ [outcome])) = _
      rw [pure_bind, takeWhole_freeImage, bind_map_left]
    have hreport : deskSession.report op (outcomes ++
          (Step.own (.freeImage handle) :: rest).map fun _ => told (.ok (.error inUse))) =
        (pure () : Act DeskScene Unit) >>= fun _ =>
          deskSession.report op ((outcomes ++ [told (.ok (.error inUse))]) ++
            rest.map fun _ => told (.ok (.error inUse))) := by
      rw [pure_bind, List.map_cons, List.append_assoc, List.singleton_append]
    rw [hplay, hreport]
    exact .attempt _ (fun _ hm => hm) fun _ => ih hrest

end Attempts

/-! ## The main theorem -/

/-- The task has the same answer on both machines, and leaves them related. -/
def GoesAlike {α : Type} (S : DeskScene → DeskScene → Prop) (m m' : DeskScene)
    (task : DeskPlay α) : Prop :=
  task.Pairs task m m' (fun a a' n n' => a = a' ∧ S n n') (fun e e' n n' => e = e' ∧ S n n')
    fun _ _ => False

/-- Executions are polled and joined alike on machines that are so related. -/
def JoinsAlike [Reentry (List (Step DeskStep)) (Desk Stage)] (S : DeskScene → DeskScene → Prop) :
    Prop :=
  ∀ m m', S m m' →
    (∀ call (e : Execution), GoesAlike S m m' (onRuntime e.home call e.join)) ∧
    ∀ handle, GoesAlike S m m' (pollStream handle) ∧ GoesAlike S m m' (joinStream handle) ∧
      ∀ micros, GoesAlike S m m' (joinStreamWithin handle micros)

/-- The image is registered, and can be freed if the driver frees it. If no hook waits then,
    whoever polls or joins executions afterwards does not notice. -/
structure FreeToGo [Reentry (List (Step DeskStep)) (Desk Stage)] (handle : Nat) (image : Image)
    (m : DeskScene) : Prop where
  registered : m.host.images.get? handle = some image
  freed : ∃ t p, m.host.installed = some t ∧ m.platform? t = some p ∧
    (∀ n, (Machine.drive (Simulator.freeImage image.id)).run
        ((onDesk (fun d => { d with images := d.images.erase handle }) m).focus t) =
          (.ok (.ok ()), n) →
      ∃ n', (freeImage handle).run m = (.ok (.ok ()), n')) ∧
    (m.Hookless → ∀ n', (freeImage handle).run m = (.ok (.ok ()), n') →
      Parted (freedOn t image.id p.driver.calls) handle m n' ∧
        JoinsAlike (Parted (freedOn t image.id p.driver.calls) handle))

theorem joinsAlike_freed [Reentry (List (Step DeskStep)) (Desk Stage)] {t handle : Nat}
    {image : Ident .image} {calls : List Call} :
    JoinsAlike (Parted (freedOn t image calls) handle) := by
  refine fun m m' h => ⟨fun call e => ?_, fun joined => ⟨?_, ?_, fun micros => ?_⟩⟩
  · exact (onRuntime_parted fun t _ _ =>
      Execution.join_together (freedOn_blind t) fun _ h => h).pairs h
  · exact (pollStream_parted freedOn_blind fun _ h => h).pairs h
  · exact (joinStream_parted freedOn_blind fun _ h => h).pairs h
  · exact (joinStreamWithin_parted freedOn_blind fun _ h => h).pairs h

theorem freeToGo [Reentry (List (Step DeskStep)) (Desk Stage)] {serial handle : Nat}
    {image : Image} {m : DeskScene} {allowed : List (Step DeskStep) → Prop}
    (hm : InSession serial m) (hterms : m.OnTerms (holdingImage allowed handle image 0)) :
    FreeToGo handle image m := by
  obtain ⟨t, ht⟩ := Option.isSome_iff_exists.mp hterms.known.installed
  obtain ⟨p, hp⟩ := hm.seated.installed t ht
  have hfree : handle ∉ m.host.held := List.count_eq_zero.mp hterms.known.held
  refine ⟨hterms.known.image, t, p, ht, hp, fun n => freeImage_goes ht hterms.known.image hfree,
    fun hookless n' hfreed => ⟨?_, joinsAlike_freed⟩⟩
  have hlabelled : m.Labelled := fun u q hq => (hm.seated.parked u q hq).1
  have hooks : ∀ u q, m.platform? u = some q → q.hooks = [] := by
    intro u q hq
    unfold Machine.platform? at hq
    split at hq
    · cases hq
      exact hookless _ (List.mem_cons_self ..)
    · exact hookless q (List.mem_cons_of_mem _ (Assoc.mem_values_of_get? hq))
  exact (freeImage_parted hlabelled hooks ht hp hterms.known.image).of_eq_ok hfreed

section Launches

variable {fuel serial : Nat} {m : DeskScene} {q : StreamRequest} {image : Image}
  {allowed : List (Step DeskStep) → Prop} {R' : Reentry (List (Step DeskStep)) (Desk Stage)}

/-- **An image cannot be freed under a launch, and is free to go afterwards.** Hooks that wait may
    try to free it, whenever they are called: they are refused, nothing has changed by it, and the
    launch goes as if they had been told without asking. -/
theorem image_stays_until_launched (hm : InSession serial m) (hinstalled : m.host.installed.isSome)
    (himage : m.host.images.get? q.image = some image)
    (hwaiting : ∀ p ∈ m.platforms, ∀ hook ∈ p.hooks, allowed hook.2)
    (hhooks : ∀ op steps, allowed steps → TakesRefusal q.image
      (holdingImage allowed q.image image (m.host.held.count q.image + 1))
      ((deskHooks fuel).run op steps) (R'.run op steps)) :
    (∀ (R : Reentry (List (Step DeskStep)) (Desk Stage)) (n : DeskScene),
      HasImage q.image image (m.host.held.count q.image + 1) n.host →
        (@freeImage _ _ R q.image).run n = (.ok (.error inUse), n)) ∧
    (@runStream _ _ (deskHooks fuel) q).run m =
      (do
        let e ← @launch _ _ R' "run_stream" q
        onRuntime e.home "run_stream" (@Execution.join _ _ (deskHooks fuel) e)).run m ∧
    (@runStreamAsync _ _ (deskHooks fuel) q).run m = (@runStreamAsync _ _ R' q).run m ∧
    (q.image ∉ m.host.held →
      (∀ answer m', (@launch _ _ (deskHooks fuel) "run_stream" q).run m = (answer, m') →
        @FreeToGo (deskHooks fuel) q.image image m') ∧
      ∀ answer m', (@runStreamAsync _ _ (deskHooks fuel) q).run m = (answer, m') →
        @FreeToGo (deskHooks fuel) q.image image m' ∧ ∀ handle, answer = .ok (.ok handle) →
          ∃ e, m'.host.slots.get? handle = some { execution := some e }) := by
  have hterms : m.OnTerms (holdingImage allowed q.image image (m.host.held.count q.image)) :=
    ⟨hwaiting, hinstalled, himage, rfl⟩
  -- Each launch goes alike under both kinds of hooks, and leaves the image with its old holders.
  obtain ⟨hlaunch, hlaunched⟩ := launch_takesRefusal hterms hhooks "run_stream"
  obtain ⟨hasync, hregistered⟩ := runStreamAsync_takesRefusal hterms hhooks
  refine ⟨fun R n hn => freeImage_refused hn, run_bind_congr hlaunch, hasync, fun hfree => ?_⟩
  -- If nobody else holds the image, nobody does once the launch has ended.
  have hnone : m.host.held.count q.image = 0 := List.count_eq_zero.mpr hfree
  rw [hnone] at hlaunched hregistered
  let := deskHooks fuel
  refine ⟨fun answer m' hrun => ?_, fun answer m' hrun => ⟨?_, fun handle hanswer => ?_⟩⟩
  · have hkept : (launch "run_stream" q).Leads m (fun _ => InSession serial)
        (fun _ => InSession serial) (InSession serial) :=
      (Desk.launch_leads (polite_anything fuel) lasting_true (fun _ _ => trivial) hm).imp
        fun _ _ h => h.forget
    exact freeToGo (hrun ▸ hkept.final) (hrun ▸ hlaunched)
  · have hkept : (runStreamAsync q).Leads m (fun _ => InSession serial)
        (fun _ => InSession serial) (InSession serial) :=
      (runStreamAsync_registers fuel hm).imp fun _ _ ⟨_, _, h, _⟩ => h
    exact freeToGo (hrun ▸ hkept.final) (hrun ▸ hregistered)
  · subst hanswer
    obtain ⟨e, -, -, hslot, -⟩ := (runStreamAsync_registers fuel hm).of_eq_ok hrun
    exact ⟨e, hslot⟩

end Launches

/-- A desk with an image, and a hook that tries twice to free it when a context is made. -/
def attemptScene : DeskScene :=
  deskAfter 1 [.own (.install {} {}), .own (.compile "o0"),
    .hook (some .createContext) [.own (.freeImage 1), .own (.freeImage 1)]] deskOpening

def attemptRequest : StreamRequest :=
  ⟨1, 0, ⟨0, 0, 1, 1⟩, [], [], []⟩

def attemptLaunch : Except Abort (Except DeskError Nat) × DeskScene :=
  (@runStreamAsync _ _ (deskHooks 1) attemptRequest).run attemptScene

def refusal? : Outcome → Option DeskError
  | .error (.desk err) => some err
  | _ => none

/-- The attempts are refused. The image is freed while the execution is not joined yet, and the
    join has the answer that it would have had. -/
theorem image_is_freed_before_join :
    InSession 0 attemptScene ∧
    attemptLaunch = (@runStreamAsync _ _ toldAtOnce attemptRequest).run attemptScene ∧
    attemptLaunch.2.host.client.reports.map (·.outcomes.map refusal?) =
      [[some inUse, some inUse]] ∧
    ∃ handle summary, attemptLaunch.1 = .ok (.ok handle) ∧
      ∃ freed n n', (@freeImage _ _ (deskHooks 1) 1).run attemptLaunch.2 = (.ok (.ok ()), freed) ∧
        (@joinStream _ _ (deskHooks 1) handle).run attemptLaunch.2 = (.ok (.ok summary), n) ∧
        (@joinStream _ _ (deskHooks 1) handle).run freed = (.ok (.ok summary), n') := by
  let := deskHooks 1
  have hm : InSession 0 attemptScene := inSession_deskAfter rfl inSession_deskOpening
  have hscene : attemptScene.host.installed.isSome ∧ 1 ∉ attemptScene.host.held ∧
      attemptScene.host.images.get? 1 = some ⟨⟨2⟩, 5⟩ := by
    decide +kernel
  obtain ⟨hinstalled, hfree, himage⟩ := hscene
  have hwaiting : ∀ p ∈ attemptScene.platforms, ∀ hook ∈ p.hooks, OnlyTries 1 hook.2 := by
    decide +kernel
  have hhooks : ∀ op steps, OnlyTries 1 steps → TakesRefusal 1
      (holdingImage (OnlyTries 1) 1 ⟨⟨2⟩, 5⟩ (attemptScene.host.held.count 1 + 1))
      ((deskHooks 1).run op steps) (toldAtOnce.run op steps) :=
    fun op steps hsteps => @playHook_takesRefusal (deskHooks 0) _ _ _ _ _ _ [] hsteps
  obtain ⟨-, -, hasync, hafter⟩ := image_stays_until_launched (q := attemptRequest) hm hinstalled
    himage hwaiting hhooks
  obtain ⟨t, p, -, -, -, hunnoticed⟩ := ((hafter hfree).2 _ _ (Prod.eta attemptLaunch).symm).1.freed
  have hlaunched : attemptLaunch.1 = .ok (.ok 2) ∧
      attemptLaunch.2.host.client.reports.map (·.outcomes.map refusal?) =
        [[some inUse, some inUse]] := by
    decide +kernel
  have hhookless : ∀ p ∈ attemptLaunch.2.platforms, p.hooks = [] := by
    decide +kernel
  have hfreed : ((freeImage 1).run attemptLaunch.2).1 = .ok (.ok ()) := by
    decide +kernel
  have hjoined : ((joinStream 2).run attemptLaunch.2).1 = .ok (.ok ⟨⟨1⟩, 1, [], []⟩) := by
    decide +kernel
  rcases hfreeing : (freeImage 1).run attemptLaunch.2 with ⟨answer, freed⟩
  rw [hfreeing] at hfreed
  cases hfreed
  obtain ⟨hparted, halike⟩ := hunnoticed hhookless freed hfreeing
  refine ⟨hm, hasync, hlaunched.2, 2, ⟨⟨1⟩, 1, [], []⟩, hlaunched.1, freed, ?_⟩
  rcases ((halike _ _ hparted).2 2).2.1 with ⟨left, right, rfl, -⟩ | ⟨left, -, -⟩ | ⟨-, -, h⟩
  · rw [left] at hjoined
    cases hjoined
    exact ⟨_, _, rfl, left, right⟩
  · rw [left] at hjoined
    cases hjoined
  · exact h.elim

end StreamCompute.Scenario
