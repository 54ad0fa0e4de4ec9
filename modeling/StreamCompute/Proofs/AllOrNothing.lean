/-
  StreamCompute.Proofs.AllOrNothing

  A launch happens completely or not at all. Whatever is launched, and
  whichever driver call fails on the way, a launch that fails leaves the
  driver and the records of remote resources as it found them, provided that
  no call with which it cleans up fails.
-/
import StreamCompute.Proofs.CustodySession
import StreamCompute.Proofs.LaunchOutcome

namespace StreamCompute

open Fallible

/-- Known devices are checked without asking the driver. -/
theorem Devices.check_of_ready {κ ω : Type} [Reentry κ ω] {m : Machine κ ω} {found : List Device}
    (hready : m.platform.registry = .ready found) {d : Device} :
    (check d).Leads m (fun _ m' => m' = m) (fun _ m' => m' = m) fun _ => True := by
  unfold check devices
  rw [leads_bind, leads_bind, leads_get, hready]
  rw [leads_pure]
  split <;> exact rfl

namespace Scenario

/-- A launch that fails leaves no trace. While no hook waits for one of its driver calls, and
    all its calls that clean up are accepted, the driver has the same contexts, modules, entry
    points, memory objects, bindings, tokens, images, devices and resources as before, and
    every record has the same marks. -/
theorem failed_launch_leaves_no_trace [Reentry (List (Step RuntimeStep)) Cast]
    {m m' : RuntimeScene} (hm : Reachable m) {found : List Device}
    (hready : m.platform.registry = .ready found) (hooks : m.Unhooked Operation.ofLaunch)
    {image : Image} {q : LaunchRequest} {e : Error}
    (hlaunch : (Launch.launch image q).run m = (.ok (.error e), m')) :
    ∃ recent, m'.history = recent ++ m.history ∧
      ((∀ mo ∈ recent, mo.operation.cleansUp = true → mo.verdict = .accepted) →
        m.platform.driver.Same m'.platform.driver ∧
        ∀ r, (m'.remotes.get? r).map RemoteStatus.marks =
          (m.remotes.get? r).map RemoteStatus.marks) := by
  have hcheck : (Devices.check q.device).Leads m
      (fun _ m₁ => m₁ = m ∧ InOrder Within {} m₁ ∧ m₁.Unhooked Operation.ofLaunch)
      (fun _ m₁ => m₁ = m) fun _ => True :=
    (Devices.check_of_ready hready).imp fun _ m₁ h => ⟨h, h ▸ hm.inOrder, h ▸ hooks⟩
  rcases (Launch.launch_leads_to hcheck).of_eq_error hlaunch with rfl | ⟨_, rfl, hundone⟩
  · exact ⟨[], rfl, fun _ => ⟨.refl, fun _ => rfl⟩⟩
  · rcases hundone with hfouled | hrestored
    · obtain ⟨recent, hrecent, mo, hmo, hclean, hfailed⟩ := hfouled.failed
      exact ⟨recent, hrecent, fun hall => absurd (hall mo hmo hclean) hfailed⟩
    · obtain ⟨recent, hrecent⟩ := hrestored.history
      exact ⟨recent, hrecent.symm, fun _ => ⟨hrestored.driver, hrestored.marks⟩⟩

/-- Two mapped remote resources, a kernel, and a lookup of a register that will fail. -/
def failingLookup : List (Step RuntimeStep) :=
  [.own (.device "d" 0), .own (.compile "k" "g[] o0 x0" none),
    .own (.allocRemote "a" "d" ⟨⟨3, 2⟩, ⟨.float32, .one⟩, .plain⟩),
    .own (.allocRemote "b" "d" ⟨⟨4, 1⟩, ⟨.float32, .one⟩, .plain⟩),
    .own (.write "a" 0 [1, 2, 3]), .control (.failOn (some .findRegister) 3)]

/-- A launch with a register of each kind. -/
def mixedRequest : LaunchRequest where
  device := ⟨0, ⟨1⟩, {}, 1⟩
  domain := ⟨0, 0, 4, 1⟩
  table := {
    entries := [("g[]", .copied ⟨0, ⟨3⟩, ⟨1⟩, ⟨3, 2⟩, ⟨.float32, .one⟩, .plain⟩ none),
      ("o0", .direct ⟨0, ⟨4⟩, ⟨1⟩, ⟨4, 1⟩, ⟨.float32, .one⟩, .plain⟩),
      ("x0", .scratch ⟨4, 1⟩ ⟨.float32, .one⟩)]
    distinct := by decide }

/-- What becomes of that launch when the driver moves resources that are mapped again. -/
def failedLaunch : Except Abort (Except Error Execution) × RuntimeScene :=
  (@Launch.launch _ _ ⟨fun _ _ => pure ()⟩ ⟨⟨2⟩, 5⟩ mixedRequest).run
    (after 0 failingLookup (opening { relocates := true } {}))

/-- The launch fails after 17 driver calls, ten more clean up, and no trace is left. -/
theorem failedLaunch_leaves_no_trace :
    (Reachable (after 0 failingLookup (opening { relocates := true } {})) ∧
      (after 0 failingLookup (opening { relocates := true } {})).platform.registry =
        .ready [⟨0, ⟨1⟩, {}, 1⟩] ∧
      (after 0 failingLookup (opening { relocates := true } {})).Unhooked Operation.ofLaunch ∧
      failedLaunch.1 = .ok (.error (.binding "x0"
        ⟨"calModuleGetName", "injected failure on call 3"⟩))) ∧
    (failedLaunch.2.history.length =
        (after 0 failingLookup (opening { relocates := true } {})).history.length + 27 ∧
      (failedLaunch.2.history.filter fun mo => mo.operation.cleansUp).length = 12) ∧
    (after 0 failingLookup (opening { relocates := true } {})).platform.driver.Same
      failedLaunch.2.platform.driver ∧
    ∀ r, (failedLaunch.2.remotes.get? r).map RemoteStatus.marks =
      ((after 0 failingLookup (opening { relocates := true } {})).remotes.get? r).map
        RemoteStatus.marks := by
  have hm : Reachable (after 0 failingLookup (opening { relocates := true } {})) :=
    ⟨_, _, 0, failingLookup, rfl, rfl⟩
  have hready : (after 0 failingLookup (opening { relocates := true } {})).platform.registry =
      .ready [⟨0, ⟨1⟩, {}, 1⟩] := by decide +kernel
  have hooks : (after 0 failingLookup (opening { relocates := true } {})).Unhooked
      Operation.ofLaunch := by
    unfold Machine.Unhooked
    decide +kernel
  have hfailed : failedLaunch.1 = .ok (.error (.binding "x0"
      ⟨"calModuleGetName", "injected failure on call 3"⟩)) := by decide +kernel
  have hclean : ∀ mo ∈ failedLaunch.2.history,
      mo.operation.cleansUp = true → mo.verdict = .accepted := by decide +kernel
  have hlaunch : failedLaunch = (.ok (.error (.binding "x0"
      ⟨"calModuleGetName", "injected failure on call 3"⟩)), failedLaunch.2) := by
    rw [← hfailed]
  obtain ⟨recent, hrecent, hsame⟩ := @failed_launch_leaves_no_trace ⟨fun _ _ => pure ()⟩ _
    failedLaunch.2 hm _ hready hooks ⟨⟨2⟩, 5⟩ mixedRequest _ hlaunch
  have hcleaned : ∀ mo ∈ recent, mo.operation.cleansUp = true → mo.verdict = .accepted := by
    intro mo hmo
    apply hclean
    rw [hrecent]
    exact List.mem_append_left _ hmo
  exact ⟨⟨hm, hready, hooks, hfailed⟩, by decide +kernel, hsame hcleaned⟩

end Scenario

end StreamCompute
