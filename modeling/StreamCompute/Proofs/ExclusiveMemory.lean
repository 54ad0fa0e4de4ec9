/-
  StreamCompute.Proofs.ExclusiveMemory

  The device only touches memory that the execution at work owns. Whatever a
  scenario does within the runtime, whichever driver calls fail, and whatever
  hooks re-enter the runtime in the middle of others: when a copy or a run is
  accepted, every resource it reaches is live and unmapped, and a remote
  resource among them is marked as in flight and claimed by that execution
  alone.
-/
import StreamCompute.Proofs.CustodySession

namespace StreamCompute.Scenario

theorem Moment.guards_of_copy {mo : Moment} (h : mo.Safe) (haccepted : mo.verdict = .accepted)
    (hop : mo.operation = .copyMemory) :
    ∃ context source target, mo.accepted? = some (.copyMemory context source target) ∧
      mo.Guards context source ∧ mo.Guards context target := by
  obtain ⟨call, hcall, hoperation, hguards⟩ := h haccepted
  rw [hop] at hoperation
  cases call <;> try cases hoperation
  case copyMemory context source target =>
    exact ⟨context, source, target, hcall, hguards context source ⟨rfl, Or.inl rfl⟩,
      hguards context target ⟨rfl, Or.inr rfl⟩⟩
  case allocate place layout format flags =>
    cases place <;> cases layout <;> cases hoperation

theorem Moment.guards_of_run {mo : Moment} (h : mo.Safe) (haccepted : mo.verdict = .accepted)
    (hop : mo.operation = .runProgram) :
    ∃ context domain, mo.accepted? = some (.runProgram context domain) ∧
      ∀ e ∈ mo.found.boundResources context, mo.Guards context e.2 := by
  obtain ⟨call, hcall, hoperation, hguards⟩ := h haccepted
  rw [hop] at hoperation
  cases call <;> try cases hoperation
  case runProgram context domain =>
    exact ⟨context, domain, hcall, fun e he => hguards context e.2 ⟨rfl, e.1, he⟩⟩
  case allocate place layout format flags =>
    cases place <;> cases layout <;> cases hoperation

/-- Every copy and every run that the driver accepts reaches guarded resources only. -/
theorem device_touches_only_guarded_resources (spec : Spec) (config : Config) (fuel : Nat)
    (steps : List (Step RuntimeStep)) (hsteps : allWithin steps = true) :
    ∀ mo ∈ (after fuel steps (opening spec config)).history, mo.verdict = .accepted →
      (mo.operation = .copyMemory →
        ∃ context source target, mo.accepted? = some (.copyMemory context source target) ∧
          mo.Guards context source ∧ mo.Guards context target) ∧
      (mo.operation = .runProgram →
        ∃ context domain, mo.accepted? = some (.runProgram context domain) ∧
          ∀ e ∈ mo.found.boundResources context, mo.Guards context e.2) := by
  intro mo hmo haccepted
  have hsafe := (inOrder_after hsteps (inOrder_opening spec config)).safe mo hmo
  exact ⟨Moment.guards_of_copy hsafe haccepted, Moment.guards_of_run hsafe haccepted⟩

/-- A run of a kernel on a copied register, in the middle of which somebody tries to free and
    to map the resource and to run a second kernel on it. -/
def disturbedRun : List (Step RuntimeStep) :=
  [.own (.device "d" 0), .own (.compile "k" "g[]" none),
    .own (.allocRemote "r" "d" ⟨⟨4, 1⟩, ⟨.float32, .one⟩, .plain⟩),
    .own (.bindCopied "t" "g[]" "r" none),
    .hook (some .copyMemory) [.own (.freeRemote "r"), .own (.map "r")],
    .hook (some .runProgram) [.own (.run ⟨"k", "d", some "t", ⟨0, 0, 4, 1⟩⟩)],
    .own (.run ⟨"k", "d", some "t", ⟨0, 0, 4, 1⟩⟩)]

/-- The device did work in that scenario, and all of it on guarded resources. -/
theorem disturbedRun_touches_guarded :
    allWithin disturbedRun = true ∧
      ((after 2 disturbedRun (opening {} {})).history.filter fun mo =>
        mo.verdict == .accepted && (mo.operation == .copyMemory || mo.operation == .runProgram)
        ).length = 3 ∧
      ∀ mo ∈ (after 2 disturbedRun (opening {} {})).history, mo.verdict = .accepted →
        (mo.operation = .copyMemory →
          ∃ context source target, mo.accepted? = some (.copyMemory context source target) ∧
            mo.Guards context source ∧ mo.Guards context target) ∧
        (mo.operation = .runProgram →
          ∃ context domain, mo.accepted? = some (.runProgram context domain) ∧
            ∀ e ∈ mo.found.boundResources context, mo.Guards context e.2) :=
  ⟨rfl, by decide +kernel, device_touches_only_guarded_resources {} {} 2 disturbedRun rfl⟩

end StreamCompute.Scenario
