/-
  StreamCompute.Proofs.Refusals

  What a driver call fails with. Either a failure was injected into it, which is
  settled as soon as the call is logged, or the driver refuses it for a reason
  of its own. The texts tell the two apart: no reason of the driver's own starts
  like an injected failure.

  Linking is the exception. It has no calls, and a failure that is injected into
  it strikes every compilation that gets that far.
-/
import StreamCompute.Proofs.Effects

namespace StreamCompute

open Fallible

variable {α β : Type}

/-! ## Reasons of the driver's own -/

/-- The text does not start like that of an injected failure. -/
def Plain (message : String) : Prop :=
  8 ≤ message.toList.length ∧ message.toList.take 8 ≠ "injected".toList

instance : DecidablePred Plain :=
  fun _ => inferInstanceAs (Decidable (_ ∧ _))

/-- A start that is long enough decides. -/
theorem Plain.append {front rest : String} (h : Plain front) : Plain (front ++ rest) := by
  unfold Plain
  rw [String.toList_append, List.length_append, List.take_append_of_le_length h.1]
  exact ⟨Nat.le_add_right_of_le h.1, h.2⟩

/-- The reason is one of the driver's own, and neither injected nor met in host memory. -/
def Refusal.own : Refusal → Bool
  | injected _ => false
  | hostMemory _ => false
  | _ => true

theorem Refusal.plain {why : Refusal} (h : why.own = true) : Plain why.message := by
  cases why
  case injected | hostMemory => cases h
  case notStarted | emptySource | emptyResource | outOfMemory => decide
  case undeclared | mappedToHost | alreadyMapped | notMappable | notMapped =>
    exact .append (.append (by decide))
  all_goals exact .append (by decide)

theorem HostMemory.HostError.plain_allocation (size : Nat) (detail : String) :
    Plain (allocation size detail).message :=
  .append (.append (.append (by decide)))

/-- The error is of an entry point, and its text is not that of an injected failure. -/
structure DriverError.Own (d : DriverError) : Prop where
  named : ∃ op : Operation, d.operation = op.name
  plain : Plain d.message

namespace Simulator

/-- Where the part of a call fails, the driver has its own reason. -/
abbrev Argues (act : Sim α) : Prop :=
  act.Upholds (fun _ => True) (fun d _ => d.Own) fun _ => True

section Parts

variable {op : Operation} {why : Refusal}

theorem refuse_argues (h : Plain why.message) : Argues (refuse op why : Sim α) :=
  .throw fun _ _ => ⟨⟨op, rfl⟩, h⟩

theorem require_argues {condition : Bool} (h : why.own = true) :
    Argues (require condition op why) := by
  unfold require
  split
  · exact .pure
  · exact refuse_argues (Refusal.plain h)

theorem obtain_argues {value : Option α} (h : why.own = true) :
    Argues (obtain value op why) := by
  cases value with
  | some a => exact .pure
  | none => exact refuse_argues (Refusal.plain h)

theorem requireStarted_argues : Argues (requireStarted op) :=
  .bind .get fun _ => require_argues rfl

theorem requireContext_argues {context : Ident .context} : Argues (requireContext op context) :=
  .bind .get fun _ => require_argues rfl

theorem mulBelow_argues {bound a b : Nat} : Argues (mulBelow bound a b : Sim Nat) := by
  unfold mulBelow
  split
  · exact .pure
  · exact fun _ _ => trivial

theorem storage_argues {place : Placement} {len : Nat} : Argues (storage op place len) := by
  unfold storage
  cases place with
  | onDevice =>
    dsimp only
    split
    · exact .pure
    · exact fun _ _ => trivial
  | onHost =>
    refine .bind .get fun s => ?_
    dsimp only
    unfold HostMemory.Buffer.zeroed
    cases HostMemory.Buffer.refusal? s.spec.system (max len 1) with
    | none => exact .bind (.change fun _ h => h) fun _ => .pure
    | some detail => exact refuse_argues (HostMemory.HostError.plain_allocation _ _)

/-- A new identifier is made and entered somewhere. -/
theorem fresh_argues {k : Kind} {f : Ident k → Simulator → Simulator} {g : Ident k → α} :
    Argues (do
      let i ← fresh
      modify (f i)
      return g i) :=
  .bind (fun _ h => h) fun _ => .bind (.change fun _ h => h) fun _ => .pure

end Parts

/-! ## Injected failures -/

/-- The failure that is injected into this call, if there is one. -/
def struck? (s : Simulator) (call : Call) : Option DriverError :=
  (s.injected? call.operation (s.callCount call.operation + 1)).map fun i =>
    ⟨call.operation.name, i.message⟩

/-- The failure that is injected into the linking of the request's source, if there is one. -/
def unlinked? (s : Simulator) : Request → Option DriverError
  | .compile source =>
    if Text.isAllBlank source then none
    else (s.injections.find? (·.operation == .link)).map fun i => ⟨Operation.link.name, i.message⟩
  | _ => none

/-- The injected failure that the request meets, if there is one. -/
def meets? (s : Simulator) (r : Request) : Option DriverError :=
  ((r.call? s).bind s.struck?).or (s.unlinked? r)

/-- The act fails with the injected failure that it meets; where it meets none, it fails only for
    a reason of the driver's own. -/
def Meets (s : Simulator) (injected : Option DriverError) (act : Sim α) : Prop :=
  act.Leads s (fun _ _ => injected = none)
    (fun d _ => injected = some d ∨ injected = none ∧ d.Own) fun _ => injected = none

namespace Meets

variable {s : Simulator} {call : Call} {injected : Option DriverError} {act : Sim α}

theorem of_argues (h : Argues act) : s.Meets none act :=
  (h s trivial).mono (fun _ _ _ => rfl) (fun _ _ hd => Or.inr ⟨rfl, hd⟩) fun _ _ => rfl

theorem map {f : α → β} (h : s.Meets injected act) : s.Meets injected (f <$> act) :=
  leads_map.mpr h

/-- A call that is not struck goes on in the driver that has logged it. -/
theorem enter (h : (logged call s).Meets injected act) :
    s.Meets ((s.struck? call).or injected) (do
      Simulator.enter call
      act) := by
  have hcount : (logged call s).injected? call.operation
      ((logged call s).callCount call.operation) =
        s.injected? call.operation (s.callCount call.operation + 1) := by
    rw [callCount_logged, if_pos rfl]
    rfl
  unfold Meets Simulator.enter struck?
  simp only [leads_bind, leads_modify, leads_get, hcount]
  cases s.injected? call.operation (s.callCount call.operation + 1) with
  | some i => exact Or.inl rfl
  | none => exact h

theorem checks (h : Argues act) : s.Meets ((s.struck? call).or none) (do
    Simulator.enter call
    act) :=
  enter (of_argues h)

end Meets

end Simulator

open Simulator

/-- Every request fails with the injected failure that it meets, and otherwise only for a reason of
    the driver's own. -/
theorem Request.command_meets (r : Request) (s : Simulator) :
    s.Meets (s.meets? r) r.command.run := by
  cases r <;> refine Meets.map ?_
  case start => exact .checks (.change fun _ h => h)
  case stop => exact .checks (.bind requireStarted_argues fun _ => .change fun _ h => h)
  case countDevices =>
    exact .checks (.bind requireStarted_argues fun _ => .bind .get fun _ => .pure)
  case describeDevice =>
    refine .checks (.bind requireStarted_argues fun _ => .bind .get fun _ => ?_)
    exact .bind (require_argues rfl) fun _ => .bind .get fun _ => .pure
  case openDevice =>
    refine .checks (.bind requireStarted_argues fun _ => .bind .get fun _ => ?_)
    exact .bind (require_argues rfl) fun _ => fresh_argues
  case closeDevice =>
    exact .checks (.bind .get fun _ => .bind (require_argues rfl) fun _ => .change fun _ h => h)
  case compile source =>
    refine .enter ?_
    unfold Meets unlinked?
    simp only [leads_bind]
    cases Text.isAllBlank source with
    | true => exact Or.inr ⟨rfl, ⟨.compile, rfl⟩, Refusal.plain rfl⟩
    | false =>
      unfold require
      simp only [Bool.not_false, if_true, leads_pure, leads_get, logged]
      cases s.injections.find? (·.operation == .link) with
      | some i => exact Or.inl rfl
      | none => exact rfl
  case freeImage =>
    exact .checks (.bind .get fun _ => .bind (require_argues rfl) fun _ => .change fun _ h => h)
  case createContext =>
    refine .checks (.bind requireStarted_argues fun _ => .bind .get fun _ => ?_)
    exact .bind (require_argues rfl) fun _ => fresh_argues
  case destroyContext =>
    exact .checks (.bind requireContext_argues fun _ => .change fun _ h => h)
  case loadModule =>
    refine .checks (.bind requireContext_argues fun _ => .bind .get fun _ => ?_)
    exact .bind (require_argues rfl) fun _ => fresh_argues
  case unloadModule =>
    exact .checks (.bind .get fun _ => .bind (require_argues rfl) fun _ => .change fun _ h => h)
  case findRegister =>
    refine .checks (.bind .get fun _ => .bind (obtain_argues rfl) fun _ => .bind .get fun _ => ?_)
    exact .bind (require_argues rfl) fun _ => fresh_argues
  case findEntry =>
    exact .checks (.bind .get fun _ => .bind (require_argues rfl) fun _ => fresh_argues)
  case getMemory =>
    refine .checks (.bind requireContext_argues fun _ => .bind .get fun _ => ?_)
    exact .bind (obtain_argues rfl) fun _ => .bind (require_argues rfl) fun _ => fresh_argues
  case releaseMemory =>
    exact .checks (.bind .get fun _ => .bind (require_argues rfl) fun _ => .change fun _ h => h)
  case bindMemory =>
    refine leads_bind.mpr (Meets.checks (.bind requireContext_argues fun _ => .bind .get fun _ => ?_))
    exact .bind (require_argues rfl) fun _ => .bind (obtain_argues rfl) fun _ => .change fun _ h => h
  case allocate place _ _ _ _ =>
    refine .checks (.bind requireStarted_argues fun _ => .bind .get fun _ => ?_)
    refine .bind (require_argues rfl) fun _ => .bind (require_argues rfl) fun _ => ?_
    refine .bind .get fun _ => .bind .get fun _ => .bind (require_argues rfl) fun _ => ?_
    -- The rows are counted last, by a rule that depends on the place.
    cases place with
    | onDevice =>
      refine .bind .pure fun _ => .bind mulBelow_argues fun _ => .bind mulBelow_argues fun _ => ?_
      exact .bind storage_argues fun _ => fresh_argues
    | onHost =>
      refine .bind .get fun _ => .bind mulBelow_argues fun _ => .bind mulBelow_argues fun _ => ?_
      exact .bind mulBelow_argues fun _ => .bind storage_argues fun _ => fresh_argues
  case freeResource =>
    exact .checks (.bind .get fun _ => .bind (require_argues rfl) fun _ => .change fun _ h => h)
  case mapResource =>
    refine .checks (.bind .get fun _ => .bind (obtain_argues rfl) fun _ => ?_)
    refine .bind (require_argues rfl) fun _ => .bind (require_argues rfl) fun _ => .bind .get fun _ => ?_
    dsimp only
    split
    · exact .bind storage_argues fun _ => .bind (.change fun _ h => h) fun _ => .pure
    · exact .bind (.change fun _ h => h) fun _ => .pure
  case unmapResource =>
    refine .checks (.bind .get fun _ => .bind (obtain_argues rfl) fun _ => ?_)
    exact .bind (require_argues rfl) fun _ => .change fun _ h => h
  case copyMemory c source target =>
    have hmeets : s.meets? (.copyMemory c source target) =
        (((s.memoryOf? c source).bind fun src =>
          (s.memoryOf? c target).map (.copyMemory c src)).bind s.struck?).or none := rfl
    rw [hmeets]
    refine leads_bind.mpr (leads_bind.mpr ?_)
    cases s.memoryOf? c source with
    | none => exact Or.inr ⟨rfl, ⟨.copyMemory, rfl⟩, Refusal.plain rfl⟩
    | some src =>
      refine leads_bind.mpr (leads_bind.mpr ?_)
      cases s.memoryOf? c target with
      | none => exact Or.inr ⟨rfl, ⟨.copyMemory, rfl⟩, Refusal.plain rfl⟩
      | some dst =>
        refine Meets.checks (.bind .get fun _ => .bind (obtain_argues rfl) fun _ => ?_)
        refine .bind .get fun _ => .bind (obtain_argues rfl) fun _ => ?_
        exact .bind (.change fun _ h => h) fun _ => fresh_argues
  case runProgram =>
    refine .checks (.bind requireContext_argues fun _ => .bind .get fun _ => ?_)
    exact .bind (require_argues rfl) fun _ => .bind (.change fun _ h => h) fun _ => fresh_argues
  case queryEvent =>
    refine .checks (.bind .get fun _ => .bind (obtain_argues rfl) fun token => ?_)
    split
    · exact .bind (.change fun _ h => h) fun _ => .pure
    · split <;> exact .pure

namespace Request

def result (r : Request) (s : Simulator) : Except Abort (Except DriverError Answer) :=
  (r.command.run.run s).1

/-- An error whose text is that of an injected failure is the failure that the request meets. -/
theorem result_eq_error_iff {r : Request} {s : Simulator} {d : DriverError}
    (hd : ¬ Plain d.message) : r.result s = .ok (.error d) ↔ s.meets? r = some d := by
  unfold result
  rcases (r.command_meets s).run_cases with
    ⟨a, _, hrun, hnone⟩ | ⟨e, _, hrun, hsome | ⟨hnone, hown⟩⟩ | ⟨_, _, hrun, hnone⟩
  · simp [hrun, hnone]
  · simp [hrun, hsome]
  · have hne : e ≠ d := fun heq => hd (heq ▸ hown.plain)
    simp [hrun, hnone, hne]
  · simp [hrun, hnone]

end Request

end StreamCompute
