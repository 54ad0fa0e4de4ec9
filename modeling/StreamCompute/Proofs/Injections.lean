/-
  StreamCompute.Proofs.Injections

  Which call an injected failure strikes. A failure that is injected into the
  n-th call of an entry point strikes that call and no other, whatever is asked of
  the driver before and after. Calls are numbered as they are counted, so a copy
  between unknown memory objects has no number. Linking has no calls at all: what
  is injected into it strikes every compilation that gets that far, whatever the
  number.
-/
import StreamCompute.Proofs.RequestLog

namespace StreamCompute

/-- No two entry points have the same name. -/
theorem Operation.name_injective {op op' : Operation} (h : op.name = op'.name) : op = op' := by
  have hread : ∀ o : Operation, ofName? o.name = some o := fun o => by cases o <;> rfl
  exact Option.some.inj ((hread op).symm.trans ((congrArg ofName? h).trans (hread op')))

/-- The deed changes which failures are injected into the entry point. -/
def Deed.injects (op : Operation) : Deed → Bool
  | failOn o _ => o = op
  | failAlways o => o = op
  | clearFailures => true
  | _ => false

namespace Simulator

/-- The failures that are injected into an entry point. -/
def injectionsOf (s : Simulator) (op : Operation) : List Injection :=
  s.injections.filter (·.operation == op)

variable {s t : Simulator} {op : Operation} {deeds : List Deed} {n : Nat}

theorem injected?_eq (s : Simulator) (op : Operation) (count : Nat) :
    s.injected? op count =
      (s.injectionsOf op).find? fun i => i.onCall == 0 || i.onCall == count := by
  simp only [injected?, injectionsOf, List.find?_filter, Bool.decide_and, Bool.decide_eq_true]

theorem injectionsOf_act {d : Deed} (h : d.injects op = false) :
    (d.act s).injectionsOf op = s.injectionsOf op := by
  unfold injectionsOf
  cases d
  case ask r => exact congrArg _ (r.outcome_noted s).2.2
  case failOn | failAlways => simp_all [Deed.injects, Deed.act, failOn, failAlways]
  case clearFailures => cases h
  all_goals rfl

theorem injectionsOf_after (h : ∀ d ∈ deeds, d.injects op = false) :
    (s.after deeds).injectionsOf op = s.injectionsOf op := by
  induction deeds generalizing s with
  | nil => rfl
  | cons d deeds ih =>
    obtain ⟨hd, hdeeds⟩ := List.forall_mem_cons.mp h
    exact (ih hdeeds).trans (injectionsOf_act hd)

def failureOn (op : Operation) (n : Nat) : DriverError :=
  ⟨op.name, s!"injected failure on call {n}"⟩

theorem failureOn_not_plain (op : Operation) (n : Nat) : ¬ Plain (failureOn op n).message := by
  rintro ⟨-, h⟩
  unfold failureOn at h
  rw [String.toList_append, List.take_append_of_le_length (by decide)] at h
  exact h (by decide)

theorem injectionsOf_failOn (h : s.Spared op) (hn : 0 < n) :
    (failOn op n s).injectionsOf op = [⟨op, n, (failureOn op n).message⟩] := by
  have hnone : s.injections.filter (·.operation == op) = [] :=
    List.filter_eq_nil_iff.mpr fun i hi => by simpa using h i hi
  have hmax : max n 1 = n := Nat.max_eq_left hn
  simp [injectionsOf, failOn, hnone, hmax, failureOn]

section Single

variable (honly : t.injectionsOf op = [⟨op, n, (failureOn op n).message⟩]) (hn : 0 < n)

include honly hn

/-- The only failure of an entry point strikes the call with its number. -/
theorem injected?_single (k : Nat) :
    t.injected? op k = if k = n then some ⟨op, n, (failureOn op n).message⟩ else none := by
  rw [injected?_eq, honly]
  by_cases hk : k = n
  · simp [hk]
  · have hzero : n ≠ 0 := Nat.ne_of_gt hn
    simp [hk, hzero, Ne.symm hk]

/-- Which calls meet the only failure of an entry point. -/
theorem struck?_eq_failureOn {call : Call} :
    t.struck? call = some (failureOn op n) ↔
      call.operation = op ∧ t.callCount op + 1 = n := by
  unfold struck?
  constructor
  · intro h
    obtain ⟨i, hi, heq⟩ := Option.map_eq_some_iff.mp h
    have hop : call.operation = op := Operation.name_injective (congrArg DriverError.operation heq)
    refine ⟨hop, ?_⟩
    rw [hop, injected?_single honly hn] at hi
    by_contra hne
    rw [if_neg hne] at hi
    cases hi
  · rintro ⟨rfl, hcount⟩
    rw [injected?_single honly hn, if_pos hcount]
    rfl

end Single

/-- A failure of an entry point that has calls is met by being struck. -/
theorem meets?_eq_failureOn (hop : op ≠ .link) {r : Request} :
    t.meets? r = some (failureOn op n) ↔
      ∃ call, r.call? t = some call ∧ t.struck? call = some (failureOn op n) := by
  have hunlinked : t.unlinked? r ≠ some (failureOn op n) := fun h => by
    unfold unlinked? at h
    split at h
    · split at h
      · cases h
      · obtain ⟨i, -, heq⟩ := Option.map_eq_some_iff.mp h
        exact hop (Operation.name_injective (congrArg DriverError.operation heq)).symm
    · cases h
  unfold meets?
  simp [Option.or_eq_some_iff, Option.bind_eq_some_iff, hunlinked]

/-- A failure of linking is met by compiling anything that is not blank, unless the compilation is
    itself struck. -/
theorem meets?_eq_failureOn_link {r : Request}
    (honly : t.injectionsOf .link = [⟨.link, n, (failureOn .link n).message⟩]) :
    t.meets? r = some (failureOn .link n) ↔
      ∃ source, r = .compile source ∧ Text.isAllBlank source = false ∧
        t.struck? .compile = none := by
  have hfirst : t.injections.find? (·.operation == .link) =
      some ⟨.link, n, (failureOn .link n).message⟩ := by
    rw [← List.head?_filter]
    exact congrArg List.head? honly
  -- No call is logged as a link, so no call is struck by the injection itself.
  have hstruck : ∀ call : Call, t.struck? call ≠ some (failureOn .link n) := fun call h => by
    obtain ⟨i, -, heq⟩ := Option.map_eq_some_iff.mp h
    have hop : call.operation = .link :=
      Operation.name_injective (congrArg DriverError.operation heq)
    cases call
    case allocate place layout _ _ => cases place <;> cases layout <;> cases hop
    all_goals cases hop
  have hunstruck : (r.call? t).bind t.struck? ≠ some (failureOn .link n) := fun h => by
    obtain ⟨call, -, hcall⟩ := Option.bind_eq_some_iff.mp h
    exact hstruck call hcall
  unfold meets?
  rw [Option.or_eq_some_iff, or_iff_right hunstruck]
  cases r
  case compile source =>
    have hlink : t.unlinked? (.compile source) = some (failureOn .link n) ↔
        Text.isAllBlank source = false := by
      cases hblank : Text.isAllBlank source <;> simp [unlinked?, hfirst, hblank, failureOn]
    rw [hlink]
    constructor
    · rintro ⟨hnone, hblank⟩
      exact ⟨source, rfl, hblank, hnone⟩
    · rintro ⟨_, heq, hblank, hnone⟩
      cases heq
      exact ⟨hnone, hblank⟩
  all_goals
    constructor
    · rintro ⟨-, h⟩
      cases h
    · rintro ⟨_, h, -⟩
      cases h

end Simulator

open Simulator

/-- A failure that is injected into the n-th call of an entry point strikes the n-th call and no
    other, whatever else is asked of the driver or injected into other entry points. Calls are
    numbered from the first one on. What is injected into linking strikes every compilation of a
    source that is not blank, unless the compilation is itself struck. -/
theorem injected_failure_strikes_its_call {s : Simulator} {op : Operation} {n : Nat} (hn : 0 < n)
    (hs : s.Spared op) {deeds : List Deed} (hdeeds : ∀ d ∈ deeds, d.injects op = false)
    (r : Request) :
    let t := (failOn op n s).after deeds
    (op ≠ .link → (r.result t = .ok (.error (failureOn op n)) ↔
      r.counts op t = true ∧ s.callCount op +
        ((failOn op n s).asked deeds).countP (fun e => e.1.counts op e.2) + 1 = n)) ∧
      (op = .link → (r.result t = .ok (.error (failureOn op n)) ↔
        ∃ source, r = .compile source ∧ Text.isAllBlank source = false ∧
          t.struck? .compile = none)) := by
  intro t
  have honly : t.injectionsOf op = [⟨op, n, (failureOn op n).message⟩] :=
    (injectionsOf_after hdeeds).trans (injectionsOf_failOn hs hn)
  rw [Request.result_eq_error_iff (failureOn_not_plain op n)]
  refine ⟨fun hop => ?_, ?_⟩
  · have hcount : t.callCount op = s.callCount op +
        ((failOn op n s).asked deeds).countP fun e => e.1.counts op e.2 :=
      callCount_after op
    rw [meets?_eq_failureOn hop, ← hcount]
    simp only [struck?_eq_failureOn honly hn]
    constructor
    · rintro ⟨call, hcall, hoperation, hnumber⟩
      exact ⟨Request.counts_iff.mpr ⟨call, hcall, hoperation⟩, hnumber⟩
    · rintro ⟨hcounts, hnumber⟩
      obtain ⟨call, hcall, hoperation⟩ := Request.counts_iff.mp hcounts
      exact ⟨call, hcall, hoperation, hnumber⟩
  · rintro rfl
    exact meets?_eq_failureOn_link honly

/-- The second start of a driver is struck, and the first is not. -/
theorem second_start_is_struck :
    Request.start.result (failOn .start 2 {}) ≠ .ok (.error (failureOn .start 2)) ∧
      Request.start.result ((failOn .start 2 {}).after [.ask .start]) =
        .ok (.error (failureOn .start 2)) := by
  have hstruck (deeds : List Deed) (hdeeds : ∀ d ∈ deeds, d.injects .start = false) :=
    (injected_failure_strikes_its_call Nat.two_pos (s := {}) nofun hdeeds .start).1 nofun
  exact ⟨fun h => absurd ((hstruck [] nofun).mp h) (by decide),
    (hstruck [.ask .start] (by decide)).mpr (by decide)⟩

/-- What is injected into the second linking strikes the first, and a copy between unknown memory
    objects is not struck by what is injected into the first copy. -/
theorem injected_failure_misses_its_call :
    (Request.compile "o0").result (failOn .link 2 {}) = .ok (.error (failureOn .link 2)) ∧
      (Request.copyMemory ⟨1⟩ ⟨2⟩ ⟨3⟩).result (failOn .copyMemory 1 {}) =
        .ok (.error ⟨"calMemCopy", "invalid memory object mem2"⟩) :=
  ⟨rfl, rfl⟩

end StreamCompute
