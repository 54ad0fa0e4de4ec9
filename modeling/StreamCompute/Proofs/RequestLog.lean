/-
  StreamCompute.Proofs.RequestLog

  What the log of a driver says of the requests that were made of it. Whatever
  is done to a driver, its log since it was last cleared has the requests made
  since then, in order and each once, and its counts have all requests ever made.
  One kind of request is missing from both: a copy whose memory objects are not
  both known, which is refused before it is logged.
-/
import StreamCompute.Proofs.DriverRuns

namespace StreamCompute

open Fallible

/-! ## What is done to a driver -/

/-- A request that is made of a driver, or a control of it that is no call. -/
inductive Deed
  | ask (r : Request)
  | failOn (op : Operation) (occurrence : Nat)
  | failAlways (op : Operation)
  | clearFailures
  | failToken (op : Operation) (message : String)
  | clearCalls
deriving DecidableEq, Repr

def Deed.act : Deed → Simulator → Simulator
  | ask r => r.outcome
  | failOn op occurrence => Simulator.failOn op occurrence
  | failAlways op => Simulator.failAlways op
  | clearFailures => Simulator.clearFailures
  | failToken op message => Simulator.failToken op message
  | clearCalls => Simulator.clearCalls

namespace Simulator

/-- The driver once all is done, the first deed first. -/
def after (s : Simulator) : List Deed → Simulator
  | [] => s
  | d :: rest => (d.act s).after rest

/-- The requests that are made meanwhile, each with the driver that it is made of. -/
def asked (s : Simulator) : List Deed → List (Request × Simulator)
  | [] => []
  | .ask r :: rest => (r, s) :: (r.outcome s).asked rest
  | d :: rest => (d.act s).asked rest

variable {s : Simulator} {deeds rest : List Deed}

theorem after_append : s.after (deeds ++ rest) = (s.after deeds).after rest := by
  induction deeds generalizing s with
  | nil => rfl
  | cons d deeds ih => exact ih

end Simulator

namespace Request

/-- The request is a copy, and not both its memory objects are known. -/
def copiesUnknown (s : Simulator) : Request → Bool
  | copyMemory context source target =>
    (s.memoryOf? context source).isNone || (s.memoryOf? context target).isNone
  | _ => false

/-- The request is counted as a call of the entry point. -/
def counts (op : Operation) (s : Simulator) (r : Request) : Bool :=
  decide (r.command.operation = op) && !r.copiesUnknown s

variable {r : Request} {s : Simulator} {call : Call} {op : Operation}

/-- A request is logged as a call of its own entry point. -/
theorem operation_call? (h : r.call? s = some call) : call.operation = r.command.operation := by
  cases r
  case copyMemory c source target =>
    obtain ⟨src, -, h⟩ := Option.bind_eq_some_iff.mp h
    obtain ⟨dst, -, rfl⟩ := Option.map_eq_some_iff.mp h
    rfl
  all_goals
    cases h
    rfl

theorem call?_eq_none_iff : r.call? s = none ↔ r.copiesUnknown s = true := by
  cases r
  case copyMemory c source target =>
    cases hsource : s.memoryOf? c source <;> cases htarget : s.memoryOf? c target <;>
      simp [call?, copiesUnknown, hsource, htarget]
  all_goals simp [call?, copiesUnknown]

theorem counts_iff :
    r.counts op s = true ↔ ∃ call, r.call? s = some call ∧ call.operation = op := by
  unfold counts
  cases hcall : r.call? s with
  | none => simp [call?_eq_none_iff.mp hcall]
  | some call =>
    have hknown : r.copiesUnknown s = false := by
      rw [← Bool.not_eq_true, ← call?_eq_none_iff, hcall]
      nofun
    simp [operation_call? hcall, hknown]

theorem countP_call? (op : Operation) (r : Request) (s : Simulator) :
    (r.call? s).toList.countP (·.operation = op) = if r.counts op s then 1 else 0 := by
  simp only [counts_iff]
  cases r.call? s <;> simp

end Request

/-- The effect of a request is seen neither in the log nor in the failures to come. -/
theorem Simulator.Effect.unlogged {s t : Simulator} {r : Request} {a : Answer}
    (h : s.Effect r a t) :
    t.calls = s.calls ∧ t.counts = s.counts ∧ t.injections = s.injections := by
  cases h <;> exact ⟨rfl, rfl, rfl⟩

/-- Whether it is granted or not, a request does no more to the log than to be noted there. -/
theorem Request.outcome_noted (r : Request) (s : Simulator) :
    (r.outcome s).calls = (s.noted r).calls ∧ (r.outcome s).counts = (s.noted r).counts ∧
      (r.outcome s).injections = s.injections := by
  have hnoted : (s.noted r).injections = s.injections := by
    obtain ⟨calls, counts, hnoted⟩ := s.noted_eq r
    rw [hnoted]
    rfl
  unfold outcome
  rcases (r.command_leads s).run_cases with
    ⟨_, s', hrun, hgranted⟩ | ⟨_, _, hrun, rfl⟩ | ⟨_, _, hrun, rfl, -⟩
  · rw [hrun]
    obtain ⟨hcall, heffect, rfl⟩ := hgranted
    obtain ⟨hcalls, hcounts, hinjections⟩ := heffect.unlogged
    unfold Simulator.noted
    rw [hcall]
    simp only [Option.elim_some, Simulator.logged, Simulator.callCount, hcalls, hcounts,
      hinjections, and_self]
  all_goals
    rw [hrun]
    exact ⟨rfl, rfl, hnoted⟩

/-- A request is logged as its call, and counted. -/
theorem Request.outcome_logged (r : Request) (s : Simulator) :
    (r.outcome s).calls = (r.call? s).toList ++ s.calls ∧
      ∀ op, (r.outcome s).callCount op = s.callCount op + if r.counts op s then 1 else 0 := by
  obtain ⟨hcalls, hcounts, -⟩ := r.outcome_noted s
  have hcount : ∀ op, (r.outcome s).callCount op = (s.noted r).callCount op := fun op => by
    rw [Simulator.callCount, hcounts]
    rfl
  simp only [hcalls, hcount, ← countP_call?]
  unfold Simulator.noted
  cases r.call? s with
  | none => exact ⟨rfl, fun _ => rfl⟩
  | some call =>
    refine ⟨rfl, fun op => (Simulator.callCount_logged call s op).trans ?_⟩
    by_cases hop : call.operation = op <;> simp [hop]

namespace Simulator

variable {s : Simulator} {deeds : List Deed}

/-- Every request is counted, from the first one on. -/
theorem callCount_after (op : Operation) :
    (s.after deeds).callCount op =
      s.callCount op + (s.asked deeds).countP fun e => e.1.counts op e.2 := by
  induction deeds generalizing s with
  | nil => rfl
  | cons d deeds ih =>
    cases d
    case ask r =>
      simp only [after, asked, Deed.act, ih, (r.outcome_logged s).2, List.countP_cons]
      omega
    all_goals exact ih

/-- The log grows by the requests that are made while it is not cleared. -/
theorem calls_after (h : .clearCalls ∉ deeds) :
    (s.after deeds).calls =
      ((s.asked deeds).filterMap fun e => e.1.call? e.2).reverse ++ s.calls := by
  induction deeds generalizing s with
  | nil => rfl
  | cons d deeds ih =>
    obtain ⟨hd, hdeeds⟩ := not_or.mp (mt List.mem_cons.mpr h)
    cases d
    case clearCalls => exact absurd rfl hd
    case ask r =>
      simp only [after, asked, Deed.act, ih hdeeds, (r.outcome_logged s).1, List.filterMap_cons]
      cases r.call? s <;> simp
    all_goals exact ih hdeeds

end Simulator

open Simulator

/-- The log of a driver has the requests that were made of it since it was last cleared, in order
    and each once, and the counts have all that were ever made, granted or refused and whatever
    they name. Only a copy whose memory objects are not both known is neither logged nor
    counted. -/
theorem log_is_what_was_asked (spec : Spec) (before since : List Deed)
    (hbefore : before = [] ∨ before.getLast? = some .clearCalls) (hsince : .clearCalls ∉ since) :
    let s : Simulator := { spec }
    let t := s.after (before ++ since)
    t.calls.reverse = ((s.after before).asked since).filterMap (fun e => e.1.call? e.2) ∧
      (∀ op, t.callCount op = (s.asked (before ++ since)).countP fun e => e.1.counts op e.2) ∧
      ∀ (r : Request) (u : Simulator), (r.call? u = none ↔ r.copiesUnknown u = true) ∧
        ∀ call, r.call? u = some call → call.operation = r.command.operation := by
  intro s t
  have hempty : (s.after before).calls = [] := by
    rcases hbefore with rfl | hlast
    · rfl
    · obtain ⟨front, rfl⟩ := List.getLast?_eq_some_iff.mp hlast
      rw [after_append]
      rfl
  refine ⟨?_, fun op => ?_, fun r u => ⟨Request.call?_eq_none_iff, fun _ => Request.operation_call?⟩⟩
  · change (s.after (before ++ since)).calls.reverse = _
    rw [after_append, calls_after hsince, hempty, List.append_nil, List.reverse_reverse]
  · exact (callCount_after op).trans (Nat.zero_add _)

/-- A log that is cleared once, of calls that are granted, refused and struck. -/
theorem cleared_log_is_what_was_asked :
    let s : Simulator := {}
    let t := s.after ([.ask .start, .clearCalls] ++
      [.failOn .openDevice 1, .ask (.openDevice 0), .ask (.openDevice 7), .ask (.openDevice 0)])
    t.calls.reverse = [.openDevice 0, .openDevice 7, .openDevice 0] ∧
      t.callCount .openDevice = 3 ∧ t.callCount .start = 1 := by
  obtain ⟨hcalls, hcounts, -⟩ := log_is_what_was_asked {} [.ask .start, .clearCalls]
    [.failOn .openDevice 1, .ask (.openDevice 0), .ask (.openDevice 7), .ask (.openDevice 0)]
    (Or.inr rfl) (by decide)
  exact ⟨hcalls, hcounts .openDevice, hcounts .start⟩

/-- A copy between unknown memory objects is refused and leaves no trace. -/
theorem unknown_copy_is_not_logged :
    let copy : Request := .copyMemory ⟨1⟩ ⟨2⟩ ⟨3⟩
    let t := Simulator.after {} [.ask copy]
    copy.answer? {} = none ∧ t.calls = [] ∧ t.callCount .copyMemory = 0 := by
  decide

end StreamCompute
