/-
  StreamCompute.Proofs.DriverRuns

  What always holds of a driver that is called in any order, with any arguments
  and any failures injected. `Effect` says what one call can do; here it is shown
  what every such step keeps, and by induction what every run keeps.
-/
import Mathlib.Order.Bounds.Basic
import StreamCompute.Proofs.AllocationSizes

namespace StreamCompute

open Fallible

/-! ## Runs -/

namespace Request

/-- The answer that the request gets, if it is granted. -/
def answer? (r : Request) (s : Simulator) : Option Answer :=
  match (r.command.run.run s).1 with
  | .ok (.ok a) => some a
  | _ => none

def outcome (r : Request) (s : Simulator) : Simulator :=
  (r.command.run.run s).2

/-- The entry point and the context of a request that starts work. -/
def work? : Request → Option (Operation × Ident .context)
  | copyMemory context _ _ => some (.copyMemory, context)
  | runProgram context _ _ => some (.runProgram, context)
  | _ => none

end Request

/-- The number that the answer has given out, if any. -/
def Answer.number? : Answer → Option Nat
  | made _ i => some i.number
  | _ => none

namespace Simulator

/-- Requests with the answers of those that were granted, the oldest first. -/
abbrev Exchanges := List (Request × Option Answer)

/-- A run of the driver. Between requests, the failures to come may be changed, the log be cleared
    and the log events be collected. -/
inductive Run (s : Simulator) : Exchanges → Simulator → Prop
  | rest : Run s [] s
  | call {log : Exchanges} {t : Simulator} (h : Run s log t) (r : Request) :
      Run s (log ++ [(r, r.answer? t)]) (r.outcome t)
  | control {log : Exchanges} {t : Simulator} (h : Run s log t) (injections : List Injection)
      (tokenErrors : List (Operation × String)) (calls : List Call) (notices : List Event) :
      Run s log { t with injections, tokenErrors, calls, notices }

def numbers (log : Exchanges) : List Nat :=
  log.filterMap fun e => e.2.bind Answer.number?

def statuses (event : Ident .event) (log : Exchanges) : List Status :=
  log.filterMap fun
    | (.queryEvent _ e, some (.status status)) => if e = event then some status else none
    | _ => none

end Simulator

open Simulator

/-- A request is granted and has its effect, or only logged. -/
theorem Request.outcome_cases (r : Request) (s : Simulator) :
    (∃ a t, r.answer? s = some a ∧ s.Effect r a t ∧
        ∃ calls counts, r.outcome s = t.relogged calls counts) ∨
      r.answer? s = none ∧ ∃ calls counts, r.outcome s = s.relogged calls counts := by
  obtain ⟨calls, counts, hnoted⟩ := s.noted_eq r
  unfold Request.answer? Request.outcome
  rcases (r.command_leads s).run_cases with ⟨a, _, hrun, hg⟩ | ⟨_, _, hrun, rfl⟩ | ⟨_, _, hrun, rfl, -⟩
  · cases hg with
    | intro _ he hleft =>
      rw [hrun, hleft]
      exact Or.inl ⟨a, _, rfl, he, _, _, rfl⟩
  all_goals
    rw [hrun, hnoted]
    exact Or.inr ⟨rfl, calls, counts, rfl⟩

namespace Simulator

variable {s t : Simulator} {spec : Spec} {r : Request} {a : Answer} {log : Exchanges}

/-- What holds of every run: it holds before anything was done, the logs and the failures to come
    are nothing to it, and every request keeps it, granted or not. -/
theorem Run.keeps {P : Exchanges → Simulator → Prop} (h : Run s log t) (hrest : P [] s)
    (hlogs : ∀ log t calls counts notices injections tokenErrors, P log t →
      P log { t with calls, counts, notices, injections, tokenErrors })
    (hgranted : ∀ log t r a u, Run s log t → P log t → r.answer? t = some a → t.Effect r a u →
      P (log ++ [(r, some a)]) u)
    (hrefused : ∀ log t r, P log t → P (log ++ [(r, none)]) t) : P log t := by
  induction h with
  | rest => exact hrest
  | control _ _ _ _ _ ih => exact hlogs _ _ _ _ _ _ _ ih
  | call h r ih =>
    rename_i log t
    rcases r.outcome_cases t with ⟨a, u, ha, he, _, _, hu⟩ | ⟨ha, _, _, ht⟩
    · rw [ha, hu]
      exact hlogs _ _ _ _ u.notices u.injections u.tokenErrors (hgranted log t r a u h ih ha he)
    · rw [ha, ht]
      exact hlogs _ _ _ _ t.notices t.injections t.tokenErrors (hrefused log t r ih)

/-! ## Numbers -/

/-- A granted request gives out the next number, or none. -/
theorem Effect.number? (h : s.Effect r a t) :
    (a.number? = none ∧ t.nextNumber = s.nextNumber) ∨
      a.number? = some s.nextNumber ∧ t.nextNumber = s.nextNumber + 1 := by
  cases h <;> first | exact Or.inl ⟨rfl, rfl⟩ | exact Or.inr ⟨rfl, rfl⟩

theorem Run.nextNumber_le (h : Run s log t) : s.nextNumber ≤ t.nextNumber :=
  h.keeps (P := fun _ t => s.nextNumber ≤ t.nextNumber) (Nat.le_refl _)
    (fun _ _ _ _ _ _ _ ht => ht) (fun _ _ _ _ _ _ ht _ he => ht.trans he.nextNumber_le)
    fun _ _ _ ht => ht

/-- Numbers are given out in order. -/
theorem Run.numbers_increase (h : Run s log t) :
    (numbers log).Pairwise (· < ·) ∧ ∀ n ∈ numbers log, n < t.nextNumber := by
  refine h.keeps
    (P := fun log t => (numbers log).Pairwise (· < ·) ∧ ∀ n ∈ numbers log, n < t.nextNumber)
    ⟨.nil, nofun⟩ (fun _ _ _ _ _ _ _ ht => ht) ?_ fun log t r ht => ?_
  · intro log t r a u _ ⟨hincrease, hbelow⟩ _ he
    have hlog : numbers (log ++ [(r, some a)]) = numbers log ++ a.number?.toList := by
      cases hn : a.number? <;> simp [numbers, hn]
    rcases he.number? with ⟨hn, hnext⟩ | ⟨hn, hnext⟩
    · rw [hlog, hn, hnext, Option.toList_none, List.append_nil]
      exact ⟨hincrease, hbelow⟩
    · rw [hlog, hn, hnext, List.pairwise_append]
      refine ⟨⟨hincrease, List.pairwise_singleton .., fun n hin k hk => ?_⟩, fun n hin => ?_⟩
      · cases List.mem_singleton.mp hk
        exact hbelow n hin
      · rcases List.mem_append.mp hin with hin | hin
        · exact Nat.lt_succ_of_lt (hbelow n hin)
        · cases List.mem_singleton.mp hin
          exact Nat.lt_succ_self _
  · simpa [numbers] using ht

/-! ## Tables -/

/-- What is fixed about a resource when it is allocated. -/
structure Shaped (spec : Spec) (res : Resource) : Prop where
  unmapped : res.place = .onDevice → res.mapped = false
  localPitch : res.place = .onDevice → res.pitch = res.layout.width
  remotePitch : res.place = .onHost →
    IsLeast { n | spec.alignment ∣ n ∧ res.layout.width ≤ n } res.pitch
  size : res.bytes.size = res.pitch * res.layout.height * res.format.elementSize

/-- What always holds of the tables of a driver. -/
structure WellFormed (spec : Spec) (s : Simulator) : Prop where
  fixed : s.spec = spec
  fits : s.live ≤ spec.capacity
  numbered : ∀ memory owner, s.memories.get? memory = some owner → memory.number < s.nextNumber
  contexts : ∀ context, s.bindings.has context = s.contexts.has context
  bound : ∀ context registers, s.bindings.get? context = some registers →
    ∀ e ∈ registers, ∃ resource, s.memories.get? e.2 = some (context, resource)
  entries : ∀ e ∈ s.entries, s.modules.has e.2 = true
  resources : ∀ id res, s.resources.get? id = some res → Shaped spec res

namespace WellFormed

theorem initial : WellFormed spec { spec } :=
  ⟨rfl, Nat.zero_le _, nofun, fun _ => rfl, nofun, nofun, nofun⟩

theorem next (h : s.WellFormed spec) : WellFormed spec { s with nextNumber := s.nextNumber + 1 } :=
  { h with numbered := fun memory owner hm => Nat.lt_succ_of_lt (h.numbered memory owner hm) }

/-- The same resources, changed in what is not fixed. -/
theorem refilled (h : s.WellFormed spec) {resources : Assoc (Ident .resource) Resource}
    (hkeys : resources.keys = s.resources.keys)
    (hshaped : ∀ id res, resources.get? id = some res → Shaped spec res) :
    WellFormed spec { s with resources } where
  __ := h
  fits := by
    have hlength := congrArg List.length hkeys
    simp only [Assoc.keys, List.length_map] at hlength
    exact hlength.trans_le h.fits
  resources := hshaped

theorem setResource (h : s.WellFormed spec) {id : Ident .resource} {res res' : Resource}
    (hid : s.resources.get? id = some res) (hshaped : Shaped spec res') :
    WellFormed spec { s with resources := s.resources.set id res' } := by
  refine h.refilled (Assoc.keys_set_of_get? hid) fun i r hr => ?_
  rcases Assoc.of_get?_set hr with ⟨-, rfl⟩ | ⟨-, hr⟩
  · exact hshaped
  · exact h.resources i r hr

end WellFormed

/-- The rows of a new resource are as long as they have to be. -/
theorem newResource_shaped (spec : Spec) (place : Placement) (layout : Layout) (format : Format) :
    Shaped spec (newResource spec place layout format) where
  unmapped _ := rfl
  localPitch h := by
    cases h
    rfl
  remotePitch h := by
    cases h
    have hwidth : (Shape.padded spec ⟨layout.width, 1⟩).width = newPitch spec .onHost layout :=
      Shape.padded_width
    refine ⟨⟨Dvd.intro_left _ rfl, ?_⟩, fun n hn => ?_⟩
    · exact Shape.width_le_padded.trans_eq hwidth
    · exact hwidth.symm.trans_le (Shape.padded_le hn.2 hn.1)
  size := rfl

/-- Only the context of a memory object that is released loses bindings. -/
theorem get?_unbound (s : Simulator) (context c : Ident .context) (memory : Ident .memory) :
    (s.unbound context memory).get? c = if context = c then
      (s.bindings.get? c).map (·.keepValues (· ≠ memory)) else s.bindings.get? c := by
  unfold unbound
  split
  · rename_i bound hbound
    rw [Assoc.get?_set]
    split
    · rename_i heq
      rw [← heq, hbound]
      rfl
    · rfl
  · rename_i hnone
    split
    · rename_i heq
      rw [← heq, hnone]
      rfl
    · rfl

theorem Effect.wellFormed (he : s.Effect r a t) (h : s.WellFormed spec) : t.WellFormed spec := by
  cases he
  -- Most effects leave alone what the invariant speaks of, or take a number and no more.
  case start | stop | countDevices | describeDevice | closeDevice | freeImage | stillPending |
      ended =>
    exact { h with }
  case openDevice | compile | findRegister => exact { h.next with }
  -- A context comes and goes together with its registers, and starts without any.
  case createContext device =>
    refine { h.next with contexts := fun c => ?_, bound := fun c registers hc => ?_ }
    · simp only [Assoc.has, Assoc.get?_set]
      split
      · rfl
      · exact h.contexts c
    · rcases Assoc.of_get?_set hc with ⟨-, rfl⟩ | ⟨-, hc⟩
      · exact List.forall_mem_nil _
      · exact h.bound c registers hc
  case destroyContext context =>
    refine { h with contexts := fun c => ?_, bound := fun c registers hc => ?_ }
    · simp only [Assoc.has, Assoc.get?_erase]
      split
      · rfl
      · exact h.contexts c
    · exact h.bound c registers (Assoc.of_get?_erase hc).2
  case loadModule context image =>
    refine { h.next with entries := fun e he => ?_ }
    have hmodule := h.entries e he
    simp only [Assoc.has, Assoc.get?_set] at hmodule ⊢
    split
    · rfl
    · exact hmodule
  case unloadModule context module =>
    refine { h with entries := fun e he => ?_ }
    obtain ⟨hmem, hne⟩ := Assoc.mem_keepValues (p := (· ≠ module)) he
    have hmodule := h.entries e hmem
    simp only [Assoc.has, Assoc.get?_erase] at hmodule ⊢
    rwa [if_neg (Ne.symm (of_decide_eq_true hne))]
  case findEntry context module symbol image hmodule =>
    refine { h.next with entries := fun e he => ?_ }
    rcases Assoc.mem_set he with rfl | he
    · exact Assoc.has_iff.mpr ⟨_, hmodule⟩
    · exact h.entries e he
  case getMemory context resource =>
    refine { h with numbered := fun memory owner hm => ?_, bound := fun c registers hc e he => ?_ }
    · rcases Assoc.of_get?_set hm with ⟨rfl, -⟩ | ⟨-, hm⟩
      · exact Nat.lt_succ_self _
      · exact Nat.lt_succ_of_lt (h.numbered memory owner hm)
    · obtain ⟨resource, hr⟩ := h.bound c registers hc e he
      have hne := Ident.ne_of_number_lt (h.numbered _ _ hr)
      exact ⟨resource, (Assoc.get?_set_of_ne _ _ hne.symm).trans hr⟩
  case releaseMemory context memory resource hmemory =>
    refine { h with numbered := fun i owner hi => ?_, contexts := fun c => ?_,
                    bound := fun c registers hc e he => ?_ }
    · exact h.numbered i owner (Assoc.of_get?_erase hi).2
    · have hcontext := h.contexts c
      simp only [Assoc.has, get?_unbound] at hcontext ⊢
      split <;> simpa using hcontext
    · change (s.unbound context memory).get? c = some registers at hc
      rw [get?_unbound] at hc
      split at hc
      · obtain ⟨registers, hbound, rfl⟩ := Option.map_eq_some_iff.mp hc
        obtain ⟨hmem, hne⟩ := Assoc.mem_keepValues he
        obtain ⟨resource, hr⟩ := h.bound c registers hbound e hmem
        have hne : memory ≠ e.2 := Ne.symm (of_decide_eq_true hne)
        exact ⟨resource, (Assoc.get?_erase_of_ne _ hne).trans hr⟩
      -- Another context has the object in no register, since every object is of one context.
      · rename_i hother
        obtain ⟨resource, hr⟩ := h.bound c registers hc e he
        have hne : memory ≠ e.2 := by
          rintro rfl
          cases hmemory.symm.trans hr
          exact hother rfl
        exact ⟨resource, (Assoc.get?_erase_of_ne _ hne).trans hr⟩
  case bindMemory context register memory name resource hcontext hmemory =>
    refine { h with contexts := fun c => ?_, bound := fun c registers hc e he => ?_ }
    · have hlive := h.contexts c
      simp only [Assoc.has, Assoc.get?_set] at hlive hcontext ⊢
      split
      · rename_i heq
        rw [← heq, hcontext]
        rfl
      · exact hlive
    · rcases Assoc.of_get?_set hc with ⟨rfl, rfl⟩ | ⟨-, hc⟩
      · rcases Assoc.mem_set he with rfl | he
        · exact ⟨resource, hmemory⟩
        · cases hbound : s.bindings.get? context with
          | none => simp [hbound] at he
          | some registers =>
            rw [hbound] at he
            exact h.bound context registers hbound e he
      · exact h.bound c registers hc e he
  case allocate place device layout format flags _ hroom =>
    refine { h.next with fits := ?_, resources := fun id res hres => ?_ }
    · exact Nat.le_trans (Assoc.length_set_le ..) (h.fixed ▸ hroom)
    · rcases Assoc.of_get?_set hres with ⟨-, rfl⟩ | ⟨-, hres⟩
      · rw [h.fixed]
        exact newResource_shaped spec place layout format
      · exact h.resources id res hres
  case freeResource id =>
    refine { h with fits := ?_, resources := fun i res hres => ?_ }
    · exact (List.length_filter_le ..).trans h.fits
    · exact h.resources i res (Assoc.of_get?_erase hres).2
  case mapResource id res moves _ hres hplace =>
    have hshaped := h.resources id res hres
    have hmapped : Shaped spec { res with mapped := true, everMapped := true, moves } :=
      { hshaped with unmapped := fun hlocal => by cases hplace.symm.trans hlocal }
    exact { h.setResource hres hmapped with }
  case unmapResource id res hres =>
    exact h.setResource hres { h.resources id res hres with unmapped := fun _ => rfl }
  -- Copies and runs change bytes, and never how many there are.
  case copyMemory context source target dst read written hwritten =>
    have hshaped := h.resources dst written hwritten
    have hcovered : Shaped spec { written with bytes := written.bytes.cover read.bytes } :=
      { hshaped with size := (Contents.size_cover ..).trans hshaped.size }
    exact { (h.setResource hwritten hcovered).next with }
  case runProgram context entry domain =>
    refine { (h.refilled (s.keys_executed context domain) fun id res' hres' => ?_).next with }
    rcases s.executed_refilled context domain id with ⟨-, hnone⟩ | ⟨res, bytes, hres, hsize, hnew⟩
    · cases hnone.symm.trans hres'
    · cases hnew.symm.trans hres'
      have hshaped := h.resources id res hres
      exact { hshaped with size := hsize.trans hshaped.size }

theorem Run.wellFormed (h : Run { spec } log s) : s.WellFormed spec :=
  h.keeps (P := fun _ s => s.WellFormed spec) .initial (fun _ _ _ _ _ _ _ ht => { ht with })
    (fun _ _ _ _ _ _ ht _ he => he.wellFormed ht) fun _ _ _ ht => ht

/-! ## Resources -/

/-- A resource that was known before has kept what is fixed about it. -/
def KeepsShapes (s t : Simulator) : Prop :=
  ∀ id res', t.resources.get? id = some res' → id.number < s.nextNumber →
    ∃ res, s.resources.get? id = some res ∧ res.SameShape res'

theorem Effect.keepsShapes (he : s.Effect r a t) : s.KeepsShapes t := by
  intro id res' hid hold
  rcases he.resources id res' hid with hkept | ⟨hnew, -⟩
  · exact hkept
  · exact absurd hnew (Nat.ne_of_lt hold)

theorem Run.keepsShapes (h : Run s log t) : s.KeepsShapes t := by
  refine h.keeps (P := fun _ t => s.KeepsShapes t) (fun id res h _ => ⟨res, h, .refl⟩)
    (fun _ _ _ _ _ _ _ ht => ht) (fun log t r a u hrun ht _ he id res' hid hold => ?_)
    fun _ _ _ ht => ht
  obtain ⟨res₁, hres₁, hsame₁⟩ := he.keepsShapes id res' hid (hold.trans_le hrun.nextNumber_le)
  obtain ⟨res, hres, hsame⟩ := ht id res₁ hres₁ hold
  exact ⟨res, hres, hsame₁.place.trans hsame.place, hsame₁.layout.trans hsame.layout,
    hsame₁.format.trans hsame.format, hsame₁.pitch.trans hsame.pitch⟩

/-- Changing a resource in anything but its bytes leaves the bytes of all as they are. -/
theorem bytes?_set {id : Ident .resource} {res res' : Resource}
    (hid : s.resources.get? id = some res) (hbytes : res'.bytes = res.bytes)
    (i : Ident .resource) : ((s.resources.set id res').get? i).map (·.bytes) = s.bytes? i := by
  unfold bytes?
  rw [Assoc.get?_set]
  split
  · rename_i heq
    rw [← heq, hid, Option.map_some, Option.map_some, hbytes]
  · rfl

/-- Neither mapping nor the end of a mapping changes any bytes. -/
theorem bytes?_of_mapping {id : Ident .resource} (hr : r = .mapResource id ∨ r = .unmapResource id)
    (s : Simulator) (i : Ident .resource) : (r.outcome s).bytes? i = s.bytes? i := by
  rcases r.outcome_cases s with ⟨a, t, -, he, _, _, ht⟩ | ⟨-, _, _, hs⟩
  · rw [ht]
    rcases hr with rfl | rfl
    · cases he with
      | mapResource hres _ => exact bytes?_set hres (by rfl) i
    · cases he with
      | unmapResource hres => exact bytes?_set hres (by rfl) i
  · rw [hs]
    rfl

/-! ## Tokens -/

/-- What a token answers that ends with this error, if with any. -/
def ending (error : Option String) : Status :=
  error.elim .done .failed

theorem statuses_query {event e : Ident .event} {context : Ident .context} {status : Status} :
    statuses event [(.queryEvent context e, some (.status status))] =
      if e = event then [status] else [] := by
  unfold statuses
  split <;> simp [*]

/-- A granted request asks a token or leaves it alone, unless it destroys its context. -/
theorem Effect.token (he : s.Effect r a t) {event : Ident .event} {token : Token}
    (htoken : s.tokens.get? event = some token) (hold : event.number < s.nextNumber)
    (hlive : r ≠ .destroyContext token.context) :
    (statuses event [(r, some a)] = [] ∧ t.tokens.get? event = some token) ∨
      statuses event [(r, some a)] = [if token.pending = 0 then ending token.error else .pending] ∧
        t.tokens.get? event = some { token with pending := token.pending - 1 } := by
  cases he
  case destroyContext context =>
    have hne : token.context ≠ context := fun heq => hlive (heq ▸ rfl)
    exact Or.inl ⟨rfl, Assoc.get?_keepValues (p := (·.context ≠ context)) htoken
      (decide_eq_true hne)⟩
  -- A new token has a new number.
  case copyMemory | runProgram =>
    refine Or.inl ⟨rfl, Eq.trans (Assoc.get?_set_of_ne _ _ ?_) htoken⟩
    exact (Ident.ne_of_number_lt hold).symm
  case stillPending context e asked n hasked hn =>
    rw [statuses_query]
    by_cases heq : e = event
    · cases heq
      cases htoken.symm.trans hasked
      exact Or.inr ⟨by simp [hn], by simp [hn]⟩
    · rw [if_neg heq]
      exact Or.inl ⟨rfl, (Assoc.get?_set_of_ne _ _ heq).trans htoken⟩
  case ended context e asked hasked hn =>
    rw [statuses_query]
    by_cases heq : e = event
    · cases heq
      cases htoken.symm.trans hasked
      have hpending : token.pending - 1 = token.pending := by omega
      rw [hpending]
      exact Or.inr ⟨by simp [hn, ending], htoken⟩
    · rw [if_neg heq]
      exact Or.inl ⟨rfl, htoken⟩
  all_goals exact Or.inl ⟨rfl, htoken⟩

/-- The answers of a token: pending, as often as it is to be, and then always the same. -/
theorem Run.token (h : Run s log t) {event : Ident .event} {token : Token}
    (htoken : s.tokens.get? event = some token) (hold : event.number < s.nextNumber)
    (hlive : ∀ a, (.destroyContext token.context, some a) ∉ log) :
    ∃ n, statuses event log =
        (List.range n).map (fun i => if i < token.pending then .pending else ending token.error) ∧
      t.tokens.get? event = some { token with pending := token.pending - n } := by
  revert hlive
  -- Induction on the run. The number of answers so far says what the next one is.
  refine h.keeps (P := fun log t => (∀ a, (.destroyContext token.context, some a) ∉ log) →
    ∃ n, statuses event log =
        (List.range n).map (fun i => if i < token.pending then .pending else ending token.error) ∧
      t.tokens.get? event = some { token with pending := token.pending - n }) ?_ ?_ ?_ ?_
  · exact fun _ => ⟨0, rfl, htoken⟩
  · exact fun _ _ _ _ _ _ _ ht => ht
  · intro log t r a u hrun ht _ he hlive
    obtain ⟨n, hlog, ht⟩ := ht fun b hb => hlive b (List.mem_append_left _ hb)
    have hr : r ≠ .destroyContext token.context := fun heq => hlive a (by simp [heq])
    have happend : statuses event (log ++ [(r, some a)]) =
      statuses event log ++ statuses event [(r, some a)] := List.filterMap_append
    rcases he.token ht (hold.trans_le hrun.nextNumber_le) hr with ⟨hnone, hu⟩ | ⟨hone, hu⟩
    · rw [happend, hnone, List.append_nil]
      exact ⟨n, hlog, hu⟩
    · refine ⟨n + 1, ?_, hu.trans (by simp [Nat.sub_sub])⟩
      rw [happend, hone, hlog, List.range_succ, List.map_append]
      by_cases hn : n < token.pending
      · simp [hn, Nat.sub_ne_zero_of_lt hn]
      · simp [hn, Nat.sub_eq_zero_of_le (Nat.le_of_not_lt hn)]
  · intro log t r ht hlive
    obtain ⟨n, hlog, ht⟩ := ht fun b hb => hlive b (List.mem_append_left _ hb)
    refine ⟨n, ?_, ht⟩
    rw [← hlog]
    simp [statuses]

/-- The token of work that was accepted. -/
theorem Effect.work (he : s.Effect r a t) {op : Operation} {context : Ident .context}
    (hr : r.work? = some (op, context)) :
    a = .made .event ⟨s.nextNumber⟩ ∧ s.nextNumber < t.nextNumber ∧
      t.tokens.get? ⟨s.nextNumber⟩ =
        some ⟨context, s.spec.pendingPolls, (takeTokenError op s.tokenErrors).1⟩ := by
  cases he
  case copyMemory | runProgram =>
    cases hr
    exact ⟨rfl, Nat.lt_succ_self _, Assoc.get?_set_self ..⟩
  all_goals cases hr

end Simulator

/-- A driver stays well-formed, whatever it is asked. No number is given out twice; no more resources
    are live than there is room for, and the rest of the room can still be allocated; the tables
    fit together; what is fixed about a resource stays as it is, and no mapping changes its bytes.
    A token answers that it is pending as often as the driver was built to answer so, and from
    then on always with its end, until its context is destroyed. -/
theorem driver_stays_well_formed {spec : Spec} {log : Exchanges} {s : Simulator}
    (h : Run { spec } log s) :
    s.WellFormed spec ∧ s.available + s.live = spec.capacity ∧ (numbers log).Nodup ∧
      (∀ log' t, Run s log' t → s.KeepsShapes t) ∧
      (∀ (r : Request) id, r = .mapResource id ∨ r = .unmapResource id →
        ∀ i, (r.outcome s).bytes? i = s.bytes? i) ∧
      ∀ (r : Request) op context event, r.work? = some (op, context) →
        r.answer? s = some (.made .event event) →
        ∀ log' t, Run (r.outcome s) log' t → (∀ a, (.destroyContext context, some a) ∉ log') →
          ∃ n, statuses event log' = (List.range n).map fun i =>
            if i < spec.pendingPolls then .pending
            else ending (takeTokenError op s.tokenErrors).1 := by
  have hformed := h.wellFormed
  refine ⟨hformed, ?_, h.numbers_increase.1.imp Nat.ne_of_lt, fun _ _ h => h.keepsShapes,
    fun _ _ hr => bytes?_of_mapping hr s, fun r op context event hwork hr log' t hrun hlive => ?_⟩
  · unfold available
    rw [hformed.fixed]
    exact Nat.sub_add_cancel hformed.fits
  · rcases r.outcome_cases s with ⟨a, u, ha, he, _, _, hu⟩ | ⟨hnone, -⟩
    · obtain ⟨rfl, hnext, htoken⟩ := he.work hwork
      cases ha.symm.trans hr
      rw [hu] at hrun
      rw [← hformed.fixed]
      obtain ⟨n, hlog, -⟩ := hrun.token htoken hnext hlive
      exact ⟨n, hlog⟩
    · cases hnone.symm.trans hr

/-- A driver with room for one resource, which is asked for two. -/
theorem full_driver_stays_well_formed :
    let allocate := Request.allocate .onDevice ⟨1⟩ (.linear 3) ⟨.float32, .one⟩ .plain
    ∃ log s, Run { spec := { capacity := 1 } } log s ∧
      log.getLast? = some (allocate, none) ∧ numbers log = [1, 2] ∧ (numbers log).Nodup ∧
      s.live = 1 ∧ s.available + s.live = 1 := by
  intro allocate
  have hrun : Run { spec := { capacity := 1 } } _ _ :=
    (((Run.rest.call .start).call (.openDevice 0)).call allocate).call allocate
  obtain ⟨-, hbalance, hnumbers, -⟩ := driver_stays_well_formed hrun
  exact ⟨_, _, hrun, rfl, rfl, hnumbers, rfl, hbalance⟩

end StreamCompute
