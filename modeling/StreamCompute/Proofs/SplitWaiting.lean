/-
  StreamCompute.Proofs.SplitWaiting

  How the waiting for a kernel is split does not matter. Where no question about
  the kernel is refused, the answers depend on the number of questions only: a
  token that is to be pending for `p` polls answers so `p` times. Asking
  beforehand, or a join that times out, therefore leaves the machine as it was,
  up to the token and the logs, and the join that ends the execution finds the
  token used up as if it had done all the asking itself. What the clock shows
  decides only which joins time out.

  Which questions are refused depends on their numbers. So a question that was
  answered after some others would have been answered, too, if a single wait had
  come to it.
-/
import StreamCompute.Proofs.Alike
import StreamCompute.Proofs.CopyOrder
import StreamCompute.Proofs.DeviceRounds
import StreamCompute.Proofs.Questions

namespace StreamCompute

open Fallible

variable {κ ω : Type} {e : Execution} {m m' m'' : Machine κ ω}

/-- A token that is asked gives its answer and comes closer to its end, unless a failure was
    injected into a question with this number. -/
theorem Simulator.queryEvent_decides {s : Simulator} {context : Ident .context}
    {event : Ident .event} {token : Token} (htoken : s.tokens.get? event = some token)
    (hcontext : token.context = context) :
    (queryEvent context event).run.Leads s
      (fun status s' => s.injected? .queryEvent (s.callCount .queryEvent + 1) = none ∧
        status = token.answer ∧
        s' = { logged (.queryEvent context event) s with
          tokens := s.tokens.set event { token with pending := token.pending - 1 } })
      (fun _ s' => s.injected? .queryEvent (s.callCount .queryEvent + 1) ≠ none ∧
        s' = logged (.queryEvent context event) s) fun _ => False := by
  have hinjected : (logged (.queryEvent context event) s).injected? .queryEvent
      ((logged (.queryEvent context event) s).callCount .queryEvent) =
        s.injected? .queryEvent (s.callCount .queryEvent + 1) :=
    congrArg (s.injected? .queryEvent) (callCount_logged ..)
  have hfound : ((logged (.queryEvent context event) s).tokens.get? event).filter
      (·.context == context) = some token := by
    show (s.tokens.get? event).filter _ = _
    simp [htoken, hcontext]
  have henter : (enter (.queryEvent context event)).Leads s
      (fun _ s' => s.injected? .queryEvent (s.callCount .queryEvent + 1) = none ∧
        s' = logged (.queryEvent context event) s)
      (fun _ s' => s.injected? .queryEvent (s.callCount .queryEvent + 1) ≠ none ∧
        s' = logged (.queryEvent context event) s) fun _ => False := by
    unfold enter
    rw [leads_bind, leads_modify, leads_bind, leads_get]
    split
    · rename_i i hi
      exact ⟨fun hnone => Option.some_ne_none i (hi.symm.trans (hinjected.trans hnone)), rfl⟩
    · rename_i hnone
      exact ⟨hinjected.symm.trans hnone, rfl⟩
  simp only [queryEvent, leads_bind, leads_get]
  refine henter.mono (fun _ s' hs' => ?_) (fun _ _ hs' => hs') fun _ hs' => hs'
  obtain ⟨hnone, rfl⟩ := hs'
  rw [hfound]
  unfold obtain
  dsimp only
  rw [leads_pure]
  split
  · rename_i n hn
    exact ⟨hnone, by simp [Token.answer, hn], by rw [hn]; rfl⟩
  · rename_i hn
    -- A token that has ended stays as it is.
    have hsame : { logged (.queryEvent context event) s with
        tokens := s.tokens.set event { token with pending := token.pending - 1 } } =
        logged (.queryEvent context event) s := by
      have hkept : ({ token with pending := token.pending - 1 } : Token) = token := by
        cases token
        cases hn
        rfl
      rw [hkept, Assoc.set_of_get? htoken]
      rfl
    rw [hsame]
    split
    · rename_i message hmessage
      exact ⟨hnone, by simp [Token.answer, hn, hmessage], rfl⟩
    · rename_i herror
      exact ⟨hnone, by simp [Token.answer, hn, herror], rfl⟩

/-! ## Histories that grow -/

/-- The history of a machine without hooks only grows. -/
def Machine.Grows (m m' : Machine κ ω) : Prop :=
  m'.platform.hooks = [] ∧ m.history <:+ m'.history

theorem Machine.Grows.abides (info : DeviceInfo) : Abides info (m.Grows : Machine κ ω → Prop) where
  hooks _ h := h.1
  moves m₁ m₂ hmoves h := by
    refine ⟨hmoves.hooks.trans h.1, ?_⟩
    cases hmoves with
    | call => exact h.2.trans (List.suffix_cons ..)
    | marked | mapped | recorded | written | arena | ended | beside => exact h.2

namespace Execution

/-- No question about the kernel was refused since the history was that of the first machine. -/
def Candid (e : Execution) (base m : Machine κ ω) : Prop :=
  ∀ calls, m.history = calls ++ base.history →
    ∀ mo ∈ calls, e.asks mo = true → mo.verdict = .accepted

theorem Candid.before {base : Machine κ ω} (h : e.Candid base m') (hm : m.history <:+ m'.history) :
    e.Candid base m := by
  intro calls hcalls mo hmo
  obtain ⟨later, hlater⟩ := hm
  refine h (later ++ calls) ?_ mo (List.mem_append_right later hmo)
  rw [← hlater, hcalls, List.append_assoc]

end Execution

/-! ## Questions that are not refused -/

/-- How often a new token answers that it is pending. -/
abbrev Machine.patience (m : Machine κ ω) : Nat := m.platform.driver.spec.pendingPolls

/-- A failure is to strike the question that comes after this many others. -/
def Machine.Strikes (m : Machine κ ω) (n : Nat) : Prop :=
  m.platform.driver.injected? .queryEvent
    (m.platform.driver.callCount .queryEvent + (n + 1)) ≠ none

namespace Execution

/-- The machine with the token of the kernel in this state. -/
def leaving (e : Execution) (pending : Nat) (error : Option String) (m : Machine κ ω) :
    Machine κ ω :=
  m.onDriver fun s => { s with tokens := s.tokens.set e.event ⟨e.context, pending, error⟩ }

/-- Nobody has asked about the kernel yet. The token is to end with this error, if with any. -/
structure Unasked (e : Execution) (error : Option String) (m : Machine κ ω) : Prop where
  hooks : m.platform.hooks = []
  issued : e.event.number < m.platform.driver.nextNumber
  token : m.platform.driver.tokens.get? e.event = some ⟨e.context, m.patience, error⟩
  progress : e.progress m = {}

/-- The machine is what this many questions about the kernel have made of the first, up to what
    was logged and what is known of the kernel. None of them was refused. -/
structure AskedFrom (e : Execution) (error : Option String) (base : Machine κ ω) (n : Nat)
    (m : Machine κ ω) : Prop where
  alike : (e.leaving (base.patience - n) error base).Alike (· = .queryEvent) e m
  count : m.platform.driver.callCount .queryEvent =
    base.platform.driver.callCount .queryEvent + n
  clear : ∀ k, k < n → ¬ base.Strikes k
  questions : e.questions m = e.questions base + n
  later : base.history <:+ m.history

/-- A question was refused, and no more than this many were asked before. -/
structure Refused (e : Execution) (base : Machine κ ω) (bound : Nat) (m : Machine κ ω) : Prop where
  struck : ∃ k, k ≤ bound ∧ base.Strikes k
  evident : ¬ e.Candid base m
  hooks : m.platform.hooks = []

variable {error : Option String} {base : Machine κ ω} {n bound : Nat}

namespace AskedFrom

theorem refl (h : e.Unasked error base) : e.AskedFrom error base 0 base where
  alike := by
    have hsame : e.leaving base.patience error base = base := by
      unfold leaving Machine.onDriver Machine.onPlatform
      dsimp only
      rw [Assoc.set_of_get? h.token]
    rw [Nat.sub_zero, hsame]
    exact .refl
  count := rfl
  clear := nofun
  questions := rfl
  later := List.suffix_refl _

variable (h : e.AskedFrom error base n m)

include h

theorem hooks (hbase : e.Unasked error base) :
    m.platform.hooks = [] :=
  h.alike.hooks.trans hbase.hooks

theorem issued (hbase : e.Unasked error base) :
    e.event.number < m.platform.driver.nextNumber := by
  obtain ⟨_, _, _, heq⟩ := h.alike.driver.same
  rw [heq]
  exact hbase.issued

theorem token :
    m.platform.driver.tokens.get? e.event = some ⟨e.context, base.patience - n, error⟩ := by
  obtain ⟨_, _, _, heq⟩ := h.alike.driver.same
  rw [heq]
  exact Assoc.get?_set_self ..

/-- The number of the next question decides whether it is refused. -/
theorem strikes_iff :
    m.platform.driver.injected? .queryEvent (m.platform.driver.callCount .queryEvent + 1) ≠ none ↔
      base.Strikes n := by
  have hsame : m.platform.driver.injections = base.platform.driver.injections := by
    obtain ⟨_, _, _, heq⟩ := h.alike.driver.same
    rw [heq]
    rfl
  unfold Machine.Strikes Simulator.injected?
  rw [h.count, hsame, Nat.add_assoc]

theorem journal {journal : List Event} :
    e.AskedFrom error base n { m with journal } :=
  { h with alike := h.alike.journal }

theorem onProgress {f : Progress → Progress} :
    e.AskedFrom error base n (e.onProgress f m) :=
  { h with alike := h.alike.onProgress }

theorem next (hn : ¬ base.Strikes n) :
    e.AskedFrom error base (n + 1) (m.handled .queryEvent .accepted
      { Simulator.logged (.queryEvent e.context e.event) m.platform.driver with
        tokens := m.platform.driver.tokens.set e.event
          ⟨e.context, base.patience - n - 1, error⟩ }) := by
  -- One question more leaves the token one answer less, on both sides.
  have hleaving : (e.leaving (base.patience - (n + 1)) error base).platform.driver =
      { (e.leaving (base.patience - n) error base).platform.driver with
        tokens := (e.leaving (base.patience - n) error base).platform.driver.tokens.set e.event
          ⟨e.context, base.patience - n - 1, error⟩ } := by
    unfold leaving Machine.onDriver Machine.onPlatform
    rw [Assoc.set_set, Nat.sub_sub]
  refine ⟨⟨?_, ?_, h.alike.progress⟩, ?_, fun k hk => ?_, ?_, ?_⟩
  · obtain ⟨_, _, _, _, rfl⟩ := h.alike.same
    exact ⟨_, _, _, _, rfl⟩
  · -- The token is set on both sides; what is logged besides does not count.
    have hset := h.alike.driver.change (f := fun s => { s with
      tokens := s.tokens.set e.event ⟨e.context, base.patience - n - 1, error⟩ })
      fun _ _ _ _ => rfl
    rw [hleaving]
    have hquiet : (Call.queryEvent e.context e.event).operation = .queryEvent := rfl
    exact (hset.logged_right hquiet).notices
  · have hcount : (Simulator.logged (.queryEvent e.context e.event) m.platform.driver).callCount
        .queryEvent = m.platform.driver.callCount .queryEvent + 1 :=
      Simulator.callCount_logged ..
    rw [← Nat.add_assoc, ← h.count]
    exact hcount
  · rcases Nat.lt_succ_iff_lt_or_eq.mp hk with hk | rfl
    · exact h.clear k hk
    · exact hn
  · rw [questions_handled (not_starts_of_asks (asks_moment rfl)), if_pos (asks_moment rfl)]
    exact congrArg (· + 1) h.questions
  · exact h.later.trans (List.suffix_cons ..)

theorem refused (hbase : e.Unasked error base)
    (hn : base.Strikes n) (hbound : n ≤ bound) {d : DriverError} :
    e.Refused base bound (m.handled .queryEvent (.refused d)
      (Simulator.logged (.queryEvent e.context e.event) m.platform.driver)) := by
  refine ⟨⟨n, hbound, hn⟩, fun hcandid => ?_, h.hooks hbase⟩
  obtain ⟨calls, hcalls⟩ := h.later
  have haccepted := hcandid (m.moment .queryEvent (.refused d) _ :: calls)
    (by rw [Machine.history_handled, ← hcalls]; rfl) _ List.mem_cons_self (asks_moment rfl)
  cases haccepted

end AskedFrom

/-- The failure that a kernel's token ends with. -/
def failureOf (error : Option String) : Option DriverError :=
  error.map fun message => ⟨Operation.runProgram.name, message⟩

variable [Reentry κ ω] (hbase : e.Unasked error base)

include hbase

/-- The answer depends on the number of questions. -/
theorem check_asked (h : e.AskedFrom error base n m) (hbound : n ≤ bound) :
    (Completion.check .runProgram e.context e.event).Leads m
      (fun done m' => (e.AskedFrom error base (n + 1) m' ∧ m'.progress = m.progress) ∧
        done = decide (base.patience ≤ n) ∧ (done = true → error = none))
      (fun d m' => ((e.AskedFrom error base (n + 1) m' ∧ m'.progress = m.progress) ∧
        base.patience ≤ n ∧ failureOf error = some d) ∨ e.Refused base bound m')
      fun _ => False := by
  unfold Completion.check
  rw [leads_bind, Machine.leads_drive (unhooked (h.hooks hbase)) rfl]
  refine (Simulator.queryEvent_decides h.token rfl).mono (fun status s hs => ?_)
    (fun d s hs => ?_) fun _ hs => hs
  · obtain ⟨hnone, rfl, rfl⟩ := hs
    have hnext := h.next fun hn => h.strikes_iff.mpr hn hnone
    by_cases hn : base.patience ≤ n
    · have hzero : base.patience - n = 0 := Nat.sub_eq_zero_of_le hn
      cases error with
      | none =>
        simp only [Token.answer, hzero, if_true, Option.elim_none]
        rw [hzero] at hnext
        exact ⟨⟨hnext, rfl⟩, (decide_eq_true hn).symm, fun _ => trivial⟩
      | some message =>
        simp only [Token.answer, hzero, if_true, Option.elim_some]
        rw [hzero] at hnext
        exact Or.inl ⟨⟨hnext, rfl⟩, hn, rfl⟩
    · have hpos : base.patience - n ≠ 0 := by omega
      simp only [Token.answer, if_neg hpos]
      exact ⟨⟨hnext, rfl⟩, (decide_eq_false hn).symm, by simp⟩
  · obtain ⟨hsome, rfl⟩ := hs
    exact Or.inr (h.refused hbase (h.strikes_iff.mp hsome) hbound)

omit [Reentry κ ω] hbase in
/-- How a wait ends that starts after `n` questions and, for its own part, after `polls` polls:
    the token has ended well, or it is pending and the limit has passed. -/
def WaitEnds (e : Execution) (error : Option String) (base : Machine κ ω) (limit : Option Nat)
    (n polls : Nat) : WaitOutcome → Machine κ ω → Prop
  | .completed k, m => error = none ∧ k + n = polls + (base.patience + 1) ∧
    e.AskedFrom error base (base.patience + 1) m
  | .timedOut k, m => limit ≠ none ∧ ∃ n', n' ≤ base.patience ∧ k + n = polls + n' ∧
    e.AskedFrom error base n' m

omit [Reentry κ ω] hbase in
/-- How a wait fails: the token has ended with an error, or a question was refused. -/
def WaitFails (e : Execution) (error : Option String) (base : Machine κ ω) (bound : Nat)
    (d : DriverError) (m : Machine κ ω) : Prop :=
  (failureOf error = some d ∧ ∃ n, base.patience < n ∧ e.AskedFrom error base n m) ∨
    e.Refused base bound m

theorem pollOn_asked {progress : Assoc ExecutionKey Progress} (h : e.AskedFrom error base n m)
    (hprogress : m.progress = progress) (hn : error = none → n ≤ base.patience) {w : Waiter}
    {clock : Machine κ ω → Nat} {limit : Option Nat} {started fuel polls : Nat}
    {reported : Option Nat} (hfuel : base.patience - n < fuel) (hbound : n ≤ bound)
    (hpatience : base.patience ≤ bound) :
    (w.pollOn clock Operation.runProgram.name (Completion.check .runProgram e.context e.event) limit
      started fuel polls reported).Leads m
      (fun outcome m' => m'.progress = progress ∧ WaitEnds e error base limit n polls outcome m')
      (fun d m' => WaitFails e error base bound d m') fun _ => False := by
  induction fuel generalizing m n polls reported with
  | zero => omega
  | succ fuel ih =>
    refine Waiter.leads_pollOn <| (check_asked hbase h hbound).mono (fun done m₁ h₁ => ?_)
      (fun d m₁ h₁ => h₁.imp_left fun h => ⟨h.2.2, n + 1, Nat.lt_succ_of_le h.2.1, h.1.1⟩)
      fun _ hm => hm
    obtain ⟨⟨hm₁, hsame⟩, hdone, hended⟩ := h₁
    have hm₁progress : m₁.progress = progress := hsame.trans hprogress
    cases done with
    | true =>
      have hle : base.patience ≤ n := of_decide_eq_true hdone.symm
      have hn : n = base.patience := Nat.le_antisymm (hn (hended rfl)) hle
      subst hn
      exact fun _ => ⟨hm₁progress, hended rfl, by omega, hm₁.journal⟩
    | false =>
      have hlt : ¬ base.patience ≤ n := of_decide_eq_false hdone.symm
      rw [if_neg Bool.false_ne_true]
      refine ⟨fun hlimit => ⟨hm₁progress, hlimit, n + 1, by omega, by omega, hm₁⟩,
        fun _ reported m₂ hm₂ => ?_⟩
      -- The rest of the wait starts one poll later, from a machine that may have logged that.
      have hrest : e.AskedFrom error base (n + 1) m₂ ∧ m₂.progress = progress := by
        obtain rfl | ⟨_, rfl⟩ := hm₂
        · exact ⟨hm₁, hm₁progress⟩
        · exact ⟨hm₁.journal, hm₁progress⟩
      refine (ih hrest.1 hrest.2 (fun _ => by omega) (by omega) (by omega)).imp
        fun outcome m' hm' => ⟨hm'.1, ?_⟩
      cases outcome with
      | completed k =>
        obtain ⟨-, hnone, hk, hm'⟩ := hm'
        exact ⟨hnone, by omega, hm'⟩
      | timedOut k =>
        obtain ⟨-, hlimit, n', hle, hk, hm'⟩ := hm'
        exact ⟨hlimit, n', hle, by omega, hm'⟩

theorem await_asked (h : e.AskedFrom error base n m) (hn : error = none → n ≤ base.patience)
    (hbound : n ≤ bound) (hpatience : base.patience ≤ bound) {limit : Option Nat} :
    (await e limit).Leads m
      (fun outcome m' => m'.progress = m.progress ∧ WaitEnds e error base limit n 0 outcome m')
      (fun d m' => WaitFails e error base bound d m') fun _ => False := by
  have hfuel : base.patience - n < Completion.pollsLeft m.platform.driver e.event := by
    unfold Completion.pollsLeft
    rw [h.token]
    exact Nat.lt_succ_self _
  unfold await Completion.wait Waiter.wait
  rw [leads_mk, Act.leads_onCutOff, leads_run, leads_timed, leads_bind, leads_get, leads_bind,
    leads_get]
  refine (pollOn_asked hbase h rfl hn hfuel hbound hpatience).mono (fun outcome m₁ h₁ => ?_)
    (fun d m₁ h₁ => ?_) fun _ hm => hm
  · refine ⟨h₁.1, ?_⟩
    cases outcome with
    | completed k => exact ⟨h₁.2.1, h₁.2.2.1, h₁.2.2.2.journal⟩
    | timedOut k =>
      obtain ⟨-, hlimit, n', hle, hk, hm₁⟩ := h₁
      exact ⟨hlimit, n', hle, hk, hm₁.journal⟩
  · exact h₁.imp (fun ⟨hd, n', hn', hm₁⟩ => ⟨hd, n', hn', hm₁.journal⟩) fun hm₁ => { hm₁ with }

omit [Reentry κ ω] hbase in
/-- The machine is what this many questions have made of the first, and all of them are known
    of. -/
structure Awaits (e : Execution) (error : Option String) (base : Machine κ ω) (n : Nat)
    (m : Machine κ ω) : Prop extends e.AskedFrom error base n m where
  known : e.progress m = ⟨n, decide (base.patience < n) && error.isNone⟩
  bounded : error = none → n ≤ base.patience + 1

omit [Reentry κ ω] in
theorem Awaits.start : e.Awaits error base 0 base where
  toAskedFrom := .refl hbase
  known := by
    rw [hbase.progress]
    simp
  bounded _ := Nat.zero_le _

theorem isComplete_asked (h : e.Awaits error base n m) :
    (isComplete e).Leads m
      (fun done m' => ∃ n', e.Awaits error base n' m' ∧ (done = true ↔ base.patience < n'))
      (fun _ m' => e.Awaits error base (n + 1) m' ∨ e.Refused base n m') fun _ => False := by
  unfold isComplete
  rw [leads_bind, leads_get, h.known]
  split
  · rename_i hdone
    have hlt : base.patience < n := by
      simp only [Bool.and_eq_true, decide_eq_true_eq] at hdone
      exact hdone.1
    exact ⟨n, h, iff_of_true rfl hlt⟩
  · rename_i hdone
    have hnot : (decide (base.patience < n) && error.isNone) = false := Bool.eq_false_iff.mpr hdone
    rw [leads_bind, leads_modify, leads_bind, leads_mapError]
    -- A poll is counted before it is made, so it counts even if it fails.
    have hpolled : e.AskedFrom error base n
        (e.onProgress (fun p => { p with polls := p.polls + 1 }) m) := h.toAskedFrom.onProgress
    have hknown : ∀ m₁ : Machine κ ω,
        m₁.progress = (e.onProgress (fun p => { p with polls := p.polls + 1 }) m).progress →
        e.progress m₁ = ⟨n + 1, false⟩ := by
      intro m₁ h₁
      have hprogress : e.progress m₁ = { e.progress m with polls := (e.progress m).polls + 1 } := by
        rw [progress, h₁]
        exact progress_onProgress
      rw [hprogress, h.known, hnot]
    refine (check_asked hbase hpolled (Nat.le_refl n)).mono (fun done m₁ h₁ => ?_)
      (fun d m₁ h₁ => h₁.imp_left fun h₁ => ?_) fun _ hm => hm
    · obtain ⟨⟨hm₁, hsame⟩, hdone', hended⟩ := h₁
      refine ⟨n + 1, ⟨hm₁.onProgress, ?_, fun hnone => ?_⟩, ?_⟩
      · have hend : done = (decide (base.patience < n + 1) && error.isNone) := by
          by_cases hle : base.patience ≤ n
          · have htrue : done = true := hdone'.trans (decide_eq_true hle)
            simp [htrue, hended htrue, Nat.lt_succ_of_le hle]
          · rw [hdone', decide_eq_false hle, decide_eq_false (by omega)]
            rfl
        rw [progress_onProgress, hknown m₁ hsame, ← hend]
      · have hle : n ≤ base.patience := by simpa [hnone] using hnot
        omega
      · rw [hdone', decide_eq_true_iff]
        omega
    · obtain ⟨⟨hm₁, hsame⟩, hle, hd⟩ := h₁
      refine ⟨hm₁, ?_, fun hnone => ?_⟩
      · rw [hknown m₁ hsame]
        cases error with
        | none => cases hd
        | some message => simp
      · rw [hnone] at hd
        cases hd

/-- How a join goes that starts after `n` questions. -/
inductive JoinGoes (e : Execution) (error : Option String) (base : Machine κ ω)
    (limit : Option Nat) (n : Nat) (m : Machine κ ω) : Prop
  | timedOut {m' : Machine κ ω} {n' : Nat}
      (run : (e.joinWithin limit).run m = (.ok (.ok none), m')) (limit : limit ≠ none)
      (early : n' ≤ base.patience) (left : e.Awaits error base n' m')
  /-- It finds the token used up and takes the execution down. -/
  | ended {m₁ : Machine κ ω} {n₁ : Nat}
      (run : (e.joinWithin limit).run m =
        (some <$> e.finalize ((failureOf error).map .execution)).run m₁)
      (late : base.patience < n₁) (asked : e.AskedFrom error base n₁ m₁)
      (polls : error = none → (e.progress m₁).polls = base.patience + 1 ∧ n₁ = base.patience + 1)
  /-- A question is refused, and the execution is taken down. -/
  | refused {m₁ : Machine κ ω} {failure : Option Error}
      (run : (e.joinWithin limit).run m = (some <$> e.finalize failure).run m₁)
      (refused : e.Refused base (max base.patience n) m₁)

theorem joinWithin_asked (h : e.Awaits error base n m) {limit : Option Nat} :
    JoinGoes e error base limit n m := by
  by_cases hdone : (e.progress m).done = true
  -- A poll has already seen the end, so nothing is asked any more.
  · have hknown := hdone
    rw [h.known] at hknown
    obtain ⟨hlt, hnone⟩ : base.patience < n ∧ error = none := by simpa using hknown
    have hn : n = base.patience + 1 := Nat.le_antisymm (h.bounded hnone) hlt
    refine .ended ?_ hlt h.toAskedFrom fun _ => ⟨?_, hn⟩
    · unfold joinWithin
      rw [Fallible.run_get_bind, if_pos hdone, hnone]
      rfl
    · rw [h.known]
      exact hn
  · have hnot : (decide (base.patience < n) && error.isNone) = false := by
      rw [h.known] at hdone
      exact Bool.eq_false_iff.mpr hdone
    have hn : error = none → n ≤ base.patience := by
      intro hnone
      simpa [hnone] using hnot
    -- Otherwise the join waits, and that ends in one of three ways.
    rcases (await_asked hbase h.toAskedFrom hn (Nat.le_max_right base.patience n)
      (Nat.le_max_left base.patience n)).run_cases with
      ⟨outcome, m₁, hawait, hprogress, h₁⟩ | ⟨d, m₁, hawait, h₁⟩ | ⟨_, _, _, hcut⟩
    · have hsame : e.progress m₁ = e.progress m := by
        unfold progress
        rw [hprogress]
      cases outcome with
      | completed k =>
        obtain ⟨hnone, hk, hm₁⟩ := h₁
        have hjoin : (joinWithin e limit).run m = (some <$> finalize e none).run
            (e.onProgress (fun p => { polls := p.polls + k, done := true }) m₁) := by
          unfold joinWithin
          rw [Fallible.run_get_bind, if_neg hdone,
            Fallible.run_bind_of_ok (Fallible.run_perform_attempt hawait)]
          rfl
        have hm₂ : e.AskedFrom error base (base.patience + 1)
            (e.onProgress (fun p => { polls := p.polls + k, done := true }) m₁) := hm₁.onProgress
        refine .ended ?_ (Nat.lt_succ_self _) hm₂ fun _ => ⟨?_, rfl⟩
        · rw [hjoin, hnone]
          rfl
        · rw [progress_onProgress, hsame, h.known]
          show n + k = base.patience + 1
          omega
      | timedOut k =>
        obtain ⟨hlimit, n', hle, hk, hm₁⟩ := h₁
        have hjoin : ∃ journal, (joinWithin e limit).run m = (.ok (.ok none),
            { e.onProgress (fun p => { p with polls := p.polls + k }) m₁ with journal }) := by
          unfold joinWithin
          rw [Fallible.run_get_bind, if_neg hdone,
            Fallible.run_bind_of_ok (Fallible.run_perform_attempt hawait)]
          exact ⟨_, rfl⟩
        obtain ⟨journal, hjoin⟩ := hjoin
        refine .timedOut hjoin hlimit hle ⟨hm₁.onProgress.journal, ?_, fun _ => by omega⟩
        have hknown : e.progress (e.onProgress (fun p => { p with polls := p.polls + k }) m₁) =
            ⟨n', false⟩ := by
          rw [progress_onProgress, hsame, h.known, hnot]
          congr 1
          show n + k = n'
          omega
        have hstill : (decide (base.patience < n') && error.isNone) = false := by
          simp [Nat.not_lt.mpr hle]
        rw [hstill]
        exact hknown
    · have hjoin : ∃ journal, (joinWithin e limit).run m =
          (some <$> finalize e (some (.execution d))).run { m₁ with journal } := by
        unfold joinWithin
        rw [Fallible.run_get_bind, if_neg hdone,
          Fallible.run_bind_of_ok (Fallible.run_perform_attempt hawait)]
        exact ⟨_, rfl⟩
      obtain ⟨journal, hjoin⟩ := hjoin
      -- The token's own error comes after all its answers; a refused question may come at any time.
      rcases h₁ with ⟨hd, n₁, hlt, hm₁⟩ | hrefused
      · have hm₂ : e.AskedFrom error base n₁ { m₁ with journal } := hm₁.journal
        refine .ended ?_ hlt hm₂ fun hnone => ?_
        · rw [hjoin, hd]
          rfl
        · rw [hnone] at hd
          cases hd
      · exact .refused hjoin { hrefused with }
    · exact hcut.elim

/-! ## Splitting a wait -/

omit hbase in
/-- A join without a limit is what becomes of the wait. -/
theorem join_of_joinWithin {act : Task κ ω Summary} {m₁ : Machine κ ω}
    (h : (joinWithin e none).run m = (some <$> act).run m₁) : (join e).run m = act.run m₁ := by
  unfold join
  rw [Fallible.run_bind_congr h, bind_map_left, bind_pure]

/-- What may be done with an execution before the join that ends it. -/
inductive Looks (e : Execution) (m m' : Machine κ ω) : Prop
  | polled {answer : Except Error Bool} (h : e.isComplete.run m = (.ok answer, m'))
  | timedOut {limit : Option Nat} (h : (e.joinWithin limit).run m = (.ok (.ok none), m'))

omit hbase in
theorem Looks.counted (h : e.Looks m m') (hm : e.Counted m) : e.Counted m' := by
  cases h with
  | polled h =>
    rename_i answer
    cases answer with
    | ok done => exact (isComplete_counts hm).of_eq_ok h
    | error err => exact (isComplete_counts hm).of_eq_error h
  | timedOut h => exact (joinWithin_counts hm).of_eq_ok h

omit hbase [Reentry κ ω] in
/-- A join that takes the execution down does not leave it running. -/
theorem run_some_ne_none {act : Task κ ω Summary} :
    (some <$> act).run m ≠ (.ok (.ok none), m') := by
  intro h
  have hsome : (some <$> act).Leads m (fun summary? _ => summary? ≠ none) (fun _ _ => True)
      fun _ => True :=
    leads_map.mpr
      (leads_true.imp fun _ _ _ => Option.some_ne_none _)
  exact hsome.of_eq_ok h rfl

omit hbase in
/-- Whatever is done with an execution, the history grows. -/
theorem finalize_grows {failure : Option Error} (hooks : m.platform.hooks = []) {r : Except Abort _}
    (h : (some <$> finalize e failure).run m = (r, m')) : m.history <:+ m'.history := by
  have hleads : (some <$> finalize e failure).Leads m (fun _ => m.Grows) (fun _ => m.Grows)
      m.Grows :=
    leads_map.mpr (finalize_abides (Machine.Grows.abides {}) m
      ⟨hooks, List.suffix_refl _⟩)
  have hfinal := hleads.final
  rw [h] at hfinal
  exact hfinal.2

omit hbase in
theorem Looks.grows (h : e.Looks m m') (hooks : m.platform.hooks = []) : m.Grows m' := by
  have hm : m.Grows m := ⟨hooks, List.suffix_refl _⟩
  cases h with
  | polled h =>
    have hfinal := (isComplete_abides (e := e) (Machine.Grows.abides {}) m hm).final
    rwa [h] at hfinal
  | timedOut h =>
    rename_i limit
    have hjoin : (joinWithin e limit).Stands m.Grows m.Grows :=
      joinWithin_abides (Machine.Grows.abides {})
    have hfinal := (hjoin m hm).final
    rwa [h] at hfinal

theorem Looks.awaits (h : e.Looks m m') (hm : e.Awaits error base n m)
    (hcandid : e.Candid base m') : ∃ n', e.Awaits error base n' m' := by
  cases h with
  | polled h =>
    rename_i answer
    cases answer with
    | ok done =>
      obtain ⟨n', hm', -⟩ := (isComplete_asked hbase hm).of_eq_ok h
      exact ⟨n', hm'⟩
    | error err =>
      rcases (isComplete_asked hbase hm).of_eq_error h with hm' | hrefused
      · exact ⟨n + 1, hm'⟩
      · exact absurd hcandid hrefused.evident
  | timedOut h =>
    rename_i limit
    have hgoes : JoinGoes e error base limit n m := joinWithin_asked hbase hm
    cases hgoes with
    | timedOut hjoin _ _ hm₁ =>
      cases hjoin.symm.trans h
      exact ⟨_, hm₁⟩
    | ended hjoin => exact absurd (hjoin.symm.trans h) run_some_ne_none
    | refused hjoin => exact absurd (hjoin.symm.trans h) run_some_ne_none

omit hbase in
theorem grows_of_looks (hlooks : Relation.ReflTransGen e.Looks m m')
    (hooks : m.platform.hooks = []) : m.Grows m' := by
  induction hlooks with
  | refl => exact ⟨hooks, List.suffix_refl _⟩
  | tail _ hlook ih =>
    have hstep := hlook.grows ih.1
    exact ⟨hstep.1, ih.2.trans hstep.2⟩

/-- As long as no question is refused, all that has happened is questions. -/
theorem awaits_of_looks (hlooks : Relation.ReflTransGen e.Looks base m)
    (hcandid : e.Candid base m) : ∃ n, e.Awaits error base n m := by
  induction hlooks with
  | refl => exact ⟨0, .start hbase⟩
  | tail hbefore hlook ih =>
    have hgrows := hlook.grows (grows_of_looks hbefore hbase.hooks).1
    obtain ⟨n, hn⟩ := ih (hcandid.before hgrows.2)
    exact hlook.awaits hbase hn hcandid

/-- Taking the execution down gives the same answer, however many questions were asked before. -/
theorem finalize_asked {m₁ m₂ : Machine κ ω} {n₁ n₂ : Nat} (h₁ : e.AskedFrom error base n₁ m₁)
    (h₂ : e.AskedFrom error base n₂ m₂) (hn₁ : base.patience < n₁) (hn₂ : base.patience < n₂)
    (hend₁ : error = none → (e.progress m₁).polls = base.patience + 1 ∧ n₁ = base.patience + 1)
    (hend₂ : error = none → (e.progress m₂).polls = base.patience + 1 ∧ n₂ = base.patience + 1) :
    ∃ answer m₁' m₂',
      (finalize e ((failureOf error).map .execution)).run m₁ = (.ok answer, m₁') ∧
      (finalize e ((failureOf error).map .execution)).run m₂ = (.ok answer, m₂') ∧
      m₁'.Alike (· = .queryEvent) e m₂' ∧ e.questions m₂' = e.questions m₂ ∧
      ∀ summary, answer = .ok summary → summary.polls = base.patience + 1 := by
  have halike : m₁.Alike (· = .queryEvent) e m₂ := by
    have hzero₁ : base.patience - n₁ = 0 := by omega
    have hzero₂ : base.patience - n₂ = 0 := by omega
    have hleft := h₁.alike
    have hright := h₂.alike
    rw [hzero₁] at hleft
    rw [hzero₂] at hright
    exact hleft.symm.trans hright
  -- Tokens are only asked again if the kernel has not failed, and then the number of questions is
  -- the same on both sides.
  have hstep : Machine.InStep (Simulator.Alike fun op => op = .queryEvent ∧ error ≠ none)
      m₁ m₂ m₁ m₂ := by
    refine .start ⟨halike.same, ⟨halike.driver.same, fun op hop => ?_⟩, halike.progress⟩
      (h₁.hooks hbase)
    by_cases hquery : op = .queryEvent
    · have hnone : error = none := by
        by_contra hsome
        exact hop ⟨hquery, hsome⟩
      rw [hquery, h₁.count, h₂.count, (hend₁ hnone).2, (hend₂ hnone).2]
    · exact halike.driver.counts op hquery
  have hfailure : (failureOf error).map Error.execution = none →
      ¬ (Operation.queryEvent = .queryEvent ∧ error ≠ none) := by
    intro hnone hsome
    exact hsome.2 (by simpa [failureOf] using hnone)
  have hagree : ((fun x : Summary => (x.execution, x.remapped, x.copiedOut)) <$>
      finalize e ((failureOf error).map .execution)).Regardless
        (Machine.InStep (Simulator.Alike fun op => op = .queryEvent ∧ error ≠ none) m₁ m₂) :=
    finalize_inStep .alike (fun _ hop _ hquiet => hop hquiet.1) hfailure fun _ _ => rfl
  obtain ⟨hsame, hm', hend⟩ := hagree m₁ m₂ hstep
  have hheard₁ := takeDown_heard ((failureOf error).map Error.execution)
    ⟨h₁.hooks hbase, h₁.issued hbase, rfl, rfl⟩
  have hheard₂ := takeDown_heard ((failureOf error).map Error.execution)
    ⟨h₂.hooks hbase, h₂.issued hbase, rfl, rfl⟩
  rw [run_map, run_map] at hsame hm'
  rw [run_map] at hend
  rcases hrun₁ : (finalize e ((failureOf error).map .execution)).run m₁ with ⟨r₁, m₁'⟩
  rcases hrun₂ : (finalize e ((failureOf error).map .execution)).run m₂ with ⟨r₂, m₂'⟩
  rw [hrun₁, hrun₂] at hsame hm'
  rw [hrun₁] at hend
  have halike' : m₁'.Alike (· = .queryEvent) e m₂' := hm'.alike halike fun _ hop => hop.1
  rcases r₁ with _ | _ | summary₁
  · cases hend.resolve_left not_false
  · rcases r₂ with _ | _ | summary₂
    · cases hsame
    · cases hsame
      exact ⟨_, m₁', m₂', rfl, rfl, halike', (hheard₂.of_eq_error hrun₂).questions, nofun⟩
    · cases hsame
  · rcases r₂ with _ | _ | summary₂
    · cases hsame
    · cases hsame
    -- Only a kernel that has not failed ends well.
    have hnone : error = none := by
      cases error with
      | none => rfl
      | some message => exact (finalize_failed.of_eq_ok hrun₁).elim
    obtain ⟨-, hpolls₁⟩ := hheard₁.of_eq_ok hrun₁
    obtain ⟨hm₂', hpolls₂⟩ := hheard₂.of_eq_ok hrun₂
    rw [(hend₁ hnone).1] at hpolls₁
    rw [(hend₂ hnone).1] at hpolls₂
    have heq : summary₂ = summary₁ := by
      obtain ⟨_, _, _, _⟩ := summary₁
      obtain ⟨_, _, _, _⟩ := summary₂
      cases hpolls₁
      cases hpolls₂
      cases hsame
      rfl
    subst heq
    refine ⟨_, m₁', m₂', rfl, rfl, halike', hm₂'.questions, fun summary heq => ?_⟩
    cases heq
    exact hpolls₁

/-- The join that ends the execution goes as one would have gone at once. -/
theorem joinWithin_split (h : e.Awaits error base n m) {limit : Option Nat}
    {result : Except Abort (Except Error (Option Summary))}
    (hjoin : (joinWithin e limit).run m = (result, m')) (hcandid : e.Candid base m') :
    (result = .ok (.ok none) ∧ limit ≠ none ∧
      e.questions m' - e.questions base ≤ base.patience) ∨
    ∃ answer base', result = .ok (answer.map some) ∧
      (limit = none → (join e).run m = (.ok answer, m')) ∧
      base.patience < e.questions m' - e.questions base ∧
      (join e).run base = (.ok answer, base') ∧ base'.Alike (· = .queryEvent) e m' ∧
      ∀ summary, answer = .ok summary → summary.polls = base.patience + 1 := by
  have hgoes : JoinGoes e error base limit n m := joinWithin_asked hbase h
  cases hgoes with
  | timedOut hrun hlimit hle hm₁ =>
    cases hrun.symm.trans hjoin
    refine Or.inl ⟨rfl, hlimit, ?_⟩
    rw [hm₁.questions, Nat.add_sub_cancel_left]
    exact hle
  | refused hrun hrefused =>
    have hgrows := finalize_grows hrefused.hooks (hrun.symm.trans hjoin)
    exact absurd (hcandid.before hgrows) hrefused.evident
  | ended hrun hlate hasked hend =>
    rename_i m₁ n₁
    refine Or.inr ?_
    -- A join at once asks no question that was not asked, too, after the others.
    have hgoes₀ : JoinGoes e error base none 0 base := joinWithin_asked hbase (.start hbase)
    cases hgoes₀ with
    | timedOut _ hlimit => exact absurd rfl hlimit
    | refused _ hrefused =>
      obtain ⟨k, hk, hstrikes⟩ := hrefused.struck
      have hlt : k < n₁ := by omega
      exact absurd hstrikes (hasked.clear k hlt)
    | ended hrun₀ hlate₀ hasked₀ hend₀ =>
      obtain ⟨answer, base', m₂, hleft, hright, halike, hquestions, hpolls⟩ :=
        finalize_asked hbase hasked₀ hasked hlate₀ hlate hend₀ hend
      have hmap : (joinWithin e limit).run m = (.ok (answer.map some), m₂) := by
        rw [hrun, Fallible.run_map, hright]
        rfl
      cases hmap.symm.trans hjoin
      refine ⟨answer, base', rfl, fun hlimit => ?_, ?_, (join_of_joinWithin hrun₀).trans hleft,
        halike, hpolls⟩
      · subst hlimit
        exact (join_of_joinWithin hrun).trans hright
      · rw [hquestions, hasked.questions, Nat.add_sub_cancel_left]
        exact hlate

end Execution

/-! ## After a launch -/

namespace Launch

variable [Reentry κ ω] {image : Image} {q : LaunchRequest}

/-- The token of a kernel as its launch leaves it: it was made by the last call. -/
structure NewToken (context : Ident .context) (event : Ident .event) (m : Machine κ ω) : Prop where
  issued : event.number < m.platform.driver.nextNumber
  token : ∃ error, m.platform.driver.tokens.get? event = some ⟨context, m.patience, error⟩
  made : ∃ mo rest, m.history = mo :: rest ∧ mo.operation = .runProgram ∧
    event = ⟨mo.found.nextNumber⟩

omit [Reentry κ ω] in
theorem NewToken.unquestioned {e : Execution} (h : NewToken e.context e.event m) :
    e.questions m = 0 := by
  obtain ⟨mo, rest, hhistory, hop, hevent⟩ := h.made
  have hstarts : ¬ (!e.starts mo) = true := by
    simp [Execution.starts, hop, ← hevent]
  rw [Execution.questions, hhistory,
    List.takeWhile_cons_of_neg (p := fun mo => !e.starts mo) hstarts]
  rfl

theorem launch_token :
    (launch image q).Leads m (fun e => NewToken e.context e.event) (fun _ _ => True)
      fun _ => True := by
  have hnew : Withstands (fun _ => True) (fun _ : Machine κ ω => True) (fun _ => True)
      NewToken := by
    refine ⟨fun _ h => h, fun _ h => h, fun hbeside h => ?_, fun _ _ _ _ => leads_true,
      fun _ _ _ => leads_true, fun _ _ => leads_true, fun _ => ?_⟩
    · obtain ⟨hissued, htoken, hmade⟩ := h
      refine ⟨?_, ?_, ?_⟩
      · rwa [hbeside.driver]
      · unfold Machine.patience
        rwa [hbeside.driver]
      · rwa [hbeside.history]
    · unfold Machine.drive
      refine .bind leads_true fun _ m₂ _ => ?_
      rw [Machine.leads_handle]
      exact Simulator.runProgram_leads (fun _ => trivial)
        ⟨Nat.lt_succ_self _, ⟨_, Assoc.get?_set_self ..⟩, _, _, rfl, rfl, rfl⟩
  exact (launch_leads_on hnew (fun _ => hnew)
    (fun _ _ _ => leads_true.imp fun _ _ h => ⟨h, h⟩) (fun _ _ h => h) trivial).imp fun _ _ h => h.2

/-- A launch leaves no hook behind where there was none. -/
theorem launch_unhooked (hooks : m.platform.hooks = []) :
    (launch image q).Leads m (fun _ m' => m'.platform.hooks = []) (fun _ _ => True)
      fun _ => True := by
  have habides : Abides q.device.info fun m : Machine κ ω => m.platform.hooks = [] :=
    ⟨fun _ h => h, fun _ _ hmoves h => hmoves.hooks.trans h⟩
  have hdevices : (Devices.devices : Task κ ω (List Device)).Stands
      (fun m => m.platform.hooks = []) fun m => m.platform.hooks = [] := by
    intro m₁ h₁
    have hfound : ∀ m₂, m₂ = m₁ ∨ m₁.Discovers m₂ → m₂.platform.hooks = [] := by
      rintro m₂ (rfl | hdiscovers)
      · exact h₁
      · exact hdiscovers.hooks
    exact (Devices.devices_leads h₁).mono (fun _ m₂ h₂ => hfound m₂ h₂.2)
      (fun _ m₂ h₂ => hfound m₂ h₂.2) fun _ h₂ => h₂.elim
  exact (launch_abides habides (fun _ _ _ h => h) rfl (Devices.check_stands_of_devices hdevices)
    m hooks).mono (fun _ _ h => h) (fun _ _ _ => trivial) fun _ _ => trivial

end Launch

namespace Scenario

variable {m₀ m m₁ : RuntimeScene} {image : Image} {q : LaunchRequest}

/-- The waiting for a kernel may be split in any way: before the join that ends the execution, it
    may be asked about, and it may be joined with a limit that passes, as often as one likes.
    Whatever fails, that join reports as many polls as there were questions since the launch, and a
    join that must not take any time has asked one question and done nothing else if it times out.

    As long as no question is refused, nobody is told that the kernel is done before one more
    question was asked than the token is to be pending for. The join that ends the execution gives
    the answer that a join right after the launch would have given, which is after that number of
    polls, and up to what was logged it leaves the same machine. -/
theorem waiting_may_be_split [Reentry (List (Step RuntimeStep)) Cast] (hm₀ : Reachable m₀)
    (hooks : m₀.platform.hooks = []) (hlaunch : (Launch.launch image q).run m₀ = (.ok (.ok e), m))
    (hlooks : Relation.ReflTransGen e.Looks m m₁) :
    (∀ limit summary m₂, (e.joinWithin limit).run m₁ = (.ok (.ok (some summary)), m₂) →
      summary.polls = e.questions m₂) ∧
    (∀ m₂, (e.joinWithin (some 0)).run m₁ = (.ok (.ok none), m₂) → e.AskedOnce m₁ m₂) ∧
    (∀ done m₂, e.isComplete.run m₁ = (.ok (.ok done), m₂) → e.Candid m m₂ →
      (done = true ↔ m.patience < e.questions m₂)) ∧
    (∀ limit result m₂, (e.joinWithin limit).run m₁ = (result, m₂) → e.Candid m m₂ →
      (result = .ok (.ok none) ∧ limit ≠ none ∧ e.questions m₂ ≤ m.patience) ∨
      ∃ answer m', result = .ok (answer.map some) ∧
        (limit = none → e.join.run m₁ = (.ok answer, m₂)) ∧
        m.patience < e.questions m₂ ∧
        e.join.run m = (.ok answer, m') ∧ m'.Alike (· = .queryEvent) e m₂ ∧
        ∀ summary, answer = .ok summary → summary.polls = m.patience + 1) := by
  obtain ⟨a, setup, -, hlaunched, -⟩ := launched_of_launch hm₀ hooks hlaunch
  have hnew := Launch.launch_token.of_eq_ok hlaunch
  have hnone := hnew.unquestioned
  obtain ⟨hissued, ⟨error, htoken⟩, -⟩ := hnew
  have hhooks := (Launch.launch_unhooked hooks).of_eq_ok hlaunch
  have hunseen : e.progress m = {} := by
    unfold Execution.progress
    rw [hlaunched.unseen]
    rfl
  have hbase : e.Unasked error m := ⟨hhooks, hissued, htoken, hunseen⟩
  -- By induction on the looks: none of them loses count.
  have hcounted : e.Counted m₁ := by
    have hstart : e.Counted m := ⟨hhooks, hissued, by rw [hunseen, hnone]⟩
    induction hlooks with
    | refl => exact hstart
    | tail _ hlook ih => exact hlook.counted ih
  -- Refused questions stay in the history, so if there is none at the end there was none before.
  have hgrows : ∀ {α : Type} {act : Task _ _ α} {r m₂}, act.Stands m₁.Grows m₁.Grows →
      act.run m₁ = (r, m₂) → e.Candid m m₂ → ∃ n, e.Awaits error m n m₁ := by
    intro α act r m₂ hact hrun hcandid
    have hfinal := (hact m₁ ⟨hcounted.hooks, List.suffix_refl _⟩).final
    rw [hrun] at hfinal
    exact Execution.awaits_of_looks hbase hlooks (hcandid.before hfinal.2)
  refine ⟨fun limit summary m₂ hjoin => ?_,
    fun m₂ hjoin => (Execution.joinWithin_once hcounted.hooks).of_eq_ok hjoin rfl,
    fun done m₂ hpoll hcandid => ?_, fun limit result m₂ hjoin hcandid => ?_⟩
  · have hcount := (Execution.joinWithin_counts hcounted).of_eq_ok hjoin
    exact hcount.symm
  · obtain ⟨n, hawaits⟩ :=
      hgrows (Execution.isComplete_abides (Machine.Grows.abides {})) hpoll hcandid
    obtain ⟨n', hm₂, hdone⟩ := (Execution.isComplete_asked hbase hawaits).of_eq_ok hpoll
    rw [hdone, hm₂.questions, hnone, Nat.zero_add]
  · obtain ⟨n, hawaits⟩ :=
      hgrows (Execution.joinWithin_abides (Machine.Grows.abides {})) hjoin hcandid
    have hsplit := Execution.joinWithin_split hbase hawaits hjoin hcandid
    simp only [hnone, Nat.sub_zero] at hsplit
    exact hsplit

/-- The execution is joined with a limit of zero, while its token is pending. -/
def hastyJoin : Except Abort (Except Error (Option Summary)) × RuntimeScene :=
  (@Execution.joinWithin _ _ ⟨fun _ _ => pure ()⟩ directedExecution (some 0)).run
    (directedLaunch []).2

def latterJoin : Except Abort (Except Error (Option Summary)) × RuntimeScene :=
  (@Execution.joinWithin _ _ ⟨fun _ _ => pure ()⟩ directedExecution (some 7)).run hastyJoin.2

def directedSummary : Summary := ⟨⟨1⟩, 2, ["g[]", "i0", "i1", "x0"], ["g[]", "i1"]⟩

/-- One of the two questions about the kernel was asked by a join that timed out. -/
theorem latterJoin_ends_like_one :
    (Reachable (directedScene []) ∧ (directedScene []).platform.hooks = [] ∧
        (directedLaunch []).1 = .ok (.ok directedExecution) ∧ hastyJoin.1 = .ok (.ok none) ∧
        latterJoin.1 = .ok (.ok (some directedSummary))) ∧
      directedExecution.questions latterJoin.2 = 2 ∧
      ∃ m', (@Execution.join _ _ ⟨fun _ _ => pure ()⟩ directedExecution).run
          (directedLaunch []).2 = (.ok (.ok directedSummary), m') ∧
        m'.Alike (· = .queryEvent) directedExecution latterJoin.2 := by
  have hreach : Reachable (directedScene []) := ⟨_, _, 0, _, rfl, rfl⟩
  have hrest : (directedScene []).platform.hooks = [] ∧
      (directedLaunch []).1 = .ok (.ok directedExecution) ∧ hastyJoin.1 = .ok (.ok none) ∧
      latterJoin.1 = .ok (.ok (some directedSummary)) := by
    decide +kernel
  have hcandid : (latterJoin.2.history.all fun mo =>
      !directedExecution.asks mo || mo.verdict == .accepted) = true := by
    decide +kernel
  have ⟨hooks, hlaunched, htimedOut, hjoined⟩ := hrest
  have hlaunch : directedLaunch [] = (.ok (.ok directedExecution), (directedLaunch []).2) := by
    rw [← hlaunched]
  have hhasty : hastyJoin = (.ok (.ok none), hastyJoin.2) := by rw [← htimedOut]
  have hlatter : latterJoin = (.ok (.ok (some directedSummary)), latterJoin.2) := by
    rw [← hjoined]
  have hlooks : Relation.ReflTransGen
      (@Execution.Looks _ _ ⟨fun _ _ => pure ()⟩ directedExecution) (directedLaunch []).2
      hastyJoin.2 := .single (@Execution.Looks.timedOut _ _ ⟨fun _ _ => pure ()⟩ _ _ _ _ hhasty)
  obtain ⟨hcount, -, -, hsplit⟩ :=
    @waiting_may_be_split _ _ _ _ ⟨⟨2⟩, 5⟩ directedRequest ⟨fun _ _ => pure ()⟩ hreach hooks hlaunch
      hlooks
  refine ⟨⟨hreach, hrest⟩, (hcount _ _ _ hlatter).symm, ?_⟩
  have hend := hsplit _ _ _ hlatter fun calls hcalls mo hmo hasks => by
    have hmem : mo ∈ latterJoin.2.history := hcalls ▸ List.mem_append_left _ hmo
    simpa [hasks] using List.all_eq_true.mp hcandid mo hmem
  rcases hend with ⟨hfalse, -⟩ | ⟨answer, m', hanswer, -, -, hjoin, halike, -⟩
  · cases hfalse
  · cases answer with
    | error err => cases hanswer
    | ok summary =>
      cases hanswer
      exact ⟨m', hjoin, halike⟩

end Scenario

end StreamCompute
