/-
  StreamCompute.Proofs.Questions

  Questions about a kernel. Every question is counted once, by whoever asked it,
  so an execution that ends well reports as many polls as there were questions,
  even if some of them were refused. A join that times out asks one question
  and does nothing else.
-/
import StreamCompute.Proofs.Asking
import StreamCompute.Proofs.Served
import StreamCompute.Proofs.TakeDown

namespace StreamCompute

open Fallible

variable {κ ω : Type} {e : Execution} {m m' : Machine κ ω}

namespace Execution

/-! ## Counting questions -/

def asks (e : Execution) (mo : Moment) : Bool :=
  mo.operation == .queryEvent && mo.call? == some (.queryEvent e.context e.event)

/-- The call starts the kernel: its token is the next to be made. -/
def starts (e : Execution) (mo : Moment) : Bool :=
  mo.operation == .runProgram && e.event == ⟨mo.found.nextNumber⟩

/-- How often the driver was asked, since the kernel was started, whether it is done. -/
def questions (e : Execution) (m : Machine κ ω) : Nat :=
  (m.history.takeWhile fun mo => !e.starts mo).countP e.asks

theorem not_starts_of_asks {mo : Moment} (h : e.asks mo = true) : (!e.starts mo) = true := by
  rw [asks, Bool.and_eq_true, beq_iff_eq] at h
  simp [starts, h.1]

theorem asks_moment {verdict : Verdict} {s : Simulator}
    (h : s.calls = .queryEvent e.context e.event :: m.platform.driver.calls) :
    e.asks (m.moment .queryEvent verdict s) = true := by
  rw [asks, Machine.call?_moment h]
  simp [Machine.moment]

theorem questions_handled {op : Operation} {verdict : Verdict} {s : Simulator}
    (hstarts : (!e.starts (m.moment op verdict s)) = true) :
    e.questions (m.handled op verdict s) =
      e.questions m + if e.asks (m.moment op verdict s) then 1 else 0 := by
  rw [questions, Machine.history_handled,
    List.takeWhile_cons_of_pos (p := fun mo => !e.starts mo) hstarts, List.countP_cons]
  rfl

/-- Questions are counted where nothing but questions was asked. -/
theorem questions_called {asks : List Moment} (h : m.Called asks m')
    (hasks : ∀ mo ∈ asks, mo.Asks e.context e.event) :
    e.questions m' = e.questions m + asks.length := by
  have hall : ∀ mo ∈ asks.reverse, e.asks mo = true := by
    intro mo hmo
    obtain ⟨hop, hcall⟩ := hasks mo (List.mem_reverse.mp hmo)
    simp [Execution.asks, hop, hcall]
  rw [questions, h.history, List.takeWhile_append_of_pos fun mo hmo => not_starts_of_asks
    (hall mo hmo), List.countP_append, List.countP_eq_length.mpr hall, List.length_reverse,
    Nat.add_comm]
  rfl

/-- Nothing but this many questions about the kernel lies between the machines. -/
structure AskedTimes (e : Execution) (n : Nat) (m m' : Machine κ ω) : Prop where
  hooks : m'.platform.hooks = m.platform.hooks
  numbers : m'.platform.driver.nextNumber = m.platform.driver.nextNumber
  progress : m'.progress = m.progress
  questions : e.questions m' = e.questions m + n

/-- No hook waits, and the questions about the kernel are the polls that are known of. -/
structure Counted (e : Execution) (m : Machine κ ω) : Prop where
  hooks : m.platform.hooks = []
  issued : e.event.number < m.platform.driver.nextNumber
  questions : e.questions m = (e.progress m).polls

variable {n : Nat}

theorem AskedTimes.of_called {asks : List Moment} (h : m.Called asks m')
    (hnumbers : m'.platform.driver.nextNumber = m.platform.driver.nextNumber)
    (hasks : ∀ mo ∈ asks, mo.Asks e.context e.event) : e.AskedTimes asks.length m m' where
  hooks := by
    obtain ⟨_, _, _, rfl⟩ := h.rest
    rfl
  numbers := hnumbers
  progress := h.progress
  questions := questions_called h hasks

theorem progress_onProgress {f : Progress → Progress} :
    e.progress (e.onProgress f m) = f (e.progress m) := by
  unfold progress onProgress
  rw [Assoc.get?_set_self]
  rfl

/-- The questions are counted as soon as as many more polls are known of. -/
theorem Counted.asked (h : e.Counted m) (hasked : e.AskedTimes n m m') {f : Progress → Progress}
    (hf : ∀ p, (f p).polls = p.polls + n) : e.Counted (e.onProgress f m') where
  hooks := hasked.hooks.trans h.hooks
  issued := Nat.lt_of_lt_of_eq h.issued hasked.numbers.symm
  questions := by
    have hprogress : e.progress m' = e.progress m := by rw [progress, progress, hasked.progress]
    have hquestions : e.questions (e.onProgress f m') = e.questions m + n := hasked.questions
    rw [hquestions, progress_onProgress, hf, hprogress, h.questions]

theorem unhooked (hooks : m.platform.hooks = []) : m.Unhooked fun _ => true := .of_nil hooks

variable [Reentry κ ω]

/-- Asking gives out no number. -/
theorem query_numbers : (Machine.drive (Simulator.queryEvent e.context e.event)).Preserves
    fun m : Machine κ ω => m.platform.hooks = [] ∧ m.platform.driver.nextNumber = n := by
  intro m hm
  rw [Machine.leads_drive (unhooked hm.1) rfl]
  exact Simulator.queryEvent_leads (fun _ => hm) (fun _ _ _ _ _ => hm) fun _ _ _ _ => hm

theorem check_counts (hooks : m.platform.hooks = []) :
    (Completion.check .runProgram e.context e.event).Leads m (fun _ => e.AskedTimes 1 m)
      (fun _ => e.AskedTimes 1 m) fun _ => True := by
  refine ((Completion.check_asks rfl (unhooked hooks)).and
    (Completion.check_stands query_numbers m ⟨hooks, rfl⟩)).mono
    (fun done m' hm' => ?_) (fun d m' hm' => ?_) fun _ _ => trivial
  · obtain ⟨⟨mo, hcalled, hasked, -⟩, -, hm'⟩ := hm'
    exact .of_called hcalled hm' (List.forall_mem_singleton.mpr ⟨hasked.operation, hasked.call⟩)
  · obtain ⟨⟨mo, hcalled, hfailed⟩, -, hm'⟩ := hm'
    exact .of_called hcalled hm' (List.forall_mem_singleton.mpr hfailed.is_ask)

theorem await_counts (hooks : m.platform.hooks = []) {limit : Option Nat} :
    (await e limit).Leads m (fun outcome => e.AskedTimes outcome.polls m)
      (fun _ m' => ∃ n, e.AskedTimes n m m') fun _ => True := by
  refine ((await_asks hooks).and (await_stands ⟨fun _ _ h => h, fun _ _ h => h⟩ query_numbers m
    ⟨hooks, rfl⟩)).mono (fun outcome m₁ h₁ => ?_) (fun d m₁ h₁ => ?_) fun _ _ => trivial
  · obtain ⟨⟨asks, hcalled, hpolls, hasks⟩, -, hm₁⟩ := h₁
    have hall : ∀ mo ∈ asks, mo.Asks e.context e.event := by
      cases outcome with
      | completed n => exact Finished.all_ask hasks
      | timedOut n => exact fun mo hmo => ⟨(hasks.2 mo hmo).operation, (hasks.2 mo hmo).call⟩
    exact hpolls ▸ .of_called hcalled hm₁ hall
  · obtain ⟨⟨asks, hcalled, hasks⟩, -, hm₁⟩ := h₁
    exact ⟨asks.length, .of_called hcalled hm₁ hasks.all_ask⟩

/-- A poll is known of before it is made. -/
theorem isComplete_counts (h : e.Counted m) :
    (isComplete e).Leads m (fun _ => e.Counted) (fun _ => e.Counted)
      fun _ => True := by
  unfold isComplete
  rw [leads_bind, leads_get]
  split
  · exact h
  · rw [leads_bind, leads_modify, leads_bind, leads_mapError]
    -- The poll was counted first, and then one question is asked, whatever comes of it.
    have hcount : ∀ m₁,
        e.AskedTimes 1 (e.onProgress (fun p => { p with polls := p.polls + 1 }) m) m₁ →
        e.Counted m₁ := by
      intro m₁ h₁
      have hpolls : (e.progress m₁).polls = (e.progress m).polls + 1 := by
        rw [progress, h₁.progress]
        exact congrArg Progress.polls progress_onProgress
      have hquestions : e.questions m₁ = e.questions m + 1 := h₁.questions
      have hstart := h.questions
      exact ⟨h₁.hooks.trans h.hooks, Nat.lt_of_lt_of_eq h.issued h₁.numbers.symm, by omega⟩
    have hooks : (e.onProgress (fun p => { p with polls := p.polls + 1 }) m).platform.hooks = [] :=
      h.hooks
    refine (check_counts hooks).mono (fun done m₁ h₁ => ?_) (fun d m₁ h₁ => hcount m₁ h₁)
      fun _ hm => hm
    have hm₁ := hcount m₁ h₁
    refine ⟨hm₁.hooks, hm₁.issued, ?_⟩
    rw [progress_onProgress]
    exact hm₁.questions

/-! ## Taking down -/

omit [Reentry κ ω] in
/-- No hook waits, and so many questions were asked about the kernel. So many polls are known of. -/
structure Heard (e : Execution) (questions polls : Nat) (m : Machine κ ω) : Prop where
  hooks : m.platform.hooks = []
  issued : e.event.number < m.platform.driver.nextNumber
  questions : e.questions m = questions
  polls : (e.progress m).polls = polls

/-- A call that does not ask about the kernel. -/
theorem drive_heard {α : Type} {c : Command α} [c.Requested] {q p : Nat}
    (h : c.operation ≠ .queryEvent ∨
      ∃ call, call ≠ .queryEvent e.context e.event ∧ ∀ s, c.Logs call s) :
    (Machine.drive c).Preserves (e.Heard q p : Machine κ ω → Prop) := by
  intro m hm
  have hhandled : ∀ {verdict s}, m.platform.driver.nextNumber ≤ s.nextNumber →
      e.asks (m.moment c.operation verdict s) = false →
      e.Heard q p (m.handled c.operation verdict s) := fun {verdict s} hnumbers hasks => {
    hooks := hm.hooks
    issued := Nat.lt_of_lt_of_le hm.issued hnumbers
    questions := by
      have hstarts : (!e.starts (m.moment c.operation verdict s)) = true := by
        simp [starts, Machine.moment, Ident.ne_of_number_lt hm.issued]
      rw [questions_handled hstarts, hasks]
      exact hm.questions
    polls := hm.polls }
  rw [Machine.leads_drive (unhooked hm.hooks) rfl]
  -- It is of another entry point, or it asks about another token.
  rcases h with hop | ⟨call, hne, hlogs⟩
  · have hasks : ∀ {verdict s}, e.asks (m.moment c.operation verdict s) = false := by
      simp [asks, Machine.moment, hop]
    exact Command.leads_numbers.mono (fun _ _ h => hhandled h hasks) (fun _ _ h => hhandled h hasks)
      fun _ _ => trivial
  · have hasks : ∀ {verdict s}, s.calls = call :: m.platform.driver.calls →
        e.asks (m.moment c.operation verdict s) = false := by
      intro verdict s hcalls
      rw [asks, Machine.call?_moment hcalls]
      simp [hne]
    exact (Command.leads_numbers.and (hlogs _)).mono (fun _ _ h => hhandled h.1 (hasks h.2))
      (fun _ _ h => hhandled h.1 (hasks h.2)) fun _ _ => trivial

/-- A copy waits for a token that is newer than the kernel's. -/
theorem copy_heard {q p : Nat} {w : Waiter} {context : Ident .context}
    {source target : Ident .memory} :
    (Completion.copy w context source target).Preserves (e.Heard q p : Machine κ ω → Prop) := by
  intro m hm
  have hnew : (Machine.drive (Simulator.copyMemory context source target)).Leads m
      (fun event _ => event ≠ e.event) (fun _ _ => True) fun _ => True := by
    rw [Machine.leads_drive (unhooked hm.hooks) rfl]
    exact Simulator.copyMemory_leads (fun _ _ _ => trivial) fun _ _ _ _ _ _ _ _ =>
      (Ident.ne_of_number_lt hm.issued).symm
  refine .bind ((hnew.and (drive_heard (.inl fun h => by cases h) m hm)).mono (fun _ _ h => h)
    (fun _ _ h => h.2) fun _ _ => trivial) fun event m₁ h₁ => ?_
  exact .bind (Completion.wait_stands ⟨fun _ _ h => { h with }, fun _ _ h => h⟩
    (drive_heard (.inr ⟨_, fun heq => h₁.1 (Call.queryEvent.inj heq).2, fun _ => Command.logs rfl⟩))
    m₁ h₁.2) fun _ _ h => h

/-- Nobody asks about the kernel of an execution that is taken down. -/
theorem takeDown_heard {q p : Nat} (failure : Option Error) (h : e.Heard q p m) :
    (finalize e failure).Leads m (fun summary m' => e.Heard q p m' ∧ summary.polls = p)
      (fun _ => e.Heard q p) fun _ => True := by
  have hends : Ends e (e.Heard q p : Machine κ ω → Prop) fun _ => True := {
    journal := fun _ _ h => { h with }
    cut := fun _ _ h => h
    copy := copy_heard
    unload := drive_heard (.inl fun h => by cases h)
    release := fun _ => drive_heard (.inl fun h => by cases h)
    free := fun _ => drive_heard (.inl fun h => by cases h)
    restore := Memory.restore_stands ⟨fun _ _ h => { h with }, fun _ _ h => h⟩
      (drive_heard (.inl fun h => by cases h)) fun _ _ _ h => { h with }
    unclaimed := fun _ _ h => { h with }
    ended := fun _ h => { h with } }
  exact ((takesDown_split hends hends (drive_heard (.inl fun h => by cases h))).finalize rfl h).mono
    (fun _ _ h => ⟨h.1, h.2.trans h.1.polls⟩) (fun _ _ h => h) fun _ h => h

/-- What an execution that is taken down reports is what was counted. -/
theorem finalize_counts (h : e.Counted m) {failure : Option Error} :
    (finalize e failure).Leads m (fun summary m' => e.questions m' = summary.polls)
      (fun _ _ => True) fun _ => True :=
  (takeDown_heard failure ⟨h.hooks, h.issued, h.questions, rfl⟩).mono
    (fun _ _ hm => hm.2 ▸ hm.1.questions) (fun _ _ _ => trivial) fun _ h => h

/-- An execution whose kernel has failed does not end well. -/
theorem finalize_failed {err : Error} :
    (finalize e (some err)).Leads m (fun _ _ => False) (fun _ _ => True) fun _ => True := by
  have htakes : TakesDown e (e.arena m) (fun _ first (_ : Machine κ ω) => first ≠ none)
      fun _ => True :=
    .of_errors (fun first _ h => by cases first <;> simp at h ⊢)
      fun first _ _ h => by cases first <;> simp at h ⊢
  exact (htakes.finalize rfl (Option.some_ne_none err)).mono (fun _ _ h => h.1 rfl)
    (fun _ _ _ => trivial) fun _ h => h

/-- A join counts its questions, whether it ends the execution or not. -/
theorem joinWithin_counts (h : e.Counted m) {limit : Option Nat} :
    (joinWithin e limit).Leads m
      (fun summary? m' => match summary? with
        | some summary => e.questions m' = summary.polls
        | none => e.Counted m')
      (fun _ _ => True) fun _ => True := by
  refine leads_joinWithin (fun _ => finalize_counts h) (await_counts h.hooks)
    (fun polls m₁ h₁ => finalize_counts (h.asked h₁ fun _ => rfl)) (fun polls m₁ _ h₁ => ?_)
    fun _ _ _ _ => finalize_failed.imp fun _ _ hm => hm.elim
  have hm₁ := h.asked h₁ (f := fun p => { p with polls := p.polls + polls }) fun _ => rfl
  exact { hm₁ with }

/-! ## Joins that time out -/

/-- Nothing has happened but that the driver was asked once about the kernel. -/
structure AskedOnce (e : Execution) (m m' : Machine κ ω) : Prop where
  call : ∃ mo, e.asks mo = true ∧ m'.history = mo :: m.history
  rest : ∃ calls counts tokens notices progress journal history,
    m' = { m with
      platform := { m.platform with
        driver := { m.platform.driver with calls, counts, tokens, notices } }
      progress, journal, history }
  tokens : ∀ event, event ≠ e.event →
    m'.platform.driver.tokens.get? event = m.platform.driver.tokens.get? event
  progress : ∀ key, key ≠ e.key → m'.progress.get? key = m.progress.get? key

omit [Reentry κ ω] in
theorem AskedOnce.journal (h : e.AskedOnce m m') {journal : List Event} :
    e.AskedOnce m { m' with journal } := by
  refine { h with rest := ?_ }
  obtain ⟨calls, counts, tokens, notices, progress, _, history, rfl⟩ := h.rest
  exact ⟨calls, counts, tokens, notices, progress, journal, history, rfl⟩

omit [Reentry κ ω] in
theorem AskedOnce.onProgress (h : e.AskedOnce m m') {f : Progress → Progress} :
    e.AskedOnce m (e.onProgress f m') := by
  refine { h with rest := ?_, progress := fun key hkey => ?_ }
  · obtain ⟨calls, counts, tokens, notices, _, journal, history, rfl⟩ := h.rest
    exact ⟨calls, counts, tokens, notices, _, journal, history, rfl⟩
  · exact (Assoc.get?_set_of_ne _ _ (Ne.symm hkey)).trans (h.progress key hkey)

theorem check_once (hooks : m.platform.hooks = []) :
    (Completion.check .runProgram e.context e.event).Leads m
      (fun done m' => done = false → e.AskedOnce m m') (fun _ _ => True) fun _ => True := by
  unfold Completion.check
  rw [leads_bind, Machine.leads_drive (unhooked hooks) rfl]
  refine Simulator.queryEvent_leads (fun _ => trivial) (fun token n htoken hcontext hn => ?_)
    fun token htoken hcontext hn => ?_
  · intro _
    exact ⟨⟨_, asks_moment rfl, rfl⟩, ⟨_, _, _, _, _, _, _, rfl⟩,
      fun event hne => Assoc.get?_set_of_ne _ _ (Ne.symm hne), fun _ _ => rfl⟩
  · cases token.error with
    | none => exact nofun
    | some message => trivial

/-- Under a limit of zero the token is asked once. -/
theorem await_once (hooks : m.platform.hooks = []) :
    (await e (some 0)).Leads m
      (fun outcome m' => ∀ polls, outcome = .timedOut polls → e.AskedOnce m m')
      (fun _ _ => True) fun _ => True := by
  unfold await Completion.wait Waiter.wait
  rw [leads_mk, Act.leads_onCutOff, leads_run, leads_timed,
    leads_bind, leads_get]
  have hleft : ∃ n, Completion.pollsLeft m.platform.driver e.event = n + 1 := by
    unfold Completion.pollsLeft
    split
    · exact ⟨_, rfl⟩
    · exact ⟨0, rfl⟩
  obtain ⟨n, hleft⟩ := hleft
  rw [hleft, leads_bind, leads_get]
  refine Waiter.leads_pollOn <| (check_once hooks).mono (fun done m₁ h₁ => ?_)
    (fun _ _ _ => trivial) fun _ _ => trivial
  cases done with
  | true => exact fun _ _ h => by cases h
  | false => exact ⟨fun _ _ _ => (h₁ rfl).journal, fun hzero => absurd rfl hzero⟩

/-- A join that times out does nothing but ask. -/
theorem joinWithin_once (hooks : m.platform.hooks = []) :
    (joinWithin e (some 0)).Leads m (fun summary? m' => summary? = none → e.AskedOnce m m')
      (fun _ _ => True) fun _ => True := by
  have hfinalize : ∀ failure m₁, (finalize e failure).Leads m₁
      (fun summary m' => some summary = none → e.AskedOnce m m') (fun _ _ => True)
      fun _ => True := fun failure m₁ => leads_true.imp fun _ _ _ => nofun
  exact leads_joinWithin (fun _ => hfinalize none m) (await_once hooks)
    (fun _ _ _ => hfinalize none _) (fun polls _ _ h₁ _ => (h₁ polls rfl).onProgress.journal)
    fun _ _ _ _ => hfinalize _ _

end Execution

end StreamCompute
