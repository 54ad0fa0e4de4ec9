/-
  StreamCompute.Proofs.CopyOrder

  In which order bytes move and the kernel runs. Everything that is copied in
  is copied, and each copy awaited, before the kernel is submitted; what is
  copied out is copied after the token of the kernel has answered that it is
  done, and not at all if the kernel has failed. Which registers are copied,
  and which way, is what their bindings and the settings say.
-/
import StreamCompute.Proofs.Unjoined

namespace StreamCompute

namespace Execution

variable {κ ω : Type} {m m' : Machine κ ω} {e : Execution} {a : Arena}

/-- How a join went: the token of the kernel was asked, then results may have been copied, and
    at last everything was given back. Nothing is copied unless the token was done, as it was
    asked now or is known to have answered before. -/
structure Phases (e : Execution) (known : Prop) (pairs : List (Ident .resource × Ident .resource))
    (asks copying final : List Moment) : Prop where
  asked : ∀ mo ∈ asks, mo.Asks e.context e.event
  copied : ∀ mo ∈ copying, mo.Copies
  cleaned : ∀ mo ∈ final, mo.operation.cleansUp = true
  outcome : ((known ∧ asks = [] ∨ Finished e.context e.event asks) ∧
      copying.filterMap Moment.copied? = pairs) ∨
    (∃ err, Foundered .runProgram e.context e.event err asks) ∧
      ∀ mo ∈ copying, mo.operation ≠ .copyMemory

/-- Where no copy was logged, none was called. -/
theorem ne_copyMemory_of_copied {trace : List Moment} (h : ∀ mo ∈ trace, mo.Copies)
    (hnone : trace.filterMap Moment.copied? = []) : ∀ mo ∈ trace, mo.operation ≠ .copyMemory := by
  intro mo hmo hop
  rcases h mo hmo with ⟨-, hcopied⟩ | hquery
  · rw [List.filterMap_eq_nil_iff] at hnone
    rw [hnone mo hmo] at hcopied
    cases hcopied
  · cases hop.symm.trans hquery

theorem Joined.phases (h : Joined e a m m') :
    ∃ asks copying final : List Moment,
      m'.history = (asks ++ copying ++ final).reverse ++ m.history ∧
      Phases e ((e.progress m).done = true) (outgoing a.copies) asks copying final := by
  have hhistory : ∀ {asks copying final : List Moment} {m₁ m₂ : Machine κ ω},
      m.Worked asks m₁ → m₁.Worked copying m₂ → m'.history = final.reverse ++ m₂.history →
      m'.history = (asks ++ copying ++ final).reverse ++ m.history := by
    intro asks copying final m₁ m₂ hasked hcopied hm'
    rw [hm', hcopied.history, hasked.history]
    simp
  cases h with
  | done hwaited hfinished hdown =>
    rename_i asks m₁
    obtain ⟨m₂, ⟨copying, hworked, hcopied, hcopies⟩, hswept⟩ := hdown
    obtain ⟨final, hm', -, hclean⟩ := hswept.trace
    refine ⟨asks, copying, final, hhistory hwaited hworked hm', ?_, hcopies, hclean,
      Or.inl ⟨hfinished, hcopied⟩⟩
    rcases hfinished with ⟨-, rfl⟩ | hfinished
    · exact List.forall_mem_nil _
    · exact hfinished.all_ask
  | failed hwaited hfoundered hdown =>
    rename_i asks m₁ err
    obtain ⟨m₂, ⟨copying, hworked, hcopied, hcopies⟩, hswept⟩ := hdown
    obtain ⟨final, hm', -, hclean⟩ := hswept.trace
    exact ⟨asks, copying, final, hhistory hwaited hworked hm', hfoundered.all_ask, hcopies, hclean,
      Or.inr ⟨⟨err, hfoundered⟩, ne_copyMemory_of_copied hcopies hcopied⟩⟩

/-- What is known of a kernel that is done is known from its token. -/
theorem Phases.mono {known known' : Prop} {pairs : List (Ident .resource × Ident .resource)}
    {asks copying final : List Moment} (h : Phases e known pairs asks copying final)
    (hknown : known → known') : Phases e known' pairs asks copying final :=
  { h with outcome := h.outcome.imp_left (And.imp_left (Or.imp_left (And.imp_left hknown))) }

end Execution

namespace Scenario

variable {m m₁ m₂ m₃ : RuntimeScene} {e : Execution} {a : Arena}

/-- Whoever watches a kernel knows that it is done from its token only. -/
theorem asked_of_done
    (h : InOrder Within (({} : Holdings).working ⟨e.key, a, none, some e.event⟩) m)
    (hcontext : a.context = e.context) (hdone : (e.progress m).done = true) :
    ∃ mo ∈ m.history, mo.Asked e.context e.event .done := by
  unfold Execution.progress at hdone
  cases hp : m.progress.get? e.key with
  | none =>
    rw [hp] at hdone
    cases hdone
  | some p =>
    rw [hp] at hdone
    rw [← hcontext]
    exact h.watched _ List.mem_cons_self e.event rfl p hp hdone

/-- Bytes move and the kernel runs in a fixed order. While no hook waits for a driver call, a
    launch first makes the calls of a setup and, if it fails, then calls that clean up. The
    setup copies in what the table says, in its order, and awaits each copy before it calls
    anything else; the kernel is submitted once and last, when everything was copied. When the
    execution is joined, whatever has happened in between, the token of the kernel is asked
    first. If it is done, or was so before, each register that the table has copied out is
    copied once, from the resource it was copied to; if it fails, none is. -/
theorem bytes_move_around_kernel_in_order [Reentry (List (Step RuntimeStep)) Cast]
    (hm : Reachable m) (hooks : m.platform.hooks = []) {image : Image} {q : LaunchRequest}
    {answer : Except Error Execution}
    (hlaunch : (Launch.launch image q).run m = (.ok answer, m₁)) :
    ∃ setup teardown : List Moment, m₁.history = (setup ++ teardown).reverse ++ m.history ∧
      Staged (m.copiedIn q.table.entries) setup ∧
      (∀ mo ∈ teardown, mo.operation.cleansUp = true) ∧
      ∀ e, answer = .ok e → teardown = [] ∧
        (∃ before run, setup = before ++ [run] ∧
          run.accepted? = some (.runProgram e.context q.domain) ∧
          e.event = ⟨run.found.nextNumber⟩) ∧
        ∃ copies : List CopyRecord,
          copies.map CopyRecord.plan = q.table.entries.filterMap m.plan? ∧
          setup.filterMap Moment.copied? = incoming copies ∧
          (∀ c ∈ copies, .freeResource c.transient ∈ setup.filterMap Moment.release?) ∧
          ∀ m₂ m₃, Waits e m₁ m₂ → m₂.platform.hooks = [] → e.JoinEnds m₂ m₃ →
            ∃ asks copying final : List Moment,
              m₃.history = (asks ++ copying ++ final).reverse ++ m₂.history ∧
              e.Phases (∃ mo ∈ m₂.history, mo.Asked e.context e.event .done) (outgoing copies)
                asks copying final := by
  cases answer with
  | error err =>
    have h := (Launch.launch_logs hm.inOrder hooks).of_eq_error hlaunch
    obtain ⟨setup, teardown, hhistory, hstaged, -, -, hclean, -⟩ := h.trace
    exact ⟨setup, teardown, hhistory, hstaged, hclean, nofun⟩
  | ok e =>
    obtain ⟨a, setup, hcontext, hlaunched, h₁⟩ := launched_of_launch hm hooks hlaunch
    refine ⟨setup, [], ?_, hlaunched.staged, List.forall_mem_nil _, ?_⟩
    · rw [List.append_nil]
      exact hlaunched.history
    · rintro _ ⟨⟩
      obtain ⟨run, hlast, hrun, hevent⟩ := hlaunched.ran
      refine ⟨rfl, ⟨setup.dropLast, run, ?_, hrun, hevent⟩, a.copies, hlaunched.copies,
        hlaunched.copied, hlaunched.made, ?_⟩
      · exact (List.dropLast_append_getLast? run hlast).symm
      · intro m₂ m₃ hwaits hooks₂ hends
        have h₂ := hwaits.inOrder hcontext h₁
        obtain ⟨asks, copying, final, hhistory, hphases⟩ :=
          (joined_of_waits hcontext hlaunched h₂ hooks₂ hends).phases
        exact ⟨asks, copying, final, hhistory, hphases.mono (asked_of_done h₂ hcontext)⟩

/-- A kernel with four registers, and four remote resources. -/
def directedResources : List (Step RuntimeStep) :=
  [.own (.device "d" 0), .own (.compile "k" "g[] i0 i1 x0" none),
    .own (.allocRemote "a" "d" ⟨⟨1, 1⟩, ⟨.float32, .one⟩, .plain⟩),
    .own (.allocRemote "b" "d" ⟨⟨2, 1⟩, ⟨.float32, .one⟩, .plain⟩),
    .own (.allocRemote "c" "d" ⟨⟨3, 1⟩, ⟨.float32, .one⟩, .plain⟩),
    .own (.allocRemote "e" "d" ⟨⟨4, 1⟩, ⟨.float32, .one⟩, .plain⟩)]

/-- By their names, `g[]` is copied both ways, `i0` in and `x0` not at all; `i1` is copied out,
    because that is asked for. -/
def directedRequest : LaunchRequest where
  device := ⟨0, ⟨1⟩, {}, 1⟩
  domain := ⟨0, 0, 4, 1⟩
  table := {
    entries := [("g[]", .copied ⟨0, ⟨3⟩, ⟨1⟩, ⟨1, 1⟩, ⟨.float32, .one⟩, .plain⟩ none),
      ("i0", .copied ⟨0, ⟨4⟩, ⟨1⟩, ⟨2, 1⟩, ⟨.float32, .one⟩, .plain⟩ none),
      ("i1", .copied ⟨0, ⟨5⟩, ⟨1⟩, ⟨3, 1⟩, ⟨.float32, .one⟩, .plain⟩ (some .outOf)),
      ("x0", .copied ⟨0, ⟨6⟩, ⟨1⟩, ⟨4, 1⟩, ⟨.float32, .one⟩, .plain⟩ none)]
    distinct := by decide }

/-- The machine with these resources, after some more steps. -/
def directedScene (steps : List (Step RuntimeStep)) : RuntimeScene :=
  after 0 (directedResources ++ steps) (opening { pendingPolls := 1 } {})

def directedLaunch (steps : List (Step RuntimeStep)) :
    Except Abort (Except Error Execution) × RuntimeScene :=
  (@Launch.launch _ _ ⟨fun _ _ => pure ()⟩ ⟨⟨2⟩, 5⟩ directedRequest).run (directedScene steps)

/-- The execution, whatever will become of its kernel. -/
def directedExecution : Execution := ⟨0, ⟨1⟩, ⟨7⟩, ⟨8⟩, ⟨28⟩, ⟨60⟩⟩

def directedPoll (steps : List (Step RuntimeStep)) :
    Except Abort (Except Error Bool) × RuntimeScene :=
  (@Execution.isComplete _ _ ⟨runtimeSession.runHook 0⟩ directedExecution).run
    (directedLaunch steps).2

def directedJoin (steps : List (Step RuntimeStep)) :
    Except Abort (Except Error Summary) × RuntimeScene :=
  (@Execution.join _ _ ⟨fun _ _ => pure ()⟩ directedExecution).run (directedPoll steps).2

/-- The token of the kernel is to report an error. -/
def failKernel : List (Step RuntimeStep) := [.control (.failToken (some .runProgram) "lost")]

/-- Two registers are copied in, and after the kernel two are copied out; if the kernel fails,
    only the former happens. -/
theorem directedJoin_moves_bytes_in_order :
    ((Reachable (directedScene []) ∧ (directedScene []).platform.hooks = [] ∧
        (directedLaunch []).1 = .ok (.ok directedExecution) ∧
        (directedPoll []).2.platform.hooks = [] ∧
        (directedJoin []).1 =
          .ok (.ok ⟨⟨1⟩, 2, ["g[]", "i0", "i1", "x0"], ["g[]", "i1"]⟩)) ∧
      (directedJoin []).2.history.reverse.filterMap Moment.copied? =
        [(⟨3⟩, ⟨10⟩), (⟨4⟩, ⟨15⟩), (⟨10⟩, ⟨3⟩), (⟨20⟩, ⟨5⟩)] ∧
      ∃ (copies : List CopyRecord) (asks copying final : List Moment),
        (directedJoin []).2.history =
          (asks ++ copying ++ final).reverse ++ (directedPoll []).2.history ∧
        directedExecution.Phases (∃ mo ∈ (directedPoll []).2.history, mo.Asked ⟨7⟩ ⟨28⟩ .done)
          (outgoing copies) asks copying final) ∧
    (Reachable (directedScene failKernel) ∧ (directedScene failKernel).platform.hooks = [] ∧
        (directedLaunch failKernel).1 = .ok (.ok directedExecution) ∧
        (directedPoll failKernel).2.platform.hooks = [] ∧
        (directedJoin failKernel).1 = .ok (.error (.execution ⟨"calCtxRunProgram", "lost"⟩))) ∧
      (directedJoin failKernel).2.history.reverse.filterMap Moment.copied? =
        [(⟨3⟩, ⟨10⟩), (⟨4⟩, ⟨15⟩)] ∧
      ∃ (copies : List CopyRecord) (asks copying final : List Moment),
        (directedJoin failKernel).2.history =
          (asks ++ copying ++ final).reverse ++ (directedPoll failKernel).2.history ∧
        directedExecution.Phases
          (∃ mo ∈ (directedPoll failKernel).2.history, mo.Asked ⟨7⟩ ⟨28⟩ .done)
          (outgoing copies) asks copying final := by
  have happly : ∀ steps answer, Reachable (directedScene steps) →
      (directedScene steps).platform.hooks = [] →
      (directedLaunch steps).1 = .ok (.ok directedExecution) →
      (directedPoll steps).2.platform.hooks = [] → (directedJoin steps).1 = .ok answer →
      ∃ (copies : List CopyRecord) (asks copying final : List Moment),
        (directedJoin steps).2.history =
          (asks ++ copying ++ final).reverse ++ (directedPoll steps).2.history ∧
        directedExecution.Phases
          (∃ mo ∈ (directedPoll steps).2.history, mo.Asked ⟨7⟩ ⟨28⟩ .done)
          (outgoing copies) asks copying final := by
    intro steps answer hm hooks hlaunched hooks₂ hjoined
    have hlaunch : directedLaunch steps =
        (.ok (.ok directedExecution), (directedLaunch steps).2) := by
      rw [← hlaunched]
    have hpoll : directedPoll steps = ((directedPoll steps).1, (directedPoll steps).2) :=
      (Prod.eta _).symm
    have hjoin : directedJoin steps = (.ok answer, (directedJoin steps).2) := by
      rw [← hjoined]
    have hends : @Execution.JoinEnds _ _ ⟨fun _ _ => pure ()⟩ directedExecution
        (directedPoll steps).2 (directedJoin steps).2 :=
      @Execution.JoinEnds.whole _ _ ⟨fun _ _ => pure ()⟩ _ _ _ _ hjoin
    obtain ⟨setup, teardown, -, -, -, hok⟩ :=
      @bytes_move_around_kernel_in_order _ _ ⟨fun _ _ => pure ()⟩ hm hooks ⟨⟨2⟩, 5⟩
        directedRequest _ hlaunch
    obtain ⟨-, -, copies, -, -, -, hphases⟩ := hok directedExecution rfl
    exact ⟨copies, hphases _ _ (Waits.start.polled 0 hpoll) hooks₂ hends⟩
  have hdone : Reachable (directedScene []) ∧ (directedScene []).platform.hooks = [] ∧
      (directedLaunch []).1 = .ok (.ok directedExecution) ∧
      (directedPoll []).2.platform.hooks = [] ∧
      (directedJoin []).1 = .ok (.ok ⟨⟨1⟩, 2, ["g[]", "i0", "i1", "x0"], ["g[]", "i1"]⟩) :=
    ⟨⟨_, _, 0, _, rfl, rfl⟩, by decide +kernel, by decide +kernel, by decide +kernel,
      by decide +kernel⟩
  have hfailed : Reachable (directedScene failKernel) ∧
      (directedScene failKernel).platform.hooks = [] ∧
      (directedLaunch failKernel).1 = .ok (.ok directedExecution) ∧
      (directedPoll failKernel).2.platform.hooks = [] ∧
      (directedJoin failKernel).1 = .ok (.error (.execution ⟨"calCtxRunProgram", "lost"⟩)) :=
    ⟨⟨_, _, 0, _, rfl, rfl⟩, by decide +kernel, by decide +kernel, by decide +kernel,
      by decide +kernel⟩
  exact ⟨⟨hdone, by decide +kernel, happly _ _ hdone.1 hdone.2.1 hdone.2.2.1 hdone.2.2.2.1
      hdone.2.2.2.2⟩,
    hfailed, by decide +kernel, happly _ _ hfailed.1 hfailed.2.1 hfailed.2.2.1 hfailed.2.2.2.1
      hfailed.2.2.2.2⟩

end Scenario

end StreamCompute
