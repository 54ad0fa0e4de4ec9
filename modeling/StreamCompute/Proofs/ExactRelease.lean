/-
  StreamCompute.Proofs.ExactRelease

  What is acquired is given back, exactly once, whichever calls fail. A launch
  that fails gives everything back in reverse; a join that ends an execution
  gives everything back kind by kind. Neither touches what callers hold.
-/
import StreamCompute.Proofs.AllOrNothing
import StreamCompute.Proofs.Unjoined

namespace StreamCompute

/-! ## The calls of a join -/

namespace Execution

variable {κ ω : Type} {m m' : Machine κ ω} {e : Execution} {a : Arena}

/-- The order in which a join gives back what it holds, by kind. -/
def finalOrder : List Operation :=
  [.releaseMemory, .unloadModule, .destroyContext, .freeResource, .mapResource]

/-- Picking the calls of one kind is picking what they give back. -/
theorem filter_releases {α : Type} {context : Ident .context} {acquired : List Acquired}
    {op : Operation} (pick : Acquired → Option α) (call : α → Call)
    (h : ∀ x, (Acquired.release? context x).filter (·.operation = op) = (pick x).map call) :
    (acquired.filterMap (Acquired.release? context)).filter (·.operation = op) =
      (acquired.filterMap pick).map call := by
  rw [List.filter_filterMap, List.map_filterMap]
  congr 1
  funext x
  exact h x

/-- A join gives back what its launch has acquired, in the order of the kinds and, within a
    kind, in the order in which it was acquired. -/
theorem finalCalls_eq (e : Execution) (a : Arena) :
    e.finalCalls a = finalOrder.flatMap fun op =>
      (.destroyContext e.context :: .unloadModule e.context e.module ::
        a.acquired.filterMap (Acquired.release? e.context)).filter (·.operation = op) := by
  have hmemories : (a.acquired.filterMap (Acquired.release? e.context)).filter
      (·.operation = .releaseMemory) = a.memories.map (.releaseMemory e.context) :=
    filter_releases Acquired.memory? _ fun x => by cases x <;> rfl
  have htransients : (a.acquired.filterMap (Acquired.release? e.context)).filter
      (·.operation = .freeResource) = a.transients.map fun t => .freeResource t.2 :=
    filter_releases Acquired.transient? _ fun x => by cases x <;> rfl
  have hunmapped : (a.acquired.filterMap (Acquired.release? e.context)).filter
      (·.operation = .mapResource) = a.unmapped.map fun u => .mapResource u.2.id :=
    filter_releases Acquired.unmapped? _ fun x => by cases x <;> rfl
  have hunload : (a.acquired.filterMap (Acquired.release? e.context)).filter
      (·.operation = .unloadModule) = [] := by
    rw [filter_releases (fun _ => none) (fun call => call) fun x => by cases x <;> rfl]
    simp
  have hdestroy : (a.acquired.filterMap (Acquired.release? e.context)).filter
      (·.operation = .destroyContext) = [] := by
    rw [filter_releases (fun _ => none) (fun call => call) fun x => by cases x <;> rfl]
    simp
  have hcontext : (Call.destroyContext e.context).operation = .destroyContext := rfl
  have hmodule : (Call.unloadModule e.context e.module).operation = .unloadModule := rfl
  simp [finalOrder, finalCalls, hcontext, hmodule, hmemories, htransients, hunmapped, hunload,
    hdestroy]

/-- Whatever a join finds, it asks and copies first, and then gives everything back. -/
theorem Joined.swept (h : Joined e a m m') :
    ∃ work m₁, m.Worked work m₁ ∧ (∀ mo ∈ work, mo.operation.cleansUp = false) ∧
      Swept (finalCalls e a) (a.unmapped.map Prod.snd) a.claims m₁ m' := by
  -- Asking the token of the kernel, and the copies after that, are work.
  have hcombine : ∀ {asks pairs m₁}, m.Worked asks m₁ →
      (∀ mo ∈ asks, mo.Asks e.context e.event) → TakenDown e a pairs m₁ m' →
      ∃ work m₂, m.Worked work m₂ ∧ (∀ mo ∈ work, mo.operation.cleansUp = false) ∧
        Swept (finalCalls e a) (a.unmapped.map Prod.snd) a.claims m₂ m' := by
    rintro asks pairs m₁ hwaited hasks ⟨m₂, ⟨trace, hworked, -, hops⟩, hswept⟩
    refine ⟨asks ++ trace, m₂, hwaited.trans hworked, fun mo hmo => ?_, hswept⟩
    rcases List.mem_append.mp hmo with hmo | hmo
    · rw [(hasks mo hmo).1]
      rfl
    · rcases hops mo hmo with ⟨hop, -⟩ | hop
      · rw [hop]
        rfl
      · rw [hop]
        rfl
  cases h with
  | done hwaited hfinished hdown =>
    refine hcombine hwaited ?_ hdown
    rcases hfinished with ⟨-, rfl⟩ | hfinished
    · exact List.forall_mem_nil _
    · exact hfinished.all_ask
  | failed hwaited hfoundered hdown => exact hcombine hwaited hfoundered.all_ask hdown

end Execution

namespace Scenario

variable {m m₁ m₂ m₃ : RuntimeScene} {g : Holdings} {e : Execution} {a : Arena}
  {trace : List Moment} {calls : List Call}

/-- None of the calls frees a resource that a caller holds: a remote resource that is not freed
    yet, or a resource in device memory. -/
def SparesCallers (m : RuntimeScene) (trace : List Moment) : Prop :=
  ∀ mo ∈ trace, ∀ id, mo.call? = some (.freeResource id) →
    (∀ r status, m.remotes.get? r = some status → status.freed = false → r.id ≠ id) ∧
    ∀ l ∈ m.host.locals.values, l.id ≠ id

theorem sparesCallers_of_calls (hcalls : trace.map Moment.call? = calls.map some)
    (h : ∀ id, .freeResource id ∈ calls →
      (∀ r status, m.remotes.get? r = some status → status.freed = false → r.id ≠ id) ∧
      ∀ l ∈ m.host.locals.values, l.id ≠ id) : SparesCallers m trace := by
  intro mo hmo id hcall
  have hmem : some (.freeResource id) ∈ calls.map some := by
    rw [← hcalls, ← hcall]
    exact List.mem_map_of_mem hmo
  obtain ⟨call, hfree, heq⟩ := List.mem_map.mp hmem
  cases heq
  exact h id hfree

/-- What is newer than the machine is not held by a caller. -/
theorem sparesCallers_of_young (h : InOrder Within g m)
    (hcalls : trace.map Moment.call? = calls.map some)
    (hyoung : ∀ id, .freeResource id ∈ calls → m.platform.driver.nextNumber ≤ id.number) :
    SparesCallers m trace := by
  refine sparesCallers_of_calls hcalls fun id hid => ⟨fun r status hr _ heq => ?_,
    fun l hl heq => ?_⟩
  · have hold := h.issued r status hr
    have hnew := hyoung id hid
    rw [heq] at hold
    omega
  · have hold := (h.locals l.id (List.mem_append_right _ (List.mem_map_of_mem hl))).number
    have hnew := hyoung id hid
    rw [heq] at hold
    omega

/-- What was made for an execution is not held by a caller. -/
theorem sparesCallers_of_joined (h : InOrder Within g m) (harena : m.arenas.get? e.key = some a)
    (hcalls : trace.map Moment.call? = (e.finalCalls a).map some) : SparesCallers m trace := by
  refine sparesCallers_of_calls hcalls fun id hid => ?_
  obtain ⟨t, ht, rfl⟩ : ∃ t ∈ a.transients, t.2 = id := by
    simpa [Execution.finalCalls] using hid
  refine ⟨fun r status hr hfreed heq => ?_, fun l hl heq => ?_⟩
  · -- Remote resources are in host memory, those made for an execution are not.
    obtain ⟨res, hres, hmatches⟩ := (h.records r status hr).live hfreed
    rw [heq] at hres
    have hplace := ((h.entered _ a harena).transients t ht).2 res hres
    rw [hmatches.place] at hplace
    cases hplace
  · have hloose := h.locals l.id (List.mem_append_right _ (List.mem_map_of_mem hl))
    exact hloose.unowned _ a harena t ht heq.symm

/-- The remote resources that a join finds claimed are free afterwards, and those that the launch
    did not unmap are left as they are. -/
theorem marks_of_joined {q : LaunchRequest} {setup : List Moment}
    (hlaunched : Launched m q e a setup m₁)
    (h₂ : InOrder Within (({} : Holdings).working ⟨e.key, a, none, some e.event⟩) m₂)
    {work : List Moment} {m' : RuntimeScene} (hworked : m₂.Worked work m')
    (hswept : Swept (e.finalCalls a) (a.unmapped.map Prod.snd) a.claims m' m₃)
    {register : String} {binding : Binding} {r : Remote}
    (hget : q.table.get? register = some binding) (hr : binding.remote? = some r) :
    (m₃.status r).inFlight = false ∧
      ((m.status r).mapped = false → (m₃.status r).mapped = false) := by
  have hclaimed : r ∈ a.claims := by
    rw [hlaunched.claims, List.mem_filterMap]
    rw [q.table.get?_eq] at hget
    exact ⟨(register, binding), q.table.ordered_perm.mem_iff.mpr (Assoc.mem_of_get? hget), hr⟩
  refine ⟨?_, fun hmapped => ?_⟩
  · rw [hswept.inFlight]
    simp [hclaimed]
  · have hkept : r ∉ a.unmapped.map Prod.snd := by
      rw [List.mem_map]
      rintro ⟨u, hu, rfl⟩
      rw [hlaunched.unmapped u hu] at hmapped
      cases hmapped
    obtain ⟨harena, hsound⟩ := h₂.steady _ List.mem_cons_self
    obtain ⟨status, hstatus, -⟩ := (h₂.entered _ a harena).claims r hclaimed
    rw [hswept.mapped r hkept, hworked.status, Machine.status_of_get? hstatus]
    exact congrArg Option.isSome (hsound.withdrawn r hclaimed nofun status hstatus)

/-- What is acquired is given back exactly once, whichever calls fail. While no hook waits for a
    driver call, a launch first makes the calls of a setup. If the launch fails, it then makes
    one call for each thing that the setup has acquired, in reverse: first for memory objects,
    resources and mappings, then for the module, then for the context. If it succeeds, the join
    that ends the execution makes one call for each of these things, whatever has happened in
    between: for memory objects, the module, the context, resources and mappings, in this order.
    Resources that callers hold are not freed, no claim of the launch is left, and nothing is
    mapped that was not mapped before. -/
theorem everything_acquired_is_released_once [Reentry (List (Step RuntimeStep)) Cast]
    (hm : Reachable m) (hooks : m.platform.hooks = []) {image : Image} {q : LaunchRequest}
    {answer : Except Error Execution}
    (hlaunch : (Launch.launch image q).run m = (.ok answer, m₁)) :
    ∃ setup teardown : List Moment, m₁.history = (setup ++ teardown).reverse ++ m.history ∧
      (∀ mo ∈ setup, mo.operation.cleansUp = false) ∧
      Layered (setup.filterMap Moment.release?) ∧
      match answer with
      | .error _ =>
        teardown.map Moment.call? = (setup.filterMap Moment.release?).reverse.map some ∧
        SparesCallers m teardown ∧
        (∀ r, (m₁.status r).inFlight = (m.status r).inFlight) ∧
        ∀ r, (m.status r).mapped = false → (m₁.status r).mapped = false
      | .ok e => teardown = [] ∧
        ∀ m₂ m₃, Waits e m₁ m₂ → m₂.platform.hooks = [] → e.JoinEnds m₂ m₃ →
          ∃ work final : List Moment, m₃.history = (work ++ final).reverse ++ m₂.history ∧
            (∀ mo ∈ work, mo.operation.cleansUp = false) ∧
            final.map Moment.call? = (Execution.finalOrder.flatMap fun op =>
              (setup.filterMap Moment.release?).filter (·.operation = op)).map some ∧
            SparesCallers m₂ final ∧
            ∀ register binding r, q.table.get? register = some binding →
              binding.remote? = some r → (m₃.status r).inFlight = false ∧
                ((m.status r).mapped = false → (m₃.status r).mapped = false) := by
  cases answer with
  -- The setup that has failed is undone at once.
  | error err =>
    have h := (Launch.launch_logs hm.inOrder hooks).of_eq_error hlaunch
    obtain ⟨setup, teardown, hhistory, hstaged, hlayered, hcalls, -, hfresh⟩ := h.trace
    refine ⟨setup, teardown, hhistory, hstaged.forward, hlayered, hcalls, ?_, h.inFlight, h.mapped⟩
    exact sparesCallers_of_young hm.inOrder hcalls fun id hid =>
      hfresh id (List.mem_reverse.mp hid)
  | ok e =>
    -- What the setup has acquired is in the arena, until the join takes it down from there.
    obtain ⟨a, setup, hcontext, hlaunched, h₁⟩ := launched_of_launch hm hooks hlaunch
    refine ⟨setup, [], ?_, hlaunched.staged.forward, ?_, rfl, ?_⟩
    · rw [List.append_nil]
      exact hlaunched.history
    · rw [hlaunched.releases]
      exact a.layered e.context e.module
    · intro m₂ m₃ hwaits hooks₂ hends
      have h₂ := hwaits.inOrder hcontext h₁
      obtain ⟨work, m', hworked, hwork, hswept⟩ :=
        (joined_of_waits hcontext hlaunched h₂ hooks₂ hends).swept
      obtain ⟨final, hhistory, hcalls, -⟩ := hswept.trace
      refine ⟨work, final, ?_, hwork, ?_, ?_, fun register binding r hget hr =>
        marks_of_joined hlaunched h₂ hworked hswept hget hr⟩
      · rw [hhistory, hworked.history, List.reverse_append, List.append_assoc]
      · rw [hcalls, Execution.finalCalls_eq, hlaunched.releases]
      · exact sparesCallers_of_joined h₂ (h₂.steady _ List.mem_cons_self).1 hcalls

/-- A driver that refuses to release memory objects and to free resources, and to unload a
    module once. One remote resource is mapped, another is not, and a local one is held. -/
def stubbornDriver : List (Step RuntimeStep) :=
  [.own (.device "d" 0), .own (.compile "k" "g[] o0 x0" none),
    .own (.allocRemote "a" "d" ⟨⟨3, 2⟩, ⟨.float32, .one⟩, .plain⟩),
    .own (.allocRemote "b" "d" ⟨⟨4, 1⟩, ⟨.float32, .one⟩, .plain⟩), .own (.unmap "b"),
    .own (.allocLocal "l" "d" ⟨⟨2, 1⟩, ⟨.float32, .one⟩, .plain⟩),
    .control (.failAlways (some .releaseMemory)), .control (.failOn (some .unloadModule) 1),
    .control (.failAlways (some .freeResource))]

/-- The machine with that driver, after some more steps. -/
def stubbornScene (steps : List (Step RuntimeStep)) : RuntimeScene :=
  after 0 (stubbornDriver ++ steps) (opening { pendingPolls := 3 } {})

def stubbornLaunch (steps : List (Step RuntimeStep)) :
    Except Abort (Except Error Execution) × RuntimeScene :=
  (@Launch.launch _ _ ⟨fun _ _ => pure ()⟩ ⟨⟨2⟩, 5⟩ mixedRequest).run (stubbornScene steps)

/-- The lookup of the third register is to fail. -/
def failThirdLookup : List (Step RuntimeStep) := [.control (.failOn (some .findRegister) 3)]

/-- The execution, if nothing fails on the way. -/
def stubbornExecution : Execution := ⟨0, ⟨1⟩, ⟨6⟩, ⟨7⟩, ⟨19⟩, ⟨60⟩⟩

/-- Later, somebody has tried to use the resources. -/
def stubbornLater : RuntimeScene :=
  after 0 [.own (.map "a"), .own (.freeRemote "b"), .own (.freeLocal "l")] (stubbornLaunch []).2

def stubbornPoll : Except Abort (Except Error Bool) × RuntimeScene :=
  (@Execution.isComplete _ _ ⟨runtimeSession.runHook 0⟩ stubbornExecution).run stubbornLater

/-- The execution has been waited for, but not long enough. -/
def stubbornWait : Except Abort (Except Error (Option Summary)) × RuntimeScene :=
  (@Execution.joinWithin _ _ ⟨runtimeSession.runHook 0⟩ stubbornExecution (some 0)).run
    stubbornPoll.2

def stubbornJoin : Except Abort (Except Error Summary) × RuntimeScene :=
  (@Execution.join _ _ ⟨fun _ _ => pure ()⟩ stubbornExecution).run stubbornWait.2

/-- If the lookup fails, nine calls give everything back in reverse, seven of which are refused.
    If it does not, a join does so in its own order, and the first refusal is its answer. -/
theorem stubbornDriver_releases_once :
    ((Reachable (stubbornScene failThirdLookup) ∧
        (stubbornScene failThirdLookup).platform.hooks = [] ∧
        (stubbornLaunch failThirdLookup).1 = .ok (.error
          (.binding "x0" ⟨"calModuleGetName", "injected failure on call 3"⟩))) ∧
      ((stubbornLaunch failThirdLookup).2.history.take 9).reverse.map Moment.call? =
        [some (.releaseMemory ⟨6⟩ ⟨16⟩), some (.freeResource ⟨15⟩),
          some (.releaseMemory ⟨6⟩ ⟨13⟩), some (.releaseMemory ⟨6⟩ ⟨10⟩),
          some (.freeResource ⟨9⟩), some (.releaseMemory ⟨6⟩ ⟨8⟩), some (.mapResource ⟨3⟩),
          some (.unloadModule ⟨6⟩ ⟨7⟩), some (.destroyContext ⟨6⟩)] ∧
      ∃ setup teardown : List Moment,
        (stubbornLaunch failThirdLookup).2.history =
          (setup ++ teardown).reverse ++ (stubbornScene failThirdLookup).history ∧
        teardown.map Moment.call? = (setup.filterMap Moment.release?).reverse.map some) ∧
    (Reachable (stubbornScene []) ∧ (stubbornScene []).platform.hooks = [] ∧
        (stubbornLaunch []).1 = .ok (.ok stubbornExecution) ∧
        stubbornWait.1 = .ok (.ok none) ∧ stubbornWait.2.platform.hooks = [] ∧
        stubbornJoin.1 =
          .ok (.error (.execution ⟨"calCtxReleaseMem", "injected failure"⟩))) ∧
      (stubbornJoin.2.history.take 9).reverse.map Moment.call? =
        [some (.releaseMemory ⟨6⟩ ⟨8⟩), some (.releaseMemory ⟨6⟩ ⟨10⟩),
          some (.releaseMemory ⟨6⟩ ⟨13⟩), some (.releaseMemory ⟨6⟩ ⟨16⟩),
          some (.unloadModule ⟨6⟩ ⟨7⟩), some (.destroyContext ⟨6⟩), some (.freeResource ⟨9⟩),
          some (.freeResource ⟨15⟩), some (.mapResource ⟨3⟩)] ∧
      ∃ setup work final : List Moment,
        (stubbornLaunch []).2.history = setup.reverse ++ (stubbornScene []).history ∧
        stubbornJoin.2.history = (work ++ final).reverse ++ stubbornWait.2.history ∧
        final.map Moment.call? = (Execution.finalOrder.flatMap fun op =>
          (setup.filterMap Moment.release?).filter (·.operation = op)).map some := by
  constructor
  · have hm : Reachable (stubbornScene failThirdLookup) := ⟨_, _, 0, _, rfl, rfl⟩
    have hooks : (stubbornScene failThirdLookup).platform.hooks = [] := by decide +kernel
    have hfailed : (stubbornLaunch failThirdLookup).1 = .ok (.error
        (.binding "x0" ⟨"calModuleGetName", "injected failure on call 3"⟩)) := by
      decide +kernel
    have hlaunch : stubbornLaunch failThirdLookup = (.ok (.error
        (.binding "x0" ⟨"calModuleGetName", "injected failure on call 3"⟩)),
        (stubbornLaunch failThirdLookup).2) := by
      rw [← hfailed]
    obtain ⟨setup, teardown, hhistory, -, -, hcalls, -⟩ :=
      @everything_acquired_is_released_once _ _ ⟨fun _ _ => pure ()⟩ hm hooks ⟨⟨2⟩, 5⟩
        mixedRequest _ hlaunch
    exact ⟨⟨hm, hooks, hfailed⟩, by decide +kernel, setup, teardown, hhistory, hcalls⟩
  · have hm : Reachable (stubbornScene []) := ⟨_, _, 0, _, rfl, rfl⟩
    have hooks : (stubbornScene []).platform.hooks = [] := by decide +kernel
    have hlaunched : (stubbornLaunch []).1 = .ok (.ok stubbornExecution) := by decide +kernel
    have htimedOut : stubbornWait.1 = .ok (.ok none) := by decide +kernel
    have hooks₂ : stubbornWait.2.platform.hooks = [] := by decide +kernel
    have hjoined : stubbornJoin.1 =
        .ok (.error (.execution ⟨"calCtxReleaseMem", "injected failure"⟩)) := by
      decide +kernel
    have hlaunch : stubbornLaunch [] = (.ok (.ok stubbornExecution), (stubbornLaunch []).2) := by
      rw [← hlaunched]
    have hpoll : stubbornPoll = (stubbornPoll.1, stubbornPoll.2) := (Prod.eta _).symm
    have hwait : stubbornWait = (.ok (.ok none), stubbornWait.2) := by
      rw [← htimedOut]
    have hjoin : stubbornJoin = (.ok (.error (.execution
        ⟨"calCtxReleaseMem", "injected failure"⟩)), stubbornJoin.2) := by
      rw [← hjoined]
    have hlater : Waits stubbornExecution (stubbornLaunch []).2 stubbornLater :=
      .steps .start 0 rfl
    have hwaits : Waits stubbornExecution (stubbornLaunch []).2 stubbornWait.2 :=
      (hlater.polled 0 hpoll).timedOut 0 hwait
    have hends : @Execution.JoinEnds _ _ ⟨fun _ _ => pure ()⟩ stubbornExecution stubbornWait.2
        stubbornJoin.2 :=
      @Execution.JoinEnds.whole _ _ ⟨fun _ _ => pure ()⟩ _ _ _ _ hjoin
    obtain ⟨setup, teardown, hhistory, -, -, rfl, hreleases⟩ :=
      @everything_acquired_is_released_once _ _ ⟨fun _ _ => pure ()⟩ hm hooks ⟨⟨2⟩, 5⟩
        mixedRequest _ hlaunch
    rw [List.append_nil] at hhistory
    obtain ⟨work, final, hhistory', -, hcalls, -⟩ := hreleases _ _ hwaits hooks₂ hends
    exact ⟨⟨hm, hooks, hlaunched, htimedOut, hooks₂, hjoined⟩, by decide +kernel, setup, work,
      final, hhistory, hhistory', hcalls⟩

end Scenario

end StreamCompute
