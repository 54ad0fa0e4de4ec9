/-
  StreamCompute.Proofs.LaunchLog

  All calls of a launch, where no hook interferes. A launch that succeeds makes
  the calls of its setup, the last of which runs the kernel. A launch that
  fails makes those of a setup that stops somewhere, and then gives back what
  these calls have acquired, in reverse.
-/
import StreamCompute.Proofs.BindingTrace
import StreamCompute.Proofs.DeviceCalls
import StreamCompute.Proofs.LaunchOutcome
import StreamCompute.Proofs.Teardown

namespace StreamCompute

open Fallible

/-! ## Setups -/

/-- The calls of a setup, as far as it came. It copies in what comes first among the sources,
    into resources of its own, and awaits every copy; only the last call may run the kernel,
    after everything was copied. -/
structure Staged (sources : List (Ident .resource)) (setup : List Moment) : Prop where
  forward : ∀ mo ∈ setup, mo.operation.cleansUp = false
  copied : (setup.filterMap Moment.copied?).map Prod.fst <+: sources
  targets : ∀ p ∈ setup.filterMap Moment.copied?,
    .freeResource p.2 ∈ setup.filterMap Moment.release?
  awaited : EachCopy SettlesOrAsks setup
  submitted : ∀ before run after, setup = before ++ run :: after → run.operation = .runProgram →
    after = [] ∧ (before.filterMap Moment.copied?).map Prod.fst = sources ∧
      EachCopy Settles before

variable {sources : List (Ident .resource)} {setup trace : List Moment}

/-- A setup that has not come to the kernel. -/
theorem Staged.of_unsubmitted
    (hforward : ∀ mo ∈ setup, mo.operation.cleansUp = false ∧ mo.operation ≠ .runProgram)
    (hsources : (setup.filterMap Moment.copied?).map Prod.fst <+: sources)
    (htargets : ∀ p ∈ setup.filterMap Moment.copied?,
      .freeResource p.2 ∈ setup.filterMap Moment.release?)
    (hawaited : EachCopy SettlesOrAsks setup) : Staged sources setup where
  forward mo hmo := (hforward mo hmo).1
  copied := hsources
  targets := htargets
  awaited := hawaited
  submitted before run after heq hrun := by
    refine absurd hrun (hforward run ?_).2
    rw [heq]
    exact List.mem_append_right _ List.mem_cons_self

theorem Staged.of_quiet
    (hforward : ∀ mo ∈ setup, mo.operation.cleansUp = false ∧ mo.operation ≠ .runProgram)
    (hquiet : ∀ mo ∈ setup, mo.operation ≠ .copyMemory) : Staged sources setup := by
  have hnone := filterMap_copied?_of_ne hquiet
  refine .of_unsubmitted hforward ?_ ?_ (.of_ne hquiet)
  · rw [hnone]
    exact List.nil_prefix
  · rw [hnone]
    exact nofun

/-- The calls of a setup that lacks only the kernel: everything was copied, from and to these
    resources. -/
structure Furnished (copied : List (Ident .resource × Ident .resource)) (setup : List Moment) :
    Prop where
  forward : ∀ mo ∈ setup, mo.operation.cleansUp = false ∧ mo.operation ≠ .runProgram
  copied : setup.filterMap Moment.copied? = copied
  targets : ∀ p ∈ setup.filterMap Moment.copied?,
    .freeResource p.2 ∈ setup.filterMap Moment.release?
  settled : EachCopy Settles setup

section Furnished

variable {copied : List (Ident .resource × Ident .resource)}

theorem Furnished.call (h : Furnished copied setup) {mo : Moment}
    (hforward : mo.operation.cleansUp = false ∧ mo.operation ≠ .runProgram)
    (hquiet : mo.operation ≠ .copyMemory) : Furnished copied (setup ++ [mo]) := by
  have hall : ∀ mo' ∈ [mo], mo'.operation ≠ .copyMemory := List.forall_mem_singleton.mpr hquiet
  have hcopied : (setup ++ [mo]).filterMap Moment.copied? = setup.filterMap Moment.copied? := by
    rw [List.filterMap_append, filterMap_copied?_of_ne hall, List.append_nil]
  refine ⟨fun mo' hmo' => ?_, hcopied.trans h.copied, fun p hp => ?_,
    h.settled.settled (.of_ne hall)⟩
  · rcases List.mem_append.mp hmo' with hmo' | hmo'
    · exact h.forward mo' hmo'
    · rw [List.mem_singleton.mp hmo']
      exact hforward
  · rw [hcopied] at hp
    rw [List.filterMap_append]
    exact List.mem_append_left _ (h.targets p hp)

theorem Furnished.staged (h : Furnished copied setup) (hsources : copied.map Prod.fst = sources) :
    Staged sources setup := by
  refine .of_unsubmitted h.forward ?_ h.targets ?_
  · simp [h.copied, hsources]
  · exact List.append_nil setup ▸ h.settled.stopped trivial

/-- The kernel comes last. -/
theorem Furnished.submitted (h : Furnished copied setup) (hsources : copied.map Prod.fst = sources)
    {run : Moment} (hrun : run.operation = .runProgram) : Staged sources (setup ++ [run]) := by
  have hquiet : ∀ mo ∈ [run], mo.operation ≠ .copyMemory := by
    rw [List.forall_mem_singleton, hrun]
    nofun
  have hcopied : (setup ++ [run]).filterMap Moment.copied? = setup.filterMap Moment.copied? := by
    rw [List.filterMap_append, filterMap_copied?_of_ne hquiet, List.append_nil]
  refine ⟨fun mo hmo => ?_, ?_, fun p hp => ?_, h.settled.stopped (.of_ne hquiet),
    fun before run' after heq hrun' => ?_⟩
  · rcases List.mem_append.mp hmo with hmo | hmo
    · exact (h.forward mo hmo).1
    · rw [List.mem_singleton.mp hmo, hrun]
      rfl
  · simp [hcopied, h.copied, hsources]
  · rw [hcopied] at hp
    rw [List.filterMap_append]
    exact List.mem_append_left _ (h.targets p hp)
  · rcases List.eq_nil_or_concat after with rfl | ⟨rest, last, rfl⟩
    · obtain ⟨rfl, -⟩ := List.append_inj' heq rfl
      exact ⟨rfl, by rw [h.copied, hsources], h.settled⟩
    · have heq' : setup ++ [run] = (before ++ run' :: rest) ++ [last] := by
        simpa using heq
      refine absurd hrun' (h.forward run' ?_).2
      rw [(List.append_inj' heq' rfl).1]
      exact List.mem_append_right _ List.mem_cons_self

end Furnished

/-- Calls in front of a setup that do nothing for it. -/
theorem Staged.after (h : Staged sources setup)
    (hquiet : ∀ mo ∈ trace, mo.operation ≠ .copyMemory)
    (hforward : ∀ mo ∈ trace, mo.operation.cleansUp = false ∧ mo.operation ≠ .runProgram)
    (hreleases : trace.filterMap Moment.release? = []) : Staged sources (trace ++ setup) := by
  have hnone := filterMap_copied?_of_ne hquiet
  refine ⟨fun mo hmo => ?_, ?_, fun p hp => ?_, ?_, fun before run after heq hrun => ?_⟩
  · rcases List.mem_append.mp hmo with hmo | hmo
    · exact (hforward mo hmo).1
    · exact h.forward mo hmo
  · rw [List.filterMap_append, hnone]
    exact h.copied
  · rw [List.filterMap_append, hnone] at hp
    rw [List.filterMap_append, hreleases]
    exact h.targets p hp
  · exact EachCopy.stopped (.of_ne hquiet) h.awaited
  · -- The kernel is run in the second part, so the first is in front of it.
    rcases List.append_eq_append_iff.mp heq with ⟨middle, rfl, hsetup⟩ | ⟨middle, rfl, hrest⟩
    · obtain ⟨hafter, hcopies, hsettled⟩ := h.submitted middle run after hsetup hrun
      refine ⟨hafter, ?_, .settled (.of_ne hquiet) hsettled⟩
      rw [List.filterMap_append, hnone]
      exact hcopies
    · cases middle with
      | nil =>
        obtain ⟨hafter, hcopies, hsettled⟩ := h.submitted [] run after hrest.symm hrun
        refine ⟨hafter, ?_, .of_ne fun mo hmo => hquiet mo (List.mem_append_left _ hmo)⟩
        rw [List.append_nil] at hnone
        rw [hnone]
        exact hcopies
      | cons mo rest =>
        cases (List.cons_append.symm.trans hrest.symm : mo :: (rest ++ setup) = run :: after)
        exact absurd hrun (hforward run (List.mem_append_right _ List.mem_cons_self)).2

/-! ## Machines on the way -/

/-- What gives back a context with its module. -/
def BindSite.releases (site : BindSite) : List Call :=
  [.destroyContext site.context, .unloadModule site.context site.module]

variable {κ ω : Type} {base m m' : Machine κ ω} {site : BindSite} {a a' : Arena}

/-- The setup has come as far as the machine and the arena say, and what it has acquired is
    what is written down. -/
structure Arrived (base : Machine κ ω) (site : BindSite) (setup : List Moment) (a : Arena)
    (m : Machine κ ω) : Prop where
  underway : Underway base site a m
  history : m.history = setup.reverse ++ base.history
  releases : setup.filterMap Moment.release? =
    site.releases ++ a.acquired.filterMap (Acquired.release? site.context)

namespace Arrived

variable (h : Arrived base site setup a m)

include h

theorem took {xs : List Acquired} {cs : List CopyRecord}
    (htook : Took site a m xs cs trace a' m') (hm' : Underway base site a' m') :
    Arrived base site (setup ++ trace) a' m' where
  underway := hm'
  history := by rw [htook.history, h.history, List.reverse_append, List.append_assoc]
  releases := by
    rw [List.filterMap_append, h.releases, ← htook.releases, htook.acquired,
      List.filterMap_append, List.append_assoc]

theorem called (hcalled : m.Called trace m')
    (hreleases : trace.filterMap Moment.release? = []) (hm' : Underway base site a m') :
    Arrived base site (setup ++ trace) a m' where
  underway := hm'
  history := by rw [hcalled.history, h.history, List.reverse_append, List.append_assoc]
  releases := by rw [List.filterMap_append, hreleases, List.append_nil, h.releases]

theorem journal {journal : List Event} :
    Arrived base site setup a { m with journal } :=
  { h with underway := h.underway.journal }

/-- What was made for the launch is among what it acquired. -/
theorem mem_releases {id : Ident .resource}
    (hmade : a.made id = true) : .freeResource id ∈ setup.filterMap Moment.release? := by
  obtain ⟨⟨register, id'⟩, ht, hid⟩ := List.any_eq_true.mp hmade
  have heq : id' = id := of_decide_eq_true hid
  rw [h.releases, ← heq]
  refine List.mem_append_right _ (List.mem_filterMap.mpr ⟨.transient register id', ?_, rfl⟩)
  exact Arena.mem_transients.mp ht

/-- After calls that have nothing to do with copies, steps that succeed. -/
theorem advanced {claims : List Remote} {cs : List CopyRecord}
    {copied : List (Ident .resource × Ident .resource)}
    (hforward : ∀ mo ∈ setup, mo.operation.cleansUp = false ∧ mo.operation ≠ .runProgram)
    (hquiet : ∀ mo ∈ setup, mo.operation ≠ .copyMemory) (hm' : Underway base site a' m')
    (hadvanced : Advanced site a m claims cs copied a' m') :
    ∃ setup', Arrived base site setup' a' m' ∧ Furnished copied setup' := by
  obtain ⟨xs, trace, htook, -, hcopied, hmade, hsettled⟩ := hadvanced
  have harrived := h.took htook hm'
  have hall : (setup ++ trace).filterMap Moment.copied? = copied := by
    rw [List.filterMap_append, filterMap_copied?_of_ne hquiet, hcopied, List.nil_append]
  refine ⟨setup ++ trace, harrived, fun mo hmo => ?_, hall, fun p hp => ?_,
    .settled (.of_ne hquiet) hsettled⟩
  · rcases List.mem_append.mp hmo with hmo | hmo
    · exact hforward mo hmo
    · exact htook.forward mo hmo
  · exact harrived.mem_releases (hmade p (hall ▸ hp))

/-- After calls that have nothing to do with copies, steps of which the last fails. -/
theorem stopped
    (hforward : ∀ mo ∈ setup, mo.operation.cleansUp = false ∧ mo.operation ≠ .runProgram)
    (hquiet : ∀ mo ∈ setup, mo.operation ≠ .copyMemory) (hm' : Underway base site a' m')
    (hstopped : Stopped site a m sources a' m') :
    ∃ setup', Arrived base site setup' a' m' ∧ Staged sources setup' := by
  obtain ⟨xs, cs, trace, htook, hsources, hmade, hawaited⟩ := hstopped
  have harrived := h.took htook hm'
  have hcopied : (setup ++ trace).filterMap Moment.copied? = trace.filterMap Moment.copied? := by
    rw [List.filterMap_append, filterMap_copied?_of_ne hquiet, List.nil_append]
  refine ⟨setup ++ trace, harrived, .of_unsubmitted (fun mo hmo => ?_) ?_ (fun p hp => ?_)
    (EachCopy.stopped (.of_ne hquiet) hawaited)⟩
  · rcases List.mem_append.mp hmo with hmo | hmo
    · exact hforward mo hmo
    · exact htook.forward mo hmo
  · rw [hcopied]
    exact hsources
  · rw [hcopied] at hp
    exact harrived.mem_releases (hmade p hp)

end Arrived

/-! ## Unwinding -/

variable {owner : ExecutionKey} {opened : List (Ident .context)} {loaded : List (Ident .module)}

/-- What a setup has ended waits to be mapped again. -/
theorem Setup.waits (h : Setup base owner opened loaded a m) :
    Withdrawn (a.unmapped.map Prod.snd) m where
  hooks := h.hooks
  once := h.once
  unmapped r hr := by
    obtain ⟨u, hu, rfl⟩ := List.mem_map.mp hr
    obtain ⟨status, hstatus, hlink⟩ := h.withdrawn u hu
    rw [Machine.status_of_get? hstatus, RemoteStatus.mapped, hlink]
    rfl

/-- Apart from what the setup did to them, the marks of records are as before. -/
theorem Setup.marks_status (h : Setup base owner opened loaded a m) (r : Remote) :
    a.marks r (m.status r) = (base.status r).marks := by
  have hmarks := h.marks r
  cases hget : m.remotes.get? r with
  | some status =>
    rw [hget, Option.map_some] at hmarks
    obtain ⟨status', hstatus', heq⟩ := Option.map_eq_some_iff.mp hmarks.symm
    rw [Machine.status_of_get? hget, Machine.status_of_get? hstatus', heq]
  | none =>
    rw [hget, Option.map_none] at hmarks
    have hunmapped : a.unmapped.any (·.2 = r) = false := by
      rw [List.any_eq_false]
      intro u hu heq
      obtain ⟨status, hstatus, -⟩ := h.withdrawn u hu
      rw [of_decide_eq_true heq, hget] at hstatus
      cases hstatus
    rw [Machine.status, Machine.status, hget, Option.map_eq_none_iff.mp hmarks.symm]
    simp [Arena.marks, RemoteStatus.marks, hunmapped, RemoteStatus.absent, RemoteStatus.mapped]

/-- What gives back the things that a setup has acquired so far: a context comes first, then a
    module in it, and then everything else. -/
inductive Layered : List Call → Prop
  | nothing : Layered []
  | context (context : Ident .context) : Layered [.destroyContext context]
  | module (context : Ident .context) (module : Ident .module) {rest : List Call}
      (hrest : ∀ call ∈ rest,
        call.operation ∈ [Operation.releaseMemory, .freeResource, .mapResource]) :
      Layered (.destroyContext context :: .unloadModule context module :: rest)

theorem Arena.layered (a : Arena) (context : Ident .context) (module : Ident .module) :
    Layered (.destroyContext context :: .unloadModule context module ::
      a.acquired.filterMap (Acquired.release? context)) := by
  refine .module context module fun call hcall => ?_
  obtain ⟨x, -, hx⟩ := List.mem_filterMap.mp hcall
  cases x with
  | flight r => cases hx
  | unmapped register r =>
    cases hx
    simp [Call.operation]
  | memory memory =>
    cases hx
    simp [Call.operation]
  | transient register resource =>
    cases hx
    simp [Call.operation]

/-- A launch has failed. What its setup acquired was given back, one call for each thing and
    the last thing first; what was freed was made by the setup. All claims were given back, and
    nothing is mapped that was not mapped before. -/
structure Unwound (base : Machine κ ω) (sources : List (Ident .resource)) (m : Machine κ ω) :
    Prop where
  trace : ∃ setup teardown : List Moment,
    m.history = (setup ++ teardown).reverse ++ base.history ∧ Staged sources setup ∧
    Layered (setup.filterMap Moment.release?) ∧
    teardown.map Moment.call? = (setup.filterMap Moment.release?).reverse.map some ∧
    (∀ mo ∈ teardown, mo.operation.cleansUp = true) ∧
    ∀ id, .freeResource id ∈ setup.filterMap Moment.release? →
      base.platform.driver.nextNumber ≤ id.number
  inFlight : ∀ r, (m.status r).inFlight = (base.status r).inFlight
  mapped : ∀ r, (base.status r).mapped = false → (m.status r).mapped = false

theorem Unwound.journal (h : Unwound base sources m) {journal : List Event} :
    Unwound base sources { m with journal } :=
  { h with }

/-- A launch that fails before it claims anything. -/
theorem Unwound.of_swept (hhistory : m.history = setup.reverse ++ base.history)
    (hremotes : m.remotes = base.remotes) (hstaged : Staged sources setup)
    (hlayered : Layered (setup.filterMap Moment.release?))
    (hfresh : ∀ id, .freeResource id ∉ setup.filterMap Moment.release?)
    (hswept : Swept (setup.filterMap Moment.release?).reverse [] [] m m') :
    Unwound base sources m' := by
  have hstatus : ∀ r, m.status r = base.status r := fun r => by
    rw [Machine.status, hremotes]
    rfl
  obtain ⟨teardown, hhistory', hcalls, hclean⟩ := hswept.trace
  refine ⟨⟨setup, teardown, ?_, hstaged, hlayered, hcalls, hclean,
    fun id hid => absurd hid (hfresh id)⟩, fun r => ?_, fun r hr => ?_⟩
  · rw [hhistory', hhistory, List.reverse_append, List.append_assoc]
  · rw [hswept.inFlight, hstatus]
    simp
  · rw [hswept.mapped r List.not_mem_nil, hstatus, hr]

/-- Whatever is freed of a setup was made by it. -/
theorem Arrived.fresh (h : Arrived base site setup a m) {id : Ident .resource}
    (hid : .freeResource id ∈ setup.filterMap Moment.release?) :
    base.platform.driver.nextNumber ≤ id.number := by
  rw [h.releases, List.mem_append, List.mem_filterMap] at hid
  rcases hid with hid | ⟨x, hx, hid⟩
  · simp [BindSite.releases] at hid
  · cases x with
    | transient register resource =>
      cases hid
      exact h.underway.young _ (Arena.mem_transients.mpr hx)
    | memory memory => cases hid
    | unmapped register r => cases hid
    | flight r => cases hid

namespace Launch

variable [Reentry κ ω]

theorem undo_unwinds (h : Arrived base site setup a m) (hstaged : Staged sources setup) :
    (undo site).Leads m (fun _ => Unwound base sources) fun _ => True := by
  refine (undo_sweeps h.underway.arena h.underway.waits).imp fun _ m' hm' => ?_
  obtain ⟨teardown, hhistory, hcalls, hclean⟩ := hm'.trace
  -- The context and the module were acquired first, so they are given back last.
  have hreleases : (setup.filterMap Moment.release?).reverse =
      (a.acquired.filterMap (Acquired.release? site.context)).reverse ++
        [.unloadModule site.context site.module, .destroyContext site.context] := by
    rw [h.releases, List.reverse_append]
    rfl
  refine ⟨⟨setup, teardown, ?_, hstaged, ?_, ?_, hclean, fun id => h.fresh⟩, fun r => ?_,
    fun r hr => ?_⟩
  · rw [hhistory, h.history, List.reverse_append, List.append_assoc]
  · rw [h.releases]
    exact a.layered site.context site.module
  · rw [hcalls, hreleases]
  · have hmarks := congrArg (·.2.1) (h.underway.marks_status r)
    rw [hm'.inFlight]
    simpa [Arena.marks, RemoteStatus.marks] using hmarks
  · -- What was not mapped before was not unmapped by the setup.
    have hmarks := congrArg (·.1) (h.underway.marks_status r)
    have hnot : (m.status r).mapped = false ∧ a.unmapped.any (·.2 = r) = false := by
      rw [← Bool.or_eq_false_iff]
      exact hmarks.trans hr
    rw [hm'.mapped r, hnot.1]
    rw [List.mem_reverse, List.mem_map]
    rintro ⟨u, hu, rfl⟩
    simpa using List.any_eq_false.mp hnot.2 u hu

/-! ## Opening -/

theorem openSite_trace (hooks : base.Unhooked Operation.ofLaunch) {image : Image}
    {device : Device} :
    (openSite owner image device).Leads base
      (fun site m' => ∃ create load : Moment, m'.history = [create, load].reverse ++ base.history ∧
        create.operation = .createContext ∧ load.operation = .loadModule ∧
        [create, load].filterMap Moment.release? = site.releases)
      (fun _ => Unwound base sources) fun _ => True := by
  unfold openSite Machine.tryDrive
  rw [leads_bind, leads_get, leads_bind, Machine.leads_driveAs]
  refine (Machine.drive_trace hooks rfl (Command.logs rfl)
    (P := fun context => Call.release? base.platform.driver.nextNumber
      (.createContext device.id) = some (.destroyContext context))
    (Simulator.createContext_leads (fun _ => trivial) rfl)).mono
    (fun context m₁ ⟨hcontext, create, h₁, hop, _, hcreate, _⟩ => ?_)
    (fun e m₁ ⟨create, h₁, hop, _, hcreate⟩ => ?_) fun _ hm => hm
  -- There is a context. If the module cannot be loaded, it is all there is to give back.
  · rw [hcontext] at hcreate
    have hooks₁ : (m₁.openArena owner context).Unhooked Operation.ofLaunch := h₁.unhooked hooks
    rw [leads_bind, leads_modify, leads_bind, leads_perform,
      leads_attempt]
    refine (Machine.drive_trace hooks₁ rfl (Command.logs rfl)
      (P := fun module => Call.release? m₁.platform.driver.nextNumber
        (.loadModule context image.id) = some (.unloadModule context module))
      (Simulator.loadModule_leads (fun _ => trivial) fun _ => rfl)).mono
      (fun module m₂ ⟨hmodule, load, h₂, hop', _, hload, _⟩ => ?_)
      (fun e m₂ ⟨load, h₂, hop', _, hload⟩ => ?_) fun _ hm => hm
    · have hload : load.release? = some (.unloadModule context module) := hload.trans hmodule
      refine ⟨create, load, ?_, hop, hop', ?_⟩
      · exact h₂.history.trans (congrArg (List.cons load) h₁.history)
      · rw [List.filterMap_cons_some hcreate, List.filterMap_cons_some hload]
        rfl
    · have hreleases : [create, load].filterMap Moment.release? = [.destroyContext context] := by
        rw [List.filterMap_cons_some hcreate, List.filterMap_cons_none hload]
        rfl
      refine .perform_bind (dropContext_sweeps (h₂.unhooked hooks₁)) fun _ m₃ h₃ => ?_
      have hhistory : m₂.history = [create, load].reverse ++ base.history :=
        h₂.history.trans (congrArg (List.cons load) h₁.history)
      refine .of_swept hhistory (h₂.remotes.trans h₁.remotes) (.of_quiet ?_ ?_) ?_ ?_ ?_
      · simp [hop, hop', Simulator.createContext, Simulator.loadModule, Operation.cleansUp]
      · simp [hop, hop', Simulator.createContext, Simulator.loadModule]
      · rw [hreleases]
        exact .context context
      · simp [hreleases]
      · rw [hreleases]
        exact h₃.arenas
  · have hreleases : [create].filterMap Moment.release? = [] := by
      rw [List.filterMap_cons_none hcreate]
      rfl
    refine .of_swept h₁.history h₁.remotes (.of_quiet ?_ ?_) ?_ ?_ ?_
    · simp [hop, Simulator.createContext, Operation.cleansUp]
    · simp [hop, Simulator.createContext]
    · rw [hreleases]
      exact .nothing
    · simp [hreleases]
    · rw [hreleases]
      exact .refl

theorem openSite_logs (hn : base.platform.driver.Numbered)
    (hooks : base.Unhooked Operation.ofLaunch) {image : Image} {device : Device} :
    (openSite owner image device).Leads base
      (fun site m' => site.owner = owner ∧ ∃ setup : List Moment,
        Arrived base site setup { context := site.context } m' ∧
        (∀ mo ∈ setup, mo.operation.cleansUp = false ∧ mo.operation ≠ .runProgram) ∧
        ∀ mo ∈ setup, mo.operation ≠ .copyMemory)
      (fun _ => Unwound base sources) fun _ => True := by
  refine ((openSite_loads hn hooks).and (openSite_trace hooks)).mono
    (fun site m' hm' => ?_) (fun _ _ hm => hm.2) fun _ _ => trivial
  obtain ⟨⟨howner, hloaded⟩, create, load, hhistory, hop, hop', hreleases⟩ := hm'
  refine ⟨howner, [create, load], ⟨hloaded.setup, hhistory, ?_⟩, ?_, ?_⟩
  · rw [hreleases]
    exact (List.append_nil _).symm
  · simp [hop, hop', Operation.cleansUp]
  · simp [hop, hop']

/-! ## Submitting -/

theorem submit_logs (h : Underway base site a m) {domain : Domain} :
    (submit site domain).Leads m
      (fun event m' => ∃ find run : Moment, m.Called [find, run] m' ∧
        find.operation = .findEntry ∧ run.operation = .runProgram ∧
        [find, run].filterMap Moment.release? = [] ∧
        run.accepted? = some (.runProgram site.context domain) ∧
        event = ⟨run.found.nextNumber⟩)
      (fun _ m' => Underway base site a m' ∧ ∃ find : Moment, find.operation = .findEntry ∧
        find.release? = none ∧ (m.Called [find] m' ∨ ∃ run : Moment, run.operation = .runProgram ∧
          run.release? = none ∧ m.Called [find, run] m')) fun _ => True := by
  unfold submit
  rw [leads_bind, leads_get, leads_bind]
  refine ((findEntry_reached h).and (Machine.drive_trace h.hooks rfl (Command.logs rfl)
    leads_true)).mono (fun entry m₁ ⟨hm₁, _, find, hfound, hop, _, hrelease, _⟩ => ?_)
    (fun e m₁ ⟨⟨b, hb⟩, find, hfound, hop, _, hrelease⟩ => ?_) fun _ _ => trivial
  · have hunderway := hm₁.setup
    have hrefused : (Machine.drive (Simulator.runProgram site.context entry domain)).Leads m₁
        (fun _ _ => True) (fun _ => Underway base site a) fun _ => True := by
      rw [Machine.leads_drive hunderway.hooks rfl]
      exact Simulator.runProgram_leads (fun _ => hunderway.refused) trivial
    refine (hrefused.and (Machine.drive_trace hunderway.hooks rfl (Command.logs rfl)
      (P := fun event => event = ⟨m₁.platform.driver.nextNumber⟩)
      (Simulator.runProgram_leads (fun _ => trivial) rfl))).mono
      (fun event m₂ ⟨_, hevent, run, hran, hop', haccepted, hrelease', hfound'⟩ => ?_)
      (fun e m₂ ⟨hm₂, run, hran, hop', _, hrelease'⟩ => ?_) fun _ _ => trivial
    · refine ⟨find, run, hfound.trans hran, hop, hop', ?_, haccepted, hfound' ▸ hevent⟩
      rw [List.filterMap_cons_none hrelease, List.filterMap_cons_none hrelease']
      rfl
    · exact ⟨hm₂, find, hop, hrelease, Or.inr ⟨run, hop', hrelease', hfound.trans hran⟩⟩
  · have harena := hb.arena
    rw [hfound.arenas] at harena
    cases h.arena.symm.trans harena
    exact ⟨hb, find, hop, hrelease, Or.inl hfound⟩

end Launch

/-! ## Launching -/

/-- A launch has succeeded. Its calls are those of a complete setup, the last of which ran the
    kernel; the arena of the execution has what they have acquired, and its claims and copies
    are those that the table asks for. -/
structure Launched (base : Machine κ ω) (q : LaunchRequest) (e : Execution) (a : Arena)
    (setup : List Moment) (m : Machine κ ω) : Prop where
  history : m.history = setup.reverse ++ base.history
  arena : m.arenas.get? e.key = some a
  staged : Staged (base.copiedIn q.table.entries) setup
  copied : setup.filterMap Moment.copied? = incoming a.copies
  ran : ∃ run, setup.getLast? = some run ∧
    run.accepted? = some (.runProgram e.context q.domain) ∧ e.event = ⟨run.found.nextNumber⟩
  releases : setup.filterMap Moment.release? = .destroyContext e.context ::
    .unloadModule e.context e.module :: a.acquired.filterMap (Acquired.release? e.context)
  claims : a.claims = q.table.ordered.filterMap (·.2.remote?)
  copies : a.copies.map CopyRecord.plan = q.table.entries.filterMap base.plan?
  made : ∀ c ∈ a.copies, .freeResource c.transient ∈ setup.filterMap Moment.release?
  once : (a.unmapped.map Prod.snd).Nodup
  unmapped : ∀ u ∈ a.unmapped, (base.status u.2).mapped = true
  unseen : m.progress.get? e.key = none

theorem Launched.journal {q : LaunchRequest} {e : Execution}
    (h : Launched base q e a setup m) {journal : List Event} :
    Launched base q e a setup { m with journal } :=
  { h with }

/-- The two calls of the submission complete a launch. -/
theorem Arrived.launched (h : Arrived base site setup a m)
    (hfurnished : Furnished (incoming a.copies) setup) {q : LaunchRequest} {e : Execution}
    (hclaims : a.claims = q.table.ordered.filterMap (·.2.remote?))
    (hplans : a.copies.map CopyRecord.plan = q.table.entries.filterMap base.plan?)
    (hmade : ∀ c ∈ a.copies, a.made c.transient = true)
    {find run : Moment} (hcalled : m.Called [find, run] m') (hfind : find.operation = .findEntry)
    (hrun : run.operation = .runProgram) (hreleases : [find, run].filterMap Moment.release? = [])
    (haccepted : run.accepted? = some (.runProgram site.context q.domain))
    (hkey : e.key = site.owner) (hunseen : base.progress.get? site.owner = none)
    (hcontext : e.context = site.context)
    (hmodule : e.module = site.module) (hevent : e.event = ⟨run.found.nextNumber⟩) :
    Launched base q e a (setup ++ [find, run]) m' := by
  have hsources : (incoming a.copies).map Prod.fst = base.copiedIn q.table.entries := by
    rw [map_fst_incoming, hplans]
    rfl
  have hfound : Furnished (incoming a.copies) (setup ++ [find]) :=
    hfurnished.call (by rw [hfind]; decide) (by rw [hfind]; decide)
  have hstaged := hfound.submitted hsources hrun
  have hcopied : (setup ++ [find, run]).filterMap Moment.copied? = incoming a.copies := by
    rw [List.filterMap_append, hfurnished.copied, filterMap_copied?_of_ne, List.append_nil]
    simp [hfind, hrun]
  rw [List.append_assoc] at hstaged
  refine { staged := hstaged, copied := hcopied, claims := hclaims, copies := hplans
           once := h.underway.once, history := ?_, arena := ?_, ran := ⟨run, ?_, ?_, hevent⟩
           releases := ?_, made := fun c hc => ?_, unmapped := fun u hu => ?_, unseen := ?_ }
  · rw [hcalled.history, h.history, List.reverse_append, List.append_assoc]
  · rw [hcalled.arenas, hkey]
    exact h.underway.arena
  · rw [List.getLast?_append]
    rfl
  · rw [haccepted, hcontext]
  · rw [List.filterMap_append, hreleases, List.append_nil, h.releases, hcontext, hmodule]
    rfl
  · rw [List.filterMap_append]
    exact List.mem_append_left _ (h.mem_releases (hmade c hc))
  · have hmarks := congrArg (·.1) (h.underway.marks_status u.2)
    refine hmarks.symm.trans ?_
    rw [Arena.marks, Bool.or_eq_true]
    exact Or.inr (List.any_eq_true.mpr ⟨u, hu, decide_eq_true rfl⟩)
  · rw [hcalled.progress, h.underway.progress, hkey, hunseen]

namespace Launch

variable [Reentry κ ω]

theorem begin_logs (hn : base.platform.driver.Numbered)
    (hooks : base.Unhooked Operation.ofLaunch) {id : ExecutionId} {image : Image}
    {q : LaunchRequest} (hunseen : base.progress.get? (base.platform.serial, id) = none) :
    (begin id image q).Leads base (fun e m' => ∃ a setup, Launched base q e a setup m')
      (fun _ => Unwound base (base.copiedIn q.table.entries)) fun _ => True := by
  -- A launch that has failed has arrived somewhere, and is undone from there.
  refine leads_begin
    (F := fun site _ m₃ => ∃ setup a, Arrived base site setup a m₃ ∧
      Staged (base.copiedIn q.table.entries) setup)
    (Q := fun site m₂ => site.owner = (base.platform.serial, id) ∧ ∃ setup a,
      Arrived base site setup a m₂ ∧ Furnished (incoming a.copies) setup ∧
      a.claims = q.table.ordered.filterMap (·.2.remote?) ∧
      a.copies.map CopyRecord.plan = q.table.entries.filterMap base.plan? ∧
      ∀ c ∈ a.copies, a.made c.transient = true)
    (openSite_logs hn hooks) (fun site m₁ hopened => ?_) (fun site m₂ hbound => ?_)
    fun site _ m₃ hended => ?_
  · obtain ⟨howner, opening, h₁, hforward₁, hquiet₁⟩ := hopened
    rw [h₁.underway.config]
    refine (Binder.forM_bound h₁.underway).mono (fun _ m₂ hbound => ⟨howner, ?_⟩)
      (fun e m₂ hfailed _ => ?_) fun _ hm => hm
    · obtain ⟨cs, a, h₂, hadvanced, hplans, hmade⟩ := hbound
      obtain ⟨setup, harrived, hfurnished⟩ := h₁.advanced hforward₁ hquiet₁ h₂ hadvanced
      obtain ⟨xs, trace, htook, hclaims, -⟩ := hadvanced
      have hcopies : a.copies = cs := htook.copies
      have hacquired : a.acquired = xs := htook.acquired
      subst hcopies
      refine ⟨setup, a, harrived, hfurnished, ?_, hplans.trans q.table.filterMap_plan?_ordered,
        hmade⟩
      unfold Arena.claims
      rw [hacquired]
      exact hclaims
    · obtain ⟨a, h₂, hstopped⟩ := hfailed
      obtain ⟨setup, harrived, hstaged⟩ := h₁.stopped hforward₁ hquiet₁ h₂ hstopped
      refine ⟨setup, a, harrived.journal, ?_⟩
      rwa [Machine.copiedIn, q.table.filterMap_plan?_ordered] at hstaged
  · obtain ⟨howner, setup, a, harrived, hfurnished, hclaims, hplans, hmade⟩ := hbound
    have hsources : (incoming a.copies).map Prod.fst = base.copiedIn q.table.entries := by
      rw [map_fst_incoming, hplans]
      rfl
    refine (submit_logs harrived.underway).mono (fun event m₃ hsubmitted _ => ?_)
      (fun e m₃ hfailed => ?_) fun _ hm => hm
    · obtain ⟨find, run, h₃, hfind, hrun, hreleases, haccepted, hevent⟩ := hsubmitted
      have hlaunched : Launched base q
          ⟨base.platform.serial, id, site.context, site.module, event, site.waiter⟩ a
          (setup ++ [find, run]) m₃ :=
        harrived.launched hfurnished hclaims hplans hmade h₃ hfind hrun hreleases haccepted howner.symm
          (howner ▸ hunseen) rfl rfl hevent
      exact ⟨a, _, hlaunched.journal⟩
    · obtain ⟨h₃, find, hfind, hrelease, hend⟩ := hfailed
      have hfurnished : Furnished (incoming a.copies) (setup ++ [find]) :=
        hfurnished.call (by rw [hfind]; decide) (by rw [hfind]; decide)
      rcases hend with hm₃ | ⟨run, hrun, hrelease', hm₃⟩
      · refine ⟨_, a, harrived.called hm₃ ?_ h₃, hfurnished.staged hsources⟩
        rw [List.filterMap_cons_none hrelease, List.filterMap_nil]
      · have hstaged := hfurnished.submitted hsources hrun
        rw [List.append_assoc] at hstaged
        refine ⟨_, a, harrived.called hm₃ ?_ h₃, hstaged⟩
        rw [List.filterMap_cons_none hrelease, List.filterMap_cons_none hrelease',
          List.filterMap_nil]
  · obtain ⟨setup, a, harrived, hstaged⟩ := hended
    exact undo_unwinds harrived hstaged

end Launch

/-! ## Checking the device -/

/-- Calls about devices acquire nothing that is to be given back. -/
theorem Call.release?_of_ofDevices {call : Call} (h : call.operation.ofDevices = true)
    (number : Nat) : call.release? number = none := by
  cases call with
  | createContext device => cases h
  | loadModule context image => cases h
  | getMemory context resource => cases h
  | allocate place layout format flags => cases place <;> cases layout <;> cases h
  | unmapResource resource => cases h
  | _ => rfl

theorem Moment.Safe.release?_eq_none {mo : Moment} (h : mo.Safe)
    (hop : mo.operation.ofDevices = true) : mo.release? = none := by
  by_cases haccepted : mo.verdict = .accepted
  · obtain ⟨call, hcall, hop', -⟩ := h haccepted
    rw [Moment.release?, hcall]
    exact Call.release?_of_ofDevices (hop' ▸ hop) _
  · exact Moment.release?_of_ne haccepted

theorem Operation.not_ofLaunch {op : Operation} (h : op.ofDevices = true) :
    (op.cleansUp = false ∧ op ≠ .runProgram) ∧ op ≠ .copyMemory := by
  cases op with
  | start => decide
  | stop => decide
  | countDevices => decide
  | describeDevice => decide
  | openDevice => decide
  | closeDevice => decide
  | _ => cases h

namespace Machine.Looked

/-- Looking for devices does nothing for a setup. -/
theorem idle (h : m.Looked m') (hsafe : ∀ mo ∈ m'.history, mo.Safe) :
    ∃ trace : List Moment, m'.history = trace.reverse ++ m.history ∧
      (∀ mo ∈ trace, mo.operation ≠ .copyMemory) ∧
      (∀ mo ∈ trace, mo.operation.cleansUp = false ∧ mo.operation ≠ .runProgram) ∧
      trace.filterMap Moment.release? = [] := by
  obtain ⟨trace, hhistory, hops⟩ := h.trace
  refine ⟨trace, hhistory, fun mo hmo => (Operation.not_ofLaunch (hops mo hmo)).2,
    fun mo hmo => (Operation.not_ofLaunch (hops mo hmo)).1, ?_⟩
  rw [List.filterMap_eq_nil_iff]
  intro mo hmo
  refine (hsafe mo ?_).release?_eq_none (hops mo hmo)
  rw [hhistory]
  exact List.mem_append_left _ (List.mem_reverse.mpr hmo)

theorem status (h : m.Looked m') (r : Remote) : m'.numbering.status r = m.status r := by
  obtain ⟨_, _, _, _, _, rfl⟩ := h.rest
  rfl

theorem plan? (h : m.Looked m') : m'.numbering.plan? = m.plan? := by
  obtain ⟨_, _, _, _, _, rfl⟩ := h.rest
  funext e
  obtain ⟨register, binding⟩ := e
  cases binding <;> rfl

theorem copiedIn (h : m.Looked m') (entries : List (String × Binding)) :
    m'.numbering.copiedIn entries = m.copiedIn entries := by
  rw [Machine.copiedIn, h.plan?]
  rfl

/-- A launch whose device is not accepted, or whose table is refused. -/
theorem unwound (h : m.Looked m') (hsafe : ∀ mo ∈ m'.history, mo.Safe) :
    Unwound m sources m' := by
  obtain ⟨trace, hhistory, hquiet, hforward, hreleases⟩ := h.idle hsafe
  refine .of_swept hhistory ?_ (.of_quiet hforward hquiet) ?_ ?_ ?_
  · obtain ⟨_, _, _, _, _, rfl⟩ := h.rest
    rfl
  · rw [hreleases]
    exact .nothing
  · simp [hreleases]
  · rw [hreleases]
    exact .refl

variable {m₁ : Machine κ ω}

theorem unwind (h : m.Looked m₁) (hsafe : ∀ mo ∈ m₁.history, mo.Safe) {q : LaunchRequest}
    (hm : Unwound m₁.numbering (m₁.numbering.copiedIn q.table.entries) m') :
    Unwound m (m.copiedIn q.table.entries) m' := by
  obtain ⟨trace, hhistory, hquiet, hforward, hreleases⟩ := h.idle hsafe
  obtain ⟨setup, teardown, hhistory', hstaged, hlayered, hcalls, hclean, hfresh⟩ := hm.trace
  have hall : (trace ++ setup).filterMap Moment.release? = setup.filterMap Moment.release? := by
    rw [List.filterMap_append, hreleases, List.nil_append]
  rw [h.copiedIn] at hstaged
  refine ⟨⟨trace ++ setup, teardown, ?_, hstaged.after hquiet hforward hreleases, ?_, ?_, hclean,
    fun id hid => ?_⟩, fun r => ?_, fun r hr => ?_⟩
  · rw [hhistory', show m₁.numbering.history = m₁.history from rfl, hhistory]
    simp [List.append_assoc]
  · rw [hall]
    exact hlayered
  · rw [hall]
    exact hcalls
  · rw [hall] at hid
    exact Nat.le_trans h.grown (hfresh id hid)
  · rw [hm.inFlight, h.status]
  · exact hm.mapped r (h.status r ▸ hr)

theorem launched (h : m.Looked m₁) (hsafe : ∀ mo ∈ m₁.history, mo.Safe) {q : LaunchRequest}
    {e : Execution} (hm : Launched m₁.numbering q e a setup m') :
    ∃ setup', Launched m q e a setup' m' := by
  obtain ⟨trace, hhistory, hquiet, hforward, hreleases⟩ := h.idle hsafe
  have hstaged := hm.staged
  rw [h.copiedIn] at hstaged
  refine ⟨trace ++ setup, { hm with
    history := ?_, staged := hstaged.after hquiet hforward hreleases, copied := ?_, ran := ?_
    releases := ?_, copies := ?_, made := ?_, unmapped := fun u hu => ?_ }⟩
  · rw [hm.history, show m₁.numbering.history = m₁.history from rfl, hhistory]
    simp [List.append_assoc]
  · rw [List.filterMap_append, filterMap_copied?_of_ne hquiet]
    exact hm.copied
  · obtain ⟨run, hlast, hrest⟩ := hm.ran
    refine ⟨run, ?_, hrest⟩
    rw [List.getLast?_append, hlast]
    rfl
  · rw [List.filterMap_append, hreleases]
    exact hm.releases
  · rw [hm.copies, h.plan?]
  · rw [List.filterMap_append, hreleases]
    exact hm.made
  · rw [← h.status]
    exact hm.unmapped u hu

end Machine.Looked

theorem Launch.launch_logs [Reentry κ ω] [Keeper ω] {allowed : κ → Prop} {g : Holdings}
    (h : InOrder allowed g m) (hooks : m.platform.hooks = []) {image : Image}
    {q : LaunchRequest} :
    (launch image q).Leads m (fun e m' => ∃ a setup, Launched m q e a setup m')
      (fun _ => Unwound m (m.copiedIn q.table.entries)) fun _ => True := by
  refine leads_launch (((Devices.check_stands (Machine.looked_blind hooks).aside m .refl).and
    (Devices.check_keeps courteous_nobody g m (h.of_no_hooks hooks))).mono (fun _ _ h => h)
    (fun _ m₁ ⟨hlooked, h₁⟩ => hlooked.unwound h₁.safe) fun _ _ => trivial)
    (fun _ _ ⟨hlooked, h₁⟩ _ => hlooked.unwound h₁.safe) fun m₁ ⟨hlooked, h₁⟩ _ => ?_
  have hooks₁ : m₁.numbering.Unhooked Operation.ofLaunch := by
    obtain ⟨_, _, _, _, _, rfl⟩ := hlooked.rest
    exact .of_nil hooks
  -- Nothing is known yet of an execution with the next number.
  have hunseen : m₁.progress.get? (m₁.platform.serial, ⟨m₁.platform.nextExecution⟩) = none := by
    rw [Option.eq_none_iff_forall_ne_some]
    intro p hp
    exact Nat.lt_irrefl _ (h₁.progressed _ p hp).2
  refine (@begin_logs κ ω m₁.numbering _ h₁.numbered hooks₁ ⟨m₁.platform.nextExecution⟩ image q
    hunseen).mono (fun e m' ⟨a, setup, hm'⟩ _ => ?_)
    (fun _ m' hm' _ => hlooked.unwind h₁.safe hm'.journal) fun _ hm _ => hm
  exact ⟨a, hlooked.launched h₁.safe hm'.journal⟩

end StreamCompute
