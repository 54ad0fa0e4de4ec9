/-
  StreamCompute.Proofs.TakeDown

  What an execution leaves when it is taken down without a failure. `goal` is
  what every resource is to hold in the end. While results are copied back and
  resources of the launch are freed, the resources that are still left to deal
  with get fewer, and all others hold what they are to hold already.

  Every loop of the take-down goes on after a failure, but then its answer is
  an error; so it is enough to follow the steps as long as none has failed.
-/
import StreamCompute.Proofs.KernelRun

namespace StreamCompute

open Fallible

variable {κ ω : Type}

/-- All resources but those that are left hold what they are to hold, and the given kernels
    have run. -/
structure Settling (goal : Ident .resource → Option Bytes) (runs : List Moment)
    (left : Ident .resource → Prop) (m : Machine κ ω) : Prop where
  hooks : m.Unhooked Operation.ofLaunch
  runs : m.history.filter Moment.isRun = runs
  held : ∀ id, ¬ left id → m.platform.driver.held? id = goal id

variable {goal : Ident .resource → Option Bytes} {runs : List Moment}
  {left left' : Ident .resource → Prop} {m m' : Machine κ ω}

namespace Settling

theorem journal (h : Settling goal runs left m) {journal : List Event} :
    Settling goal runs left { m with journal } :=
  ⟨h.hooks, h.runs, h.held⟩

theorem onStatus (h : Settling goal runs left m) {r : Remote} {f : RemoteStatus → RemoteStatus} :
    Settling goal runs left (m.onStatus r f) :=
  ⟨h.hooks, h.runs, h.held⟩

theorem handled (h : Settling goal runs left m) {op : Operation} {verdict : Verdict}
    {s : Simulator} (hrun : op ≠ .runProgram)
    (hheld : ∀ id, ¬ left' id → s.held? id = goal id) :
    Settling goal runs left' (m.handled op verdict s) :=
  ⟨h.hooks, (Machine.runs_handled (Or.inl hrun)).trans h.runs, hheld⟩

theorem foldl_unclaimed (h : Settling goal runs left m) (claims : List Remote) :
    Settling goal runs left (claims.foldl (fun m r => Memory.unclaimed r m) m) := by
  induction claims generalizing m with
  | nil => exact h
  | cons r rest ih => exact ih h.onStatus

end Settling

/-! ## Copying back -/

/-- The registers that are left can be copied back: what the resource in device memory holds
    is what the remote one is to hold, and is as long as what it holds now. -/
structure Returning (goal : Ident .resource → Option Bytes) (runs : List Moment) (a : Arena)
    (context : Ident .context) (rest : List CopyRecord) (m : Machine κ ω) : Prop where
  settling : Settling goal runs (fun id => a.made id = true ∨ ∃ c ∈ rest, c.remote.id = id) m
  sources : ∀ c ∈ rest, ∃ src,
    m.platform.driver.memories.get? c.transientMemory = some (context, src) ∧
      a.made src = true ∧ m.platform.driver.held? src = goal c.remote.id
  targets : ∀ c ∈ rest,
    m.platform.driver.memories.get? c.remoteMemory = some (context, c.remote.id) ∧
      a.made c.remote.id = false
  lengths : ∀ c ∈ rest, (m.platform.driver.held? c.remote.id).map List.length =
    (goal c.remote.id).map List.length
  transients : ∀ t ∈ a.transients, goal t.2 = none

variable {a : Arena} {context : Ident .context} {c : CopyRecord} {rest : List CopyRecord}

namespace Returning

theorem journal (h : Returning goal runs a context rest m) {journal : List Event} :
    Returning goal runs a context rest { m with journal } :=
  { h with settling := h.settling.journal }

theorem steady (h : Returning goal runs a context rest m) (hsteady : m.Steady m')
    (hresources : m'.platform.driver.resources = m.platform.driver.resources) :
    Returning goal runs a context rest m' := by
  have hheld : ∀ id, m'.platform.driver.held? id = m.platform.driver.held? id := fun id => by
    rw [Simulator.held?, Simulator.bytes?, hresources]
    rfl
  exact {
    settling := {
      hooks := hsteady.unhooked h.settling.hooks
      runs := hsteady.runs.trans h.settling.runs
      held := fun id hid => (hheld id).trans (h.settling.held id hid) }
    sources := fun c hc => by
      rw [hsteady.memories]
      simpa only [hheld] using h.sources c hc
    targets := fun c hc => by
      rw [hsteady.memories]
      exact h.targets c hc
    lengths := fun c hc => by
      rw [hheld]
      exact h.lengths c hc
    transients := h.transients }

theorem copied (h : Returning goal runs a context (c :: rest) m)
    (hcopied : m.Copied context c.transientMemory c.remoteMemory m') :
    Returning goal runs a context rest m' := by
  obtain ⟨src, hsrc, -, hsource⟩ := h.sources c List.mem_cons_self
  obtain ⟨htarget, hunmade⟩ := h.targets c List.mem_cons_self
  obtain ⟨old, new, hold, hnew, hcontents⟩ := hcopied.bytes src c.remote.id hsrc htarget
  have hgoal : goal c.remote.id = some new := hsource.symm.trans hnew
  -- The lengths agree, so the bytes of the source replace those of the target.
  have hlength := h.lengths c List.mem_cons_self
  rw [hold, hgoal, Option.map_some, Option.map_some, Option.some.injEq] at hlength
  rw [Bytes.overwrite_of_length_eq hlength.symm, ← hgoal] at hcontents
  have hrest := fun c' (hc' : c' ∈ rest) => List.mem_cons_of_mem c hc'
  exact {
    settling := {
      hooks := hcopied.steady.unhooked h.settling.hooks
      runs := hcopied.steady.runs.trans h.settling.runs
      held := fun id hid => by
        rw [hcontents]
        split
        · rename_i heq
          rw [heq]
        · rename_i hne
          refine h.settling.held id fun hleft => hid (hleft.imp_right ?_)
          rintro ⟨c', hc', heq⟩
          rcases List.mem_cons.mp hc' with rfl | hc'
          · exact absurd heq hne
          · exact ⟨c', hc', heq⟩ }
    sources := fun c' hc' => by
      obtain ⟨src', hsrc', hmade', hsource'⟩ := h.sources c' (hrest c' hc')
      -- Sources were made for the launch, targets were not.
      have hne : c.remote.id ≠ src' := by
        rintro rfl
        cases hunmade.symm.trans hmade'
      refine ⟨src', hcopied.steady.memories ▸ hsrc', hmade', ?_⟩
      rw [hcontents, if_neg hne, hsource']
    targets := fun c' hc' => by
      rw [hcopied.steady.memories]
      exact h.targets c' (hrest c' hc')
    lengths := fun c' hc' => by
      rw [hcontents]
      split
      · rename_i heq
        rw [heq]
      · exact h.lengths c' (hrest c' hc')
    transients := h.transients }

/-- Once everything is copied back, calls that leave the resources alone change nothing. -/
theorem handled (h : Returning goal runs a context [] m) {op : Operation} {verdict : Verdict}
    {s : Simulator} (hrun : op ≠ .runProgram)
    (hresources : s.resources = m.platform.driver.resources) :
    Returning goal runs a context [] (m.handled op verdict s) where
  settling := h.settling.handled hrun fun id hid => by
    rw [Simulator.held?, Simulator.bytes?, hresources]
    exact h.settling.held id hid
  sources := nofun
  targets := nofun
  lengths := nofun
  transients := h.transients

end Returning

/-! ## The steps -/

namespace Execution

variable {e : Execution}

variable [Reentry κ ω]

theorem copyOut_returns (h : Returning goal runs a e.context (c :: rest) m) :
    (copyOut e c).Leads m (fun _ => Returning goal runs a e.context rest) (fun _ _ => True)
      fun _ => True := by
  unfold copyOut
  rw [leads_bind, leads_mapError]
  exact (Completion.copy_copied h.settling.hooks).imp fun _ _ hm => (h.copied hm).journal

/-- Freeing a resource of the launch, which nothing is to hold anything in. -/
theorem freeResource_settles {t : String × Ident .resource}
    {rest : List (String × Ident .resource)} (hnone : goal t.2 = none)
    (h : Settling goal runs (fun id => ∃ u ∈ t :: rest, u.2 = id) m) {wrap : DriverError → Error} :
    (Machine.driveAs wrap (Simulator.freeResource t.2)).Leads m
      (fun _ => Settling goal runs fun id => ∃ u ∈ rest, u.2 = id) (fun _ _ => True)
      fun _ => True := by
  rw [Machine.leads_driveAs, Machine.leads_drive h.hooks rfl]
  refine Simulator.freeResource_leads (fun _ => trivial) fun res hres => ?_
  refine h.handled nofun fun id hid => ?_
  rw [Simulator.held?, Simulator.bytes?, Assoc.get?_erase]
  split
  · rename_i heq
    rw [← heq, hnone]
    rfl
  · rename_i hne
    refine h.held id ?_
    rintro ⟨u, hu, heq⟩
    rcases List.mem_cons.mp hu with rfl | hu
    · exact hne heq
    · exact hid ⟨u, hu, heq⟩

theorem remap_settles (h : Settling goal runs left m) {register : String} {r : Remote} :
    (remap register r).Leads m (fun _ => Settling goal runs left) (fun _ _ => True)
      fun _ => True := by
  have hdrive : (Machine.drive (Simulator.mapResource r.id)).Leads m
      (fun _ => Settling goal runs left) (fun _ _ => True) fun _ => True := by
    rw [Machine.leads_drive h.hooks rfl]
    refine Simulator.mapResource_leads (fun _ => trivial) fun res moves notices hres _ _ => ?_
    refine h.handled nofun fun id hid => ?_
    rw [Simulator.held?_of_map hres rfl]
    exact h.held id hid
  have hrestore : (Memory.restore r).Leads m (fun _ => Settling goal runs left) (fun _ _ => True)
      fun _ => True := by
    unfold Memory.restore
    rw [leads_bind, leads_get]
    split
    · exact h
    · rw [leads_bind]
      refine hdrive.imp fun view m' hm' => ?_
      rw [leads_bind, leads_get]
      dsimp only
      split
      · exact hm'.journal.onStatus
      · exact hm'.onStatus
  unfold remap
  rw [leads_bind, leads_mapError]
  exact hrestore.imp fun _ _ hm => hm.journal

/-! ## Taking down and joining -/

/-- The kernel has run, and its results wait to be copied back. -/
def Ran (goal : Ident .resource → Option Bytes) (runs : List Moment) (e : Execution)
    (m : Machine κ ω) : Prop :=
  Returning goal runs (e.arena m) e.context
    ((e.arena m).copies.filter (·.direction.copiesOut)) m

omit [Reentry κ ω] in
theorem Ran.steady (h : Ran goal runs e m) (hsteady : m.Steady m')
    (hresources : m'.platform.driver.resources = m.platform.driver.resources) :
    Ran goal runs e m' := by
  have harena : e.arena m' = e.arena m := by rw [arena, arena, hsteady.arenas]
  unfold Ran
  rw [harena]
  exact Returning.steady h hsteady hresources

omit [Reentry κ ω] in
/-- What is true at a stage, as long as no step has failed. -/
def Stage.Settles (goal : Ident .resource → Option Bytes) (runs : List Moment) (e : Execution)
    (a : Arena) : Stage → Machine κ ω → Prop
  | copying left => Returning goal runs a e.context left
  | freeing left => fun m => (∀ t ∈ left, goal t.2 = none) ∧
    Settling goal runs (fun id => ∃ t ∈ left, t.2 = id) m
  | remapping _ => Settling goal runs fun _ => False
  | closed => Settling goal runs fun _ => False
  | _ => Returning goal runs a e.context []

theorem takesDown_settles : TakesDown e a
    (fun stage first (m : Machine κ ω) => first = none → stage.Settles goal runs e a m)
    fun _ => True := by
  -- Once a step has failed, nothing is said any more.
  have hnone {α : Type} {stage next : Stage} {step : Task κ ω α}
      (hstep : ∀ m, stage.Settles goal runs e a m →
        step.Leads m (fun _ => next.Settles goal runs e a) (fun _ _ => True) fun _ => True) :
      Carries (fun first m => first = none → stage.Settles goal runs e a m)
        (fun first m => first = none → next.Settles goal runs e a m) (fun _ => True) step :=
    fun first m h => (leads_imp fun hfirst => hstep m (h hfirst)).mono (fun _ _ hm => hm)
      (fun _ _ _ => by cases first <;> nofun) fun _ hm => hm
  have hcall {α : Type} {c : Command α} {wrap : DriverError → Error} {m : Machine κ ω}
      (hm : Returning goal runs a e.context [] m) (hop : c.operation.ofLaunch = true)
      (hc : c.run.Leads m.platform.driver (fun _ s => Returning goal runs a e.context []
        (m.handled c.operation .accepted s)) (fun _ _ => True) fun _ => True) :
      (Machine.driveAs wrap c).Leads m (fun _ => Returning goal runs a e.context [])
        (fun _ _ => True) fun _ => True := by
    rw [Machine.leads_driveAs, Machine.leads_drive hm.settling.hooks hop]
    exact hc
  refine ⟨fun stage _ _ _ h hfirst => ?_, fun _ _ h => h, fun _ _ _ => hnone fun _ => copyOut_returns,
    fun _ _ h => h, fun _ _ => hnone fun m hm => ?_, fun _ _ h => h, hnone fun m hm => ?_,
    fun first m h => ?_, fun t ht left => hnone fun m hm => ?_, fun _ _ h hfirst => ?_,
    fun _ _ _ => hnone fun _ h => remap_settles h, fun _ _ h hfirst => ?_⟩
  · cases stage with
    | copying | releasing | unloading | destroying => exact (h hfirst).journal
    | freeing => exact (h hfirst).imp_right fun h => h.journal
    | remapping | closed => exact Settling.journal (h hfirst)
  · exact hcall hm rfl
      (Simulator.releaseMemory_leads (fun _ => trivial) fun _ _ => hm.handled nofun rfl)
  · exact hcall hm rfl (Simulator.unloadModule_leads (fun _ => trivial) (hm.handled nofun rfl))
  · refine (leads_imp fun hfirst => hcall (h hfirst) rfl
      (Simulator.destroyContext_leads (fun _ => trivial) ((h hfirst).handled nofun rfl))).mono
      (fun _ m' hm' hfirst => ?_) (fun _ _ _ => by cases first <;> nofun) fun _ hm => hm
    obtain ⟨hooks, hruns, hheld⟩ := (hm' hfirst).settling
    exact ⟨(hm' hfirst).transients, hooks, hruns, fun id hid => hheld id fun hleft => hid <| by
      simpa [Arena.made] using hleft⟩
  · obtain ⟨hgone, hm⟩ := hm
    exact (freeResource_settles (hgone t List.mem_cons_self) hm).imp
      fun _ _ hm => ⟨fun u hu => hgone u (List.mem_cons_of_mem t hu), hm⟩
  · obtain ⟨hooks, hruns, hheld⟩ := (h hfirst).2
    exact ⟨hooks, hruns, fun id _ => hheld id (by simp)⟩
  · obtain ⟨hooks, hruns, hheld⟩ := (h hfirst).foldl_unclaimed a.claims
    exact ⟨hooks, hruns, hheld⟩

/-- If an execution can be taken down, every resource holds what it is to hold. -/
theorem finalize_settles {failure : Option Error} (h : failure = none → Ran goal runs e m) :
    (finalize e failure).Leads m (fun _ => Settling goal runs fun _ => False) (fun _ _ => True)
      fun _ => True := by
  have htakes : TakesDown e (e.arena m) (fun stage first (m' : Machine κ ω) =>
      first = none → stage.Settles goal runs e (e.arena m) m') fun _ => True := takesDown_settles
  refine (htakes.finalize rfl fun hnone => ?_).mono (fun _ _ hm => hm.1 rfl)
    (fun _ _ _ => trivial) fun _ hm => hm
  subst hnone
  exact h rfl

theorem await_ran (h : Ran goal runs e m) {limit : Option Nat} :
    (await e limit).Leads m (fun _ => Ran goal runs e) (fun _ _ => True) fun _ => True := by
  unfold await
  rw [leads_mk, Act.leads_onCutOff, leads_run, leads_timed]
  exact (Completion.wait_steady h.settling.hooks).mono
    (fun _ _ hm' => (h.steady hm'.1 hm'.2).journal) (fun _ _ _ => trivial) fun _ _ => trivial

theorem joinWithin_settles (h : Ran goal runs e m) {limit : Option Nat} :
    (joinWithin e limit).Leads m
      (fun summary m' => summary ≠ none → Settling goal runs (fun _ => False) m')
      (fun _ _ => True) fun _ => True := by
  refine leads_joinWithin (fun _ => (finalize_settles fun _ => h).imp fun _ _ hm _ => hm)
    (await_ran h) (fun polls m' hm' => ?_) (fun _ _ _ _ hsome => absurd rfl hsome)
    fun _ _ _ _ => ?_
  · refine (finalize_settles fun _ => ?_).imp fun _ _ hm _ => hm
    exact { hm' with settling := ⟨hm'.settling.hooks, hm'.settling.runs, hm'.settling.held⟩ }
  · refine (finalize_settles fun hnone => ?_).imp fun _ _ hm _ => hm
    cases hnone

theorem join_settles (h : Ran goal runs e m) :
    (join e).Leads m (fun _ => Settling goal runs fun _ => False) (fun _ _ => True)
      fun _ => True := by
  unfold join
  refine .bind (joinWithin_settles h) fun summary m' hm' => ?_
  cases summary with
  | some s => exact hm' nofun
  | none => trivial

end Execution

end StreamCompute
