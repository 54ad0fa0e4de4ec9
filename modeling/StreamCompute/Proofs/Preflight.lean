/-
  StreamCompute.Proofs.Preflight

  What is checked before a launch acquires anything is exactly what could turn
  the launch down later without the driver's doing. A `Flaw` of a request is
  said without the checks: a device of an earlier discovery, a scratch shape
  beyond the limits, a remote resource that is freed, in flight, or bound
  twice. Both halves of the exactness are read off the table by induction over
  its entries; that nothing of the kind happens afterwards is what
  `Launch.begin_makes` says of the claims, together with the names under which
  the driver refuses an allocation.
-/
import StreamCompute.Proofs.Abiding
import StreamCompute.Proofs.AllOrNothing
import StreamCompute.Proofs.DeviceErrors
import StreamCompute.Proofs.FailureReports

namespace StreamCompute

open Fallible

/-! ## Errors -/

namespace Error

/-- The errors of the checks before a launch. -/
def turnsDown : Error → Bool
  | invalidDevice .. => true
  | resourceFreed _ => true
  | resourceBusy _ => true
  | allocation cause => cause.operation == "validate_shape"
  | _ => false

/-- A step that asks the driver has failed. An allocation names the entry point that refused it. -/
def FromDriver : Error → Prop
  | execution _ => True
  | binding .. => True
  | allocation cause => ∃ op : Operation, cause.operation = op.name
  | _ => False

/-- No entry point has the name under which shapes are refused. -/
theorem FromDriver.not_turnsDown {err : Error} (h : err.FromDriver) : err.turnsDown = false := by
  cases err with
  | execution | binding => rfl
  | allocation cause =>
    obtain ⟨op, hop⟩ := h
    have hname : op.name ≠ "validate_shape" := by
      cases op <;> decide
    simpa [turnsDown, hop] using hname
  | _ => exact h.elim

end Error

/-! ## Flaws of a request -/

/-- A reason to turn a launch down, given the devices that are known and the statuses of the
    remote resources, with the error that it is worth. -/
inductive LaunchRequest.Flaw (found : List Device) (status : Remote → RemoteStatus)
    (q : LaunchRequest) : Error → Prop
  | stale (h : ∀ c, found[q.device.index]? = some c →
      ¬ (c.generation = q.device.generation ∧ c.id = q.device.id)) :
      Flaw found status q (.invalidDevice q.device.index found.length)
  | shape {register detail : String} {shape : Shape} {format : Format}
      (hentry : (register, .scratch shape format) ∈ q.table.entries)
      (h : shape.refusal? q.device.info = some detail) :
      Flaw found status q (.invalidShape s!"register '{register}': {detail}")
  | freed {e : String × Binding} {r : Remote} (hentry : e ∈ q.table.entries)
      (hr : e.2.remote? = some r) (h : (status r).freed = true) :
      Flaw found status q (.resourceFreed r.id)
  | inFlight {e : String × Binding} {r : Remote} (hentry : e ∈ q.table.entries)
      (hr : e.2.remote? = some r) (h : (status r).inFlight = true) :
      Flaw found status q (.resourceBusy r.id)
  | shared {e e' : String × Binding} {r : Remote} (hentry : e ∈ q.table.entries)
      (hentry' : e' ∈ q.table.entries) (hne : e.1 ≠ e'.1) (hr : e.2.remote? = some r)
      (hr' : e'.2.remote? = some r) : Flaw found status q (.resourceBusy r.id)

variable {found : List Device} {status : Remote → RemoteStatus} {q : LaunchRequest} {err : Error}

theorem LaunchRequest.Flaw.turnsDown (h : q.Flaw found status err) : err.turnsDown = true := by
  cases h <;> rfl

/-! ## The check of a table -/

namespace BindingTable

/-- What the check of some entries complains about. The remote resources that it has met before
    are those of the entries before them. -/
theorem flaw_of_refusal? {entries : List (String × Binding)} {seen : List Remote}
    (hsub : entries ⊆ q.table.entries) (hnodup : (entries.map Prod.fst).Nodup)
    (hseen : ∀ r ∈ seen, ∃ e ∈ q.table.entries, e.1 ∉ entries.map Prod.fst ∧ e.2.remote? = some r)
    (h : refusal? q.device.info status entries seen = some err) : q.Flaw found status err := by
  induction entries generalizing seen with
  | nil => cases h
  | cons e rest ih =>
    obtain ⟨register, binding⟩ := e
    obtain ⟨hentry, hsub'⟩ := List.cons_subset.mp hsub
    obtain ⟨hnew, hnodup'⟩ := List.nodup_cons.mp hnodup
    -- An entry before this one is an entry before the rest.
    have hseen' : ∀ r ∈ seen, ∃ e ∈ q.table.entries,
        e.1 ∉ rest.map Prod.fst ∧ e.2.remote? = some r := by
      intro r hr
      obtain ⟨e, he, hname, hremote⟩ := hseen r hr
      exact ⟨e, he, fun hin => hname (List.mem_cons_of_mem _ hin), hremote⟩
    unfold refusal? at h
    split at h
    · rename_i hscratch
      cases h
      cases binding with
      | direct r => cases hscratch
      | copied r asked => cases hscratch
      | scratch shape format =>
        obtain ⟨detail, hdetail, rfl⟩ := Option.map_eq_some_iff.mp hscratch
        exact .shape hentry hdetail
    · split at h
      · exact ih hsub' hnodup' hseen' h
      · rename_i r hr
        split at h
        · rename_i hfreed
          cases h
          exact .freed hentry hr hfreed
        · split at h
          · rename_i hbusy
            cases h
            rcases Bool.or_eq_true _ _ ▸ hbusy with hflight | hmet
            · exact .inFlight hentry hr hflight
            · obtain ⟨e, he, hname, hremote⟩ := hseen r (List.contains_iff_mem.mp hmet)
              have hne : e.1 ≠ register := fun heq => hname (heq ▸ List.mem_cons_self)
              exact .shared he hentry hne hremote hr
          · refine ih hsub' hnodup' ?_ h
            intro r' hr'
            rcases List.mem_append.mp hr' with hr' | hr'
            · exact hseen' r' hr'
            · rw [List.mem_singleton.mp hr']
              exact ⟨(register, binding), hentry, hnew, hr⟩

/-- Two registers of a table that is not refused have different remote resources. -/
theorem remote?_ne_of_nodup {entries : List (String × Binding)}
    (hnodup : (entries.filterMap (·.2.remote?)).Nodup) {e e' : String × Binding}
    (he : e ∈ entries) (he' : e' ∈ entries) (hne : e.1 ≠ e'.1) {r : Remote}
    (hr : e.2.remote? = some r) : e'.2.remote? ≠ some r := by
  intro hr'
  have hpairs := List.pairwise_filterMap.mp hnodup
  have hsymm : Std.Symm fun e e' : String × Binding =>
      ∀ b, e.2.remote? = some b → ∀ b', e'.2.remote? = some b' → b ≠ b' :=
    ⟨fun _ _ h b hb b' hb' heq => h b' hb' b hb heq.symm⟩
  have happart := hpairs.forall he he' fun heq => hne (congrArg Prod.fst heq)
  exact happart r hr r hr' rfl

end BindingTable

/-- A device is current if the list has it at its index, with the same number of discovery. -/
theorem Devices.isCurrent_iff {d : Device} :
    isCurrent found d = true ↔
      ∃ c, found[d.index]? = some c ∧ c.generation = d.generation ∧ c.id = d.id := by
  unfold isCurrent
  cases found[d.index]? <;> simp

namespace LaunchRequest

/-- A device that does not pass the check is a flaw. -/
theorem flaw_of_stale (hstale : ¬ Devices.isCurrent found q.device = true) :
    q.Flaw found status (.invalidDevice q.device.index found.length) :=
  .stale fun c hc hsame => hstale (Devices.isCurrent_iff.mpr ⟨c, hc, hsame⟩)

/-- A table that does not pass the check has a flaw. -/
theorem flaw_of_refused
    (h : BindingTable.refusal? q.device.info status q.table.entries [] = some err) :
    q.Flaw found status err :=
  BindingTable.flaw_of_refusal? (List.Subset.refl _) q.table.distinct (List.forall_mem_nil _) h

theorem not_flaw (hcurrent : Devices.isCurrent found q.device = true)
    (hnone : BindingTable.refusal? q.device.info status q.table.entries [] = none) (err : Error) :
    ¬ q.Flaw found status err := by
  obtain ⟨hclaimable, hnodup⟩ := BindingTable.remotes_of_refusal?_eq_none hnone
  have hunmarked : ∀ e ∈ q.table.entries, ∀ r, e.2.remote? = some r →
      (status r).freed = false ∧ (status r).inFlight = false := by
    intro e he r hr
    exact Remote.claimable_of_refusal?_eq_none
      (hclaimable r (List.mem_filterMap.mpr ⟨e, he, hr⟩)).1
  intro hflaw
  cases hflaw with
  | stale h =>
    obtain ⟨c, hc, hsame⟩ := Devices.isCurrent_iff.mp hcurrent
    exact h c hc hsame
  | shape hentry h =>
    have hscratch := Launch.scratchRefusal?_of_refusal? hnone _ hentry
    simp [BindingTable.scratchRefusal?, h] at hscratch
  | freed hentry hr h => exact Bool.noConfusion ((hunmarked _ hentry _ hr).1.symm.trans h)
  | inFlight hentry hr h => exact Bool.noConfusion ((hunmarked _ hentry _ hr).2.symm.trans h)
  | shared hentry hentry' hne hr hr' =>
    exact BindingTable.remote?_ne_of_nodup hnodup hentry hentry' hne hr hr'

end LaunchRequest

/-! ## Launching -/

section Launching

variable {κ ω : Type} [Reentry κ ω] {m : Machine κ ω} {image : Image}

/-- A known device is accepted if it is current, and nothing happens. -/
theorem Devices.leads_check_of_ready (hready : m.platform.registry = .ready found) {d : Device}
    {ok : Unit → Machine κ ω → Prop} {bad : Error → Machine κ ω → Prop} {cut : Machine κ ω → Prop} :
    (check d).Leads m ok bad cut ↔
      if isCurrent found d = true then ok () m else bad (.invalidDevice d.index found.length) m := by
  unfold check devices
  rw [leads_bind, leads_bind, leads_get, hready]
  rw [leads_pure]
  split <;> exact Iff.rfl

namespace Launch

/-- A launch that passes the checks takes a number and begins. -/
theorem leads_launch_of_passed (hready : m.platform.registry = .ready found)
    (hcurrent : Devices.isCurrent found q.device = true)
    (hnone : BindingTable.refusal? q.device.info m.status q.table.entries [] = none)
    {ok : Execution → Machine κ ω → Prop} {bad : Error → Machine κ ω → Prop}
    {cut : Machine κ ω → Prop} :
    (launch image q).Leads m ok bad cut ↔
      (Performance.timed
        [("name", .text "launch"), ("execution", .nat m.platform.nextExecution),
          ("registers", .nat q.table.size)]
        (begin ⟨m.platform.nextExecution⟩ image q)).Leads m.numbering ok bad cut := by
  rw [launch_eq_check, leads_bind, Devices.leads_check_of_ready hready, if_pos hcurrent]
  unfold checked preflight nextId
  rw [leads_bind, leads_bind, leads_get, hnone]
  exact Iff.rfl

/-- A request with a flaw is turned down for a flaw that it has, and nothing happens. -/
theorem launch_turned_down (hready : m.platform.registry = .ready found)
    (hflaw : q.Flaw found m.status err) :
    ∃ err', q.Flaw found m.status err' ∧ (launch image q).run m = (.ok (.error err'), m) := by
  have hleads : (launch image q).Leads m (fun _ _ => False)
      (fun err' m' => q.Flaw found m.status err' ∧ m' = m) fun _ => False := by
    rw [launch_eq_check, leads_bind, Devices.leads_check_of_ready hready]
    by_cases hcurrent : Devices.isCurrent found q.device = true
    · rw [if_pos hcurrent]
      unfold checked preflight
      rw [leads_bind, leads_bind, leads_get]
      split
      · rename_i err' hrefused
        exact ⟨LaunchRequest.flaw_of_refused hrefused, rfl⟩
      · rename_i hnone
        exact (LaunchRequest.not_flaw hcurrent hnone err hflaw).elim
    · rw [if_neg hcurrent]
      exact ⟨LaunchRequest.flaw_of_stale hcurrent, rfl⟩
  obtain ⟨err', m', hrun, hflaw', rfl⟩ := Fallible.run_of_leads_error hleads
  exact ⟨err', hflaw', hrun⟩

/-- Whatever stops a request without a flaw is a failure of the driver. -/
theorem launch_blames_driver [Setoid ω] (hready : m.platform.registry = .ready found)
    (hooks : ∀ hook ∈ m.platform.hooks, Aloof ω hook.2)
    (hflawless : ∀ err, ¬ q.Flaw found m.status err) :
    (launch image q).Leads m (fun _ _ => True)
      (fun err m' => err.FromDriver ∧ Blamed m none err m') fun _ => True := by
  have hcurrent : Devices.isCurrent found q.device = true := by
    by_contra hstale
    exact hflawless _ (LaunchRequest.flaw_of_stale hstale)
  have hnone : BindingTable.refusal? q.device.info m.status q.table.entries [] = none := by
    by_contra hrefused
    obtain ⟨err, herr⟩ := Option.ne_none_iff_exists'.mp hrefused
    exact hflawless err (LaunchRequest.flaw_of_refused herr)
  -- All that the table needs can be claimed, so that no claim is refused later.
  obtain ⟨hclaimable, hnodup⟩ := BindingTable.remotes_of_refusal?_eq_none hnone
  have htracked : Tracked m (q.table.entries.filterMap (·.2.remote?)) none m.numbering :=
    { Tracked.refl hooks with claimable := fun r hr => (hclaimable r hr).1 }
  have hmet : Error.MetInLaunch fun err => err.cause? ≠ none → err.FromDriver :=
    ⟨fun _ _ => trivial, fun _ _ _ => trivial, fun _ op hop _ => ⟨op, hop⟩, fun _ h => (h rfl).elim,
      fun _ h => (h rfl).elim⟩
  rw [leads_launch_of_passed hready hcurrent hnone, leads_timed]
  refine ((begin_makes hnodup htracked).and (begin_fails hmet m.numbering trivial)).mono
    (fun _ _ _ => trivial) (fun err m' hm' => ?_) fun _ _ => trivial
  obtain ⟨⟨d, hcause, htrace⟩, hkind⟩ := hm'
  have hsome : err.cause? ≠ none := by
    rw [hcause]
    nofun
  exact ⟨hkind hsome, d, hcause, { htrace with }⟩

end Launch

/-- The checks before a launch are exact. On a machine that knows its devices and where no hook
    waits, the errors of the checks are the answer exactly if the request has a flaw; then it is
    turned down for a flaw that it has and nothing at all has changed. A request without a flaw
    fails only as a driver call does: with an execution error, a binding error or an allocation
    that the driver refused, which is the first failure among the calls of the launch. -/
theorem launch_is_turned_down_iff_flawed (hready : m.platform.registry = .ready found)
    (hooks : m.platform.hooks = []) :
    ((∃ err, err.turnsDown = true ∧ ∃ m', (Launch.launch image q).run m = (.ok (.error err), m')) ↔
        ∃ err, q.Flaw found m.status err) ∧
      ((∃ err, q.Flaw found m.status err) →
        ∃ err, q.Flaw found m.status err ∧ (Launch.launch image q).run m = (.ok (.error err), m)) ∧
      ((∀ err, ¬ q.Flaw found m.status err) →
        ∀ err m', (Launch.launch image q).run m = (.ok (.error err), m') →
          err.FromDriver ∧ err.turnsDown = false ∧
          ∃ d trace, err.cause? = some d ∧ m'.history = trace.reverse ++ m.history ∧
            FirstFailure m.history trace (some d)) := by
  let : Setoid ω := ⟨Eq, eq_equivalence⟩
  have haloof : ∀ hook ∈ m.platform.hooks, Aloof ω hook.2 := by
    rw [hooks]
    exact List.forall_mem_nil _
  have hdriver : (∀ err, ¬ q.Flaw found m.status err) →
      ∀ err m', (Launch.launch image q).run m = (.ok (.error err), m') →
        err.FromDriver ∧ Blamed m none err m' := fun hflawless err m' hrun =>
    (Launch.launch_blames_driver hready haloof hflawless).of_eq_error hrun
  have hturned : (∃ err, q.Flaw found m.status err) →
      ∃ err, q.Flaw found m.status err ∧ (Launch.launch image q).run m = (.ok (.error err), m) :=
    fun ⟨_, hflaw⟩ => Launch.launch_turned_down hready hflaw
  refine ⟨⟨fun ⟨err, hdown, m', hrun⟩ => ?_, fun hflaw => ?_⟩, hturned,
    fun hflawless err m' hrun => ?_⟩
  · by_contra hflawless
    have hkind := (hdriver (not_exists.mp hflawless) err m' hrun).1.not_turnsDown
    cases hkind.symm.trans hdown
  · obtain ⟨err, hflaw', hrun⟩ := hturned hflaw
    exact ⟨err, hflaw'.turnsDown, m, hrun⟩
  · obtain ⟨hkind, d, hcause, htracked⟩ := hdriver hflawless err m' hrun
    obtain ⟨trace, hhistory, hfirst⟩ := htracked.trace
    exact ⟨hkind, hkind.not_turnsDown, d, trace, hcause, hhistory, hfirst⟩

end Launching

namespace Scenario

/-- A request that binds one remote resource to two registers. -/
def sharingRequest : LaunchRequest where
  device := ⟨0, ⟨1⟩, {}, 1⟩
  domain := ⟨0, 0, 4, 1⟩
  table := {
    entries := [("g[]", .copied ⟨0, ⟨3⟩, ⟨1⟩, ⟨3, 2⟩, ⟨.float32, .one⟩, .plain⟩ none),
      ("o0", .direct ⟨0, ⟨3⟩, ⟨1⟩, ⟨3, 2⟩, ⟨.float32, .one⟩, .plain⟩)]
    distinct := by decide }

/-- What becomes of its launch where the third lookup of a register fails. -/
def sharingLaunch : Except Abort (Except Error Execution) × RuntimeScene :=
  (@Launch.launch _ _ ⟨fun _ _ => pure ()⟩ ⟨⟨2⟩, 5⟩ sharingRequest).run
    (after 0 failingLookup (opening { relocates := true } {}))

/-- Where the third lookup of a register fails, a request that binds one remote resource twice is
    turned down and changes nothing, and a request without a flaw fails for the lookup. -/
theorem sharingRequest_is_turned_down :
    ((after 0 failingLookup (opening { relocates := true } {})).platform.registry =
        .ready [⟨0, ⟨1⟩, {}, 1⟩] ∧
      (after 0 failingLookup (opening { relocates := true } {})).platform.hooks = []) ∧
    (∃ err, sharingRequest.Flaw [⟨0, ⟨1⟩, {}, 1⟩]
        (after 0 failingLookup (opening { relocates := true } {})).status err ∧
      sharingLaunch =
        (.ok (.error err), after 0 failingLookup (opening { relocates := true } {}))) ∧
    (failedLaunch.1 = .ok (.error (.binding "x0"
        ⟨"calModuleGetName", "injected failure on call 3"⟩)) ∧
      ∃ d trace, d = ⟨"calModuleGetName", "injected failure on call 3"⟩ ∧
        failedLaunch.2.history = trace.reverse ++
          (after 0 failingLookup (opening { relocates := true } {})).history ∧
        FirstFailure (after 0 failingLookup (opening { relocates := true } {})).history trace
          (some d)) := by
  have hready : (after 0 failingLookup (opening { relocates := true } {})).platform.registry =
      .ready [⟨0, ⟨1⟩, {}, 1⟩] := by decide +kernel
  have hooks : (after 0 failingLookup (opening { relocates := true } {})).platform.hooks = [] := by
    decide +kernel
  have hshared : sharingRequest.Flaw [⟨0, ⟨1⟩, {}, 1⟩]
      (after 0 failingLookup (opening { relocates := true } {})).status (.resourceBusy ⟨3⟩) := by
    have hfirst : ("g[]", .copied ⟨0, ⟨3⟩, ⟨1⟩, ⟨3, 2⟩, ⟨.float32, .one⟩, .plain⟩ none) ∈
        sharingRequest.table.entries := List.mem_cons_self
    have hsecond : ("o0", .direct ⟨0, ⟨3⟩, ⟨1⟩, ⟨3, 2⟩, ⟨.float32, .one⟩, .plain⟩) ∈
        sharingRequest.table.entries := List.mem_cons_of_mem _ List.mem_cons_self
    exact .shared hfirst hsecond (by decide) rfl rfl
  have hflawless : ∀ err, ¬ mixedRequest.Flaw [⟨0, ⟨1⟩, {}, 1⟩]
      (after 0 failingLookup (opening { relocates := true } {})).status err :=
    LaunchRequest.not_flaw (by decide) (by decide +kernel)
  have hfailed : failedLaunch.1 = .ok (.error (.binding "x0"
      ⟨"calModuleGetName", "injected failure on call 3"⟩)) := by decide +kernel
  have hlaunch : failedLaunch = (.ok (.error (.binding "x0"
      ⟨"calModuleGetName", "injected failure on call 3"⟩)), failedLaunch.2) := by
    rw [← hfailed]
  obtain ⟨-, hdown, -⟩ := @launch_is_turned_down_iff_flawed _ sharingRequest _ _
    ⟨fun _ _ => pure ()⟩ _ ⟨⟨2⟩, 5⟩ hready hooks
  obtain ⟨-, -, hdriver⟩ := @launch_is_turned_down_iff_flawed _ mixedRequest _ _
    ⟨fun _ _ => pure ()⟩ _ ⟨⟨2⟩, 5⟩ hready hooks
  obtain ⟨-, -, d, trace, hcause, hhistory, hfirst⟩ := hdriver hflawless _ _ hlaunch
  cases hcause
  exact ⟨⟨hready, hooks⟩, hdown ⟨_, hshared⟩, hfailed, _, trace, rfl, hhistory, hfirst⟩

end Scenario

end StreamCompute
