/-
  StreamCompute.Proofs.Failures

  Which failure comes first. A driver call fails if the driver refuses it, or
  if it asks a completion token that reports an error; the latter is then a
  failure of the call that made the token. `Tracked` says what the first
  failure was since a given machine, if there was one: once there was one, it
  stays the first whatever is called after it, so that a call which cleans up
  cannot take its place.

  An act reports failures if it answers with an error exactly where a call
  fails, and its error is that failure. Hooks may wait, as long as they keep
  aloof: they look at the machine and write down what they see.
-/
import StreamCompute.Proofs.Asking

namespace StreamCompute

open Fallible

/-! ## Calls that fail -/

/-- The call made this completion token. -/
structure Moment.Makes (event : Ident .event) (mo : Moment) : Prop where
  accepted : mo.verdict = .accepted
  operation : mo.operation = .copyMemory ∨ mo.operation = .runProgram
  number : event = ⟨mo.found.nextNumber⟩

/-- One of these calls, of the given entry point, made this completion token. -/
def MadeBy (op : Operation) (event : Ident .event) (past : List Moment) : Prop :=
  ∃ maker ∈ past, maker.Makes event ∧ maker.operation = op

/-- The call has failed: it was refused, or it asked a token that reports an error. -/
inductive Moment.Failing (mo : Moment) : Prop
  | refused {d : DriverError} (h : mo.verdict = .refused d)
  | reported {context : Ident .context} {event : Ident .event} {message : String}
      (h : mo.Asked context event (.failed message))

/-- The failure of a call, given the calls before it. An error that a token reports is one of
    the call that made the token. -/
inductive Moment.FailsWith (past : List Moment) (mo : Moment) : DriverError → Prop
  | refused {d : DriverError} (h : mo.verdict = .refused d) : FailsWith past mo d
  | reported {context : Ident .context} {event : Ident .event} {message : String}
      {maker : Moment} (h : mo.Asked context event (.failed message)) (hmaker : maker ∈ past)
      (hmakes : maker.Makes event) : FailsWith past mo ⟨maker.operation.name, message⟩

section Failing

variable {mo : Moment} {past : List Moment} {d : DriverError} {context : Ident .context}
  {event : Ident .event} {status : Status} {op : Operation}

/-- A call that is not refused and asks nothing has not failed. -/
theorem Moment.not_failing (h : ∀ d, mo.verdict ≠ .refused d)
    (hop : mo.operation ≠ .queryEvent) : ¬ mo.Failing := by
  rintro (hrefused | hasked)
  · exact h _ hrefused
  · exact hop hasked.operation

/-- A token that answers anything but an error has not failed. -/
theorem Moment.Asked.not_failing (h : mo.Asked context event status)
    (hstatus : ∀ message, status ≠ .failed message) : ¬ mo.Failing := by
  rintro (hrefused | hasked)
  · cases h.accepted.symm.trans hrefused
  · have hcall := h.call.symm.trans hasked.call
    cases hcall
    exact hstatus _ (Option.some.inj (h.answer.symm.trans hasked.answer))

/-- Asking a token fails with an error of the call that made it. -/
theorem Moment.AskFailed.failsWith (h : mo.AskFailed op context event d)
    (hmade : MadeBy op event past) : mo.FailsWith past d := by
  cases h with
  | refused _ _ hverdict => exact .refused hverdict
  | failed hasked =>
    obtain ⟨maker, hmaker, hmakes, rfl⟩ := hmade
    exact .reported hasked hmaker hmakes

end Failing

/-! ## The first failure -/

/-- The first failure in a trace, given the calls before it, the newest of which comes first;
    none if no call has failed. -/
def FirstFailure (past trace : List Moment) : Option DriverError → Prop
  | none => ∀ mo ∈ trace, ¬ mo.Failing
  | some d => ∃ before mo after, trace = before ++ mo :: after ∧
      (∀ mo' ∈ before, ¬ mo'.Failing) ∧ mo.FailsWith (before.reverse ++ past) d

/-- What failed first before comes before what failed first since. -/
theorem FirstFailure.trans {past trace trace' : List Moment} {first first' : Option DriverError}
    (h : FirstFailure past trace first) (h' : FirstFailure (trace.reverse ++ past) trace' first') :
    FirstFailure past (trace ++ trace') (first.or first') := by
  cases first with
  | some d =>
    obtain ⟨before, mo, after, rfl, hbefore, hmo⟩ := h
    exact ⟨before, mo, after ++ trace', by simp, hbefore, hmo⟩
  | none =>
    cases first' with
    | none => exact List.forall_mem_append.mpr ⟨h, h'⟩
    | some d =>
      obtain ⟨before, mo, after, rfl, hbefore, hmo⟩ := h'
      refine ⟨trace ++ before, mo, after, (List.append_assoc ..).symm,
        List.forall_mem_append.mpr ⟨h, hbefore⟩, ?_⟩
      rwa [List.reverse_append, List.append_assoc]

variable {κ ω α β : Type}

/-! ## Changes that concern nobody -/

/-- The change concerns neither platforms nor the history nor what is kept on top, and claims
    nothing. -/
structure Machine.Aside (f : Machine κ ω → Machine κ ω) : Prop where
  platform : ∀ m, (f m).platform = m.platform
  parked : ∀ m, (f m).parked = m.parked
  host : ∀ m, (f m).host = m.host
  history : ∀ m, (f m).history = m.history
  claimable : ∀ m (r : Remote), r.claimRefusal? (m.status r) = none →
    r.claimRefusal? ((f m).status r) = none

namespace Machine.Aside

/-- A change of the journal, the arenas and the progress of executions. -/
theorem of_rest {f : Machine κ ω → Machine κ ω}
    (h : ∀ m, ∃ journal arenas progress, f m = { m with journal, arenas, progress }) : Aside f := by
  refine ⟨fun m => ?_, fun m => ?_, fun m => ?_, fun m => ?_, fun m r hr => ?_⟩ <;>
    obtain ⟨_, _, _, hm⟩ := h m <;> rw [hm]
  exact hr

theorem record {e : Event} : Aside (Journaled.record e : Machine κ ω → Machine κ ω) :=
  .of_rest fun _ => ⟨_, _, _, rfl⟩

theorem journal {journal : List Event} : Aside fun m : Machine κ ω => { m with journal } :=
  .of_rest fun _ => ⟨_, _, _, rfl⟩

theorem openArena {key : ExecutionKey} {context : Ident .context} :
    Aside (Machine.openArena key context : Machine κ ω → Machine κ ω) :=
  .of_rest fun _ => ⟨_, _, _, rfl⟩

theorem closeArena {key : ExecutionKey} :
    Aside (Machine.closeArena key : Machine κ ω → Machine κ ω) :=
  .of_rest fun _ => ⟨_, _, _, rfl⟩

theorem onArena {key : ExecutionKey} {f : Arena → Arena} :
    Aside (Machine.onArena key f : Machine κ ω → Machine κ ω) := by
  refine .of_rest fun m => ?_
  unfold Machine.onArena
  split <;> exact ⟨_, _, _, rfl⟩

theorem onProgress {e : Execution} {f : Progress → Progress} :
    Aside (e.onProgress f : Machine κ ω → Machine κ ω) :=
  .of_rest fun _ => ⟨_, _, _, rfl⟩

/-- A remote resource that is neither claimed nor freed stays claimable. -/
theorem onStatus {r : Remote} {f : RemoteStatus → RemoteStatus}
    (hf : ∀ s, r.claimRefusal? s = none → r.claimRefusal? (f s) = none) :
    Aside (Machine.onStatus r f : Machine κ ω → Machine κ ω) := by
  refine ⟨fun _ => rfl, fun _ => rfl, fun _ => rfl, fun _ => rfl, fun m r' h => ?_⟩
  rw [Machine.status_onStatus]
  split
  · rename_i hr
    subst hr
    exact hf _ h
  · exact h

end Machine.Aside

/-! ## Hooks that keep aloof -/

/-- The hook changes nothing but the journal and what is kept on top, which stays equivalent, and
    is never cut off. -/
def Aloof (ω : Type) [Reentry κ ω] [Setoid ω] (k : κ) : Prop :=
  ∀ op (m : Machine κ ω), (Reentry.run op k).Leads m
    (fun _ m' => ∃ journal host, host ≈ m.host ∧ m' = { m with journal, host }) fun _ => False

variable [Reentry κ ω] [Setoid ω]

/-- The second machine is the first once the hooks for an entry point have looked: driver calls
    are the same from both. -/
structure Machine.Fired (op : Operation) (m m' : Machine κ ω) : Prop where
  rest : ∃ hooks journal host, hooks ⊆ m.platform.hooks ∧ host ≈ m.host ∧
    m' = { m with platform := { m.platform with hooks }, journal, host }
  unhooked : m'.Unhooked (· == op)
  drive : ∀ {α : Type} {c : Command α} {ok err cut}, c.operation = op →
    ((drive c).Leads m ok err cut ↔ (drive c).Leads m' ok err cut)

namespace Machine.Fired

variable {op : Operation} {m m' : Machine κ ω} (h : m.Fired op m')

include h

theorem history : m'.history = m.history := by
  obtain ⟨_, _, _, _, _, rfl⟩ := h.rest
  rfl

theorem driver : m'.platform.driver = m.platform.driver := by
  obtain ⟨_, _, _, _, _, rfl⟩ := h.rest
  rfl

end Machine.Fired

theorem Machine.exists_fired {m : Machine κ ω} (h : ∀ hook ∈ m.platform.hooks, Aloof ω hook.2)
    (op : Operation) : ∃ m', m.Fired op m' := by
  have hfire : (fire op).Leads m (fun _ m' => ∃ journal host, host ≈ m.host ∧
      m' = { m with
        platform := { m.platform with hooks := m.platform.hooks.filter (·.1 != op) }
        journal, host }) fun _ => False := by
    unfold fire
    rw [Act.leads_bind, Act.leads_get, Act.leads_bind, Act.leads_modify]
    refine Act.leads_forM (fun hook hhook m₁ hm₁ => ?_) ⟨_, _, Setoid.refl _, rfl⟩
    obtain ⟨_, _, hhost, rfl⟩ := hm₁
    refine (h hook (List.mem_filter.mp hhook).1 op _).imp fun _ m₂ hm₂ => ?_
    obtain ⟨journal, host, hhost', rfl⟩ := hm₂
    exact ⟨journal, host, Setoid.trans hhost' hhost, rfl⟩
  unfold Act.Leads at hfire
  split at hfire
  · rename_i m' hfired
    have hunhooked : m'.Unhooked (· == op) := by
      obtain ⟨_, _, _, rfl⟩ := hfire
      intro hook hhook
      simpa using (List.mem_filter.mp hhook).2
    obtain ⟨journal, host, hhost, hm'⟩ := hfire
    refine ⟨m', ⟨_, journal, host, fun _ hhook => (List.mem_filter.mp hhook).1, hhost, hm'⟩,
      hunhooked, fun hop => ?_⟩
    subst hop
    unfold drive
    simp only [leads_bind, leads_perform, Act.leads_onCutOff]
    rw [leads_fire hunhooked (beq_self_eq_true _)]
    unfold Act.Leads
    rw [hfired]
  · exact hfire.elim

/-! ## Since a given machine -/

/-- Since the first machine, this was the first failure, if there was one, and these remote
    resources can be claimed. No hook has come, and those that wait keep aloof. The other platforms
    and whatever is kept on top are as before. A failed discovery that is kept was kept before,
    unless something has failed since. -/
structure Tracked (base : Machine κ ω) (spare : List Remote) (first : Option DriverError)
    (m : Machine κ ω) : Prop where
  hooks : m.platform.hooks ⊆ base.platform.hooks
  aloof : ∀ hook ∈ m.platform.hooks, Aloof ω hook.2
  parked : m.parked = base.parked
  host : m.host ≈ base.host
  registry : first = none → ∀ err, m.platform.registry = .failed err →
    base.platform.registry = .failed err
  claimable : ∀ r ∈ spare, r.claimRefusal? (m.status r) = none
  trace : ∃ trace : List Moment, m.history = trace.reverse ++ base.history ∧
    FirstFailure base.history trace first

section Tracked

variable {base m m' : Machine κ ω} {spare : List Remote} {first : Option DriverError}
  {d : DriverError} {trace : List Moment}

namespace Tracked

theorem refl (aloof : ∀ hook ∈ m.platform.hooks, Aloof ω hook.2) : Tracked m [] none m where
  hooks := List.Subset.refl _
  aloof := aloof
  parked := rfl
  host := Setoid.refl _
  registry _ _ h := h
  claimable := List.forall_mem_nil _
  trace := ⟨[], rfl, List.forall_mem_nil _⟩

variable (h : Tracked base spare first m)

include h

theorem fired {op : Operation} (hm' : m.Fired op m') : Tracked base spare first m' := by
  obtain ⟨hooks, _, _, hsub, hhost, rfl⟩ := hm'.rest
  exact ⟨fun _ hhook => h.hooks (hsub hhook), fun hook hhook => h.aloof hook (hsub hhook), h.parked,
    Setoid.trans hhost h.host, h.registry, h.claimable, h.trace⟩

theorem spareless : Tracked base [] first m :=
  { h with claimable := List.forall_mem_nil _ }

theorem aside {f : Machine κ ω → Machine κ ω}
    (hf : Machine.Aside f) : Tracked base spare first (f m) where
  hooks := hf.platform m ▸ h.hooks
  aloof := hf.platform m ▸ h.aloof
  parked := hf.parked m ▸ h.parked
  host := hf.host m ▸ h.host
  registry := hf.platform m ▸ h.registry
  claimable r hr := hf.claimable m r (h.claimable r hr)
  trace := hf.history m ▸ h.trace

/-- A change of what the platform keeps beside its driver and its hooks. -/
theorem onPlatform {f : Platform κ → Platform κ} (hhooks : (f m.platform).hooks = m.platform.hooks)
    (hregistry : first = none → ∀ err, (f m.platform).registry = .failed err →
      m.platform.registry = .failed err) : Tracked base spare first (m.onPlatform f) where
  hooks := hhooks ▸ h.hooks
  aloof := hhooks ▸ h.aloof
  parked := h.parked
  host := h.host
  registry hfirst err herr := h.registry hfirst err (hregistry hfirst err herr)
  claimable := h.claimable
  trace := h.trace

/-- What failed first among these calls comes after what failed before. -/
theorem further (hm' : m.Called trace m') {first' : Option DriverError}
    (htrace : FirstFailure m.history trace first') : Tracked base spare (first.or first') m' := by
  obtain ⟨trace', hhistory, hfirst⟩ := h.trace
  have htrace' : ∃ trace : List Moment, m'.history = trace.reverse ++ base.history ∧
      FirstFailure base.history trace (first.or first') := by
    refine ⟨trace' ++ trace, ?_, hfirst.trans (hhistory ▸ htrace)⟩
    rw [hm'.history, hhistory, List.reverse_append, List.append_assoc]
  obtain ⟨driver, journal, history, rfl⟩ := hm'.rest
  exact ⟨h.hooks, h.aloof, h.parked, h.host,
    fun hnone => h.registry (Option.or_eq_none_iff.mp hnone).1, h.claimable, htrace'⟩

theorem called (hm' : m.Called trace m')
    (htrace : ∀ mo ∈ trace, ¬ mo.Failing) : Tracked base spare first m' := by
  have hnone : FirstFailure m.history trace none := htrace
  have h' := h.further hm' hnone
  rwa [Option.or_none] at h'

/-- Calls the last of which has failed. -/
theorem fails {mo : Moment} (hm' : m.Called (trace ++ [mo]) m')
    (htrace : ∀ mo ∈ trace, ¬ mo.Failing) (hmo : mo.FailsWith (trace.reverse ++ m.history) d) :
    Tracked base spare (first.or (some d)) m' :=
  h.further hm' ⟨trace, mo, [], rfl, htrace, hmo⟩

theorem refused {op : Operation} {s : Simulator} :
    Tracked base spare (first.or (some d)) (m.handled op (.refused d) s) := by
  have hcalled : m.Called ([] ++ [m.moment op (.refused d) s]) (m.handled op (.refused d) s) :=
    .handled
  exact h.fails hcalled (List.forall_mem_nil _) (.refused rfl)

/-- A call that is not refused and asks nothing. -/
theorem handled {op : Operation} {verdict : Verdict}
    {s : Simulator} (hop : op ≠ .queryEvent) (hverdict : ∀ d, verdict ≠ .refused d) :
    Tracked base spare first (m.handled op verdict s) :=
  h.called .handled <| List.forall_mem_singleton.mpr <| Moment.not_failing hverdict hop

/-- Whatever was called before is still in the history. -/
theorem made {op : Operation} {event : Ident .event}
    (hmade : MadeBy op event base.history) : MadeBy op event m.history := by
  obtain ⟨trace, hhistory, -⟩ := h.trace
  obtain ⟨maker, hmaker, hmakes⟩ := hmade
  exact ⟨maker, hhistory ▸ List.mem_append_right _ hmaker, hmakes⟩

end Tracked

end Tracked

/-! ## Calls that are answered -/

/-- The call is never cut off, and asks no token. Only an allocation can be cut off. -/
structure Command.Plain (c : Command α) : Prop where
  operation : c.operation ≠ .queryEvent
  answered : ∀ s, c.run.Leads s (fun _ _ => True) (fun _ _ => True) fun _ => False

theorem Command.plain {c : Command α} [c.Requested] (hop : decide (c.operation = .queryEvent) = false)
    (hasks : c.request.asks? = none) : c.Plain :=
  ⟨of_decide_eq_false hop, fun s => (c.leads_request s).mono (fun _ _ _ => trivial)
    (fun _ _ _ => trivial)
    fun _ h => by simpa [hasks] using h.2⟩

/-! ## Acts that report failures -/

/-- A failed call is behind the error. -/
def Blamed (base : Machine κ ω) (first : Option DriverError) (err : Error) (m : Machine κ ω) :
    Prop :=
  ∃ d, err.cause? = some d ∧ Tracked base [] (first.or (some d)) m

/-- No call has failed; the error names no entry point of the driver, or it is the failure of an
    earlier discovery. -/
def Excused (base : Machine κ ω) (err : Error) (m : Machine κ ω) : Prop :=
  Tracked base [] none m ∧
    ((∀ op : Operation, err.operation? ≠ some op.name) ∨ base.platform.registry = .failed err)

/-- The driver operation fails exactly if a call does, with the failure of that call. If it is
    cut off, `K` holds. -/
abbrev Fallible.Reports (base : Machine κ ω) (spare : List Remote) (first : Option DriverError)
    (K : Machine κ ω → Prop) (act : Fallible DriverError (Machine κ ω) α) : Prop :=
  act.Upholds (Tracked base spare first) (fun d => Tracked base spare (first.or (some d))) K

/-- The operation fails exactly if a call does, and names its failure. -/
abbrev Fallible.Blames (base : Machine κ ω) (spare : List Remote) (first : Option DriverError)
    (K : Machine κ ω → Prop) (act : Fallible Error (Machine κ ω) α) : Prop :=
  act.Upholds (Tracked base spare first) (Blamed base first) K

/-- The operation fails if a call does, and names its failure; otherwise it names no failure, or
    that of an earlier discovery. -/
abbrev Fallible.Honest (base : Machine κ ω) (K : Machine κ ω → Prop)
    (act : Fallible Error (Machine κ ω) α) : Prop :=
  act.Upholds (Tracked base [] none) (fun err m => Blamed base none err m ∨ Excused base err m) K

/-- After a failure, the act does not answer for the failures of its own calls. -/
abbrev Act.Tidies (base : Machine κ ω) (K : Machine κ ω → Prop) (act : Act (Machine κ ω) α) :
    Prop :=
  ∀ d, act.Upholds (Tracked base [] (some d)) K

section Reporting

variable {base m : Machine κ ω} {spare : List Remote} {first : Option DriverError}
  {d : DriverError} {K : Machine κ ω → Prop}

theorem Fallible.Blames.honest {act : Fallible Error (Machine κ ω) α}
    (h : act.Blames base [] none K) : act.Honest base K :=
  h.mono (fun _ _ hm => Or.inl hm) fun _ hm => hm

/-- The failure of a driver operation is behind the error that it becomes. -/
theorem Fallible.Reports.blames {act : Fallible DriverError (Machine κ ω) α}
    (h : act.Reports base spare first K) {wrap : DriverError → Error}
    (hwrap : ∀ d, (wrap d).cause? = some d) : (act.mapError wrap).Blames base spare first K :=
  .mapError (h.mono (fun d _ hm => ⟨d, hwrap d, hm.spareless⟩) fun _ hm => hm)

/-- Once something has failed, nothing else comes first. -/
theorem Fallible.Reports.tidies {act : Fallible DriverError (Machine κ ω) α}
    (h : ∀ d, act.Reports base [] (some d) K) : act.attempt.Tidies base K :=
  fun d => .attempt (h d)

/-- Writing to the journal concerns nobody. -/
theorem Tracked.log {ε : Type} {B : ε → Machine κ ω → Prop} {e : Event} :
    (StreamCompute.log e : Fallible ε (Machine κ ω) Unit).Upholds (Tracked base spare first) B K :=
  fun _ h => h.aside .record

theorem Tracked.change {ε : Type} {B : ε → Machine κ ω → Prop}
    {f : Machine κ ω → Machine κ ω} (hf : Machine.Aside f) :
    (modify f : Fallible ε (Machine κ ω) PUnit).Upholds (Tracked base spare first) B K :=
  .change fun _ h => h.aside hf

/-- The time that an act takes concerns nobody. -/
theorem Fallible.Blames.timed {act : Fallible Error (Machine κ ω) α} {fields : Fields}
    (h : act.Blames base spare first fun _ => False) :
    (Performance.timed fields act).Blames base spare first K :=
  fun m hm => leads_timed.mpr <| (h m hm).mono (fun _ _ hm => hm.aside .record)
    (fun _ _ ⟨d, hcause, hm⟩ => ⟨d, hcause, hm.aside .record⟩) fun _ hm => hm.elim

theorem Machine.drive_reports {c : Command α} (hc : c.Plain) :
    (drive c).Reports base spare first K := by
  intro m h
  obtain ⟨m₁, hm₁⟩ := exists_fired h.aloof c.operation
  have h₁ := h.fired hm₁
  rw [hm₁.drive rfl, leads_drive hm₁.unhooked (beq_self_eq_true _)]
  exact (hc.answered m₁.platform.driver).mono (fun _ s _ => h₁.handled hc.operation nofun)
    (fun e s _ => h₁.refused) fun _ hs => hs.elim

theorem Machine.driveAs_blames {c : Command α} {wrap : DriverError → Error}
    (hwrap : ∀ d, (wrap d).cause? = some d) (hc : c.Plain) :
    (driveAs wrap c).Blames base spare first K :=
  (drive_reports hc).blames hwrap

theorem Machine.tryDrive_tidies {c : Command α} (hc : c.Plain) : (tryDrive c).Tidies base K :=
  Fallible.Reports.tidies fun _ => drive_reports hc

/-- An allocation, which may be cut off if nothing has failed before. -/
theorem Machine.allocate_reports {place : Placement} {device : Ident .device} {layout : Layout}
    {format : Format} {flags : AllocFlags} :
    (drive (Simulator.allocate place device layout format flags)).Reports base spare none
      (Tracked base [] none) := by
  intro m h
  have hop : (Operation.allocate place layout) ≠ .queryEvent := by
    cases place <;> cases layout <;> nofun
  obtain ⟨m₁, hm₁⟩ := exists_fired h.aloof (.allocate place layout)
  have h₁ := h.fired hm₁
  rw [hm₁.drive rfl, leads_drive hm₁.unhooked (beq_self_eq_true _)]
  exact leads_true.mono (fun _ s _ => h₁.handled hop nofun) (fun e s _ => h₁.refused)
    fun _ _ => Tracked.spareless (h₁.handled hop nofun)

/-- A driver call that makes a token. -/
theorem Machine.drive_makes {c : Command (Ident .event)}
    (hop : c.operation = .copyMemory ∨ c.operation = .runProgram)
    (hc : ∀ s, c.run.Leads s (fun event _ => event = ⟨s.nextNumber⟩) (fun _ _ => True)
      fun _ => False) (h : Tracked base spare first m) :
    (drive c).Leads m
      (fun event m' => Tracked base spare first m' ∧ MadeBy c.operation event m'.history)
      (fun d => Tracked base spare (first.or (some d))) K := by
  have hquery : c.operation ≠ .queryEvent := by
    rcases hop with hop | hop <;> rw [hop] <;> nofun
  obtain ⟨m₁, hm₁⟩ := exists_fired h.aloof c.operation
  have h₁ := h.fired hm₁
  rw [hm₁.drive rfl, leads_drive hm₁.unhooked (beq_self_eq_true _)]
  refine (hc m₁.platform.driver).mono (fun event s hevent => ⟨h₁.handled hquery nofun, ?_⟩)
    (fun e s _ => h₁.refused) fun _ hs => hs.elim
  exact ⟨m₁.moment c.operation .accepted s, List.mem_cons_self, ⟨rfl, hop, hevent⟩, rfl⟩

end Reporting

/-! ## Waiting -/

namespace Completion

variable {base m : Machine κ ω} {spare : List Remote} {first : Option DriverError}
  {K : Machine κ ω → Prop} {op : Operation} {context : Ident .context} {event : Ident .event}

omit [Setoid ω] in
theorem check_answered (hooks : m.Unhooked (· == .queryEvent)) :
    (check op context event).Leads m (fun _ m' => m'.Unhooked (· == .queryEvent)) (fun _ _ => True)
      fun _ => False := by
  unfold check
  rw [leads_bind, Machine.leads_drive hooks rfl]
  refine Simulator.queryEvent_leads (fun _ => trivial) (fun _ _ _ _ _ => hooks)
    fun token _ _ _ => ?_
  cases token.error with
  | none => exact hooks
  | some message => trivial

/-- The questions of a wait that does not fail have not failed. -/
theorem not_failing_of_asked {asks : List Moment} {ends : Status}
    (h : ∀ mo ∈ asks, mo.Asked context event ends) (hends : ∀ message, ends ≠ .failed message) :
    ∀ mo ∈ asks, ¬ mo.Failing :=
  fun mo hmo => (h mo hmo).not_failing hends

theorem leads_check {m₁ : Machine κ ω} (hm₁ : m.Fired .queryEvent m₁) {ok err cut} :
    (check op context event).Leads m ok err cut ↔
      (check op context event).Leads m₁ ok err cut := by
  unfold check
  rw [leads_bind, leads_bind, hm₁.drive rfl]

/-- Asking a token reports its failure as one of the call that made it. -/
theorem check_reports (h : Tracked base spare first m) (hmade : MadeBy op event m.history) :
    (check op context event).Leads m (fun _ => Tracked base spare first)
      (fun d => Tracked base spare (first.or (some d))) K := by
  obtain ⟨m₁, hm₁⟩ := Machine.exists_fired h.aloof .queryEvent
  have h₁ := h.fired hm₁
  rw [leads_check hm₁]
  refine ((check_asks rfl hm₁.unhooked).and (check_answered hm₁.unhooked)).mono
    (fun done m' ⟨⟨mo, hm', hasked, _⟩, _⟩ => ?_) (fun d m' ⟨⟨mo, hm', hfailed⟩, _⟩ => ?_)
    fun _ hm => hm.2.elim
  · refine h₁.called hm' (List.forall_mem_singleton.mpr (hasked.not_failing fun _ => ?_))
    cases done <;> nofun
  · have hcalled : m₁.Called ([] ++ [mo]) m' := hm'
    exact h₁.fails hcalled (List.forall_mem_nil _) (hfailed.failsWith (hm₁.history ▸ hmade))

/-- Waiting for a token reports its failure as one of the call that made it. Without a limit,
    it does not end before the token does. -/
theorem wait_reports (h : Tracked base spare first m) (hmade : MadeBy op event m.history)
    {w : Waiter} {limit : Option Nat} :
    (wait w op context event limit).Leads m
      (fun outcome m' => Tracked base spare first m' ∧
        ∀ polls, outcome = .timedOut polls → limit ≠ none)
      (fun d => Tracked base spare (first.or (some d))) K := by
  obtain ⟨m₁, hm₁⟩ := Machine.exists_fired h.aloof .queryEvent
  have h₁ := h.fired hm₁
  unfold wait Waiter.wait
  rw [leads_bind, leads_get, leads_bind, leads_get]
  -- Hooks that wait for polls run before the first one.
  obtain ⟨fuel, hfuel⟩ : ∃ fuel, pollsLeft m.platform.driver event = fuel + 1 := by
    unfold pollsLeft
    split <;> exact ⟨_, rfl⟩
  rw [hfuel, Waiter.leads_pollOn_congr (leads_check hm₁)]
  refine ((pollOn_asks rfl hm₁.unhooked (hm₁.driver ▸ Nat.le_of_eq hfuel)).and
    (Waiter.pollOn_leads (fun _ _ h => h) (fun _ h => check_answered h) hm₁.unhooked)).mono
    (fun outcome m' ⟨⟨asks, hm', _, hasks⟩, _⟩ => ?_) (fun d m' ⟨⟨asks, hm', hasks⟩, _⟩ => ?_)
    fun _ hm => hm.2.elim
  · cases outcome with
    | timedOut polls =>
      exact ⟨h₁.called hm' (not_failing_of_asked hasks.2 nofun), fun _ _ => hasks.1⟩
    | completed polls =>
      refine ⟨h₁.called hm' ?_, nofun⟩
      obtain ⟨before, last, rfl, hbefore, hlast⟩ := hasks
      exact List.forall_mem_append.mpr ⟨not_failing_of_asked hbefore nofun,
        List.forall_mem_singleton.mpr (hlast.not_failing nofun)⟩
  · obtain ⟨before, last, rfl, hbefore, hlast⟩ := hasks
    obtain ⟨maker, hmaker, hmakes⟩ := hmade
    exact h₁.fails hm' (not_failing_of_asked hbefore nofun)
      (hlast.failsWith ⟨maker, List.mem_append_right _ (hm₁.history ▸ hmaker), hmakes⟩)

/-- A copy reports its failure, and that of its token, as its own. -/
theorem copy_reports {w : Waiter} {source target : Ident .memory} :
    (copy w context source target).Reports base spare first K := by
  intro m h
  unfold copy
  refine .bind (Machine.drive_makes (.inl rfl) (fun _ => Simulator.copyMemory_leads
    (fun _ _ _ => trivial) fun _ _ _ _ _ _ _ _ => rfl) h) fun event m₁ ⟨h₁, hmade⟩ => ?_
  exact .bind (wait_reports h₁ hmade) fun _ _ hm => hm.1

end Completion

end StreamCompute
