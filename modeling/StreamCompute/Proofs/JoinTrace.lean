/-
  StreamCompute.Proofs.JoinTrace

  The calls of a join, where no hook interferes. First the token of the kernel
  is asked; if it is done, the results are copied back, one copy for each
  register that is copied out; and then everything is given back in a fixed
  order. The calls of the last part are the same whatever has failed before.
-/
import StreamCompute.Proofs.Teardown

namespace StreamCompute

open Fallible

variable {κ ω : Type}

/-- Nothing has changed but what the calls of the trace do to tokens and bytes, and what is
    known of the progress of executions. -/
structure Machine.Worked (trace : List Moment) (m m' : Machine κ ω) : Prop where
  history : m'.history = trace.reverse ++ m.history
  hooks : m'.platform.hooks = m.platform.hooks
  remotes : m'.remotes = m.remotes
  arenas : m'.arenas = m.arenas
  memories : m'.platform.driver.memories = m.platform.driver.memories

variable {m m' m'' : Machine κ ω} {trace trace' : List Moment}

namespace Machine.Worked

theorem refl : Worked [] m m :=
  ⟨rfl, rfl, rfl, rfl, rfl⟩

theorem trans (h : Worked trace m m') (h' : Worked trace' m' m'') :
    Worked (trace ++ trace') m m'' where
  history := by rw [h'.history, h.history, List.reverse_append, List.append_assoc]
  hooks := h'.hooks.trans h.hooks
  remotes := h'.remotes.trans h.remotes
  arenas := h'.arenas.trans h.arenas
  memories := h'.memories.trans h.memories

theorem journal (h : Worked trace m m') {journal : List Event} :
    Worked trace m { m' with journal } :=
  { h with }

theorem onProgress (h : Worked trace m m') {e : Execution} {f : Progress → Progress} :
    Worked trace m (e.onProgress f m') :=
  { h with }

theorem of_called (h : m.Called trace m')
    (hmemories : m'.platform.driver.memories = m.platform.driver.memories) :
    Worked trace m m' := by
  refine ⟨h.history, ?_, h.remotes, h.arenas, hmemories⟩
  obtain ⟨_, _, _, rfl⟩ := h.rest
  rfl

theorem unhooked (h : Worked trace m m') {kind : Operation → Bool} (hm : m.Unhooked kind) :
    m'.Unhooked kind := by
  unfold Machine.Unhooked
  rw [h.hooks]
  exact hm

theorem status (h : Worked trace m m') (r : Remote) : m'.status r = m.status r := by
  rw [Machine.status, h.remotes]
  rfl

end Machine.Worked

/-! ## Copying out -/

/-- The memory objects of a copied register show its two resources. -/
def CopyRecord.Shown (context : Ident .context) (s : Simulator) (c : CopyRecord) : Prop :=
  s.memories.get? c.remoteMemory = some (context, c.remote.id) ∧
    s.memories.get? c.transientMemory = some (context, c.transient)

/-- The bytes that the noted copies bring out: from which resource, and to which. -/
def outgoing (cs : List CopyRecord) : List (Ident .resource × Ident .resource) :=
  (cs.filter (·.direction.copiesOut)).map fun c => (c.transient, c.remote.id)

/-- The call is a copy, as it was logged, or a question whether one is done. -/
def Moment.Copies (mo : Moment) : Prop :=
  (mo.operation = .copyMemory ∧ mo.copied?.isSome = true) ∨ mo.operation = .queryEvent

/-- The bytes were copied between these resources in this order, and nothing was called but
    copies and the questions whether they are done. -/
def CopiedOut (pairs : List (Ident .resource × Ident .resource)) (m m' : Machine κ ω) : Prop :=
  ∃ trace : List Moment, m.Worked trace m' ∧ trace.filterMap Moment.copied? = pairs ∧
    ∀ mo ∈ trace, mo.Copies

variable {pairs pairs' : List (Ident .resource × Ident .resource)}

namespace CopiedOut

theorem refl : CopiedOut [] m m :=
  ⟨[], .refl, rfl, List.forall_mem_nil _⟩

theorem trans (h : CopiedOut pairs m m') (h' : CopiedOut pairs' m' m'') :
    CopiedOut (pairs ++ pairs') m m'' := by
  obtain ⟨trace, hm', rfl, hops⟩ := h
  obtain ⟨trace', hm'', rfl, hops'⟩ := h'
  refine ⟨trace ++ trace', hm'.trans hm'', List.filterMap_append, fun mo hmo => ?_⟩
  rcases List.mem_append.mp hmo with hmo | hmo
  · exact hops mo hmo
  · exact hops' mo hmo

theorem journal (h : CopiedOut pairs m m') {journal : List Event} :
    CopiedOut pairs m { m' with journal } := by
  obtain ⟨trace, hm', hrest⟩ := h
  exact ⟨trace, hm'.journal, hrest⟩

end CopiedOut

section Join

variable [Reentry κ ω]

/-- A copy is called once, and then only its token is asked, whatever comes of it. -/
theorem Completion.copy_copiedOut (hooks : m.Unhooked Operation.ofLaunch) {w : Waiter}
    {context : Ident .context} {source target : Ident .memory} {src dst : Ident .resource}
    (hsource : m.platform.driver.memories.get? source = some (context, src))
    (htarget : m.platform.driver.memories.get? target = some (context, dst)) :
    (copy w context source target).Leads m (fun _ => CopiedOut [(src, dst)] m)
      (fun _ => CopiedOut [(src, dst)] m) fun _ => True := by
  -- The copy and the calls that ask its token.
  have hafter : ∀ {verdict s asks event m'},
      s.calls = .copyMemory context src dst :: m.platform.driver.calls →
      (∀ mo ∈ asks, mo.Asks context event) →
      s.memories = m.platform.driver.memories →
      (m.handled .copyMemory verdict s).Worked asks m' → CopiedOut [(src, dst)] m m' := by
    intro verdict s asks event m' hcalls hasks hmemories hm'
    have hcopy : m.Worked [m.moment .copyMemory verdict s] (m.handled .copyMemory verdict s) :=
      .of_called .handled hmemories
    refine ⟨_, hcopy.trans hm', Machine.copied?_copy hcalls hasks, fun mo hmo => ?_⟩
    rcases List.mem_cons.mp hmo with rfl | hmo
    · refine Or.inl ⟨rfl, ?_⟩
      rw [Moment.copied?_of_call rfl (Machine.call?_moment hcalls)]
      rfl
    · exact Or.inr (hasks mo hmo).1
  unfold copy
  rw [leads_bind]
  refine Machine.drive_leads_logged hooks rfl (Simulator.copyMemory_logs hsource htarget)
    (P := fun _ s => s.memories = m.platform.driver.memories)
    (Q := fun _ s => s.memories = m.platform.driver.memories)
    (Simulator.copyMemory_leads (fun _ _ _ => rfl) fun _ _ _ _ _ _ _ _ => rfl)
    (fun event s hmemories hcalls => ?_) fun e s hmemories hcalls => ?_
  · rw [leads_bind]
    refine ((wait_asks rfl (by exact hooks)).and (wait_steady (by exact hooks))).mono
      (fun outcome m' ⟨⟨asks, hm', _, hasks⟩, hsteady, _⟩ => ?_)
      (fun e m' ⟨⟨asks, hm', hasks⟩, hsteady, _⟩ => ?_) fun _ _ => trivial
    · cases outcome with
      | timedOut polls => exact absurd rfl hasks.1
      | completed polls =>
        exact hafter hcalls (Finished.all_ask hasks) hmemories (.of_called hm' hsteady.memories)
    · exact hafter hcalls (Foundered.all_ask hasks) hmemories (.of_called hm' hsteady.memories)
  · have hall : ∀ mo ∈ [], Moment.Asks context ⟨0⟩ mo := List.forall_mem_nil _
    exact hafter hcalls hall hmemories .refl

namespace Execution

variable {e : Execution} {c : CopyRecord}

theorem copyOut_copiedOut (hooks : m.Unhooked Operation.ofLaunch)
    (hshown : c.Shown e.context m.platform.driver) :
    (copyOut e c).Leads m (fun _ => CopiedOut [(c.transient, c.remote.id)] m)
      (fun _ => CopiedOut [(c.transient, c.remote.id)] m) fun _ => True := by
  unfold copyOut
  rw [leads_bind, leads_mapError]
  exact (Completion.copy_copiedOut hooks hshown.2 hshown.1).imp
    fun _ _ hm => hm.journal

/-! ## Giving back -/

theorem remap_sweeps {register : String} {r : Remote} (h : Withdrawn [r] m) :
    (remap register r).Leads m (fun _ => Swept [.mapResource r.id] [r] [] m)
      (fun _ => Swept [.mapResource r.id] [r] [] m) fun _ => True := by
  unfold remap
  rw [leads_bind, leads_mapError]
  exact (Memory.restore_sweeps h.hooks (h.unmapped r List.mem_cons_self)).imp
    fun _ _ hm => hm.journal

/-- The calls that give back what an execution holds, in the order of its end. -/
def finalCalls (e : Execution) (a : Arena) : List Call :=
  a.memories.map (.releaseMemory e.context) ++
    ([.unloadModule e.context e.module, .destroyContext e.context] ++
      (a.transients.map (fun t => .freeResource t.2) ++
        a.unmapped.map fun u => .mapResource u.2.id))

/-- The results were copied out between these resources, and then everything was given back. -/
def TakenDown (e : Execution) (a : Arena) (pairs : List (Ident .resource × Ident .resource))
    (m m' : Machine κ ω) : Prop :=
  ∃ m₁, CopiedOut pairs m m₁ ∧
    Swept (finalCalls e a) (a.unmapped.map Prod.snd) a.claims m₁ m'

/-- The execution can be taken down: nothing interferes, its arena and its copies are as they
    were noted, and what it has unmapped waits to be mapped. -/
structure Ripe (e : Execution) (a : Arena) (m : Machine κ ω) : Prop where
  arena : m.arenas.get? e.key = some a
  shown : ∀ c ∈ a.copies, c.Shown e.context m.platform.driver
  withdrawn : Withdrawn (a.unmapped.map Prod.snd) m

omit [Reentry κ ω] in
theorem Ripe.worked {a : Arena} (h : Ripe e a m) (hm' : m.Worked trace m') : Ripe e a m' where
  arena := hm'.arenas ▸ h.arena
  shown c hc := by
    unfold CopyRecord.Shown
    rw [hm'.memories]
    exact h.shown c hc
  withdrawn := ⟨hm'.unhooked h.withdrawn.hooks, h.withdrawn.once, fun r hr => by
    rw [hm'.status]
    exact h.withdrawn.unmapped r hr⟩

omit [Reentry κ ω] in
theorem swept_unclaimed (claims : List Remote) (m : Machine κ ω) :
    Swept [] [] claims m (claims.foldl (fun m r => Memory.unclaimed r m) m) := by
  induction claims generalizing m with
  | nil => exact .refl
  | cons r rest ih => exact Swept.unclaimed.trans (ih (Memory.unclaimed r m))

omit [Reentry κ ω] in
/-- The results were copied out. These calls are left to be made, and these remote resources to be
    mapped. -/
def Sweeping (e : Execution) (a : Arena) (pairs : List (Ident .resource × Ident .resource))
    (m : Machine κ ω) (calls : List Call) (rs : List Remote) (m' : Machine κ ω) : Prop :=
  Withdrawn rs m' ∧ ∃ m₁ done mapped, CopiedOut pairs m m₁ ∧ Swept done mapped [] m₁ m' ∧
    done ++ calls = finalCalls e a ∧ mapped ++ rs = a.unmapped.map Prod.snd

omit [Reentry κ ω] in
/-- What has been done at a stage, beginning with copying these registers out. -/
def Stage.Traced (e : Execution) (a : Arena) (copies : List CopyRecord) (m : Machine κ ω) :
    Stage → Machine κ ω → Prop :=
  let pairs (cs : List CopyRecord) := cs.map fun c => (c.transient, c.remote.id)
  let sweeping := Sweeping e a (pairs copies) m
  let freed (ts : List (String × Ident .resource)) : List Call :=
    ts.map (fun t => .freeResource t.2) ++ a.unmapped.map fun u => .mapResource u.2.id
  fun
  | copying left => fun m' => ∃ done, done ++ left = copies ∧ CopiedOut (pairs done) m m'
  | releasing left => sweeping (left.map (.releaseMemory e.context) ++
      .unloadModule e.context e.module :: .destroyContext e.context :: freed a.transients)
      (a.unmapped.map Prod.snd)
  | unloading => sweeping
      (.unloadModule e.context e.module :: .destroyContext e.context :: freed a.transients)
      (a.unmapped.map Prod.snd)
  | destroying => sweeping (.destroyContext e.context :: freed a.transients)
      (a.unmapped.map Prod.snd)
  | freeing left => sweeping (freed left) (a.unmapped.map Prod.snd)
  | remapping left => sweeping (left.map fun u => .mapResource u.2.id) (left.map Prod.snd)
  | closed => TakenDown e a (pairs copies) m

omit [Reentry κ ω] in
/-- Whatever becomes of a step, its call was made. -/
theorem Sweeping.carries {α : Type} {a : Arena} {step : Task κ ω α} {call : Call}
    {calls : List Call} {rs rs' : List Remote} (hstep : ∀ m, Withdrawn rs m →
      step.Leads m (fun _ => Swept [call] rs [] m) (fun _ => Swept [call] rs [] m) fun _ => True) :
    Carries (fun _ => Sweeping e a pairs m (call :: calls) (rs ++ rs'))
      (fun _ => Sweeping e a pairs m calls rs') (fun _ => True) step := by
  rintro _ m' ⟨hwithdrawn, m₁, done, mapped, hcopied, hswept, hcalls, hmapped⟩
  have hnext : ∀ m'', Swept [call] rs [] m' m'' → Sweeping e a pairs m calls rs' m'' := by
    intro m'' hm''
    refine ⟨hwithdrawn.swept hm'', m₁, done ++ [call], mapped ++ rs, hcopied, hswept.trans hm'',
      ?_, ?_⟩
    · rw [List.append_assoc]
      exact hcalls
    · rw [List.append_assoc]
      exact hmapped
  exact (hstep m' ⟨hwithdrawn.hooks, (List.nodup_append.mp hwithdrawn.once).1,
    fun r hr => hwithdrawn.unmapped r (List.mem_append_left _ hr)⟩).mono (fun _ => hnext)
    (fun _ => hnext) fun _ h => h

theorem takesDown_traced {a : Arena} (h : Ripe e a m) {copies : List CopyRecord} :
    TakesDown e a (fun stage _ => stage.Traced e a copies m) fun _ => True := by
  -- Every call but the copies is made whatever became of the others, and sweeps one thing.
  have hdrive {α : Type} {wrap : DriverError → Error} {c : Command α} {call : Call}
      (hop : c.operation.ofLaunch = true) (hclean : c.operation.cleansUp = true)
      (hlogs : ∀ s, c.Logs call s) (m : Machine κ ω) (hm : Withdrawn [] m) :
      (Machine.driveAs wrap c).Leads m (fun _ => Swept [call] [] [] m)
        (fun _ => Swept [call] [] [] m) fun _ => True :=
    leads_mapError.mpr (Machine.drive_sweeps hm.hooks hop hclean (hlogs _))
  refine ⟨fun stage _ m' journal hm' => ?_, fun _ _ h => h, fun c hc left _ m' hm' => ?_,
    fun _ m' hm' => ?_, fun _ _ => Sweeping.carries (hdrive rfl rfl fun _ => Command.logs rfl),
    fun _ _ h => h, Sweeping.carries (hdrive rfl rfl fun _ => Command.logs rfl),
    Sweeping.carries (hdrive rfl rfl fun _ => Command.logs rfl),
    fun _ _ _ => Sweeping.carries (hdrive rfl rfl fun _ => Command.logs rfl), fun _ _ h => h,
    fun _ _ _ => Sweeping.carries fun _ => remap_sweeps, fun _ m' hm' => ?_⟩
  · have hsweeping {calls rs} (hm' : Sweeping e a (copies.map fun c => (c.transient, c.remote.id)) m
        calls rs m') : Sweeping e a (copies.map fun c => (c.transient, c.remote.id)) m calls rs
          { m' with journal } := by
      obtain ⟨hwithdrawn, m₁, done, mapped, hcopied, hswept, hrest⟩ := hm'
      exact ⟨⟨hwithdrawn.hooks, hwithdrawn.once, hwithdrawn.unmapped⟩, m₁, done, mapped, hcopied,
        hswept.journal, hrest⟩
    cases stage with
    | copying =>
      obtain ⟨done, hdone, hcopied⟩ := hm'
      exact ⟨done, hdone, hcopied.journal⟩
    | releasing | unloading | destroying | freeing | remapping => exact hsweeping hm'
    | closed =>
      obtain ⟨m₁, hcopied, hswept⟩ := hm'
      exact ⟨m₁, hcopied, hswept.journal⟩
  · obtain ⟨done, hdone, hcopied⟩ := hm'
    have ⟨trace, hworked, _⟩ := hcopied
    have hripe := h.worked hworked
    have hnext : ∀ m'', CopiedOut [(c.transient, c.remote.id)] m' m'' →
        (Stage.copying left).Traced e a copies m m'' := fun m'' hm'' => by
      refine ⟨done ++ [c], by simpa using hdone, ?_⟩
      dsimp only
      rw [List.map_append]
      exact hcopied.trans hm''
    exact (copyOut_copiedOut hripe.withdrawn.hooks (hripe.shown c hc)).mono (fun _ => hnext)
      (fun _ => hnext) fun _ h => h
  · obtain ⟨done, hdone, hcopied⟩ := hm'
    rw [List.append_nil] at hdone
    subst hdone
    have ⟨trace, hworked, _⟩ := hcopied
    exact ⟨(h.worked hworked).withdrawn, m', [], [], hcopied, .refl, rfl, rfl⟩
  · obtain ⟨-, m₁, done, mapped, hcopied, hswept, hcalls, hmapped⟩ := hm'
    rw [List.map_nil, List.append_nil] at hcalls hmapped
    have hall := hswept.trans (swept_unclaimed a.claims m')
    rw [List.append_nil, List.append_nil, hcalls, hmapped] at hall
    exact ⟨m₁, hcopied, hall.arenas⟩

/-- Taking down makes the same calls whatever fails, except that after a failure of the kernel
    nothing is copied out. -/
theorem finalize_trace {a : Arena} (h : Ripe e a m) {failure : Option Error} :
    (finalize e failure).Leads m
      (fun _ => TakenDown e a (if failure.isSome then [] else outgoing a.copies) m)
      (fun _ => TakenDown e a (if failure.isSome then [] else outgoing a.copies) m)
      fun _ => True := by
  have harena : e.arena m = a := by rw [arena, h.arena, Option.getD_some]
  refine ((takesDown_traced h).finalize harena ⟨[], rfl, .refl⟩).mono (fun _ _ hm => ?_)
    (fun _ _ hm => ?_) fun _ hm => hm
  · cases failure <;> exact hm.1
  · cases failure <;> exact hm

/-! ## Joining -/

/-- A join has ended. The token was asked until it was done, unless it was known to be; then
    the results were copied out. Or asking it has failed, and nothing was copied out. -/
inductive Joined (e : Execution) (a : Arena) (m m' : Machine κ ω) : Prop
  | done {asks : List Moment} {m₁ : Machine κ ω} (waited : m.Worked asks m₁)
      (finished : (e.progress m).done = true ∧ asks = [] ∨ Finished e.context e.event asks)
      (down : TakenDown e a (outgoing a.copies) m₁ m') : Joined e a m m'
  | failed {asks : List Moment} {m₁ : Machine κ ω} {err : DriverError}
      (waited : m.Worked asks m₁)
      (foundered : Foundered .runProgram e.context e.event err asks)
      (down : TakenDown e a [] m₁ m') : Joined e a m m'

theorem await_trace (hooks : m.Unhooked Operation.ofLaunch) {limit : Option Nat} :
    (await e limit).Leads m
      (fun outcome m' => ∃ asks, m.Worked asks m' ∧
        outcome.EndsWith limit e.context e.event asks)
      (fun err m' => ∃ asks, m.Worked asks m' ∧
        Foundered .runProgram e.context e.event err asks) fun _ => True := by
  unfold await
  rw [leads_mk, Act.leads_onCutOff, leads_run, leads_timed]
  refine ((Completion.wait_asks rfl hooks).and (Completion.wait_steady hooks)).mono
    (fun outcome m' ⟨⟨asks, hm', _, hasks⟩, hsteady, _⟩ => ?_)
    (fun e m' ⟨⟨asks, hm', hasks⟩, hsteady, _⟩ => ?_) fun _ _ => trivial
  · exact ⟨asks, (Machine.Worked.of_called hm' hsteady.memories).journal, hasks⟩
  · exact ⟨asks, (Machine.Worked.of_called hm' hsteady.memories).journal, hasks⟩

theorem joinWithin_trace {a : Arena} (h : Ripe e a m) {limit : Option Nat} :
    (joinWithin e limit).Leads m
      (fun summary m' => match summary with
        | some _ => Joined e a m m'
        | none => limit ≠ none ∧ ∃ asks, m.Worked asks m' ∧
          ∀ mo ∈ asks, mo.Asked e.context e.event .pending)
      (fun _ => Joined e a m) fun _ => True := by
  refine leads_joinWithin (fun hdone => ?_) (await_trace h.withdrawn.hooks)
    (fun polls m₁ ⟨asks, hm₁, hasks⟩ => ?_) (fun polls m₁ _ ⟨asks, hm₁, hasks⟩ => ?_)
    fun d m₁ _ ⟨asks, hm₁, hasks⟩ => ?_
  · exact (finalize_trace h).mono (fun _ _ hm => .done .refl (Or.inl ⟨hdone, rfl⟩) hm)
      (fun _ _ hm => .done .refl (Or.inl ⟨hdone, rfl⟩) hm) fun _ hm => hm
  · exact (finalize_trace (h.worked hm₁.onProgress)).mono
      (fun _ _ hm => .done hm₁.onProgress (Or.inr hasks) hm)
      (fun _ _ hm => .done hm₁.onProgress (Or.inr hasks) hm) fun _ hm => hm
  · exact ⟨hasks.1, asks, hm₁.onProgress.journal, hasks.2⟩
  · exact (finalize_trace (h.worked hm₁.journal)).mono
      (fun _ _ hm => .failed hm₁.journal hasks hm)
      (fun _ _ hm => .failed hm₁.journal hasks hm) fun _ hm => hm

end Execution

end Join

end StreamCompute
