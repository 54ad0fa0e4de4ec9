/-
  StreamCompute.Proofs.Alike

  Machines that differ only in what was logged. Two drivers are alike if they
  differ in their logs only. Injected failures strike by the number of a call,
  so the entry points must have been called equally often, up to some that will
  be called no more: those are quiet. Two machines are alike for an execution if
  their drivers are, and if besides they differ in their journals, their
  histories and in what is known of the kernel of the execution.

  More generally, a relation between drivers may be blind to logs and images.
  From machines whose drivers are so related, an execution is taken down in
  step: with the same answer, and so that the drivers are related afterwards.
-/
import StreamCompute.Proofs.TwoRuns

namespace StreamCompute

open Fallible

/-! ## Drivers -/

namespace Simulator

/-- The drivers differ in their logs only, and every entry point that is not quiet was called
    equally often on both. -/
structure Alike (quiet : Operation → Prop) (s s' : Simulator) : Prop where
  same : ∃ calls counts notices, s' = { s with calls, counts, notices }
  counts : ∀ op, ¬ quiet op → s'.callCount op = s.callCount op

variable {quiet : Operation → Prop} {s s' s'' : Simulator} {α β : Type}

namespace Alike

theorem refl : s.Alike quiet s :=
  ⟨⟨_, _, _, rfl⟩, fun _ _ => rfl⟩

variable (h : s.Alike quiet s')

include h

theorem symm : s'.Alike quiet s := by
  refine ⟨?_, fun op hop => (h.counts op hop).symm⟩
  obtain ⟨_, _, _, rfl⟩ := h.same
  exact ⟨s.calls, s.counts, s.notices, rfl⟩

theorem trans (h' : s'.Alike quiet s'') : s.Alike quiet s'' := by
  refine ⟨?_, fun op hop => (h'.counts op hop).trans (h.counts op hop)⟩
  obtain ⟨_, _, _, rfl⟩ := h.same
  obtain ⟨_, _, _, rfl⟩ := h'.same
  exact ⟨_, _, _, rfl⟩

theorem mono {quiet' : Operation → Prop}
    (hquiet : ∀ op, quiet op → quiet' op) : s.Alike quiet' s' :=
  ⟨h.same, fun op hop => h.counts op fun hq => hop (hquiet op hq)⟩

/-- A change that neither looks at the logs nor touches them. -/
theorem change {f : Simulator → Simulator} (hf : ∀ s calls counts notices,
      f { s with calls, counts, notices } = { f s with calls, counts, notices }) :
    (f s).Alike quiet (f s') := by
  have hsame := hf s s.calls s.counts s.notices
  have hcounts : (f s).counts = s.counts := (congrArg Simulator.counts hsame :)
  obtain ⟨calls, counts, notices, rfl⟩ := h.same
  refine ⟨⟨calls, counts, notices, hf ..⟩, fun op hop => ?_⟩
  rw [hf, callCount, callCount, hcounts]
  exact h.counts op hop

theorem notices {notices notices' : List Event} :
    Alike quiet { s with notices } { s' with notices := notices' } := by
  obtain ⟨calls, counts, _, rfl⟩ := h.same
  exact ⟨⟨calls, counts, notices', rfl⟩, h.counts⟩

theorem logged {call : Call} :
    (Simulator.logged call s).Alike quiet (Simulator.logged call s') := by
  refine ⟨?_, fun op hop => ?_⟩
  · obtain ⟨_, _, notices, rfl⟩ := h.same
    exact ⟨_, _, notices, rfl⟩
  · rw [callCount_logged, callCount_logged, h.counts op hop]

/-- One more call of a quiet entry point is logged on one side. -/
theorem logged_right {call : Call} (hquiet : quiet call.operation) :
    s.Alike quiet (Simulator.logged call s') := by
  refine ⟨?_, fun op hop => ?_⟩
  · obtain ⟨_, _, notices, rfl⟩ := h.same
    exact ⟨_, _, notices, rfl⟩
  · have hne : call.operation ≠ op := fun heq => hop (heq ▸ hquiet)
    rw [callCount_logged, if_neg hne]
    exact h.counts op hop

end Alike

/-- Drivers so related differ at most in their images and their logs, and go on to do so. -/
structure Blind (quiet : Operation → Prop) (D : Simulator → Simulator → Prop) : Prop where
  same : ∀ {s s'}, D s s' →
    ∃ images calls counts notices, s' = { s with images, calls, counts, notices }
  counts : ∀ {s s'}, D s s' → ∀ op, ¬ quiet op → s'.callCount op = s.callCount op
  logged : ∀ {s s' call}, D s s' → D (logged call s) (logged call s')
  notices : ∀ {s s'} (f : List Event → List Event), D s s' →
    D { s with notices := f s.notices } { s' with notices := f s'.notices }
  change : ∀ {s s'} {f : Simulator → Simulator}, (∀ s images calls counts notices,
    f { s with images, calls, counts, notices } = { f s with images, calls, counts, notices }) →
    D s s' → D (f s) (f s')

theorem Blind.alike : Blind quiet (Alike quiet) where
  same h := by
    obtain ⟨calls, counts, notices, rfl⟩ := h.same
    exact ⟨_, calls, counts, notices, rfl⟩
  counts h := h.counts
  logged h := h.logged
  notices _ h := h.notices
  change := fun {_ _ f} hf h => h.change fun s calls counts notices => by
    have himages : (f s).images = s.images :=
      (congrArg Simulator.images (hf s s.images s.calls s.counts s.notices) :)
    rw [hf s s.images, ← himages]

section Regardless

variable {D : Simulator → Simulator → Prop} (hD : Blind quiet D)

theorem require_regardless {condition : Bool} {op : Operation} {why : Refusal} :
    Regardless D (require condition op why) := by
  unfold require
  split
  · exact .pure
  · exact .throw

theorem obtain_regardless {value : Option α} {op : Operation} {why : Refusal} :
    Regardless D (obtain value op why) := by
  cases value with
  | some a => exact .pure
  | none => exact .throw

include hD

/-- The number of the call decides whether an injected failure strikes. -/
theorem Blind.enter {call : Call} (hcall : ¬ quiet call.operation) : Regardless D (enter call) := by
  refine .bind (.change fun _ _ => hD.logged) fun _ => .get fun s s' hs => ?_
  have hsame : s'.injected? = s.injected? := by
    obtain ⟨_, _, _, _, rfl⟩ := hD.same hs
    rfl
  rw [hsame, hD.counts hs _ hcall]
  split
  · exact .throw
  · exact .pure

/-- Looking at the driver, but neither at its images nor at its logs. -/
theorem Blind.get {k : Simulator → Sim α}
    (hk : ∀ s images calls counts notices, k { s with images, calls, counts, notices } = k s)
    (h : ∀ s, Regardless D (k s)) : Regardless D (MonadState.get >>= k) := by
  refine Agree.get fun s s' hs => ?_
  obtain ⟨images, calls, counts, notices, rfl⟩ := hD.same hs
  rw [hk s images calls counts notices]
  exact h s

theorem Blind.modify {f : Simulator → Simulator}
    (hf : ∀ s images calls counts notices,
      f { s with images, calls, counts, notices } = { f s with images, calls, counts, notices }) :
    Regardless D (modify f : Sim PUnit) :=
  .change fun _ _ => hD.change hf

theorem newToken_regardless {op : Operation} {context : Ident .context} :
    Regardless D (newToken op context) := by
  intro s s' hs
  have hmade : D (tokenMade op context s) (tokenMade op context s') :=
    hD.change (fun _ _ _ _ _ => rfl) hs
  obtain ⟨_, _, _, _, rfl⟩ := hD.same hs
  exact ⟨rfl, hmade, Or.inr rfl⟩

theorem storage_regardless {op : Operation} {len : Nat} :
    Regardless D (storage op .onHost len) := by
  unfold storage
  refine hD.get (fun _ _ _ _ _ => rfl) fun s => ?_
  dsimp only
  cases HostMemory.Buffer.zeroed s.spec.system len with
  | error e => exact .throw
  | ok b => exact .bind (.change fun _ _ => hD.notices (· ++ [_])) fun _ => .pure

/-! ### One lemma for each call that an execution ends with -/

variable {context : Ident .context} {memory source target : Ident .memory}
  {resource : Ident .resource}

theorem releaseMemory_regardless (hquiet : ¬ quiet .releaseMemory) :
    Regardless D (releaseMemory context memory).run :=
  .bind (hD.enter hquiet) fun _ => hD.get (fun _ _ _ _ _ => rfl) fun _ =>
    .bind require_regardless fun _ => hD.modify fun _ _ _ _ _ => rfl

theorem unloadModule_regardless (hquiet : ¬ quiet .unloadModule) {module : Ident .module} :
    Regardless D (unloadModule context module).run :=
  .bind (hD.enter hquiet) fun _ => hD.get (fun _ _ _ _ _ => rfl) fun _ =>
    .bind require_regardless fun _ => hD.modify fun _ _ _ _ _ => rfl

theorem destroyContext_regardless (hquiet : ¬ quiet .destroyContext) :
    Regardless D (destroyContext context).run :=
  .bind (hD.enter hquiet) fun _ =>
    .bind (hD.get (fun _ _ _ _ _ => rfl) fun _ => require_regardless) fun _ =>
      hD.modify fun _ _ _ _ _ => rfl

theorem freeResource_regardless (hquiet : ¬ quiet .freeResource) :
    Regardless D (freeResource resource).run :=
  .bind (hD.enter hquiet) fun _ => hD.get (fun _ _ _ _ _ => rfl) fun _ =>
    .bind require_regardless fun _ => hD.modify fun _ _ _ _ _ => rfl

theorem mapResource_regardless (hquiet : ¬ quiet .mapResource) :
    Regardless D (mapResource resource).run := by
  refine .bind (hD.enter hquiet) fun _ => hD.get (fun _ _ _ _ _ => rfl) fun _ => ?_
  refine .bind obtain_regardless fun r => .bind require_regardless fun _ => ?_
  refine .bind require_regardless fun _ => hD.get (fun _ _ _ _ _ => rfl) fun _ => ?_
  dsimp only
  split
  · exact .bind (storage_regardless hD) fun _ =>
      .bind (hD.modify fun _ _ _ _ _ => rfl) fun _ => .pure
  · exact .bind (hD.modify fun _ _ _ _ _ => rfl) fun _ => .pure

theorem copyMemory_regardless (hquiet : ¬ quiet .copyMemory) :
    Regardless D (copyMemory context source target).run := by
  refine hD.get (fun _ _ _ _ _ => rfl) fun _ => .bind obtain_regardless fun src => ?_
  refine hD.get (fun _ _ _ _ _ => rfl) fun _ => .bind obtain_regardless fun dst => ?_
  refine .bind (hD.enter hquiet) fun _ => ?_
  refine hD.get (fun _ _ _ _ _ => rfl) fun _ => .bind obtain_regardless fun read => ?_
  refine hD.get (fun _ _ _ _ _ => rfl) fun _ => .bind obtain_regardless fun written => ?_
  exact .bind (hD.modify fun _ _ _ _ _ => rfl) fun _ => newToken_regardless hD

theorem queryEvent_regardless (hquiet : ¬ quiet .queryEvent) {event : Ident .event} :
    Regardless D (queryEvent context event).run := by
  refine .bind (hD.enter hquiet) fun _ => hD.get (fun _ _ _ _ _ => rfl) fun _ => ?_
  refine .bind obtain_regardless fun token => ?_
  split
  · exact .bind (hD.modify fun _ _ _ _ _ => rfl) fun _ => .pure
  · split
    · exact .pure
    · exact .pure

end Regardless

end Simulator

/-! ## Machines -/

variable {κ ω α : Type} {quiet : Operation → Prop} {e : Execution}

/-- The machines differ in what was logged, and in what is known of the kernel of the execution. -/
structure Machine.Alike (quiet : Operation → Prop) (e : Execution) (m m' : Machine κ ω) : Prop where
  same : ∃ driver progress journal history,
    m' = { m with platform := { m.platform with driver }, progress, journal, history }
  driver : m.platform.driver.Alike quiet m'.platform.driver
  progress : ∀ key, key ≠ e.key → m'.progress.get? key = m.progress.get? key

namespace Machine.Alike

variable {m m' m'' : Machine κ ω}

theorem refl : m.Alike quiet e m :=
  ⟨⟨_, _, _, _, rfl⟩, .refl, fun _ _ => rfl⟩

variable (h : m.Alike quiet e m')

include h

theorem symm : m'.Alike quiet e m := by
  refine ⟨?_, h.driver.symm, fun key hkey => (h.progress key hkey).symm⟩
  obtain ⟨_, _, _, _, rfl⟩ := h.same
  exact ⟨m.platform.driver, m.progress, m.journal, m.history, rfl⟩

theorem trans (h' : m'.Alike quiet e m'') : m.Alike quiet e m'' := by
  refine ⟨?_, h.driver.trans h'.driver,
    fun key hkey => (h'.progress key hkey).trans (h.progress key hkey)⟩
  obtain ⟨_, _, _, _, rfl⟩ := h.same
  obtain ⟨_, _, _, _, rfl⟩ := h'.same
  exact ⟨_, _, _, _, rfl⟩

theorem hooks : m'.platform.hooks = m.platform.hooks := by
  obtain ⟨_, _, _, _, rfl⟩ := h.same
  rfl

theorem journal {journal : List Event} : m.Alike quiet e { m' with journal } := by
  refine ⟨?_, h.driver, h.progress⟩
  obtain ⟨driver, progress, _, history, rfl⟩ := h.same
  exact ⟨driver, progress, journal, history, rfl⟩

/-- Something more is known of the kernel on one side. -/
theorem onProgress {f : Progress → Progress} :
    m.Alike quiet e (e.onProgress f m') := by
  refine ⟨?_, h.driver, fun key hkey => ?_⟩
  · obtain ⟨driver, _, journal, history, rfl⟩ := h.same
    exact ⟨driver, _, journal, history, rfl⟩
  · exact (Assoc.get?_set_of_ne _ _ (Ne.symm hkey)).trans (h.progress key hkey)

end Machine.Alike

/-! ## Machines in step -/

/-- Where no hook waits, the driver handles a call at once. -/
theorem Machine.run_drive [Reentry κ ω] {m : Machine κ ω} {c : Command α}
    (hooks : m.platform.hooks = []) :
    (drive c).run m = ((c.run.run m.platform.driver).1,
      m.handled c.operation (.of (c.run.run m.platform.driver).1)
        (c.run.run m.platform.driver).2) := by
  have hunhooked : m.Unhooked fun _ => true := .of_nil hooks
  have hfire : (Fallible.perform ((fire c.operation).onCutOff (interrupted c.operation)) :
      Drive κ ω Unit).run m = (.ok (.ok ()), m) := by
    apply run_of_leads_ok
    rw [leads_perform, Act.leads_onCutOff, leads_fire hunhooked rfl]
    exact ⟨rfl, rfl⟩
  exact run_bind_of_ok hfire

/-- Since the first two machines, the same was done on the platforms in use of the other two, whose
    drivers are related; what lies aside is as it was, and what is known of kernels. -/
structure Machine.InStep (D : Simulator → Simulator → Prop) (base base' m m' : Machine κ ω) :
    Prop where
  platform : m'.platform = { m.platform with driver := m'.platform.driver }
  driver : D m.platform.driver m'.platform.driver
  hooks : m.platform.hooks = []
  records : m'.remotes = m.remotes ∧ m'.arenas = m.arenas
  left : m.platform.serial = base.platform.serial ∧ m.parked = base.parked ∧
    m.progress = base.progress ∧ m.host = base.host
  right : m'.parked = base'.parked ∧ m'.progress = base'.progress ∧ m'.host = base'.host

namespace Machine.InStep

variable {D : Simulator → Simulator → Prop} {base base' m m' : Machine κ ω} {r : Remote}

section

theorem start (h : m.Alike quiet e m') (hooks : m.platform.hooks = []) :
    InStep (Simulator.Alike quiet) m m' m m' := by
  obtain ⟨_, _, _, _, rfl⟩ := h.same
  exact ⟨rfl, h.driver, hooks, ⟨rfl, rfl⟩, ⟨rfl, rfl, rfl, rfl⟩, rfl, rfl, rfl⟩

variable (h : InStep D base base' m m')

/-- Machines that are alike, and whose drivers may differ in quiet calls only, stay alike. -/
theorem alike {quiet' : Operation → Prop} (h : InStep (Simulator.Alike quiet') base base' m m')
    (hbase : base.Alike quiet e base') (hquiet : ∀ op, quiet' op → quiet op) :
    m.Alike quiet e m' := by
  obtain ⟨-, hparked, hprogress, hhost⟩ := h.left
  obtain ⟨hparked', hprogress', hhost'⟩ := h.right
  refine ⟨⟨m'.platform.driver, m'.progress, m'.journal, m'.history, ?_⟩, h.driver.mono hquiet,
    fun key hkey => ?_⟩
  · obtain ⟨_, _, _, _, hsame⟩ := hbase.same
    rw [hsame] at hparked' hhost'
    rw [← h.platform, hparked.trans hparked'.symm, hhost.trans hhost'.symm, ← h.records.1,
      ← h.records.2]
  · rw [hprogress, hprogress', hbase.progress key hkey]

include h

theorem hooks_right : m'.platform.hooks = [] := by
  rw [h.platform]
  exact h.hooks

theorem serial : m'.platform.serial = m.platform.serial := by
  rw [h.platform]

theorem status : m'.status r = m.status r := by
  rw [Machine.status, h.records.1]
  rfl

theorem known : e.progress m = e.progress base ∧ e.progress m' = e.progress base' := by
  unfold Execution.progress
  rw [h.left.2.2.1, h.right.2.1]
  exact ⟨rfl, rfl⟩

theorem journal {journal journal' : List Event} :
    InStep D base base' { m with journal } { m' with journal := journal' } :=
  { h with }

theorem onStatus {f : RemoteStatus → RemoteStatus} :
    InStep D base base' (m.onStatus r f) (m'.onStatus r f) :=
  { h with records := ⟨by rw [Machine.onStatus, h.status, h.records.1]; rfl, h.records.2⟩ }

theorem closeArena {key : ExecutionKey} :
    InStep D base base' (m.closeArena key) (m'.closeArena key) :=
  { h with records := h.records.imp_right (congrArg (Assoc.erase · key)) }

end

variable [Reentry κ ω] (hD : Simulator.Blind quiet D)

include hD

theorem drive {c : Command α} (hc : Regardless D c.run) :
    (Machine.drive c).Regardless (InStep D base base') := by
  intro m m' h
  obtain ⟨hsame, hrelated, hend⟩ := hc _ _ h.driver
  rw [run_drive h.hooks, run_drive h.hooks_right]
  refine ⟨hsame, { h with platform := ?_, driver := hD.notices (fun _ => []) hrelated }, hend⟩
  rw [handled, putDriver, h.platform]
  rfl

variable (hquery : ¬ quiet .queryEvent)

include hquery

theorem check {op : Operation} {context : Ident .context} {event : Ident .event} :
    (Completion.check op context event).Regardless (InStep D base base') := by
  refine .bind (drive hD (Simulator.queryEvent_regardless hD hquery)) fun status => ?_
  cases status with
  | pending => exact .pure
  | done => exact .pure
  | failed message => exact .throw

theorem wait {w : Waiter} {op : Operation} {context : Ident .context} {event : Ident .event}
    {limit : Option Nat} :
    (Completion.wait w op context event limit).Regardless (InStep D base base') := by
  refine .get fun m m' h => ?_
  have hleft : Completion.pollsLeft m'.platform.driver event =
      Completion.pollsLeft m.platform.driver event := by
    obtain ⟨_, _, _, _, heq⟩ := hD.same h.driver
    rw [heq]
    rfl
  have hclock : ∀ m m' : Machine κ ω, InStep D base base' m m' →
      m'.platform.driver.now = m.platform.driver.now := by
    intro m m' h
    unfold Simulator.now
    rw [hD.counts h.driver _ hquery]
    obtain ⟨_, _, _, _, heq⟩ := hD.same h.driver
    rw [heq]
  rw [hleft]
  exact .wait (fun _ _ _ h => h.journal) hclock (check hD hquery)

theorem copy (hcopy : ¬ quiet .copyMemory) {w : Waiter} {context : Ident .context}
    {source target : Ident .memory} :
    (Completion.copy w context source target).Regardless (InStep D base base') :=
  .bind (drive hD (Simulator.copyMemory_regardless hD hcopy)) fun _ =>
    .bind (wait hD hquery) fun _ => .pure

omit hquery

theorem restore (hmap : ¬ quiet .mapResource) :
    (Memory.restore r).Regardless (InStep D base base') := by
  refine .get fun m m' h => ?_
  rw [h.status]
  split
  · exact .pure
  refine .bind (drive hD (Simulator.mapResource_regardless hD hmap)) fun view => .get fun m m' h => ?_
  have hset : (do
      let home := (← get).platform.serial
      modify (Machine.onStatus r fun s =>
        { s with pitch := view.pitch, link := some ⟨home, view.moves⟩ }) :
      Drive κ ω PUnit).Regardless (InStep D base base') := by
    refine .get fun m m' h => ?_
    rw [h.serial]
    exact .change fun _ _ h => h.onStatus
  rw [h.status]
  dsimp only
  split
  · exact .bind (.change fun _ _ h => h.journal) fun _ => hset
  · exact hset

end Machine.InStep

/-! ## Taking down -/

namespace Execution

open Machine

variable {D : Simulator → Simulator → Prop} {base base' : Machine κ ω} {β γ : Type}
  {first : Option Error}

theorem noting_inStep {act : Task κ ω α} (h : act.Regardless (InStep D base base')) :
    (noting act).Regardless (InStep D base base') := by
  refine .bind (.perform h) fun answer => ?_
  cases answer with
  | ok a => exact .pure
  | error err => exact .bind (.change fun _ _ h => h.journal) fun _ => .throw

/-- Steps that are taken one by one, whatever becomes of each. -/
theorem attemptAll_inStep {step : α → Task κ ω β} {list : List α}
    (h : ∀ x, (step x).Regardless (InStep D base base')) :
    Act.Agree (InStep D base base') False (attemptAll step list first)
      (attemptAll step list first) := by
  induction list generalizing first with
  | nil => exact .pure
  | cons x rest ih =>
    refine .bind (noting_inStep (h x)) fun answer => ?_
    cases answer with
    | ok b => exact .bind ih fun _ => .pure
    | error err => exact ih

variable [Reentry κ ω]

theorem copyOut_inStep {c : CopyRecord} (hcopy : (Completion.copy e.waiter e.context
      c.transientMemory c.remoteMemory).Regardless (InStep D base base')) :
    (copyOut e c).Regardless (InStep D base base') :=
  .bind (.mapError hcopy) fun _ => .get fun _ _ _ => .bind (.change fun _ _ h => h.journal)
    fun _ => .bind (.change fun _ _ h => h.journal) fun _ => .pure

theorem copyAllOut_inStep {list : List CopyRecord}
    (h : ∀ c ∈ list, (copyOut e c).Regardless (InStep D base base')) :
    Act.Agree (InStep D base base') False (copyAllOut e list first) (copyAllOut e list first) := by
  induction list generalizing first with
  | nil => exact .pure
  | cons c rest ih =>
    obtain ⟨hc, hrest⟩ := List.forall_mem_cons.mp h
    refine .bind (Agree.timed (fun _ _ _ h => h.journal) (noting_inStep hc)) fun answer => ?_
    cases answer with
    | ok register => exact .bind (ih hrest) fun _ => .pure
    | error err => exact ih hrest

/-- What an execution holds is given back in step, and with the same answer, as far as that does not
    depend on the number of polls. If the kernel has failed, nothing is copied back. -/
theorem finalize_inStep {failure : Option Error} (hD : Simulator.Blind quiet D)
    (hquiet : ∀ op, op ≠ .queryEvent → op ≠ .freeImage → ¬ quiet op)
    (hquery : failure = none → ¬ quiet .queryEvent) {f : Summary → γ}
    (hf : ∀ remapped copiedOut, f ⟨e.id, (e.progress base').polls, remapped, copiedOut⟩ =
      f ⟨e.id, (e.progress base).polls, remapped, copiedOut⟩) :
    (f <$> finalize e failure).Regardless (InStep D base base') := by
  have hcall : ∀ {α : Type} {c : Command α} {wrap : DriverError → Error}, Regardless D c.run →
      (Machine.driveAs wrap c).Regardless (InStep D base base') := fun hc =>
    .mapError (InStep.drive hD hc)
  unfold finalize
  rw [map_onCutOff]
  refine .onCutOff ?_ fun _ _ h => h.journal
  unfold takeDown
  rw [map_bind]
  refine Agree.get fun m m' h => ?_
  -- Both runs have written down the same arena, so they take the same things down.
  have harena : e.arena m' = e.arena m := by
    rw [arena, h.records.2]
    rfl
  rw [harena]
  refine .map_andThen (.perform (copyAllOut_inStep fun c hc => copyOut_inStep ?_)) fun copied => ?_
  · cases failure with
    | none => exact InStep.copy hD (hquery rfl) (hquiet _ nofun nofun)
    | some err => cases hc
  refine .map_andThen (.perform (attemptAll_inStep fun memory =>
    hcall (Simulator.releaseMemory_regardless hD (hquiet _ nofun nofun)))) fun released => ?_
  refine .map_andThen (.perform (.bind (attemptAll_inStep fun _ => hcall
    (Simulator.unloadModule_regardless hD (hquiet _ nofun nofun))) fun _ =>
      .bind (attemptAll_inStep fun _ => hcall
        (Simulator.destroyContext_regardless hD (hquiet _ nofun nofun))) fun _ => .pure))
    fun first => ?_
  refine .map_andThen (.perform (attemptAll_inStep fun t =>
    hcall (Simulator.freeResource_regardless hD (hquiet _ nofun nofun)))) fun freed => ?_
  refine .map_andThen (.perform (attemptAll_inStep fun u => .bind
    (.mapError (InStep.restore hD (hquiet _ nofun nofun))) fun _ =>
      .bind (.change fun _ _ h => h.journal) fun _ => .pure)) fun remapped => ?_
  refine .map_andThen (.forM fun r => .change fun _ _ h => h.onStatus) fun _ => ?_
  refine .map_andThen (.change fun _ _ h => h.closeArena) fun _ => ?_
  rw [map_bind]
  refine Agree.get fun n n' hn => ?_
  refine .map_andThen (.change fun _ _ h => h.journal) fun _ => ?_
  -- The polls are where the summaries may differ.
  rw [hn.known.1, hn.known.2]
  obtain ⟨names, _ | err⟩ := remapped
  · dsimp only
    rw [map_pure, map_pure, hf]
    exact .pure
  · exact fun _ _ ht => ⟨rfl, ht, Or.inr rfl⟩

end Execution

end StreamCompute
