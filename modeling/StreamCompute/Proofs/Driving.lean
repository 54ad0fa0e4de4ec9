/-
  StreamCompute.Proofs.Driving

  Driver calls when nobody interferes. Where no hook waits for an entry point,
  a call of it is what the driver makes of it and nothing else; and polling
  keeps whatever one poll keeps.
-/
import StreamCompute.Launch
import StreamCompute.Proofs.Commands

namespace StreamCompute

open Fallible

theorem Remote.access_eq_ok_iff {r : Remote} {status : RemoteStatus} {link : HostLink} :
    r.access status = .ok link ↔
      status.link = some link ∧ status.inFlight = false ∧ status.freed = false := by
  unfold Remote.access
  cases status.freed <;> cases status.inFlight <;> cases status.link <;> simp

namespace Machine

variable {κ ω α : Type} {m : Machine κ ω} {c : Command α} {ok : α → Machine κ ω → Prop}
  {err : DriverError → Machine κ ω → Prop} {cut : Machine κ ω → Prop}

/-! ## Parts of the state -/

theorem status_of_get? {r : Remote} {status : RemoteStatus}
    (hr : m.remotes.get? r = some status) : m.status r = status := by
  rw [Machine.status, hr, Option.getD_some]

/-- A resource that is not on record counts as freed. -/
theorem recorded_of_not_freed {r : Remote} (h : (m.status r).freed = false) :
    ∃ status, m.remotes.get? r = some status := by
  cases hr : m.remotes.get? r with
  | some status => exact ⟨status, rfl⟩
  | none =>
    rw [Machine.status, hr] at h
    cases h

theorem recorded_of_mapped {r : Remote} (h : (m.status r).mapped = true) :
    m.remotes.get? r = some (m.status r) := by
  cases hr : m.remotes.get? r with
  | some status => rw [status_of_get? hr]
  | none =>
    rw [Machine.status, hr] at h
    cases h

theorem status_onStatus (r r' : Remote) (f : RemoteStatus → RemoteStatus) (m : Machine κ ω) :
    (m.onStatus r f).status r' = if r = r' then f (m.status r') else m.status r' := by
  unfold onStatus status
  rw [Assoc.get?_set]
  split
  · rename_i heq
    rw [heq, Option.getD_some]
  · rfl

theorem onArena_of_get? {key : ExecutionKey} {a : Arena} {f : Arena → Arena}
    (ha : m.arenas.get? key = some a) :
    m.onArena key f = { m with arenas := m.arenas.set key (f a) } := by
  rw [Machine.onArena, ha]

@[simp] theorem platform_onArena {key : ExecutionKey} {f : Arena → Arena} :
    (m.onArena key f).platform = m.platform := by
  unfold onArena
  split <;> rfl

@[simp] theorem remotes_onArena {key : ExecutionKey} {f : Arena → Arena} :
    (m.onArena key f).remotes = m.remotes := by
  unfold onArena
  split <;> rfl

/-- Putting another platform in use changes nothing else. -/
theorem focus_eq (serial : Nat) (m : Machine κ ω) :
    ∃ platform parked, m.focus serial = { m with platform, parked } := by
  unfold focus
  split
  · exact ⟨_, _, rfl⟩
  · split
    · exact ⟨_, _, rfl⟩
    · exact ⟨_, _, rfl⟩

theorem leads_withPlatform {serial : Nat} {act : Act (Machine κ ω) α}
    {ok : α → Machine κ ω → Prop} {cut : Machine κ ω → Prop} :
    (withPlatform serial act).Leads m ok cut ↔
      act.Leads (m.focus serial) (fun a m' => ok a (m'.focus m.platform.serial))
        fun m' => cut (m'.focus m.platform.serial) := by
  unfold withPlatform
  rw [Act.leads_bind, Act.leads_get, Act.leads_bind, Act.leads_modify, Act.leads_ensuring]

/-! ## Calls -/

theorem leads_handle :
    (handle c).Leads m ok err cut ↔
      c.run.Leads m.platform.driver (fun a s => ok a (m.handled c.operation .accepted s))
        (fun e s => err e (m.handled c.operation (.refused e) s))
        (fun s => cut (m.handled c.operation .cutOff s)) := by
  unfold handle
  rw [leads_mk]
  unfold Fallible.Leads Act.Leads
  simp only [ExceptT.run]
  rcases c.run m.platform.driver with ⟨_ | (_ | _), _⟩ <;> exact Iff.rfl

/-- No hook waits for an entry point of this kind. -/
def Unhooked (kind : Operation → Bool) (m : Machine κ ω) : Prop :=
  ∀ hook ∈ m.platform.hooks, kind hook.1 = false

theorem Unhooked.of_nil (h : m.platform.hooks = []) {kind : Operation → Bool} :
    m.Unhooked kind := by
  rw [Unhooked, h]
  exact nofun

variable [Reentry κ ω] {kind : Operation → Bool}

theorem leads_fire (h : m.Unhooked kind) {op : Operation} (hop : kind op = true)
    {ok : Unit → Machine κ ω → Prop} : (fire op).Leads m ok cut ↔ ok () m := by
  have hne : ∀ hook ∈ m.platform.hooks, hook.1 ≠ op := fun hook hin heq => by
    cases (h hook hin).symm.trans (heq ▸ hop)
  have hdue : m.platform.hooks.filter (·.1 == op) = [] := by
    simpa [List.filter_eq_nil_iff] using hne
  have hrest : m.platform.hooks.filter (·.1 != op) = m.platform.hooks := by
    simpa [List.filter_eq_self] using hne
  have hm : m.onPlatform (fun p => { p with hooks := p.hooks.filter (·.1 != op) }) = m := by
    unfold onPlatform
    dsimp only
    rw [hrest]
  unfold fire
  rw [Act.leads_bind, Act.leads_get, Act.leads_bind, Act.leads_modify, hm, hdue,
    Act.leads_forM_nil]

theorem leads_drive (h : m.Unhooked kind) (hop : kind c.operation = true) :
    (drive c).Leads m ok err cut ↔
      c.run.Leads m.platform.driver (fun a s => ok a (m.handled c.operation .accepted s))
        (fun e s => err e (m.handled c.operation (.refused e) s))
        (fun s => cut (m.handled c.operation .cutOff s)) := by
  unfold drive
  rw [leads_bind, leads_perform, Act.leads_onCutOff, leads_fire h hop,
    leads_handle]

theorem leads_driveAs {wrap : DriverError → Error} {err : Error → Machine κ ω → Prop} :
    (driveAs wrap c).Leads m ok err cut ↔ (drive c).Leads m ok (fun e => err (wrap e)) cut :=
  leads_mapError

end Machine

section Polling

variable {σ : Type} [Journaled σ] {s : σ} {w : Waiter} {clock : σ → Nat} {operation : String}
  {check : Fallible DriverError σ Bool} {limit : Option Nat} {started fuel polls : Nat}
  {reported : Option Nat} {err : DriverError → σ → Prop} {cut : σ → Prop}

/-- One poll of a wait. Whatever the clock shows, a pending poll ends the wait under a limit only,
    and does so under a limit of zero; where the wait goes on, it may have been reported as slow. -/
theorem Waiter.leads_pollOn {ok : WaitOutcome → σ → Prop} (hcheck : check.Leads s (fun done s' =>
      if done = true then ∀ e, ok (.completed (polls + 1)) (Journaled.record e s')
      else (limit ≠ none → ok (.timedOut (polls + 1)) s') ∧ (limit ≠ some 0 →
        ∀ reported s'', (s'' = s' ∨ ∃ e, s'' = Journaled.record e s') →
          (w.pollOn clock operation check limit started fuel (polls + 1) reported).Leads s''
            ok err cut)) err cut) :
    (w.pollOn clock operation check limit started (fuel + 1) polls reported).Leads s ok err cut := by
  unfold pollOn
  refine .bind hcheck fun done s' hs' => ?_
  rw [leads_bind, leads_get]
  cases done with
  | true => exact hs' _
  | false =>
    obtain ⟨hends, hgoes⟩ := hs'
    rw [if_neg Bool.false_ne_true]
    split
    · rename_i hpassed
      refine hends fun hnone => ?_
      rw [hnone] at hpassed
      cases hpassed
    · rename_i hpassed
      have hzero : limit ≠ some 0 := by
        rintro rfl
        simp at hpassed
      split
      · exact hgoes hzero _ _ (Or.inr ⟨_, rfl⟩)
      · exact hgoes hzero _ _ (Or.inl rfl)

/-- Polling starts with a poll. -/
theorem Waiter.leads_pollOn_congr {s' : σ} {ok : WaitOutcome → σ → Prop}
    (hcheck : ∀ {ok err cut}, check.Leads s ok err cut ↔ check.Leads s' ok err cut) :
    (w.pollOn clock operation check limit started (fuel + 1) polls reported).Leads s ok err cut ↔
      (w.pollOn clock operation check limit started (fuel + 1) polls reported).Leads s' ok err
        cut := by
  unfold pollOn
  rw [leads_bind, leads_bind, hcheck]

/-- Polling keeps what one poll keeps. -/
theorem Waiter.pollOn_leads {I : σ → Prop} (hrecord : ∀ e s, I s → I (Journaled.record e s))
    (hcheck : ∀ s, I s → check.Leads s (fun _ => I) err cut) (h : I s) :
    (w.pollOn clock operation check limit started fuel polls reported).Leads s (fun _ => I) err
      cut := by
  induction fuel generalizing polls reported s with
  | zero => exact h
  | succ fuel ih =>
    refine leads_pollOn <| (hcheck s h).imp fun done s' hs' => ?_
    split
    · exact fun e => hrecord e s' hs'
    · refine ⟨fun _ => hs', fun _ _ _ hs'' => ih ?_⟩
      obtain rfl | ⟨e, rfl⟩ := hs''
      · exact hs'
      · exact hrecord e s' hs'

theorem Waiter.wait_leads {I : σ → Prop} (hrecord : ∀ e s, I s → I (Journaled.record e s))
    (hcheck : ∀ s, I s → check.Leads s (fun _ => I) err cut) (h : I s) :
    (w.wait clock operation check limit fuel).Leads s (fun _ => I) err cut := by
  unfold wait
  rw [leads_bind, leads_get]
  exact pollOn_leads hrecord hcheck h

end Polling

/-! ## Waiting -/

/-- The second driver is the first after a token of the context was asked. -/
def Simulator.Polled (context : Ident .context) (s s' : Simulator) : Prop :=
  ∃ calls counts tokens, s' = { s with calls, counts, tokens } ∧
    (tokens = s.tokens ∨ ∃ event token pending, s.tokens.get? event = some token ∧
      token.context = context ∧ tokens = s.tokens.set event { token with pending })

namespace Completion

variable {κ ω : Type} [Reentry κ ω] {m : Machine κ ω} {kind : Operation → Bool}
  {I : Machine κ ω → Prop} {context : Ident .context}

theorem check_leads (hkind : kind .queryEvent = true) (hooks : m.Unhooked kind)
    (hpoll : ∀ verdict s, m.platform.driver.Polled context s →
      I (m.handled .queryEvent verdict s)) {op : Operation} {event : Ident .event} :
    (check op context event).Leads m (fun _ => I) (fun _ => I) fun _ => True := by
  unfold check
  rw [leads_bind, Machine.leads_drive hooks hkind]
  refine Simulator.queryEvent_leads (fun e => ?_) (fun token n htoken hc hn => ?_)
    fun token htoken hc hn => ?_
  · exact hpoll _ _ ⟨_, _, _, rfl, Or.inl rfl⟩
  · exact hpoll _ _ ⟨_, _, _, rfl, Or.inr ⟨event, token, n, htoken, hc, rfl⟩⟩
  · have hm : I (m.handled .queryEvent .accepted
        (Simulator.logged (.queryEvent context event) m.platform.driver)) :=
      hpoll _ _ ⟨_, _, _, rfl, Or.inl rfl⟩
    cases token.error with
    | none => exact hm
    | some message => exact hm

/-- Waiting for a token of a context keeps what asking one keeps. -/
theorem wait_leads (hkind : kind .queryEvent = true)
    (hooks : ∀ m, I m → m.Unhooked kind)
    (hjournal : ∀ m journal, I m → I { m with journal })
    (hpoll : ∀ m verdict s, I m → m.platform.driver.Polled context s →
      I (m.handled .queryEvent verdict s)) (h : I m)
    {w : Waiter} {op : Operation} {event : Ident .event} {limit : Option Nat} :
    (wait w op context event limit).Leads m (fun _ => I) (fun _ => I) fun _ => True := by
  unfold wait
  rw [leads_bind, leads_get]
  exact Waiter.wait_leads (fun e s hs => hjournal s _ hs)
    (fun s hs => check_leads hkind (hooks s hs) fun verdict s' => hpoll s verdict s' hs) h

end Completion

/-! ## Taking down -/

namespace Execution

variable {κ ω α β : Type} {m : Machine κ ω} {first : Option Error}
  {P Q : Option Error → Machine κ ω → Prop} {K : Machine κ ω → Prop}

/-- The step leads from one property of the first error to another. If it fails, its error comes
    first unless there was one before. -/
def Carries (P Q : Option Error → Machine κ ω → Prop) (K : Machine κ ω → Prop)
    (step : Task κ ω α) : Prop :=
  ∀ first m, P first m → step.Leads m (fun _ => Q first) (fun err => Q (first.or (some err))) K

theorem Carries.noting (hjournal : ∀ first m journal, Q first m → Q first { m with journal })
    {step : Task κ ω α} (hstep : Carries P Q K step) : Carries P Q K (noting step) := by
  intro first m h
  unfold Execution.noting
  rw [leads_bind, leads_perform, leads_attempt]
  exact (hstep first m h).mono (fun _ _ h => h) (fun _ m' => hjournal _ m' _) fun _ h => h

/-- What taking a step for every item leads to. `I` speaks of the items that are left. -/
theorem leads_attemptAll {I : List α → Option Error → Machine κ ω → Prop}
    (hjournal : ∀ left first m journal, I left first m → I left first { m with journal })
    {step : α → Task κ ω β} {list : List α}
    (hstep : ∀ x ∈ list, ∀ left, Carries (I (x :: left)) (I left) K (step x))
    (h : I list first m) :
    (attemptAll step list first).Leads m (fun answer => I [] answer.2) K := by
  induction list generalizing m first with
  | nil => exact h
  | cons x rest ih =>
    obtain ⟨hx, hrest⟩ := List.forall_mem_cons.mp hstep
    unfold attemptAll
    rw [Act.leads_bind, leads_attempt]
    exact ((hx rest).noting (hjournal rest) first m h).mono
      (fun _ _ h₁ => .bind (ih hrest h₁) fun _ _ h => h) (fun _ _ => ih hrest) fun _ h => h

/-- How far an execution was taken down, with what is left to do at that stage. -/
inductive Stage
  | copying (left : List CopyRecord)
  | releasing (left : List (Ident .memory))
  | unloading
  | destroying
  | freeing (left : List (String × Ident .resource))
  | remapping (left : List (String × Remote))
  | closed

variable [Reentry κ ω]

/-- Taking down an execution that has this arena leads `I` from stage to stage. -/
structure TakesDown (e : Execution) (a : Arena) (I : Stage → Option Error → Machine κ ω → Prop)
    (K : Machine κ ω → Prop) : Prop where
  journal : ∀ stage first m journal, I stage first m → I stage first { m with journal }
  cut : ∀ m journal, K m → K { m with journal }
  copy : ∀ c ∈ a.copies, ∀ left,
    Carries (I (.copying (c :: left))) (I (.copying left)) K (copyOut e c)
  copied : ∀ first m, I (.copying []) first m → I (.releasing a.memories) first m
  release : ∀ memory left, Carries (I (.releasing (memory :: left))) (I (.releasing left)) K
    (Machine.driveAs .execution (Simulator.releaseMemory e.context memory))
  released : ∀ first m, I (.releasing []) first m → I .unloading first m
  unload : Carries (I .unloading) (I .destroying) K
    (Machine.driveAs .execution (Simulator.unloadModule e.context e.module))
  destroy : Carries (I .destroying) (I (.freeing a.transients)) K
    (Machine.driveAs .execution (Simulator.destroyContext e.context))
  free : ∀ t ∈ a.transients, ∀ left, Carries (I (.freeing (t :: left))) (I (.freeing left)) K
    (Machine.driveAs (.binding t.1) (Simulator.freeResource t.2))
  freed : ∀ first m, I (.freeing []) first m → I (.remapping a.unmapped) first m
  remap : ∀ u ∈ a.unmapped, ∀ left,
    Carries (I (.remapping (u :: left))) (I (.remapping left)) K (remap u.1 u.2)
  close : ∀ first m, I (.remapping []) first m → I .closed first
    ((a.claims.foldl (fun m r => Memory.unclaimed r m) m).closeArena e.key)

namespace TakesDown

variable {e : Execution} {a : Arena} {I : Stage → Option Error → Machine κ ω → Prop}
  (hI : TakesDown e a I K)

include hI

theorem copyAllOut {list : List CopyRecord} (hlist : ∀ c ∈ list, c ∈ a.copies)
    (h : I (.copying list) first m) :
    (copyAllOut e list first).Leads m (fun answer => I (.copying []) answer.2) K := by
  induction list generalizing m first with
  | nil => exact h
  | cons c rest ih =>
    obtain ⟨hc, hrest⟩ := List.forall_mem_cons.mp hlist
    unfold Execution.copyAllOut
    rw [Act.leads_bind, leads_attempt, leads_timed]
    exact ((hI.copy c hc rest).noting (hI.journal _) first m h).mono
      (fun _ _ h₁ => .bind (ih hrest (hI.journal _ _ _ _ h₁)) fun _ _ h => h)
      (fun _ _ h₁ => ih hrest (hI.journal _ _ _ _ h₁)) fun _ => hI.cut _ _

/-- A single step that leads from one stage to the next. -/
theorem once {stage next : Stage} {step : Task κ ω α}
    (hstep : Carries (I stage) (I next) K step) (h : I stage first m) :
    (attemptAll (fun _ : Unit => step) [()] first).Leads m (fun answer => I next answer.2) K := by
  unfold attemptAll
  rw [Act.leads_bind, leads_attempt]
  exact (hstep.noting (hI.journal _) first m h).mono (fun _ _ h => h) (fun _ _ h => h) fun _ h => h

/-- What taking everything down leads to. -/
theorem finalize (ha : e.arena m = a) {failure : Option Error}
    (h : I (.copying (if failure.isSome then [] else
      a.copies.filter (·.direction.copiesOut))) failure m) :
    (finalize e failure).Leads m (fun x m' => I .closed none m' ∧ x.polls = (e.progress m').polls)
      (fun err => I .closed (some err)) K := by
  unfold Execution.finalize takeDown dropContext
  rw [leads_mk, Act.leads_onCutOff, leads_run]
  refine Leads.mono ?_ (fun _ _ h => h) (fun _ _ h => h) fun m => hI.cut m _
  rw [leads_bind, leads_get, ha]
  refine .perform_bind (hI.copyAllOut (fun c hc => ?_) h) fun _ m₁ h₁ => ?_
  · split at hc
    · cases hc
    · exact (List.mem_filter.mp hc).1
  refine .perform_bind (leads_attemptAll (I := fun left => I (.releasing left))
    (fun _ => hI.journal _) (fun memory _ => hI.release memory) (hI.copied _ _ h₁))
    fun _ m₂ h₂ => ?_
  refine .perform_bind (.bind (hI.once hI.unload (hI.released _ _ h₂)) fun _ m₃ h₃ =>
    .bind (hI.once hI.destroy h₃) fun _ m₄ h₄ => h₄) fun first m₄ h₄ => ?_
  refine .perform_bind (leads_attemptAll (I := fun left => I (.freeing left))
    (fun _ => hI.journal _) hI.free h₄) fun _ m₅ h₅ => ?_
  refine .perform_bind (leads_attemptAll (I := fun left => I (.remapping left))
    (fun _ => hI.journal _) hI.remap (hI.freed _ _ h₅)) fun remapped m₆ h₆ => ?_
  rw [leads_bind, leads_forM_modify, leads_bind, leads_modify, leads_bind, leads_get, leads_bind,
    leads_log]
  have h₇ := hI.close _ _ h₆
  split
  · rename_i hfirst
    rw [hfirst] at h₇
    exact hI.journal _ _ _ _ h₇
  · rename_i hfirst
    rw [hfirst] at h₇
    exact ⟨hI.journal _ _ _ _ h₇, rfl⟩

omit hI in
/-- What is kept of the first error by every failure of the driver. -/
theorem of_errors {E : Option Error → Prop}
    (hexecution : ∀ first d, E first → E (first.or (some (.execution d))))
    (hbinding : ∀ first register d, E first → E (first.or (some (.binding register d)))) :
    TakesDown e a (fun _ first (_ : Machine κ ω) => E first) fun _ => True := by
  have hwrap {α : Type} {act : Drive κ ω α} {wrap : DriverError → Error}
      (h : ∀ first d, E first → E (first.or (some (wrap d)))) :
      Carries (fun first _ => E first) (fun first _ => E first) (fun _ => True)
        (act.mapError wrap) := fun first m hfirst =>
    leads_mapError.mpr <| leads_true.mono (fun _ _ _ => hfirst) (fun d _ _ => h first d hfirst)
      fun _ h => h
  exact ⟨fun _ _ _ _ h => h, fun _ _ h => h,
    fun _ _ _ first m h => .bind (hwrap hexecution first m h) fun _ _ h => h, fun _ _ h => h,
    fun _ _ => hwrap hexecution, fun _ _ h => h, hwrap hexecution, hwrap hexecution,
    fun t _ _ => hwrap (hbinding · t.1), fun _ _ h => h,
    fun u _ _ first m h => .bind (hwrap (hbinding · u.1) first m h) fun _ _ h => h,
    fun _ _ h => h⟩

end TakesDown

end Execution

/-- What a join leads to. If the kernel is not known to be done it is waited for, and unless that
    times out everything is taken down. -/
theorem Execution.leads_joinWithin {κ ω : Type} [Reentry κ ω] {e : Execution} {limit : Option Nat}
    {m : Machine κ ω} {ok : Option Summary → Machine κ ω → Prop} {err : Error → Machine κ ω → Prop}
    {cut : Machine κ ω → Prop} {Q : WaitOutcome → Machine κ ω → Prop}
    {E : DriverError → Machine κ ω → Prop}
    (hdone : (e.progress m).done = true →
      (e.finalize none).Leads m (fun summary => ok (some summary)) err cut)
    (hawait : (e.await limit).Leads m Q E cut)
    (hcompleted : ∀ polls m', Q (.completed polls) m' → (e.finalize none).Leads
      (e.onProgress (fun p => { polls := p.polls + polls, done := true }) m')
      (fun summary => ok (some summary)) err cut)
    (htimedOut : ∀ polls m' event, Q (.timedOut polls) m' → ok none (Journaled.record event
      (e.onProgress (fun p => { p with polls := p.polls + polls }) m')))
    (hfailed : ∀ d m' event, E d m' → (e.finalize (some (.execution d))).Leads
      (Journaled.record event m') (fun summary => ok (some summary)) err cut) :
    (e.joinWithin limit).Leads m ok err cut := by
  unfold joinWithin
  rw [leads_bind, leads_get]
  split
  · rename_i h
    exact leads_map.mpr (hdone h)
  · rw [leads_bind, leads_perform, leads_attempt]
    refine hawait.mono (fun outcome m' h => ?_) (fun d m' h => ?_) fun _ h => h
    · cases outcome with
      | completed polls =>
        rw [leads_bind, leads_modify, leads_map]
        exact hcompleted polls m' h
      | timedOut polls => exact htimedOut polls m' _ h
    · dsimp only
      rw [leads_bind, leads_log, leads_map]
      exact hfailed d m' _ h

/-- The machine when the execution under way has got its number. -/
def Machine.numbering (m : Machine κ ω) : Machine κ ω :=
  m.onPlatform fun p => { p with nextExecution := p.nextExecution + 1 }

namespace Launch

variable {κ ω : Type} [Reentry κ ω] {image : Image} {q : LaunchRequest} {m : Machine κ ω}
  {ok : Execution → Machine κ ω → Prop} {err : Error → Machine κ ω → Prop}
  {cut : Machine κ ω → Prop}

/-- What a launch leads to, whose device is accepted in a machine that `P` is true of. -/
theorem leads_launch {P : Machine κ ω → Prop}
    (hcheck : (Devices.check q.device).Leads m (fun _ => P) err cut)
    (hrefused : ∀ m₁ e, P m₁ →
      BindingTable.refusal? q.device.info m₁.status q.table.entries [] = some e → err e m₁)
    (hbegin : ∀ m₁, P m₁ →
      BindingTable.refusal? q.device.info m₁.status q.table.entries [] = none →
      (begin ⟨m₁.platform.nextExecution⟩ image q).Leads m₁.numbering
        (fun e m' => ∀ journal, ok e { m' with journal })
        (fun e m' => ∀ journal, err e { m' with journal })
        fun m' => ∀ journal, cut { m' with journal }) :
    (launch image q).Leads m ok err cut := by
  unfold launch preflight nextId
  refine .bind hcheck fun _ m₁ h₁ => ?_
  rw [leads_bind, leads_bind, leads_get]
  split
  · rename_i e he
    exact hrefused m₁ e h₁ he
  · rename_i hnone
    simp only [leads_bind, leads_pure, leads_get, leads_modify, leads_timed]
    exact (hbegin m₁ h₁ hnone).mono (fun _ _ h => h _) (fun _ _ h => h _) fun _ h => h _

end Launch

end StreamCompute
