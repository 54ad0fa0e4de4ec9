/-
  StreamCompute.Proofs.BindingTrace

  The calls with which a table is bound. Every step of the binder comes with
  its trace, whether it succeeds or fails: a claim and its mapping, a memory
  object, a resource in device memory, a register, a copy that is awaited. The
  steps of an entry are put together, and then the entries of the table.
-/
import StreamCompute.Proofs.LaunchTrace

namespace StreamCompute

open Fallible

variable {κ ω : Type} {base m m' m'' : Machine κ ω} {site : BindSite} {a a' a'' : Arena}

/-! ## Steps of the binder -/

theorem Operation.cleansUp_allocate (place : Placement) (layout : Layout) :
    (Operation.allocate place layout).cleansUp = false := by
  cases place <;> cases layout <;> rfl

theorem Operation.allocate_ne_copyMemory (place : Placement) (layout : Layout) :
    Operation.allocate place layout ≠ .copyMemory := by
  cases place <;> cases layout <;> nofun

namespace Binder

variable [Reentry κ ω] {register : String} {r : Remote}

section

variable (h : Underway base site a m)

include h

theorem withdraw_trace :
    (do if ← (Memory.withdraw r).mapError (.binding register) then
          acquire site (.unmapped register r) : Task κ ω Unit).Leads m
      (fun _ m' => ∃ a', Advanced site a m [] [] [] a' m')
      (fun _ m' => ∃ a', Stopped site a m [] a' m') fun _ => True := by
  unfold Memory.withdraw acquire
  rw [leads_bind, leads_mapError, leads_bind, leads_get]
  split
  · rw [leads_bind]
    refine Machine.drive_leads_logged h.hooks rfl (Command.logs rfl)
      leads_true (fun _ s _ hcalls => ?_) fun e s _ _ => ?_
    · have htook : Took site a m [.unmapped register r] [] [m.moment .unmapResource .accepted s]
          (a.grown (.unmapped register r)) _ :=
        .grown ((m.handled .unmapResource .accepted s).onStatus r fun s => { s with link := none })
          rfl h.arena
          (by simp [Acquired.release?, Machine.release?_moment hcalls, Call.release?])
          (by simp [Machine.moment, Operation.cleansUp])
      exact ⟨_, .of_took htook (by simp [Machine.moment])⟩
    · exact ⟨a, .call h ⟨rfl, nofun⟩ nofun⟩
  · exact ⟨a, .refl h⟩

theorem claim_trace :
    (claim site register r).Leads m (fun _ m' => ∃ a', Advanced site a m [r] [] [] a' m')
      (fun _ m' => ∃ a', Stopped site a m [] a' m') fun _ => True := by
  unfold claim Memory.claim
  rw [leads_bind, leads_bind, leads_get]
  split
  · exact ⟨a, .refl h⟩
  · rename_i hnone
    obtain ⟨hfreed, hflight⟩ := Remote.claimable_of_refusal?_eq_none hnone
    have hclaimed := h.claimed hfreed hflight
    have htook : Took site a m [.flight r] [] [] (a.grown (.flight r)) _ :=
      .grown (m.onStatus r fun s => { s with inFlight := true }) rfl h.arena rfl
        (List.forall_mem_nil _)
    have hadvanced : Advanced site a m [r] [] [] (a.grown (.flight r)) _ :=
      .of_took htook (List.forall_mem_nil _)
    refine (withdraw_trace hclaimed).mono (fun _ m' ⟨a', hm'⟩ => ⟨a', hadvanced.trans hm'⟩)
      (fun _ m' ⟨a', hm'⟩ => ⟨a', hadvanced.stopped hm'⟩) fun _ hm => hm

theorem claim_advances :
    (claim site register r).Leads m
      (fun _ m' => ∃ a', Reached base site a' m m' ∧ Advanced site a m [r] [] [] a' m')
      (fun _ => HaltedAfter base site a m []) fun _ => True := by
  refine ((claim_reached h).and (claim_trace h)).mono ?_ ?_ fun _ _ => trivial
  · rintro _ m' ⟨⟨b, -, hb⟩, a', ha'⟩
    exact ⟨a', { hb with setup := ha'.underway hb.halted }, ha'⟩
  · rintro _ m' ⟨hb, a', ha'⟩
    exact ⟨a', ha'.underway hb, ha'⟩

theorem getMemory_trace {resource : Ident .resource} :
    (getMemory site register resource).Leads m
      (fun memory => Advanced site a m [] [] [] (a.grown (.memory memory)))
      (fun _ => Stopped site a m [] a) fun _ => True := by
  unfold getMemory acquire
  rw [leads_bind, Machine.leads_driveAs]
  refine Machine.drive_leads_logged h.hooks rfl (Command.logs rfl)
    (P := fun memory _ => memory = ⟨m.platform.driver.nextNumber⟩) (Q := fun _ _ => True)
    (Simulator.getMemory_leads (fun _ => trivial) fun _ _ _ => rfl)
    (fun memory s hmemory hcalls => ?_) fun e s _ _ => ?_
  · subst hmemory
    have htook : Took site a m [.memory ⟨m.platform.driver.nextNumber⟩] []
        [m.moment .getMemory .accepted s] (a.grown (.memory ⟨m.platform.driver.nextNumber⟩)) _ :=
      .grown (m.handled .getMemory .accepted s) rfl h.arena
        (by simp [Acquired.release?, Machine.release?_moment hcalls, Call.release?])
        (by simp [Machine.moment, Operation.cleansUp])
    exact .of_took htook (by simp [Machine.moment])
  · exact .call h ⟨rfl, nofun⟩ nofun

theorem getMemory_advances {resource : Ident .resource} :
    (getMemory site register resource).Leads m
      (fun memory m' => (Reached base site (a.grown (.memory memory)) m m' ∧
        m'.platform.driver.memories.get? memory = some (site.context, resource)) ∧
        Advanced site a m [] [] [] (a.grown (.memory memory)) m')
      (fun _ => HaltedAfter base site a m []) fun _ => True :=
  ((getMemory_reached h).and (getMemory_trace h)).mono (fun _ _ hm => hm)
    (fun _ _ hm => ⟨a, hm.2.underway hm.1, hm.2⟩) fun _ _ => trivial

theorem allocate_trace {shape : Shape} {format : Format} :
    (allocate site register shape format).Leads m
      (fun resource => Advanced site a m [] [] [] (a.grown (.transient register resource)))
      (fun _ => Stopped site a m [] a) fun _ => True := by
  have hforward : ∀ layout, (Operation.allocate .onDevice layout).cleansUp = false ∧
      Operation.allocate .onDevice layout ≠ .runProgram := fun layout =>
    ⟨Operation.cleansUp_allocate _ _, Operation.allocate_ne_runProgram _ _⟩
  unfold allocate acquire
  rw [leads_bind, Machine.leads_driveAs, Memory.request]
  refine Machine.drive_leads_logged h.hooks (Operation.ofLaunch_allocate _) (Command.logs rfl)
    (P := fun resource _ => resource = ⟨m.platform.driver.nextNumber⟩) (Q := fun _ _ => True)
    (Simulator.allocate_leads (fun _ => trivial) trivial fun _ _ _ => rfl)
    (fun resource s hresource hcalls => ?_) fun e s _ _ => ?_
  · subst hresource
    have htook : Took site a m [.transient register ⟨m.platform.driver.nextNumber⟩] []
        [m.moment (.allocate .onDevice (.ofShape shape)) .accepted s]
        (a.grown (.transient register ⟨m.platform.driver.nextNumber⟩)) _ :=
      .grown (m.handled (.allocate .onDevice (.ofShape shape)) .accepted s) rfl h.arena
        (by simp [Acquired.release?, Machine.release?_moment hcalls, Call.release?])
        (by simpa [Machine.moment] using hforward _)
    exact .of_took htook (by simpa [Machine.moment] using Operation.allocate_ne_copyMemory _ _)
  · exact .call h (hforward _) (Operation.allocate_ne_copyMemory _ _)

theorem allocate_advances {shape : Shape} {format : Format} :
    (allocate site register shape format).Leads m
      (fun resource m' => Reached base site (a.grown (.transient register resource)) m m' ∧
        Advanced site a m [] [] [] (a.grown (.transient register resource)) m')
      (fun _ => HaltedAfter base site a m []) fun _ => True :=
  ((allocate_reached h).and (allocate_trace h)).mono (fun _ _ hm => ⟨hm.1.1, hm.2⟩)
    (fun _ _ hm => ⟨a, hm.2.underway hm.1, hm.2⟩) fun _ _ => trivial

theorem bindRegister_trace {memory : Ident .memory} :
    (bindRegister site register memory).Leads m (fun _ => Advanced site a m [] [] [] a)
      (fun _ => Stopped site a m [] a) fun _ => True := by
  have hfind : (Machine.driveAs (.binding register)
      (Simulator.findRegister site.context site.module register)).Leads m
      (fun _ => Advanced site a m [] [] [] a) (fun _ => Stopped site a m [] a) fun _ => True := by
    rw [Machine.leads_driveAs]
    refine Machine.drive_leads_logged h.hooks rfl (Command.logs rfl) leads_true
      (fun _ s _ hcalls => ?_) fun e s _ _ => .call h ⟨rfl, nofun⟩ nofun
    exact .call h (Machine.release?_moment hcalls) ⟨rfl, nofun⟩ nofun
  unfold bindRegister
  rw [leads_bind]
  refine ((findRegister_reached h).and hfind).mono (fun found m₁ ⟨⟨h₁, _⟩, ht⟩ => ?_)
    (fun _ _ hm => hm.2) fun _ _ => trivial
  rw [Machine.leads_driveAs]
  refine Machine.drive_leads_logged h₁.setup.hooks rfl (Command.logs rfl)
    leads_true (fun _ s _ hcalls => ?_) fun e s _ _ => ?_
  · exact ht.trans (.call h₁.setup (Machine.release?_moment hcalls) ⟨rfl, nofun⟩ nofun)
  · exact ht.stopped (.call h₁.setup ⟨rfl, nofun⟩ nofun)

theorem bindRegister_advances {memory : Ident .memory} :
    (bindRegister site register memory).Leads m
      (fun _ m' => (Underway base site a m' ∧ m.Intact m') ∧ Advanced site a m [] [] [] a m')
      (fun _ => HaltedAfter base site a m []) fun _ => True :=
  ((bindRegister_wires h).and (bindRegister_trace h)).mono
    (fun _ _ hm => ⟨⟨hm.1.1, hm.1.2.1⟩, hm.2⟩) (fun _ _ hm => ⟨a, hm.2.underway hm.1, hm.2⟩)
    fun _ _ => trivial

end

omit [Reentry κ ω] in
theorem took_copy (h : Underway base site a m) {verdict : Verdict} {s : Simulator}
    {src dst : Ident .resource} {asks : List Moment} {event : Ident .event}
    (hcalls : s.calls = .copyMemory site.context src dst :: m.platform.driver.calls)
    (hasks : ∀ mo ∈ asks, mo.Asks site.context event)
    (hm' : (m.handled .copyMemory verdict s).Called asks m') :
    Took site a m [] [] (m.moment .copyMemory verdict s :: asks) a m' := by
  refine .called h (Machine.Called.handled.trans hm') ?_ ?_
  · have hrelease : (m.moment .copyMemory verdict s).release? = none := by
      by_cases hv : verdict = .accepted
      · rw [hv, Machine.release?_moment hcalls]
        rfl
      · exact Moment.release?_of_ne hv
    rw [List.filterMap_cons_none hrelease]
    exact List.filterMap_eq_nil_iff.mpr fun mo hmo => (hasks mo hmo).release?_eq_none
  · refine List.forall_mem_cons.mpr ⟨⟨rfl, nofun⟩, fun mo hmo => ?_⟩
    rw [(hasks mo hmo).1]
    exact ⟨rfl, nofun⟩

theorem copy_trace (h : Underway base site a m) {w : Waiter} {source target : Ident .memory}
    {src dst : Ident .resource}
    (hsource : m.platform.driver.memories.get? source = some (site.context, src))
    (htarget : m.platform.driver.memories.get? target = some (site.context, dst))
    (hmade : a.made dst = true) :
    (Completion.copy w site.context source target).Leads m
      (fun _ => Advanced site a m [] [] [(src, dst)] a) (fun _ => Stopped site a m [src] a)
      fun _ => True := by
  have hmade' : ∀ p ∈ [(src, dst)], a.made p.2 = true := fun p hp =>
    List.mem_singleton.mp hp ▸ hmade
  unfold Completion.copy
  rw [leads_bind]
  refine Machine.drive_leads_logged h.hooks rfl (Simulator.copyMemory_logs hsource htarget)
    (P := fun event _ => event = ⟨m.platform.driver.nextNumber⟩) (Q := fun _ _ => True)
    (Simulator.copyMemory_leads (fun _ _ _ => trivial) fun _ _ _ _ _ _ _ _ => rfl)
    (fun event s hevent hcalls => ?_) fun e s _ hcalls => ?_
  · subst hevent
    rw [leads_bind]
    refine (Completion.wait_asks rfl (by exact h.hooks)).mono
      (fun outcome m' ⟨asks, hm', _, hasks⟩ => ?_) (fun e m' ⟨asks, hm', hasks⟩ => ?_)
      fun _ hm => hm
    · cases outcome with
      | timedOut polls => exact absurd rfl hasks.1
      | completed polls =>
        have hall := Finished.all_ask hasks
        exact ⟨[], _, took_copy h hcalls hall hm', rfl, Machine.copied?_copy hcalls hall, hmade',
          Machine.eachCopy_copy hcalls hall fun _ => ⟨asks, [], (List.append_nil _).symm, hasks⟩⟩
    · have hall := Foundered.all_ask hasks
      refine ⟨[], [], _, took_copy h hcalls hall hm', ?_, ?_,
        Machine.eachCopy_copy hcalls hall fun _ => Or.inr hall⟩
      · rw [Machine.copied?_copy hcalls hall]
        exact List.prefix_refl _
      · rw [Machine.copied?_copy hcalls hall]
        exact hmade'
  -- The copy itself was refused, so there is no token to ask.
  · have hall : ∀ mo ∈ [], Moment.Asks site.context ⟨0⟩ mo := List.forall_mem_nil _
    refine ⟨[], [], _, took_copy h hcalls hall .refl, ?_, ?_, Machine.eachCopy_copy hcalls hall nofun⟩
    · rw [Machine.copied?_copy hcalls hall]
      exact List.prefix_refl _
    · rw [Machine.copied?_copy hcalls hall]
      exact hmade'

theorem copyIn_advances (h : Underway base site a m) {source target : Ident .memory}
    {src dst : Ident .resource}
    (hsource : m.platform.driver.memories.get? source = some (site.context, src))
    (htarget : m.platform.driver.memories.get? target = some (site.context, dst))
    (hmade : a.made dst = true) :
    (copyIn site register r source target).Leads m
      (fun _ m' => Underway base site a m' ∧ Advanced site a m [] [] [(src, dst)] a m')
      (fun _ => HaltedAfter base site a m [src]) fun _ => True := by
  have htrace : (copyIn site register r source target).Leads m
      (fun _ => Advanced site a m [] [] [(src, dst)] a) (fun _ => Stopped site a m [src] a)
      fun _ => True := by
    unfold copyIn
    rw [leads_timed, leads_bind, leads_mapError]
    refine (copy_trace h hsource htarget hmade).mono (fun _ m' hm' => ?_)
      (fun _ _ hm' => hm'.journal) fun _ hm => hm
    rw [leads_bind, leads_get, leads_log]
    exact hm'.journal
  exact ((copyIn_copies h htarget hmade).and htrace).mono (fun _ _ hm => ⟨hm.1.1, hm.2⟩)
    (fun _ _ hm => ⟨a, hm.2.underway hm.1, hm.2⟩) fun _ _ => trivial

end Binder

/-! ## Entries of a table -/

/-- How a register is to be copied. -/
structure CopyPlan where
  register : String
  remote : Remote
  direction : Direction
deriving DecidableEq, Repr

/-- The resource that is copied in, if it is. -/
def CopyPlan.source? (p : CopyPlan) : Option (Ident .resource) :=
  if p.direction.copiesIn then some p.remote.id else none

def CopyRecord.plan (c : CopyRecord) : CopyPlan :=
  ⟨c.register, c.remote, c.direction⟩

/-- How an entry is to be copied, if it is. -/
def Machine.plan? (m : Machine κ ω) : String × Binding → Option CopyPlan
  | (register, .copied r asked) => some ⟨register, r, m.direction register asked⟩
  | _ => none

/-- The resources that the entries copy in. -/
def Machine.copiedIn (m : Machine κ ω) (entries : List (String × Binding)) :
    List (Ident .resource) :=
  (entries.filterMap m.plan?).filterMap CopyPlan.source?

/-- The entries were bound; the calls, claims and notes are those of the entries, and what is
    copied is copied by way of resources made for the launch. -/
def Bound (base : Machine κ ω) (site : BindSite) (a : Arena) (m : Machine κ ω)
    (entries : List (String × Binding)) (m' : Machine κ ω) : Prop :=
  ∃ cs a', Underway base site a' m' ∧
    Advanced site a m (entries.filterMap (·.2.remote?)) cs (incoming cs) a' m' ∧
    cs.map CopyRecord.plan = entries.filterMap base.plan? ∧
    ∀ c ∈ cs, a'.made c.transient = true

theorem map_fst_incoming (cs : List CopyRecord) :
    (incoming cs).map Prod.fst = (cs.map CopyRecord.plan).filterMap CopyPlan.source? := by
  induction cs with
  | nil => rfl
  | cons c rest ih =>
    cases hin : c.direction.copiesIn with
    | true => simpa [incoming, CopyRecord.plan, CopyPlan.source?, hin] using ih
    | false => simpa [incoming, CopyRecord.plan, CopyPlan.source?, hin] using ih

namespace Binder

variable [Reentry κ ω] {register : String} {r : Remote}

variable (h : Underway base site a m)

include h

theorem bindDirect_bound :
    (bindDirect site register r).Leads m (fun _ => Bound base site a m [(register, .direct r)])
      (fun _ => HaltedAfter base site a m []) fun _ => True := by
  unfold bindDirect
  refine .bind (claim_advances h) fun _ m₁ ⟨a₁, h₁, t₁⟩ => ?_
  rw [leads_bind]
  refine (getMemory_advances h₁.setup).mono (fun memory m₂ ⟨⟨h₂, _⟩, t₂⟩ => ?_)
    (fun _ _ hm => t₁.halted hm) fun _ hm => hm
  rw [leads_bind]
  refine (bindRegister_advances h₂.setup).mono (fun _ m₃ ⟨⟨h₃, _⟩, t₃⟩ => ?_)
    (fun _ _ hm => (t₁.trans t₂).halted hm) fun _ hm => hm
  exact ⟨[], _, h₃.journal, ((t₁.trans t₂).trans t₃).journal, rfl, nofun⟩

theorem bindScratch_bound {shape : Shape} {format : Format} :
    (bindScratch site register shape format).Leads m
      (fun _ => Bound base site a m [(register, .scratch shape format)])
      (fun _ => HaltedAfter base site a m []) fun _ => True := by
  unfold bindScratch
  refine .bind (allocate_advances h) fun resource m₁ ⟨h₁, t₁⟩ => ?_
  rw [leads_bind]
  refine (getMemory_advances h₁.setup).mono (fun memory m₂ ⟨⟨h₂, _⟩, t₂⟩ => ?_)
    (fun _ _ hm => t₁.halted hm) fun _ hm => hm
  rw [leads_bind]
  refine (bindRegister_advances h₂.setup).mono (fun _ m₃ ⟨⟨h₃, _⟩, t₃⟩ => ?_)
    (fun _ _ hm => (t₁.trans t₂).halted hm) fun _ hm => hm
  exact ⟨[], _, h₃.journal, ((t₁.trans t₂).trans t₃).journal, rfl, nofun⟩

theorem bindCopied_bound {asked : Option Direction} :
    (bindCopied site register r (base.direction register asked)).Leads m
      (fun _ => Bound base site a m [(register, .copied r asked)])
      (fun _ => HaltedAfter base site a m (base.copiedIn [(register, .copied r asked)]))
      fun _ => True := by
  have hnothing : [] <+: base.copiedIn [(register, .copied r asked)] := List.nil_prefix
  unfold bindCopied
  rw [leads_bind]
  refine (claim_advances h).mono (fun _ m₁ ⟨a₁, h₁, t₁⟩ => ?_) (fun _ _ hm => hm.mono hnothing)
    fun _ hm => hm
  rw [leads_bind]
  refine (getMemory_advances h₁.setup).mono (fun remoteMemory m₂ ⟨⟨h₂, hremote⟩, t₂⟩ => ?_)
    (fun _ _ hm => (t₁.halted hm).mono hnothing) fun _ hm => hm
  rw [leads_bind, leads_get, leads_bind]
  refine (allocate_advances h₂.setup).mono (fun transient m₃ ⟨h₃, t₃⟩ => ?_)
    (fun _ _ hm => ((t₁.trans t₂).halted hm).mono hnothing) fun _ hm => hm
  rw [leads_bind]
  refine (getMemory_advances h₃.setup).mono (fun transientMemory m₄ ⟨⟨h₄, htransient⟩, t₄⟩ => ?_)
    (fun _ _ hm => (((t₁.trans t₂).trans t₃).halted hm).mono hnothing) fun _ hm => hm
  rw [leads_bind]
  refine (bindRegister_advances h₄.setup).mono (fun _ m₅ ⟨⟨h₅, hintact⟩, t₅⟩ => ?_)
    (fun _ _ hm => ((((t₁.trans t₂).trans t₃).trans t₄).halted hm).mono hnothing) fun _ hm => hm
  -- Up to here nothing was copied, so a failure leaves no copy behind.
  have t := (((t₁.trans t₂).trans t₃).trans t₄).trans t₅
  generalize hc : (⟨register, r, remoteMemory, transient, transientMemory,
    base.direction register asked⟩ : CopyRecord) = c
  have hplan : [c].map CopyRecord.plan =
      [(register, Binding.copied r asked)].filterMap base.plan? := by
    rw [← hc]
    rfl
  have hmade : (((a₁.grown (.memory remoteMemory)).grown (.transient register transient)).grown
      (.memory transientMemory)).made transient = true := by simp [Arena.made]
  have hcopied : ∀ c' ∈ [c], ((((a₁.grown (.memory remoteMemory)).grown
      (.transient register transient)).grown (.memory transientMemory)).copying c).made
        c'.transient = true := by
    rw [List.forall_mem_singleton, ← hc]
    exact hmade
  split
  · rename_i hin
    have hincoming : incoming [c] = [(r.id, transient)] := by simp [incoming, ← hc, hin]
    have hsource : m₅.platform.driver.memories.get? remoteMemory = some (site.context, r.id) :=
      ((h₃.trans h₄).intact.trans hintact).memories _ _ hremote
    have htarget := hintact.memories _ _ htransient
    rw [leads_bind]
    refine (copyIn_advances h₅ hsource htarget hmade).mono (fun _ m₆ hm₆ => ?_)
      (fun _ _ hm => (t.halted hm).mono ?_) fun _ hm => hm
    · obtain ⟨h₆, t₆⟩ := hm₆
      refine ⟨[c], _, h₆.journal.copying, ?_, hplan, hcopied⟩
      rw [hincoming]
      exact (t.trans t₆).journal.trans (.of_took (.noted h₆.journal) (List.forall_mem_nil _))
    · simp [Machine.copiedIn, Machine.plan?, CopyPlan.source?, hin]
  · rename_i hout
    have hincoming : incoming [c] = [] := by simp [incoming, ← hc, hout]
    refine ⟨[c], _, h₅.journal.copying, ?_, hplan, hcopied⟩
    rw [hincoming]
    exact t.journal.trans (.of_took (.noted h₅.journal) (List.forall_mem_nil _))

theorem bindEntry_bound (e : String × Binding) :
    (bindEntry site base.platform.config.conventions e).Leads m (fun _ => Bound base site a m [e])
      (fun _ => HaltedAfter base site a m (base.copiedIn [e])) fun _ => True := by
  obtain ⟨register, binding⟩ := e
  cases binding with
  | direct r => exact bindDirect_bound h
  | scratch shape format => exact bindScratch_bound h
  | copied r asked => exact bindCopied_bound h

/-- The loop: what the entries bound before it have called comes first. -/
theorem forM_bound {entries : List (String × Binding)} :
    (entries.forM (bindEntry site base.platform.config.conventions)).Leads m
      (fun _ => Bound base site a m entries)
      (fun _ => HaltedAfter base site a m (base.copiedIn entries)) fun _ => True := by
  induction entries generalizing a m with
  | nil => exact ⟨[], a, h, .refl h, rfl, nofun⟩
  | cons e rest ih =>
    -- Induction on the entries. The copies of the first come before those of the rest.
    have hsplit : base.copiedIn (e :: rest) = base.copiedIn [e] ++ base.copiedIn rest := by
      rw [Machine.copiedIn, ← List.singleton_append, List.filterMap_append, List.filterMap_append]
      rfl
    rw [leads_forM_cons]
    refine (bindEntry_bound h e).mono (fun _ m₁ ⟨cs, a₁, h₁, t₁, hplan, hmade⟩ => ?_)
      (fun _ _ hm => hm.mono (hsplit ▸ List.prefix_append _ _)) fun _ hm => hm
    refine (ih h₁).mono
      (fun _ m₂ ⟨cs', a₂, h₂, t₂, hplan', hmade'⟩ => ⟨cs ++ cs', a₂, h₂, ?_, ?_, fun c hc => ?_⟩)
      (fun _ _ hm => ?_) fun _ hm => hm
    · have hincoming : incoming (cs ++ cs') = incoming cs ++ incoming cs' := by
        simp only [incoming, List.filter_append, List.map_append]
      rw [hincoming, ← List.singleton_append, List.filterMap_append]
      exact t₁.trans t₂
    · rw [List.map_append, hplan, hplan', ← List.filterMap_append, List.singleton_append]
    · rcases List.mem_append.mp hc with hc | hc
      · exact t₂.made (hmade c hc)
      · exact hmade' c hc
    · have hfirst : (incoming cs).map Prod.fst = base.copiedIn [e] := by
        rw [map_fst_incoming, hplan, Machine.copiedIn]
      rw [hsplit, ← hfirst]
      exact t₁.halted hm

end Binder

/-- Only copied entries have a plan, and they are bound in the order of the table. -/
theorem BindingTable.filterMap_plan?_ordered (t : BindingTable) :
    t.ordered.filterMap base.plan? = t.entries.filterMap base.plan? := by
  unfold ordered
  rw [List.filterMap_append, List.filterMap_append]
  induction t.entries with
  | nil => rfl
  | cons e rest ih =>
    obtain ⟨register, binding⟩ := e
    cases binding with
    | copied r asked => exact congrArg (List.cons _) ih
    | direct r => exact ih
    | scratch shape format => exact ih

end StreamCompute
