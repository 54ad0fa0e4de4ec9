/-
  StreamCompute.Proofs.CustodyLaunch

  Launching keeps the machine in order. While the registers are bound, the
  execution is at work on an arena that only grows; a step that fails leaves
  an arena that is taken down.
-/
import StreamCompute.Proofs.CustodyOperations

namespace StreamCompute

open Fallible

/-- The second arena holds whatever the first holds. -/
structure Arena.Grows (a a' : Arena) : Prop where
  context : a'.context = a.context
  transients : ∀ t ∈ a.transients, t ∈ a'.transients
  claims : ∀ r ∈ a.claims, r ∈ a'.claims
  shows : ∀ memory resource, a.Shows memory resource → a'.Shows memory resource

namespace Arena.Grows

variable {a a' a'' : Arena}

theorem refl : a.Grows a := ⟨rfl, fun _ h => h, fun _ h => h, fun _ _ h => h⟩

theorem trans (h : a.Grows a') (h' : a'.Grows a'') : a.Grows a'' where
  context := h'.context.trans h.context
  transients t ht := h'.transients t (h.transients t ht)
  claims r hr := h'.claims r (h.claims r hr)
  shows memory resource hs := h'.shows memory resource (h.shows memory resource hs)

theorem grown {x : Acquired} : a.Grows (a.grown x) where
  context := rfl
  transients t ht := by cases x <;> simp [ht]
  claims r hr := by cases x <;> simp [hr]
  shows _ _ hs := Arena.shows_grown.mpr (Or.inl hs)

theorem copying {c : CopyRecord} : a.Grows (a.copying c) :=
  ⟨rfl, fun _ h => h, fun _ h => h, fun _ _ h => h⟩

end Arena.Grows

section Binding

variable {κ ω : Type} [Keeper ω] {allowed : κ → Prop} {g : Holdings} {m : Machine κ ω}
  {site : BindSite} {a : Arena}

/-- The execution is at work at the site on an arena that has grown from `a` and satisfies `P`. -/
def AtWork (allowed : κ → Prop) (g : Holdings) (site : BindSite) (a : Arena) (P : Arena → Prop)
    (m : Machine κ ω) : Prop :=
  ∃ a', a.Grows a' ∧ P a' ∧ InOrder allowed (g.working ⟨site.owner, a', none, none⟩) m

/-- The execution at the site is to be taken down. -/
def Failing (allowed : κ → Prop) (g : Holdings) (site : BindSite) (m : Machine κ ω) : Prop :=
  ∃ a, a.context = site.context ∧ InOrder allowed (g.dropping site.owner a) m

variable [Reentry κ ω] (hooks : Courteous ω allowed)

include hooks

namespace Binder

variable {register : String}

omit [Reentry κ ω] hooks in
/-- Applying entries one after the other keeps the execution at work. -/
theorem forM_leads {entries : List (String × Binding)}
    {step : String × Binding → Task κ ω Unit}
    (hstep : ∀ e a m, a.context = site.context →
      InOrder allowed (g.working ⟨site.owner, a, none, none⟩) m →
      (step e).Leads m (fun _ => AtWork allowed g site a fun _ => True)
        (fun _ => Failing allowed g site) (Broken allowed g))
    (hsite : a.context = site.context)
    (h : InOrder allowed (g.working ⟨site.owner, a, none, none⟩) m) :
    (entries.forM step).Leads m (fun _ => AtWork allowed g site a fun _ => True)
      (fun _ => Failing allowed g site) (Broken allowed g) := by
  induction entries generalizing a m with
  | nil => exact ⟨a, .refl, trivial, h⟩
  | cons e rest ih =>
    rw [leads_forM_cons]
    refine (hstep e a m hsite h).imp fun _ m hm => ?_
    obtain ⟨a', hgrows, -, hm⟩ := hm
    refine (ih (hgrows.context.trans hsite) hm).imp fun _ m hm => ?_
    obtain ⟨a'', hgrows', -, hm⟩ := hm
    exact ⟨a'', hgrows.trans hgrows', trivial, hm⟩

variable (hsite : a.context = site.context)
  (h : InOrder allowed (g.working ⟨site.owner, a, none, none⟩) m)

include hsite h

theorem claim_leads {r : Remote} :
    (claim site register r).Leads m
      (fun _ => AtWork allowed g site a fun a' => r ∈ a'.claims ∧ a'.exposed? = some r.id)
      (fun _ => Failing allowed g site) (Broken allowed g) := by
  unfold claim
  rw [leads_bind]
  refine (Memory.claim_leads h).mono (fun _ m hm => ?_) (fun _ m hm => ⟨a, hsite, hm.falls⟩)
    fun _ hm => hm.part .working
  rw [leads_bind, Binder.acquire, leads_modify, leads_bind,
    leads_mapError]
  have hin : r ∈ (a.grown (.flight r)).claims := by simp
  refine (Memory.withdraw_leads hooks hm.acquired_flight fun m hm => ?_).mono (fun unmapped m hm => ?_)
    (fun _ m hm => ⟨a.grown (.flight r), hsite, hm.falls⟩) fun _ hm => hm.part .working
  · obtain ⟨ha, -⟩ := hm.steady _ List.mem_cons_self
    exact (hm.recorded_of_claimed ha hin).imp fun _ hs => hs.1
  · obtain ⟨hm, status, hr, hlink⟩ := hm
    have hm := hm.settled_claim hr hlink
    split
    · exact ⟨_, .trans .grown .grown, ⟨by simp, Arena.exposed?_grown⟩, hm.acquired_unmapped hin⟩
    · exact ⟨_, .grown, ⟨hin, Arena.exposed?_grown⟩, hm⟩

theorem getMemory_leads {resource : Ident .resource} (howned : a.Owns resource)
    (hexposed : a.exposed? = some resource) :
    (getMemory site register resource).Leads m
      (fun memory => AtWork allowed g site a fun a' => a'.Shows memory resource)
      (fun _ => Failing allowed g site) (Broken allowed g) := by
  unfold getMemory
  rw [leads_bind, Machine.leads_driveAs]
  refine drive_leads hooks h (fun _ hm => hm.part .working) fun m hm => ?_
  refine Simulator.getMemory_leads (fun _ => ⟨a, hsite, hm.handled_refused.falls⟩)
    fun res hres hmapped => ?_
  rw [leads_bind, Binder.acquire, leads_modify]
  refine ⟨_, .grown, Arena.shows_grown.mpr (Or.inr ⟨rfl, hexposed⟩),
    hm.handled_getMemory.acquired_memory ?_ ⟨res, hres, hmapped⟩ howned hexposed⟩
  rw [hsite]
  exact Assoc.get?_set_self ..

theorem allocate_leads {shape : Shape} {format : Format} :
    (allocate site register shape format).Leads m
      (fun resource => AtWork allowed g site a fun a' =>
        a'.Owns resource ∧ a'.exposed? = some resource)
      (fun _ => Failing allowed g site) (Broken allowed g) := by
  unfold allocate
  rw [leads_bind, Machine.leads_driveAs]
  refine (Memory.drive_request_local hooks h).mono (fun id m hm => ?_)
    (fun _ m hm => ⟨a, hsite, hm.falls⟩) fun _ hm => hm.part .working
  rw [leads_bind, Binder.acquire, leads_modify]
  exact ⟨_, .grown, ⟨Or.inl ⟨register, by simp⟩, Arena.exposed?_grown⟩, hm.acquired_transient⟩

theorem bindRegister_leads {memory : Ident .memory} (hmemory : memory ∈ a.memories) :
    (bindRegister site register memory).Leads m
      (fun _ => InOrder allowed (g.working ⟨site.owner, a, none, none⟩))
      (fun _ => Failing allowed g site) (Broken allowed g) := by
  unfold bindRegister
  rw [leads_bind]
  refine (driveAs_keeps hooks rfl _ m h).mono (fun found m hm => ?_)
    (fun _ m hm => ⟨a, hsite, hm.falls⟩) fun _ hm => hm.part .working
  rw [Machine.leads_driveAs]
  refine drive_leads hooks hm (fun _ hm => hm.part .working) fun m hm => ?_
  refine Simulator.bindMemory_leads (fun _ => ⟨a, hsite, hm.handled_refused.falls⟩)
    fun name resource _ _ _ => ?_
  rw [← hsite]
  exact hm.handled_bindMemory hmemory

theorem copyIn_leads {r : Remote} {source target : Ident .memory}
    (hsource : source ∈ a.memories) (htarget : target ∈ a.memories) :
    (copyIn site register r source target).Leads m
      (fun _ => InOrder allowed (g.working ⟨site.owner, a, none, none⟩))
      (fun _ => Failing allowed g site) (Broken allowed g) := by
  unfold copyIn
  rw [leads_timed, leads_bind, leads_mapError, ← hsite]
  refine (Completion.copy_leads hooks h hsource htarget).mono (fun _ m hm => ?_)
    (fun _ m hm => ⟨a, hsite, hm.record.falls⟩) fun _ hm => (hm.part .working).record
  exact hm.record.record

/-- Nothing is asked of the arena but that it has grown. -/
theorem bindDirect_leads {r : Remote} :
    (bindDirect site register r).Leads m
      (fun _ => AtWork allowed g site a fun _ => True)
      (fun _ => Failing allowed g site) (Broken allowed g) := by
  unfold bindDirect
  refine .bind (claim_leads hooks hsite h) fun _ m hm => ?_
  obtain ⟨a₁, h₁, ⟨hclaimed, hexposed⟩, hm⟩ := hm
  have hsite₁ := h₁.context.trans hsite
  refine .bind (getMemory_leads hooks hsite₁ hm (Or.inr ⟨r, hclaimed, rfl⟩) hexposed)
    fun memory m hm => ?_
  obtain ⟨a₂, h₂, hmemory, hm⟩ := hm
  refine .bind (bindRegister_leads hooks (h₂.context.trans hsite₁) hm hmemory.mem) fun _ m hm => ?_
  exact ⟨a₂, h₁.trans h₂, trivial, hm.record⟩

theorem bindScratch_leads {shape : Shape} {format : Format} :
    (bindScratch site register shape format).Leads m
      (fun _ => AtWork allowed g site a fun _ => True)
      (fun _ => Failing allowed g site) (Broken allowed g) := by
  unfold bindScratch
  refine .bind (allocate_leads hooks hsite h) fun _ m hm => ?_
  obtain ⟨a₁, h₁, ⟨howned, hexposed⟩, hm⟩ := hm
  have hsite₁ := h₁.context.trans hsite
  refine .bind (getMemory_leads hooks hsite₁ hm howned hexposed) fun memory m hm => ?_
  obtain ⟨a₂, h₂, hmemory, hm⟩ := hm
  refine .bind (bindRegister_leads hooks (h₂.context.trans hsite₁) hm hmemory.mem) fun _ m hm => ?_
  exact ⟨a₂, h₁.trans h₂, trivial, hm.record⟩

theorem bindCopied_leads {r : Remote} {direction : Direction} :
    (bindCopied site register r direction).Leads m
      (fun _ => AtWork allowed g site a fun _ => True)
      (fun _ => Failing allowed g site) (Broken allowed g) := by
  unfold bindCopied
  refine .bind (claim_leads hooks hsite h) fun _ m hm => ?_
  obtain ⟨a₁, h₁, ⟨hclaimed, hexposed⟩, hm⟩ := hm
  have hsite₁ := h₁.context.trans hsite
  refine .bind (getMemory_leads hooks hsite₁ hm (Or.inr ⟨r, hclaimed, rfl⟩) hexposed)
    fun remoteMemory m hm => ?_
  obtain ⟨a₂, h₂, hremote, hm⟩ := hm
  have hsite₂ := h₂.context.trans hsite₁
  rw [leads_bind, leads_get]
  refine .bind (allocate_leads hooks hsite₂ hm) fun transient m hm => ?_
  obtain ⟨a₃, h₃, ⟨howned, hexposed₃⟩, hm⟩ := hm
  have hsite₃ := h₃.context.trans hsite₂
  refine .bind (getMemory_leads hooks hsite₃ hm howned hexposed₃) fun transientMemory m hm => ?_
  obtain ⟨a₄, h₄, htransient, hm⟩ := hm
  have hsite₄ := h₄.context.trans hsite₃
  have hremote₄ : a₄.Shows remoteMemory r.id := (h₃.trans h₄).shows _ _ hremote
  refine .bind (bindRegister_leads hooks hsite₄ hm htransient.mem) fun _ m hm => ?_
  -- The rest, after the copy if there is one.
  have hrest : ∀ m : Machine κ ω, InOrder allowed (g.working ⟨site.owner, a₄, none, none⟩) m →
      AtWork allowed g site a (fun _ => True) (Machine.onArena site.owner (fun arena =>
        arena.copying { register, remote := r, remoteMemory, transient, transientMemory, direction })
        m) := fun m hm =>
    ⟨a₄.copying { register, remote := r, remoteMemory, transient, transientMemory, direction },
      (((h₁.trans h₂).trans h₃).trans h₄).trans .copying, trivial,
      hm.noted_copy hremote₄ htransient⟩
  split
  · refine .bind (copyIn_leads hooks hsite₄ hm hremote₄.mem htransient.mem) fun _ m hm => ?_
    exact hrest _ hm.record
  · exact hrest _ hm.record

theorem bindAll_leads {conventions : Bool} {entries : List (String × Binding)} :
    (entries.forM (bindEntry site conventions)).Leads m
      (fun _ => AtWork allowed g site a fun _ => True)
      (fun _ => Failing allowed g site) (Broken allowed g) := by
  refine forM_leads (fun e a m hsite h => ?_) hsite h
  obtain ⟨register, binding⟩ := e
  cases binding with
  | copied r direction => exact bindCopied_leads hooks hsite h
  | direct r => exact bindDirect_leads hooks hsite h
  | scratch shape format => exact bindScratch_leads hooks hsite h

end Binder

/-! ## Taking down -/

variable {key : ExecutionKey}

omit [Reentry κ ω] hooks in
/-- Claims of an execution that is being taken down are nobody else's. -/
theorem InOrder.released_of_dropping (h : InOrder allowed (g.dropping key a) m) {r : Remote}
    (hr : r ∈ a.claims) : Released (g.dropping key a) m r := by
  have ha := h.falling _ List.mem_cons_self
  intro key' a' ha' hr'
  have hkey : key' = key := by
    by_cases hne : key = key'
    · exact hne.symm
    · exact absurd hr' ((h.apart key a key' a' ha ha' hne).claims r hr)
  subst hkey
  exact ⟨h.not_working_of_dropping, (g.keys_dropping key' a).mem_iff.mpr List.mem_cons_self⟩

theorem drive_releaseMemory {memory : Ident .memory} :
    (Machine.drive (Simulator.releaseMemory a.context memory) : Drive κ ω _).Stands
      (InOrder allowed (g.dropping key a)) (Broken allowed (g.dropping key a)) := by
  intro m h
  refine drive_leads hooks h (fun _ hm => hm) fun m hm => ?_
  exact Simulator.releaseMemory_leads (fun _ => hm.handled_refused) fun resource hget =>
    hm.handled_releaseMemory hget

theorem drive_destroyContext :
    (Machine.drive (Simulator.destroyContext a.context) : Drive κ ω _).Stands
      (InOrder allowed (g.dropping key a)) (Broken allowed (g.dropping key a)) := by
  intro m h
  refine drive_leads hooks h (fun _ hm => hm) fun m hm => ?_
  exact Simulator.destroyContext_leads (fun _ => hm.handled_refused) hm.handled_destroyContext

theorem drive_freeTransient {t : String × Ident .resource} (ht : t ∈ a.transients) :
    (Machine.drive (Simulator.freeResource t.2) : Drive κ ω _).Stands
      (InOrder allowed (g.dropping key a)) (Broken allowed (g.dropping key a)) := by
  intro m h
  refine drive_leads hooks h (fun _ hm => hm) fun m hm => ?_
  refine Simulator.freeResource_leads (fun _ => hm.handled_refused) fun res hres => ?_
  have ha := hm.falling _ List.mem_cons_self
  refine hm.handled_free_device hres (((hm.entered key a ha).transients t ht).2 res hres)
    fun key' a' hw ha' u hu => ?_
  have hne : key ≠ key' := fun heq => hm.not_working_of_dropping (heq ▸ hw)
  exact ((hm.apart key a key' a' ha ha' hne).transients t ht u hu).symm

theorem restore_dropping {r : Remote} (hr : r ∈ a.claims) :
    (Memory.restore r : Drive κ ω _).Stands (InOrder allowed (g.dropping key a))
      (Broken allowed (g.dropping key a)) := by
  intro m h
  refine Memory.restore_leads hooks h fun m hm => ⟨?_, hm.released_of_dropping hr⟩
  exact (hm.recorded_of_claimed (hm.falling _ List.mem_cons_self) hr).imp fun _ hs => hs.1

/-! ## Giving back -/

omit [Reentry κ ω] hooks in
/-- What was given back leaves the arena, unless it is a claim. -/
theorem InOrder.shrunk {x : Acquired} (h : InOrder allowed (g.dropping key (a.grown x)) m)
    (hx : ∀ r, x ≠ .flight r) :
    InOrder allowed (g.dropping key a) (m.onArena key Arena.shrunk) := by
  have ha := h.falling _ List.mem_cons_self
  have he := h.entered _ _ ha
  have hclaims : (a.grown x).claims = a.claims := by
    cases x with
    | flight r => exact absurd rfl (hx r)
    | unmapped register r => simp
    | memory memory => simp
    | transient register resource => simp
  rw [Machine.onArena_of_get? ha, Arena.shrunk_grown]
  refine h.reshrunk [] rfl (fun ho => (Arena.ordered_grown.mp ho).1) ?_ ?_
    Arena.Grows.grown.transients nofun List.nodup_nil ?_
  · exact Arena.Grows.grown.claims
  · exact hclaims ▸ he.nodup
  · exact fun r hr => Or.inr (hclaims ▸ hr)

omit [Reentry κ ω] hooks in
theorem InOrder.shrunk_flight {r : Remote}
    (h : InOrder allowed (g.dropping key (a.grown (.flight r))) m) :
    InOrder allowed (g.dropping key a) ((Memory.unclaimed r m).onArena key Arena.shrunk) := by
  have ha := h.falling _ List.mem_cons_self
  have he := h.entered _ _ ha
  have hnodup : (a.claims ++ [r]).Nodup := by simpa using he.nodup
  have hshrunk : InOrder allowed ((g.dropping key a).calling r)
      { m with arenas := m.arenas.set key a } := by
    refine h.reshrunk [r] rfl (fun ho => (Arena.ordered_grown.mp ho).1)
      Arena.Grows.grown.claims (List.nodup_append.mp hnodup).1 Arena.Grows.grown.transients ?_
      (by simp) ?_
    · intro r' hr'
      cases List.mem_singleton.mp hr'
      refine ⟨by simp, fun hin => ?_⟩
      exact (List.nodup_append.mp hnodup).2.2 r hin r (by simp) rfl
    · intro r' hr'
      rw [Arena.mem_claims_flight] at hr'
      exact hr'.symm.imp_left List.mem_singleton.mpr
  have hstate : (Memory.unclaimed r m).onArena key Arena.shrunk =
      Memory.unclaimed r { m with arenas := m.arenas.set key a } := by
    rw [Machine.onArena_of_get? (m := Memory.unclaimed r m) ha, Arena.shrunk_grown]
    rfl
  rw [hstate]
  exact hshrunk.unclaimed

theorem giveBackLast_leads {context : Ident .context} (hcontext : a.context = context)
    {x : Acquired} (h : InOrder allowed (g.dropping key (a.grown x)) m) :
    (Arena.giveBackLast key context x).Leads m
      (fun _ => InOrder allowed (g.dropping key a)) (Broken allowed g) := by
  subst hcontext
  unfold Arena.giveBackLast
  rw [Act.leads_bind, leads_attempt]
  have ha := h.falling _ List.mem_cons_self
  cases x with
  | flight r => exact h.shrunk_flight
  | memory memory =>
    refine (drive_releaseMemory hooks m h).mono (fun _ m hm => hm.shrunk nofun) (fun _ m hm => ?_)
      fun _ hm => hm.part .dropping
    exact hm.record.shrunk nofun
  | transient register resource =>
    have ht : (register, resource) ∈ (a.grown (.transient register resource)).transients := by simp
    refine (drive_freeTransient hooks ht m h).mono (fun _ m hm => hm.shrunk nofun) (fun _ m hm => ?_)
      fun _ hm => hm.part .dropping
    exact hm.record.shrunk nofun
  | unmapped register r =>
    have hr : r ∈ (a.grown (.unmapped register r)).claims :=
      Arena.Grows.grown.claims r ((Arena.ordered_grown.mp (h.entered _ _ ha).ordered).2 _ _ rfl)
    refine (restore_dropping hooks hr m h).mono (fun _ m hm => hm.shrunk nofun) (fun _ m hm => ?_)
      fun _ hm => hm.part .dropping
    exact hm.record.shrunk nofun

/-- Everything is given back, the newest first: the arena shrinks to nothing. -/
theorem rollback_leads {context : Ident .context} (hcontext : a.context = context)
    (h : InOrder allowed (g.dropping key a) m) :
    (Arena.rollback key context).Leads m
      (fun _ => InOrder allowed (g.dropping key { a with acquired := [] })) (Broken allowed g) := by
  unfold Arena.rollback
  rw [Act.leads_bind, Act.leads_get, h.falling _ List.mem_cons_self]
  simp only [Option.elim_some]
  obtain ⟨_, acquired, copies⟩ := a
  -- Induction on what is left in the arena; the last thing in it is the next to go.
  generalize hl : acquired.reverse = l
  induction l generalizing acquired m with
  | nil =>
    rw [List.reverse_eq_nil_iff] at hl
    subst hl
    exact h
  | cons x rest ih =>
    rw [List.reverse_eq_cons_iff] at hl
    subst hl
    rw [Act.leads_forM_cons]
    refine (giveBackLast_leads hooks (a := ⟨_, rest.reverse, copies⟩) hcontext h).imp
      fun _ m hm => ?_
    exact ih rest.reverse hcontext hm (by simp)

/-! ## Launching -/

namespace Launch

theorem dropModule_keeps {context : Ident .context} {module : Ident .module} :
    (dropModule context module : Act (Machine κ ω) Unit).Keeps allowed := by
  refine .bind (tryDrive_keeps hooks rfl) fun answer => ?_
  cases answer with
  | ok _ => exact .pure
  | error e => exact .log

theorem dropContext_leads {context : Ident .context} (hcontext : a.context = context)
    (h : InOrder allowed (g.dropping key a) m) :
    (dropContext context).Leads m
      (fun _ => InOrder allowed (g.dropping key a)) (Broken allowed g) := by
  subst hcontext
  unfold dropContext
  rw [Act.leads_bind, Machine.tryDrive, leads_attempt]
  exact (drive_destroyContext hooks m h).mono (fun _ _ hm => hm) (fun _ _ hm => hm.record)
    fun _ hm => hm.part .dropping

/-- A launch that fails leaves nothing behind in the ledger. -/
theorem undo_leads (h : Failing allowed g site m) :
    (undo site : Act (Machine κ ω) Unit).Leads m (fun _ => InOrder allowed g)
      (Broken allowed g) := by
  obtain ⟨a, hcontext, h⟩ := h
  unfold undo
  refine .bind (rollback_leads hooks hcontext h) fun _ m hm => ?_
  rw [Act.leads_bind]
  refine (dropModule_keeps hooks _ m hm).mono (fun _ m hm => ?_) fun _ hm => hm.part .dropping
  refine .bind (dropContext_leads hooks (a := { a with acquired := [] }) hcontext hm)
    fun _ m hm => ?_
  exact hm.closed rfl

theorem openSite_leads (h : InOrder allowed (g.reserve key) m) {image : Image} {d : Device} :
    (openSite key image d).Leads m
      (fun site m' => site.owner = key ∧
        ∃ a, a.context = site.context ∧ InOrder allowed (g.working ⟨key, a, none, none⟩) m')
      (fun _ => InOrder allowed g) (Broken allowed g) := by
  unfold openSite
  rw [leads_bind, leads_get, leads_bind, Machine.leads_driveAs]
  refine drive_leads hooks h (fun _ hm => hm.part .reserve) fun m hm => ?_
  refine Simulator.createContext_leads (fun _ => hm.handled_refused.of_reserve) ?_
  rw [leads_bind, leads_modify, leads_bind, leads_perform,
    Machine.tryDrive, leads_attempt]
  have hnew : ∀ key' b, m.arenas.get? key' = some b →
      (⟨m.platform.driver.nextNumber⟩ : Ident .context) ≠ b.context := fun key' b hb heq => by
    have hlt := (hm.entered key' b hb).context
    rw [← heq] at hlt
    exact Nat.lt_irrefl _ hlt
  refine (drive_calm hooks (Command.calm _ rfl)
    (hm.handled_createContext.opened (Nat.lt_succ_self _) hnew (Assoc.get?_set_self ..))).mono
    (fun module m hm => ?_) (fun e m hm => ?_) fun _ hm => hm.part .working
  · exact ⟨rfl, _, rfl, hm⟩
  · dsimp only
    refine .perform_bind (dropContext_leads hooks rfl hm.falls) fun _ m hm => ?_
    exact hm.closed rfl

theorem submit_leads (hsite : a.context = site.context)
    (h : InOrder allowed (g.working ⟨site.owner, a, none, none⟩) m) {domain : Domain} :
    (submit site domain).Leads m
      (fun _ => InOrder allowed (g.working ⟨site.owner, a, none, none⟩))
      (fun _ => Failing allowed g site) (Broken allowed g) := by
  unfold submit
  rw [leads_bind, leads_get, leads_bind]
  refine (drive_calm hooks (Command.calm _ rfl) h).mono (fun entry m hm => ?_)
    (fun _ _ hm => ⟨a, hsite, hm.falls⟩) fun _ hm => hm.part .working
  rw [← hsite]
  exact (drive_runProgram hooks hm).mono (fun _ _ hm => hm) (fun _ _ hm => ⟨a, hsite, hm.falls⟩)
    fun _ hm => hm.part .working

theorem begin_leads {id : ExecutionId} (h : InOrder allowed (g.reserve (m.platform.serial, id)) m)
    {image : Image} {q : LaunchRequest} :
    (begin id image q).Leads m
      (fun e m' => ∃ a, a.context = e.context ∧ InOrder allowed (g.working ⟨e.key, a, none, none⟩) m')
      (fun _ => InOrder allowed g) (Broken allowed g) := by
  refine leads_begin (F := fun site _ => Failing allowed g site)
    (Q := fun site m' => site.owner = (m.platform.serial, id) ∧
      ∃ a, a.context = site.context ∧ InOrder allowed (g.working ⟨site.owner, a, none, none⟩) m')
    (openSite_leads hooks h) (fun site m₁ ⟨howner, a, hsite, h₁⟩ => ?_)
    (fun site m₂ ⟨howner, a, hsite, h₂⟩ => ?_) fun _ _ _ h₃ => undo_leads hooks h₃
  · rw [← howner] at h₁
    exact (Binder.bindAll_leads hooks hsite h₁).mono
      (fun _ _ ⟨a', hgrows, _, hm⟩ => ⟨howner, a', hgrows.context.trans hsite, hm⟩)
      (fun _ _ ⟨a', hcontext, hm⟩ _ => ⟨a', hcontext, hm.journal⟩) fun _ hm => hm
  · refine (submit_leads hooks hsite h₂).mono (fun _ _ hm _ => ⟨a, hsite, ?_⟩) (fun _ _ hm => hm)
      fun _ hm => hm
    rw [howner] at hm
    exact hm.journal

theorem launch_leads (h : InOrder allowed g m) {image : Image} {q : LaunchRequest} :
    (launch image q : Task κ ω Execution).Leads m
      (fun e m' => ∃ a, a.context = e.context ∧ InOrder allowed (g.working ⟨e.key, a, none, none⟩) m')
      (fun _ => InOrder allowed g) (Broken allowed g) := by
  refine leads_launch (Devices.check_keeps hooks g m h) (fun _ _ hm _ => hm) fun m hm _ => ?_
  exact (begin_leads hooks hm.reserved_next).mono
    (fun _ _ ⟨a, hcontext, hm⟩ _ => ⟨a, hcontext, hm.journal⟩) (fun _ _ hm _ => hm.journal)
    fun _ hm _ => ⟨hm.1.journal, hm.2⟩

end Launch

end Binding

end StreamCompute
