/-
  StreamCompute.Proofs.Rollback

  Taking a launch down. What was acquired is given back newest first, so each
  step undoes the last step of the setup. As long as every call that cleans up
  is accepted, the machine stays comparable with the one before the launch,
  and in the end there is no difference left; from the first such call that
  fails on, all that matters is that it is in the history.
-/
import StreamCompute.Proofs.Wiring

namespace StreamCompute

open Fallible

/-- The entry points with which a failed launch is taken down. -/
def Operation.cleansUp : Operation → Bool
  | .releaseMemory => true
  | .freeResource => true
  | .mapResource => true
  | .unloadModule => true
  | .destroyContext => true
  | _ => false

variable {κ ω : Type}

/-- A call that was to clean up has failed since. -/
structure Fouled (base m : Machine κ ω) : Prop where
  hooks : m.Unhooked Operation.ofLaunch
  failed : ∃ recent, m.history = recent ++ base.history ∧
    ∃ mo ∈ recent, mo.operation.cleansUp = true ∧ mo.verdict ≠ .accepted

/-- There is no difference left between the two machines that anybody could rely on. -/
structure Restored (base m : Machine κ ω) : Prop where
  driver : base.platform.driver.Same m.platform.driver
  marks : ∀ r, (m.remotes.get? r).map RemoteStatus.marks =
    (base.remotes.get? r).map RemoteStatus.marks
  history : base.history <:+ m.history

/-- The launch was taken down completely, unless cleaning up has failed. -/
def Undone (base m : Machine κ ω) : Prop :=
  Fouled base m ∨ Restored base m

variable {base m : Machine κ ω} {owner : ExecutionKey} {opened opened' : List (Ident .context)}
  {loaded loaded' : List (Ident .module)} {a : Arena} {op : Operation} {verdict : Verdict}
  {s : Simulator} {context : Ident .context} {module : Ident .module}

namespace Fouled

theorem journal (h : Fouled base m) {journal : List Event} : Fouled base { m with journal } :=
  ⟨h.hooks, h.failed⟩

theorem onStatus (h : Fouled base m) {r : Remote} {f : RemoteStatus → RemoteStatus} :
    Fouled base (m.onStatus r f) :=
  ⟨h.hooks, h.failed⟩

theorem onArena (h : Fouled base m) {f : Arena → Arena} : Fouled base (m.onArena owner f) := by
  unfold Machine.onArena
  split
  · exact ⟨h.hooks, h.failed⟩
  · exact h

theorem handled (h : Fouled base m) : Fouled base (m.handled op verdict s) := by
  obtain ⟨recent, hrecent, mo, hmo, hfailed⟩ := h.failed
  exact ⟨h.hooks, _ :: recent, congrArg (List.cons _) hrecent, mo, List.mem_cons_of_mem _ hmo,
    hfailed⟩

end Fouled

namespace Setup

/-- A refused call that was to clean up is in the history. -/
theorem fouled (h : Setup base owner opened loaded a m) (hop : op.cleansUp = true)
    (hverdict : verdict ≠ .accepted) : Fouled base (m.handled op verdict s) := by
  obtain ⟨recent, hrecent⟩ := h.history
  exact ⟨h.hooks, _ :: recent, congrArg (List.cons _) hrecent.symm, _, List.mem_cons_self, hop,
    hverdict⟩

/-- What was acquired last and is neither a claim nor the end of a mapping was given back. -/
theorem returned {x : Acquired} (h : Setup base owner opened loaded (a.grown x) m)
    (hunmapped : (a.grown x).unmapped = a.unmapped) (hclaims : (a.grown x).claims = a.claims)
    (hrun : op ≠ .runProgram)
    (hdriver : Simulator.Extends opened loaded a base.platform.driver s) (hn : s.Numbered)
    (hnext : s.nextNumber = m.platform.driver.nextNumber)
    (hspec : s.spec = m.platform.driver.spec) :
    Setup base owner opened loaded a ((m.handled op verdict s).onArena owner Arena.shrunk) := by
  rw [Machine.onArena_of_get? (m := m.handled op verdict s) h.arena, Arena.shrunk_grown]
  refine h.rewritten hrun hdriver hn (Nat.le_of_eq hnext.symm) hspec
    (fun t ht => h.young t (by simp [ht])) (fun r => ?_) (hclaims ▸ h.recorded)
    (hunmapped ▸ h.withdrawn) (hunmapped ▸ h.once)
  unfold Arena.marks
  rw [hunmapped, hclaims]
  rfl

theorem remapped {register : String} {r : Remote} {f : RemoteStatus → RemoteStatus}
    {journal : List Event}
    (h : Setup base owner opened loaded (a.grown (.unmapped register r)) m)
    (hmapped : ∀ status, (f status).mapped = true)
    (hrest : ∀ status, (f status).inFlight = status.inFlight ∧ (f status).freed = status.freed)
    (hrun : op ≠ .runProgram)
    (hdriver : Simulator.Extends opened loaded a base.platform.driver s) (hn : s.Numbered)
    (hnext : s.nextNumber = m.platform.driver.nextNumber)
    (hspec : s.spec = m.platform.driver.spec) :
    Setup base owner opened loaded a
      ((Machine.onStatus r f { m.handled op verdict s with journal }).onArena owner
        Arena.shrunk) := by
  have hunmapped : (a.grown (.unmapped register r)).unmapped = a.unmapped ++ [(register, r)] := by
    simp
  have hclaims : (a.grown (.unmapped register r)).claims = a.claims := by simp
  obtain ⟨status, hr, -⟩ := h.withdrawn (register, r) (by simp)
  have hstatus : Machine.status { m.handled op verdict s with journal } r = status :=
    Machine.status_of_get? hr
  have honce := h.once
  rw [hunmapped, List.map_append, List.nodup_append] at honce
  -- No other mapping was ended for the same resource.
  have hne : ∀ u ∈ a.unmapped, u.2 ≠ r := fun u hu =>
    honce.2.2 u.2 (List.mem_map_of_mem hu) r (by simp)
  rw [Machine.onArena_of_get? (m := Machine.onStatus r f { m.handled op verdict s with journal })
    h.arena, Machine.onStatus, hstatus, Arena.shrunk_grown]
  refine h.rewritten hrun hdriver hn (Nat.le_of_eq hnext.symm) hspec
    (fun t ht => h.young t (by simp [ht])) (fun r' => ?_) (fun r' hr' => ?_) (fun u hu => ?_) honce.1
  · rw [Assoc.get?_set]
    split
    · rename_i heq
      subst heq
      simp [hr, Arena.marks, hmapped, hrest]
    · rename_i hother
      have hmarks : (a.grown (.unmapped register r)).marks r' = a.marks r' := by
        funext status
        simp [Arena.marks, hother]
      rw [hmarks]
      rfl
  · rw [Assoc.get?_set]
    split
    · exact ⟨_, rfl⟩
    · exact h.recorded r' (hclaims ▸ hr')
  · rw [Assoc.get?_set_of_ne _ _ (hne u hu).symm]
    exact h.withdrawn u (by simp [hu])

theorem unclaimed {r : Remote} (h : Setup base owner opened loaded (a.grown (.flight r)) m) :
    Setup base owner opened loaded a ((Memory.unclaimed r m).onArena owner Arena.shrunk) := by
  have hunmapped : (a.grown (.flight r)).unmapped = a.unmapped := by simp
  -- What is claimed is on record.
  obtain ⟨status, hr⟩ := h.recorded r (by simp)
  rw [Machine.onArena_of_get? (m := Memory.unclaimed r m) h.arena, Memory.unclaimed,
    Machine.onStatus, Machine.status_of_get? hr, Arena.shrunk_grown]
  exact { h with
    driver := Simulator.Extends.flight_iff.mp h.driver
    young := fun t ht => h.young t (by simp [ht])
    marks := fun r' => by
      rw [← h.marks r', Assoc.get?_set]
      split
      · rename_i heq
        subst heq
        simp [hr, Arena.marks, RemoteStatus.mapped]
      · rename_i hne
        have hmarks : (a.grown (.flight r)).marks r' = a.marks r' := by
          funext status
          simp [Arena.marks, Ne.symm hne]
        rw [hmarks]
    recorded := fun r' hr' => by
      rw [Assoc.get?_set]
      split
      · exact ⟨_, rfl⟩
      · exact h.recorded r' (by simp [hr'])
    withdrawn := fun u hu => by
      obtain ⟨old, hold, hlink⟩ := h.withdrawn u (hunmapped.symm ▸ hu)
      rw [Assoc.get?_set]
      split
      · rename_i heq
        cases hr.symm.trans (heq ▸ hold)
        exact ⟨_, rfl, hlink⟩
      · exact ⟨old, hold, hlink⟩
    once := hunmapped ▸ h.once
    arena := Assoc.get?_set_self .. }

/-- Nothing of the launch is left once its contexts, modules and acquisitions are gone. -/
theorem restored (h : Setup base owner [] [] a m) (ha : a.acquired = []) :
    Restored base (m.closeArena owner) where
  driver := h.driver.same ha
  marks r := by
    rw [← h.marks r]
    congr 1
    funext status
    simp [Arena.marks, RemoteStatus.marks, Arena.unmapped, Arena.claims, ha]
  history := h.history

end Setup

/-! ## Calls that clean up -/

/-- The launch is comparable with the machine before it, unless cleaning up has failed. -/
def Falling (base : Machine κ ω) (owner : ExecutionKey) (opened : List (Ident .context))
    (loaded : List (Ident .module)) (a : Arena) (m : Machine κ ω) : Prop :=
  Fouled base m ∨ Setup base owner opened loaded a m

theorem Falling.hooks (h : Falling base owner opened loaded a m) :
    m.Unhooked Operation.ofLaunch :=
  h.elim Fouled.hooks Setup.hooks

variable [Reentry κ ω]

/-- A call that cleans up either does what it does to a launch that is being taken down, or
    its failure is in the history. -/
theorem Machine.drive_falling {α : Type} {c : Command α} {ok : Machine κ ω → Prop}
    (h : Falling base owner opened loaded a m) (hop : c.operation.ofLaunch = true)
    (hclean : c.operation.cleansUp = true)
    (hcall : Setup base owner opened loaded a m → c.run.Leads m.platform.driver
      (fun _ s => ok (m.handled c.operation .accepted s)) (fun _ _ => True) fun _ => True) :
    (Machine.drive c).Leads m (fun _ m' => Fouled base m' ∨ ok m') (fun _ => Fouled base)
      fun _ => True := by
  rw [Machine.leads_drive h.hooks hop]
  rcases h with hfouled | hsetup
  · exact leads_true.mono (fun _ _ _ => Or.inl hfouled.handled)
      (fun _ _ _ => hfouled.handled) fun _ _ => trivial
  · exact (hcall hsetup).mono (fun _ _ hs => Or.inr hs)
      (fun _ _ _ => hsetup.fouled hclean nofun) fun _ _ => trivial

/-- Mapping again the resource whose mapping was ended last. -/
theorem Memory.restore_falling {register : String} {r : Remote}
    (h : Falling base owner opened loaded (a.grown (.unmapped register r)) m) :
    (restore r).Leads m
      (fun _ m' => Fouled base m' ∨
        Setup base owner opened loaded a (m'.onArena owner Arena.shrunk))
      (fun _ => Fouled base) fun _ => True := by
  unfold restore
  rw [leads_bind, leads_get]
  split
  · rename_i hmapped
    refine Or.inl (h.resolve_right fun hs => ?_)
    obtain ⟨status, hr, hlink⟩ := hs.withdrawn (register, r) (by simp)
    rw [Machine.status_of_get? hr] at hmapped
    cases hmapped.symm.trans (congrArg Option.isSome hlink)
  · have hdrive : (Machine.drive (Simulator.mapResource r.id)).Leads m
        (fun _ m' => Fouled base m' ∨ ∀ f journal, (∀ status, (f status).mapped = true) →
          (∀ status, (f status).inFlight = status.inFlight ∧ (f status).freed = status.freed) →
          Setup base owner opened loaded a
            ((Machine.onStatus r f { m' with journal }).onArena owner Arena.shrunk))
        (fun _ => Fouled base) fun _ => True := by
      refine Machine.drive_falling h rfl rfl fun hs => ?_
      refine Simulator.mapResource_leads (fun _ => trivial) fun res moves notices hres _ _ => ?_
      intro f journal hmapped hrest
      exact hs.remapped hmapped hrest nofun { hs.driver.mapResource hs.numbered hres with }
        { hs.numbered with
          resources := hs.numbered.resources.reset hres } rfl rfl
    rw [leads_bind]
    refine hdrive.mono (fun view m' hm' => ?_) (fun _ _ hm' => hm') fun _ hm' => hm'
    rw [leads_bind, leads_get]
    dsimp only
    split
    · exact hm'.imp (fun hf => hf.journal.onStatus) fun hs =>
        hs _ _ (fun _ => rfl) fun _ => ⟨rfl, rfl⟩
    · exact hm'.imp (fun hf => hf.onStatus) fun hs =>
        hs _ m'.journal (fun _ => rfl) fun _ => ⟨rfl, rfl⟩

namespace Arena

/-- Giving back what was acquired last. The arena is shortened afterwards. -/
theorem giveBack_falling {x : Acquired} (hin : context ∈ opened)
    (h : Falling base owner opened loaded (a.grown x) m) :
    (giveBack context x).Leads m
      (fun _ m' => Fouled base m' ∨
        Setup base owner opened loaded a (m'.onArena owner shrunk))
      (fun _ => Fouled base) fun _ => True := by
  cases x with
  | memory memory =>
    refine Machine.drive_falling h rfl rfl fun hs => ?_
    refine Simulator.releaseMemory_leads (fun _ => trivial) fun resource hmemory => ?_
    exact hs.returned (by simp) (by simp) nofun { hs.driver.releaseMemory hin with }
      { hs.numbered with memories := hs.numbered.memories.erase, bindings := hs.numbered.unbound }
      rfl rfl
  | transient register resource =>
    refine Machine.drive_falling h rfl rfl fun hs => ?_
    refine Simulator.freeResource_leads (fun _ => trivial) fun res hres => ?_
    exact hs.returned (by simp) (by simp) nofun { hs.driver.freeResource with }
      { hs.numbered with resources := hs.numbered.resources.erase } rfl rfl
  | unmapped register r => exact Memory.restore_falling h
  | flight r =>
    exact h.imp (fun hf => hf.onStatus) fun hs => hs.unclaimed

/-- Giving back what was acquired last, whatever the driver says. -/
theorem giveBackLast_falling {x : Acquired} (hin : context ∈ opened)
    (h : Falling base owner opened loaded (a.grown x) m) :
    (giveBackLast owner context x).Leads m
      (fun _ => Falling base owner opened loaded a) fun _ => True := by
  unfold giveBackLast
  rw [Act.leads_bind, leads_attempt]
  refine (giveBack_falling hin h).mono (fun _ m' hm' => ?_) (fun e m' hm' => ?_)
    fun _ _ => trivial
  · exact hm'.imp (fun hf => hf.onArena) id
  · exact Or.inl (Fouled.journal hm').onArena

/-- The loop: each round undoes what was acquired last. -/
theorem forM_giveBackLast_falling (hin : context ∈ opened) {list : List Acquired}
    (h : Falling base owner opened loaded a m) (ha : a.acquired = list.reverse) :
    (list.forM (giveBackLast owner context)).Leads m
      (fun _ => Falling base owner opened loaded { a with acquired := [] }) fun _ => True := by
  induction list generalizing a m with
  | nil =>
    rw [Act.leads_forM_nil, ← show a.acquired = [] from ha]
    exact h
  | cons x rest ih =>
    have hgrown : a = ({ a with acquired := rest.reverse } : Arena).grown x := by
      simp [grown, ← ha, ← List.reverse_cons]
    rw [Act.leads_forM_cons]
    refine (giveBackLast_falling hin (hgrown ▸ h)).mono (fun _ m' hm' => ?_) fun _ hm' => hm'
    exact ih (a := { a with acquired := rest.reverse }) hm' rfl

theorem rollback_falling (hin : context ∈ opened) (h : Setup base owner opened loaded a m) :
    (rollback owner context).Leads m
      (fun _ => Falling base owner opened loaded { a with acquired := [] }) fun _ => True := by
  unfold rollback
  rw [Act.leads_bind, Act.leads_get, h.arena]
  exact forM_giveBackLast_falling hin (Or.inr h) (List.reverse_reverse _).symm

end Arena

namespace Launch

theorem dropModule_falling (h : Falling base owner opened [module] a m) :
    (dropModule context module).Leads m (fun _ => Falling base owner opened [] a)
      fun _ => True := by
  have hdrive : (Machine.drive (Simulator.unloadModule context module)).Leads m
      (fun _ => Falling base owner opened [] a) (fun _ => Fouled base) fun _ => True := by
    refine Machine.drive_falling h rfl rfl fun hs => ?_
    refine Simulator.unloadModule_leads (fun _ => trivial) ?_
    exact hs.handled (Or.inl nofun) { hs.driver.unloadModule with }
      { hs.numbered.unloadModule with } (Nat.le_refl _) hs.contexts rfl
  unfold dropModule Machine.tryDrive
  rw [Act.leads_bind, leads_attempt]
  exact hdrive.mono (fun _ _ hm' => hm') (fun _ _ hm' => Or.inl hm'.journal) fun _ hm' => hm'

theorem dropContext_falling (h : Falling base owner [context] [] a m) :
    (dropContext context).Leads m (fun _ => Falling base owner [] [] a) fun _ => True := by
  have hdrive : (Machine.drive (Simulator.destroyContext context)).Leads m
      (fun _ => Falling base owner [] [] a) (fun _ => Fouled base) fun _ => True := by
    refine Machine.drive_falling h rfl rfl fun hs => ?_
    refine Simulator.destroyContext_leads (fun _ => trivial) ?_
    exact hs.handled (Or.inl nofun) { hs.driver.destroyContext with }
      { hs.numbered.destroyContext with } (Nat.le_refl _) nofun rfl
  unfold dropContext Machine.tryDrive
  rw [Act.leads_bind, leads_attempt]
  exact hdrive.mono (fun _ _ hm' => hm') (fun _ _ hm' => Or.inl hm'.journal) fun _ hm' => hm'

/-- A launch that has stopped in the middle is taken down. -/
theorem undo_undone {site : BindSite} (h : Halted base site m) :
    (undo site).Leads m (fun _ => Undone base) fun _ => True := by
  obtain ⟨a, h⟩ := h
  unfold undo
  refine .bind (Arena.rollback_falling List.mem_cons_self h) fun _ m₁ h₁ => ?_
  refine .bind (dropModule_falling h₁) fun _ m₂ h₂ => ?_
  refine .bind (dropContext_falling h₂) fun _ m₃ h₃ => ?_
  exact h₃.imp (fun hf => ⟨hf.hooks, hf.failed⟩) fun hs => hs.restored rfl

end Launch

end StreamCompute
