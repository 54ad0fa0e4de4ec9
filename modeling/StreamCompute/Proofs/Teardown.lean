/-
  StreamCompute.Proofs.Teardown

  The calls with which an execution is taken down, where no hook interferes.
  `Swept` lists them: a call is made once for each thing to be given back, in
  the order of the list, and is not skipped because an earlier one has failed.
  Beside the driver, sweeping changes only the marks of remote resources: the
  claims are given back, and only those that are listed may be mapped again.
-/
import StreamCompute.Proofs.LaunchTrace

namespace StreamCompute

open Fallible

variable {κ ω : Type}

/-- From the first machine to the second these calls were made, whatever became of them, and
    all of them clean up. At most the listed remote resources were mapped, and the listed
    claims were given back. -/
structure Swept (calls : List Call) (mapped claims : List Remote) (m m' : Machine κ ω) : Prop where
  trace : ∃ trace : List Moment, m'.history = trace.reverse ++ m.history ∧
    trace.map Moment.call? = calls.map some ∧ ∀ mo ∈ trace, mo.operation.cleansUp = true
  hooks : m'.platform.hooks = m.platform.hooks
  inFlight : ∀ r, (m'.status r).inFlight = ((m.status r).inFlight && r ∉ claims)
  mapped : ∀ r ∉ mapped, (m'.status r).mapped = (m.status r).mapped

variable {calls calls' : List Call} {mapped mapped' claims claims' : List Remote}
  {m m' m'' : Machine κ ω}

namespace Swept

theorem refl : Swept [] [] [] m m where
  trace := ⟨[], rfl, rfl, List.forall_mem_nil _⟩
  hooks := rfl
  inFlight r := by simp
  mapped _ _ := rfl

section

variable (h : Swept calls mapped claims m m')

include h

theorem trans (h' : Swept calls' mapped' claims' m' m'') :
    Swept (calls ++ calls') (mapped ++ mapped') (claims ++ claims') m m'' where
  trace := by
    obtain ⟨trace, hhistory, hcalls, hclean⟩ := h.trace
    obtain ⟨trace', hhistory', hcalls', hclean'⟩ := h'.trace
    refine ⟨trace ++ trace', ?_, ?_, ?_⟩
    · rw [hhistory', hhistory, List.reverse_append, List.append_assoc]
    · rw [List.map_append, List.map_append, hcalls, hcalls']
    · intro mo hmo
      rcases List.mem_append.mp hmo with hmo | hmo
      · exact hclean mo hmo
      · exact hclean' mo hmo
  hooks := h'.hooks.trans h.hooks
  inFlight r := by
    rw [h'.inFlight, h.inFlight]
    simp [Bool.and_assoc]
  mapped r hr := by
    rw [List.mem_append, not_or] at hr
    rw [h'.mapped r hr.2, h.mapped r hr.1]

theorem journal {journal : List Event} :
    Swept calls mapped claims m { m' with journal } :=
  { h with }

theorem arenas {arenas : Assoc ExecutionKey Arena} :
    Swept calls mapped claims m { m' with arenas } :=
  { h with }

theorem onArena {key : ExecutionKey} {f : Arena → Arena} :
    Swept calls mapped claims m (m'.onArena key f) := by
  unfold Machine.onArena
  split
  · exact h.arenas
  · exact h

end

theorem handled {call : Call} {op : Operation} {verdict : Verdict} {s : Simulator}
    (hclean : op.cleansUp = true) (hcall : s.calls = call :: m.platform.driver.calls) :
    Swept [call] [] [] m (m.handled op verdict s) where
  trace := ⟨[m.moment op verdict s], rfl,
    congrArg (fun c => [c]) (Machine.call?_moment hcall), fun mo hmo => by
      cases List.mem_singleton.mp hmo
      exact hclean⟩
  hooks := rfl
  inFlight r := (Bool.and_true _).symm
  mapped _ _ := rfl

/-- A remote resource is mapped again. -/
theorem onStatus (h : Swept calls mapped claims m m') {r : Remote}
    {f : RemoteStatus → RemoteStatus} (hf : ∀ s, (f s).inFlight = s.inFlight) :
    Swept calls (mapped ++ [r]) claims m (m'.onStatus r f) where
  trace := h.trace
  hooks := h.hooks
  inFlight r' := by
    rw [Machine.status_onStatus]
    split
    · rw [hf, h.inFlight]
    · rw [h.inFlight]
  mapped r' hr' := by
    rw [List.mem_append, not_or, List.mem_singleton] at hr'
    rw [Machine.status_onStatus, if_neg (Ne.symm hr'.2), h.mapped r' hr'.1]

theorem unclaimed {r : Remote} : Swept [] [] [r] m (Memory.unclaimed r m) where
  trace := ⟨[], rfl, rfl, List.forall_mem_nil _⟩
  hooks := rfl
  inFlight r' := by
    rw [Memory.unclaimed, Machine.status_onStatus]
    split
    · rename_i heq
      simp [heq]
    · rename_i hne
      simp [Ne.symm hne]
  mapped r' _ := by
    rw [Memory.unclaimed, Machine.status_onStatus]
    split <;> rfl

end Swept

/-- Nothing interferes, and the listed remote resources wait to be mapped again, each of them
    once. -/
structure Withdrawn (rs : List Remote) (m : Machine κ ω) : Prop where
  hooks : m.Unhooked Operation.ofLaunch
  once : rs.Nodup
  unmapped : ∀ r ∈ rs, (m.status r).mapped = false

/-- Those that were mapped in the meantime wait no longer. -/
theorem Withdrawn.swept {rs rs' : List Remote} (h : Withdrawn (rs ++ rs') m)
    (hswept : Swept calls rs claims m m') : Withdrawn rs' m' where
  hooks := by
    unfold Machine.Unhooked
    rw [hswept.hooks]
    exact h.hooks
  once := (List.nodup_append.mp h.once).2.1
  unmapped r hr := by
    have hout : r ∉ rs := fun hin => (List.nodup_append.mp h.once).2.2 r hin r hr rfl
    rw [hswept.mapped r hout]
    exact h.unmapped r (List.mem_append_right _ hr)

section Sweeping

variable [Reentry κ ω]

/-- A call that cleans up is made once, however it ends. -/
theorem Machine.drive_sweeps {α : Type} {c : Command α} {call : Call}
    (hooks : m.Unhooked Operation.ofLaunch) (hop : c.operation.ofLaunch = true)
    (hclean : c.operation.cleansUp = true) (hlogs : c.Logs call m.platform.driver) :
    (Machine.drive c).Leads m (fun _ => Swept [call] [] [] m) (fun _ => Swept [call] [] [] m)
      fun _ => True :=
  Machine.drive_leads_logged hooks hop hlogs leads_true
    (fun _ _ _ hcalls => .handled hclean hcalls) fun _ _ _ hcalls => .handled hclean hcalls

/-- A remote resource that is not mapped is mapped with one call. -/
theorem Memory.restore_sweeps {r : Remote} (hooks : m.Unhooked Operation.ofLaunch)
    (hmapped : (m.status r).mapped = false) :
    (restore r).Leads m (fun _ => Swept [.mapResource r.id] [r] [] m)
      (fun _ => Swept [.mapResource r.id] [r] [] m) fun _ => True := by
  unfold restore
  rw [leads_bind, leads_get, if_neg (by simp [hmapped]), leads_bind]
  refine (Machine.drive_sweeps hooks rfl rfl (Command.logs rfl)).mono
    (fun view m' hm' => ?_) (fun _ m' hm' => ?_) fun _ hm => hm
  · rw [leads_bind, leads_get]
    dsimp only
    split
    · exact hm'.journal.onStatus (by exact fun _ => rfl)
    · exact hm'.onStatus (by exact fun _ => rfl)
  · exact { hm' with mapped := fun r' _ => hm'.mapped r' List.not_mem_nil }

namespace Arena

variable {context : Ident .context} {owner : ExecutionKey}

theorem giveBack_sweeps {x : Acquired}
    (h : Withdrawn (x.unmapped?.toList.map Prod.snd) m) :
    (giveBack context x).Leads m
      (fun _ => Swept (x.release? context).toList (x.unmapped?.toList.map Prod.snd)
        x.claim?.toList m)
      (fun _ => Swept (x.release? context).toList (x.unmapped?.toList.map Prod.snd)
        x.claim?.toList m) fun _ => True := by
  cases x with
  | memory memory => exact Machine.drive_sweeps h.hooks rfl rfl (Command.logs rfl)
  | transient register resource =>
    exact Machine.drive_sweeps h.hooks rfl rfl (Command.logs rfl)
  | unmapped register r => exact Memory.restore_sweeps h.hooks (h.unmapped r List.mem_cons_self)
  | flight r => exact Swept.unclaimed

theorem giveBackLast_sweeps {x : Acquired}
    (h : Withdrawn (x.unmapped?.toList.map Prod.snd) m) :
    (giveBackLast owner context x).Leads m
      (fun _ => Swept (x.release? context).toList (x.unmapped?.toList.map Prod.snd)
        x.claim?.toList m) fun _ => True := by
  unfold giveBackLast
  rw [Act.leads_bind, leads_attempt]
  exact (giveBack_sweeps h).mono (fun _ m' hm' => hm'.onArena)
    (fun e m' hm' => hm'.journal.onArena) fun _ hm => hm

/-- The loop: whatever comes of one round, the next one follows. -/
theorem forM_giveBackLast_sweeps {list : List Acquired}
    (h : Withdrawn ((list.filterMap Acquired.unmapped?).map Prod.snd) m) :
    (list.forM (giveBackLast owner context)).Leads m
      (fun _ => Swept (list.filterMap (Acquired.release? context))
        ((list.filterMap Acquired.unmapped?).map Prod.snd) (list.filterMap Acquired.claim?) m)
      fun _ => True := by
  have hcons : ∀ {β : Type} (f : Acquired → Option β) (x : Acquired) (rest : List Acquired),
      (x :: rest).filterMap f = (f x).toList ++ rest.filterMap f := fun f x rest => by
    rw [List.filterMap_eq_flatMap_toList, List.flatMap_cons, ← List.filterMap_eq_flatMap_toList]
  induction list generalizing m with
  | nil => exact .refl
  | cons x rest ih =>
    simp only [hcons, List.map_append] at h ⊢
    have hfirst : Withdrawn (x.unmapped?.toList.map Prod.snd) m :=
      ⟨h.hooks, (List.nodup_append.mp h.once).1,
        fun r hr => h.unmapped r (List.mem_append_left _ hr)⟩
    rw [Act.leads_forM_cons]
    refine (giveBackLast_sweeps hfirst).imp fun _ m₁ h₁ => ?_
    exact (ih (h.swept h₁)).imp fun _ m₂ h₂ => h₁.trans h₂

/-- Everything that was acquired is given back, the newest first. -/
theorem rollback_sweeps {a : Arena} (harena : m.arenas.get? owner = some a)
    (h : Withdrawn (a.unmapped.map Prod.snd) m) :
    (rollback owner context).Leads m
      (fun _ => Swept (a.acquired.filterMap (Acquired.release? context)).reverse
        (a.unmapped.map Prod.snd).reverse a.claims.reverse m) fun _ => True := by
  have hunmapped : (a.acquired.reverse.filterMap Acquired.unmapped?).map Prod.snd =
      (a.unmapped.map Prod.snd).reverse := by
    rw [List.filterMap_reverse, List.map_reverse, unmapped]
  have hreverse : Withdrawn ((a.acquired.reverse.filterMap Acquired.unmapped?).map Prod.snd) m := by
    rw [hunmapped]
    exact ⟨h.hooks, (List.reverse_perm _).nodup_iff.mpr h.once,
      fun r hr => h.unmapped r (List.mem_reverse.mp hr)⟩
  unfold rollback
  rw [Act.leads_bind, Act.leads_get, harena]
  refine (forM_giveBackLast_sweeps hreverse).imp fun _ m' hm' => ?_
  rw [hunmapped, List.filterMap_reverse, List.filterMap_reverse] at hm'
  exact hm'

end Arena

namespace Launch

variable {context : Ident .context} {module : Ident .module}

theorem dropModule_sweeps (hooks : m.Unhooked Operation.ofLaunch) :
    (dropModule context module).Leads m (fun _ => Swept [.unloadModule context module] [] [] m)
      fun _ => True := by
  unfold dropModule Machine.tryDrive
  rw [Act.leads_bind, leads_attempt]
  exact (Machine.drive_sweeps hooks rfl rfl (Command.logs rfl)).mono
    (fun _ _ hm => hm) (fun _ _ hm => hm.journal) fun _ hm => hm

theorem dropContext_sweeps (hooks : m.Unhooked Operation.ofLaunch) :
    (dropContext context).Leads m (fun _ => Swept [.destroyContext context] [] [] m)
      fun _ => True := by
  unfold dropContext Machine.tryDrive
  rw [Act.leads_bind, leads_attempt]
  exact (Machine.drive_sweeps hooks rfl rfl (Command.logs rfl)).mono
    (fun _ _ hm => hm) (fun _ _ hm => hm.journal) fun _ hm => hm

theorem undo_sweeps {site : BindSite} {a : Arena} (harena : m.arenas.get? site.owner = some a)
    (h : Withdrawn (a.unmapped.map Prod.snd) m) :
    (undo site).Leads m
      (fun _ => Swept ((a.acquired.filterMap (Acquired.release? site.context)).reverse ++
          [.unloadModule site.context site.module, .destroyContext site.context])
        (a.unmapped.map Prod.snd).reverse a.claims.reverse m) fun _ => True := by
  unfold undo
  refine .bind (Arena.rollback_sweeps harena h) fun _ m₁ h₁ => ?_
  have hooks {calls mapped claims} {m' : Machine κ ω} (hm' : Swept calls mapped claims m m') :
      m'.Unhooked Operation.ofLaunch := by
    unfold Machine.Unhooked
    rw [hm'.hooks]
    exact h.hooks
  refine .bind (dropModule_sweeps (hooks h₁)) fun _ m₂ h₂ => ?_
  refine .bind (dropContext_sweeps (hooks (h₁.trans h₂))) fun _ m₃ h₃ => ?_
  have hswept : Swept _ _ _ m (m₃.closeArena site.owner) := ((h₁.trans h₂).trans h₃).arenas
  rw [List.append_nil, List.append_nil, List.append_nil, List.append_nil, List.append_assoc]
    at hswept
  exact hswept

end Launch

end Sweeping

end StreamCompute
