/-
  StreamCompute.Proofs.CustodyArenas

  Changes of the ledger that keep the machine in order: an arena is opened, is
  filled by an execution at work, is emptied by one that is being taken down,
  and is closed. Everything goes through `InOrder.setArena`, which says what a
  changed arena has to satisfy.
-/
import Mathlib.Data.Multiset.Bind
import StreamCompute.Proofs.CustodySteps

namespace StreamCompute

/-! ## The order of an arena -/

namespace Arena

variable {a : Arena} {x : Acquired} {c : CopyRecord}

theorem mem_claims {r : Remote} : r ∈ a.claims ↔ .flight r ∈ a.acquired := by
  unfold claims
  rw [List.mem_filterMap]
  constructor
  · rintro ⟨y, hy, hr⟩
    cases y <;> simp_all
  · exact fun h => ⟨_, h, rfl⟩

theorem mem_unmapped {register : String} {r : Remote} :
    (register, r) ∈ a.unmapped ↔ .unmapped register r ∈ a.acquired := by
  unfold unmapped
  rw [List.mem_filterMap]
  constructor
  · rintro ⟨y, hy, hr⟩
    cases y <;> simp_all
  · exact fun h => ⟨_, h, rfl⟩

theorem mem_transients {register : String} {id : Ident .resource} :
    (register, id) ∈ a.transients ↔ .transient register id ∈ a.acquired := by
  unfold transients
  rw [List.mem_filterMap]
  constructor
  · rintro ⟨y, hy, hr⟩
    cases y <;> simp_all
  · exact fun h => ⟨_, h, rfl⟩

theorem ordered_empty {context : Ident .context} : ({ context } : Arena).Ordered := by
  intro before register r after h
  simp at h

theorem ordered_copying : (a.copying c).Ordered ↔ a.Ordered := Iff.rfl

/-- Order is a matter of each mapping and what stands before it. -/
theorem ordered_grown :
    (a.grown x).Ordered ↔ a.Ordered ∧ ∀ register r, x = .unmapped register r → r ∈ a.claims := by
  constructor
  · intro h
    refine ⟨fun before register r after heq => ?_, fun register r heq => ?_⟩
    · exact h before register r (after ++ [x]) (by simp [grown, heq])
    · exact mem_claims.mpr (h a.acquired register r [] (by rw [← heq]; rfl))
  · rintro ⟨h, hx⟩ before register r after heq
    rcases List.eq_nil_or_concat after with rfl | ⟨init, y, rfl⟩
    · obtain ⟨hb, hlast⟩ := List.append_inj' (heq : a.acquired ++ [x] = _) rfl
      rw [← hb, ← mem_claims]
      exact hx register r (List.singleton_inj.mp hlast)
    · have heq' : a.acquired ++ [x] = (before ++ .unmapped register r :: init) ++ [y] := by
        simpa [grown] using heq
      exact h before register r init (List.append_inj' heq' rfl).1

theorem Ordered.claimed (h : a.Ordered) {register : String} {r : Remote}
    (hr : (register, r) ∈ a.unmapped) : r ∈ a.claims := by
  obtain ⟨before, after, heq⟩ := List.append_of_mem (mem_unmapped.mp hr)
  rw [mem_claims, heq]
  exact List.mem_append_left _ (h before register r after heq)

/-! ## What memory objects are for -/

variable {memory : Ident .memory} {resource : Ident .resource}

theorem exposed?_grown : (a.grown x).exposed? = x.exposes?.or a.exposed? := by
  unfold exposed? grown
  rw [List.reverse_append, List.reverse_singleton, List.singleton_append, List.findSome?_cons]
  cases x.exposes? <;> rfl

/-- A memory object is for what was exposed when it was made. -/
theorem shows_grown :
    (a.grown x).Shows memory resource ↔
      a.Shows memory resource ∨ x = .memory memory ∧ a.exposed? = some resource := by
  constructor
  · rintro ⟨before, after, heq, hexposed⟩
    rcases List.eq_nil_or_concat after with rfl | ⟨init, y, rfl⟩
    · obtain ⟨hb, hlast⟩ := List.append_inj' (heq : a.acquired ++ [x] = _) rfl
      exact Or.inr ⟨List.singleton_inj.mp hlast, by rw [exposed?, hb, hexposed]⟩
    · have heq' : a.acquired ++ [x] = (before ++ .memory memory :: init) ++ [y] := by
        simpa [grown] using heq
      exact Or.inl ⟨before, init, (List.append_inj' heq' rfl).1, hexposed⟩
  · rintro (⟨before, after, heq, hexposed⟩ | ⟨rfl, hexposed⟩)
    · exact ⟨before, after ++ [x], by simp [grown, heq], hexposed⟩
    · exact ⟨a.acquired, [], rfl, hexposed⟩

end Arena

/-- Whatever is acquired besides memory objects leaves those as they are. -/
theorem Sound.shows_grown {memories : Assoc (Ident .memory) (Ident .context × Ident .resource)}
    {bindings : Assoc (Ident .context) (Assoc String (Ident .memory))}
    {resources : Assoc (Ident .resource) Resource} {remotes : Assoc Remote RemoteStatus}
    {a : Arena} {claiming : Option Remote}
    (h : Sound memories bindings resources remotes a claiming) {x : Acquired}
    (hx : x.memory? = none) {memory : Ident .memory} {resource : Ident .resource}
    (hshows : (a.grown x).Shows memory resource) :
    memories.get? memory = some (a.context, resource) := by
  rcases Arena.shows_grown.mp hshows with hshows | ⟨rfl, -⟩
  · exact h.shows memory resource hshows
  · cases hx

theorem Sound.copies_grown {memories : Assoc (Ident .memory) (Ident .context × Ident .resource)}
    {bindings : Assoc (Ident .context) (Assoc String (Ident .memory))}
    {resources : Assoc (Ident .resource) Resource} {remotes : Assoc Remote RemoteStatus}
    {a : Arena} {claiming : Option Remote}
    (h : Sound memories bindings resources remotes a claiming) {x : Acquired} {c : CopyRecord}
    (hc : c ∈ (a.grown x).copies) :
    (a.grown x).Shows c.remoteMemory c.remote.id ∧
      (a.grown x).Shows c.transientMemory c.transient := by
  obtain ⟨hremote, htransient⟩ := h.copies c hc
  exact ⟨Arena.shows_grown.mpr (Or.inl hremote), Arena.shows_grown.mpr (Or.inl htransient)⟩

theorem Apart.symm {a b : Arena} (h : Apart a b) : Apart b a where
  context := h.context.symm
  claims r hb ha := h.claims r ha hb
  transients t ht u hu heq := h.transients u hu t ht heq.symm

/-! ## One changed arena -/

section InOrder

variable {κ ω : Type} [Keeper ω] {allowed : κ → Prop} {g g' : Holdings} {m : Machine κ ω}
  {key : ExecutionKey} {a a' : Arena}

/-- One arena changes, and with it the holdings of the call that changes it. -/
theorem InOrder.setArena (h : InOrder allowed g m)
    (hkey : key.1 = m.platform.serial ∧ key.2.number < m.platform.nextExecution)
    (hentered : Entered m.platform.driver.nextNumber m.platform.driver.resources m.remotes a')
    (hapart : ∀ key' b, m.arenas.get? key' = some b → key ≠ key' → Apart a' b)
    (hreserved : ∀ k ∈ g'.reserved, k ∈ g.reserved ∧ key ≠ k) (hreservedOnce : g'.reserved.Nodup)
    (hcalls : ∀ r ∈ g'.calls,
      (∃ status, m.remotes.get? r = some status ∧ status.inFlight = true) ∧ r ∉ a'.claims ∧
        ∀ key' b, m.arenas.get? key' = some b → key ≠ key' → r ∉ b.claims)
    (hcallsOnce : g'.calls.Nodup)
    (hsteady : ∀ f ∈ g'.steady, (f ∈ g.steady ∧ key ≠ f.key) ∨
      (f.key = key ∧ f.arena = a' ∧ f.token? = none ∧
        SoundOn m.platform.driver m.remotes a' f.claiming))
    (hfalling : ∀ f ∈ g'.falling, (f ∈ g.falling ∧ key ≠ f.1) ∨ f = (key, a'))
    (hheld : ∀ e ∈ Keeper.executions m.host, key ≠ e.key)
    (howners : (g'.keys ++ (Keeper.executions m.host).map Execution.key).Nodup)
    (hlocals : g'.locals.Sublist g.locals)
    (hloose : ∀ id ∈ g'.locals ++ Keeper.locals m.host, ∀ t ∈ a'.transients, t.2 ≠ id)
    (hnewborn : g'.newborn = g.newborn) (hfreed : g'.freed = g.freed)
    (hrunning : g'.running = g.running)
    (htight : ∀ r, (r ∈ g.calls ∨ ∃ a, m.arenas.get? key = some a ∧ r ∈ a.claims) →
      r ∈ g'.calls ∨ r ∈ a'.claims)
    (hown : key ∈ g'.keys) (hkeys : ∀ k, key ≠ k → k ∉ g'.keys → k ∉ g.keys) :
    InOrder allowed g' { m with arenas := m.arenas.set key a' } := by
  have hcases : ∀ k b, (m.arenas.set key a').get? k = some b →
      (key = k ∧ b = a') ∨ (key ≠ k ∧ m.arenas.get? k = some b) := fun _ _ => Assoc.of_get?_set
  have hself : (m.arenas.set key a').get? key = some a' := Assoc.get?_set_self ..
  have hother : ∀ k, key ≠ k → (m.arenas.set key a').get? k = m.arenas.get? k :=
    fun k hk => Assoc.get?_set_of_ne _ _ hk
  -- What speaks of no arena is as before. The rest is shown of the arena that is set, and of the
  -- others, which are as they were.
  exact {
    numbered := h.numbered
    hooks := h.hooks
    safe := h.safe
    keys := fun k b hb => by
      rcases hcases k b hb with ⟨rfl, -⟩ | ⟨-, hb⟩
      · exact hkey
      · exact h.keys k b hb
    records := h.records
    issued := h.issued
    single := h.single
    entered := fun k b hb => by
      rcases hcases k b hb with ⟨-, rfl⟩ | ⟨-, hb⟩
      · exact hentered
      · exact h.entered k b hb
    apart := fun k b k' b' hb hb' hne => by
      rcases hcases k b hb with ⟨rfl, rfl⟩ | ⟨hk, hold⟩ <;>
        rcases hcases k' b' hb' with ⟨rfl, rfl⟩ | ⟨hk', hold'⟩
      · exact absurd rfl hne
      · exact hapart k' b' hold' hk'
      · exact (hapart k b hold hk).symm
      · exact h.apart k b k' b' hold hold' hne
    reserved := fun k hk => by
      obtain ⟨hin, hne⟩ := hreserved k hk
      obtain ⟨h1, h2, h3⟩ := h.reserved k hin
      exact ⟨h1, h2, (hother k hne).trans h3⟩
    reservedOnce := hreservedOnce
    calls := fun r hr => by
      obtain ⟨hrec, hnot, hothers⟩ := hcalls r hr
      refine ⟨hrec, fun k b hb => ?_⟩
      rcases hcases k b hb with ⟨-, rfl⟩ | ⟨hk, hb⟩
      · exact hnot
      · exact hothers k b hb hk
    callsOnce := hcallsOnce
    steady := fun f hf => by
      rcases hsteady f hf with ⟨hin, hne⟩ | ⟨hk, ha, -, hs⟩
      · obtain ⟨hget, hs⟩ := h.steady f hin
        exact ⟨(hother _ hne).trans hget, hs⟩
      · refine ⟨?_, ha ▸ hs⟩
        rw [hk, ha]
        exact hself
    falling := fun f hf => by
      rcases hfalling f hf with ⟨hin, hne⟩ | rfl
      · exact (hother _ hne).trans (h.falling f hin)
      · exact hself
    held := fun e he => by
      obtain ⟨b, hb, hctx, hs⟩ := h.held e he
      exact ⟨b, (hother _ (hheld e he)).trans hb, hctx, hs⟩
    owners := howners
    locals := fun id hid => by
      have hid' : id ∈ g.locals ++ Keeper.locals m.host :=
        (List.Sublist.append hlocals (List.Sublist.refl _)).subset hid
      have hl := h.locals id hid'
      refine ⟨hl.number, hl.place, fun k b hb t ht => ?_⟩
      rcases hcases k b hb with ⟨-, rfl⟩ | ⟨-, hb⟩
      · exact hloose id hid t ht
      · exact hl.unowned k b hb t ht
    localsOnce := (List.Sublist.append hlocals (List.Sublist.refl _)).nodup h.localsOnce
    newborn := hnewborn ▸ h.newborn
    newbornOnce := hnewborn ▸ h.newbornOnce
    freed := hfreed ▸ h.freed
    tight := fun hq r status hs hflight => by
      rcases h.tight hq r status hs hflight with hin | ⟨k, b, hb, hin⟩
      · rcases htight r (Or.inl hin) with hin | hin
        · exact Or.inl hin
        · exact Or.inr ⟨key, a', hself, hin⟩
      · by_cases hk : key = k
        · subst hk
          rcases htight r (Or.inr ⟨b, hb, hin⟩) with hin | hin
          · exact Or.inl hin
          · exact Or.inr ⟨key, a', hself, hin⟩
        · exact Or.inr ⟨k, b, (hother k hk).trans hb, hin⟩
    settled := fun hq k b hb hk r hr status hs => by
      rcases hcases k b hb with ⟨rfl, -⟩ | ⟨hne, hb⟩
      · exact absurd hown hk
      · exact h.settled hq k b hb (hkeys k hne hk) r hr status hs
    running := hrunning ▸ h.running
    progressed := h.progressed
    watched := fun f hf event hevent => by
      rcases hsteady f hf with ⟨hin, -⟩ | ⟨-, -, hnone, -⟩
      · exact h.watched f hin event hevent
      · exact nomatch hnone.symm.trans hevent }

/-! ## Beginnings -/

theorem InOrder.reserved_next (h : InOrder allowed g m) :
    InOrder allowed (g.reserve (m.platform.serial, ⟨m.platform.nextExecution⟩))
      (m.onPlatform fun p => { p with nextExecution := m.platform.nextExecution + 1 }) :=
  { h with
    keys := fun key a ha =>
      ⟨(h.keys key a ha).1, Nat.lt_succ_of_lt (h.keys key a ha).2⟩
    reserved := by
      intro key hkey
      rcases List.mem_cons.mp hkey with rfl | hkey
      · refine ⟨rfl, Nat.lt_succ_self _, ?_⟩
        cases hget : m.arenas.get? (m.platform.serial, ⟨m.platform.nextExecution⟩) with
        | none => exact hget
        | some a => exact absurd (h.keys _ a hget).2 (Nat.lt_irrefl _)
      · obtain ⟨h1, h2, h3⟩ := h.reserved key hkey
        exact ⟨h1, Nat.lt_succ_of_lt h2, h3⟩
    running := fun key hkey => ⟨(h.running key hkey).1, Nat.lt_succ_of_lt (h.running key hkey).2⟩
    progressed := fun key p hp =>
      ⟨(h.progressed key p hp).1, Nat.lt_succ_of_lt (h.progressed key p hp).2⟩
    reservedOnce := by
      refine List.nodup_cons.mpr ⟨fun hin => ?_, h.reservedOnce⟩
      exact Nat.lt_irrefl _ (h.reserved _ hin).2.1 }

/-- A new context belongs to nobody yet. -/
theorem InOrder.handled_createContext (h : InOrder allowed g m) {device : Ident .device} :
    InOrder allowed g (m.handled .createContext .accepted
      { m.platform.driver.logged (.createContext device) with
        nextNumber := m.platform.driver.nextNumber + 1
        contexts := m.platform.driver.contexts.set ⟨m.platform.driver.nextNumber⟩ device
        bindings := m.platform.driver.bindings.set ⟨m.platform.driver.nextNumber⟩ [] }) := by
  have hn := h.numbered
  refine h.handled (Moment.safe_of_logged _ _ rfl rfl fun _ _ => False.elim)
    ⟨{ hn.next with contexts := hn.contexts.set_next, bindings := hn.bindings.set_next },
      Nat.le_succ _, SamePlaces.refl⟩ h.records (fun key a claiming _ ha hs => ?_) h.newborn
  · refine hs.update (fun _ _ _ hv => hv) (fun bound hb e he => ?_) (fun _ hi _ => hi)
      fun r _ status hr => ⟨status, hr, fun hl => hl⟩
    have hne : (⟨m.platform.driver.nextNumber⟩ : Ident .context) ≠ a.context := fun heq => by
      have hlt := (h.entered key a ha).context
      rw [← heq] at hlt
      exact Nat.lt_irrefl _ hlt
    rw [Assoc.get?_set_of_ne _ _ hne] at hb
    exact Or.inr ⟨bound, hb, he⟩

theorem InOrder.opened (h : InOrder allowed (g.reserve key) m) {context : Ident .context}
    (hnumber : context.number < m.platform.driver.nextNumber)
    (hnew : ∀ key' b, m.arenas.get? key' = some b → context ≠ b.context)
    (hbound : m.platform.driver.bindings.get? context = some []) :
    InOrder allowed (g.working ⟨key, { context }, none, none⟩) (m.openArena key context) := by
  obtain ⟨h1, h2, h3⟩ := h.reserved key List.mem_cons_self
  -- The number was set aside for an execution without an arena, so nobody works under it.
  have hknown : ∀ k b, m.arenas.get? k = some b → key ≠ k := fun k b hb heq => by
    rw [heq] at h3
    exact nomatch h3.symm.trans hb
  have hkeys : key ∉ g.keys := fun hin => by
    rcases List.mem_append.mp hin with hin | hin
    · obtain ⟨f, hf, heq⟩ := List.mem_map.mp hin
      exact hknown _ _ (h.steady f hf).1 heq.symm
    · obtain ⟨f, hf, heq⟩ := List.mem_map.mp hin
      exact hknown _ _ (h.falling f hf) heq.symm
  have hheld : ∀ e ∈ Keeper.executions m.host, key ≠ e.key := fun e he => by
    obtain ⟨b, hb, -⟩ := h.held e he
    exact hknown _ b hb
  refine h.setArena ⟨h1, h2⟩ ⟨hnumber, Arena.ordered_empty, by simp, by simp, by simp⟩
    (fun key' b hb _ => ⟨hnew key' b hb, by simp, by simp⟩)
    (fun k hk => ⟨List.mem_cons_of_mem _ hk, fun heq => ?_⟩)
    (List.nodup_cons.mp h.reservedOnce).2
    (fun r hr => ⟨(h.calls r hr).1, by simp, fun k b hb _ => (h.calls r hr).2 k b hb⟩)
    h.callsOnce (fun f hf => ?_) (fun f hf => Or.inl ⟨hf, hknown _ _ (h.falling f hf)⟩) hheld
    (List.nodup_cons.mpr ⟨fun hin => ?_, h.owners⟩) (List.Sublist.refl _) (by simp) rfl rfl
    rfl (fun r hr => ?_) List.mem_cons_self (fun k _ hk hin => hk (List.mem_cons_of_mem _ hin))
  · exact (List.nodup_cons.mp h.reservedOnce).1 (heq ▸ hk)
  · rcases List.mem_cons.mp hf with rfl | hf
    · refine Or.inr ⟨rfl, rfl, rfl, ⟨fun _ _ hshows => ?_, by simp, fun bound hb => ?_, by simp,
        by simp⟩⟩
      · cases hshows.mem
      cases (show some [] = some bound from hbound.symm.trans hb)
      exact List.forall_mem_nil _
    · exact Or.inl ⟨hf, hknown _ _ (h.steady f hf).1⟩
  · rcases List.mem_append.mp hin with hin | hin
    · exact hkeys hin
    · obtain ⟨e, he, heq⟩ := List.mem_map.mp hin
      exact hheld e he heq.symm
  · rcases hr with hin | ⟨b, hb, -⟩
    · exact Or.inl hin
    · exact absurd rfl (hknown key b hb)

/-! ## Executions at work -/

variable {claiming claiming' : Option Remote}

/-- The execution in front is nobody else's. -/
theorem InOrder.unique_of_working {f : Frame} (h : InOrder allowed (g.working f) m) :
    f.key ∉ g.keys ∧ ∀ e ∈ Keeper.executions m.host, f.key ≠ e.key := by
  have hnot := (List.nodup_cons.mp h.owners).1
  refine ⟨fun hin => hnot (List.mem_append_left _ hin), fun e he heq => hnot ?_⟩
  exact List.mem_append_right _ (List.mem_map.mpr ⟨e, he, heq.symm⟩)

/-- Nobody is at work on an execution that is kept for later. -/
theorem InOrder.not_at_work (h : InOrder allowed g m) {e : Execution}
    (he : e ∈ Keeper.executions m.host) {f : Frame} (hf : f ∈ g.steady) : e.key ≠ f.key := by
  intro heq
  refine (List.nodup_append.mp h.owners).2.2 f.key ?_ e.key ?_ heq.symm
  · exact List.mem_append_left _ (List.mem_map_of_mem hf)
  · exact List.mem_map_of_mem he

/-- One need not rely on what is known of the kernel. -/
theorem InOrder.unwatched {token? : Option (Ident .event)}
    (h : InOrder allowed (g.working ⟨key, a, claiming, token?⟩) m) :
    InOrder allowed (g.working ⟨key, a, claiming, none⟩) m :=
  { h with
    steady := List.forall_mem_cons.mpr (List.forall_mem_cons.mp h.steady)
    watched := List.forall_mem_cons.mpr ⟨nofun, (List.forall_mem_cons.mp h.watched).2⟩ }

theorem InOrder.regrown (h : InOrder allowed (g.working ⟨key, a, claiming, none⟩) m)
    {calls : List Remote} {locals : List (Ident .resource)}
    (hentered : Entered m.platform.driver.nextNumber m.platform.driver.resources m.remotes a')
    (hapart : ∀ key' b, m.arenas.get? key' = some b → key ≠ key' → Apart a' b)
    (hcalls : calls.Sublist g.calls) (hunclaimed : ∀ r ∈ calls, r ∉ a'.claims)
    (hsound : SoundOn m.platform.driver m.remotes a' claiming')
    (hlocals : locals.Sublist g.locals)
    (hloose : ∀ id ∈ locals ++ Keeper.locals m.host, ∀ t ∈ a'.transients, t.2 ≠ id)
    (htight : ∀ r, r ∈ g.calls ∨ r ∈ a.claims → r ∈ calls ∨ r ∈ a'.claims) :
    InOrder allowed ({ g with calls, locals }.working ⟨key, a', claiming', none⟩)
      { m with arenas := m.arenas.set key a' } := by
  obtain ⟨ha, -⟩ := h.steady _ List.mem_cons_self
  obtain ⟨hkeys, hheld⟩ := h.unique_of_working
  refine h.setArena (h.keys key a ha) hentered hapart (fun k hk => ⟨hk, fun heq => ?_⟩)
    h.reservedOnce (fun r hr => ?_) (hcalls.nodup h.callsOnce) (fun f hf => ?_) (fun f hf => ?_)
    hheld h.owners hlocals hloose rfl rfl rfl (fun r hr => ?_) List.mem_cons_self
    fun k _ hk => hk
  · have hnone := (h.reserved k hk).2.2
    rw [← heq] at hnone
    exact nomatch ha.symm.trans hnone
  · obtain ⟨hrec, hnot⟩ := h.calls r (hcalls.subset hr)
    exact ⟨hrec, hunclaimed r hr, fun key' b hb _ => hnot key' b hb⟩
  · rcases List.mem_cons.mp hf with rfl | hf
    · exact Or.inr ⟨rfl, rfl, rfl, hsound⟩
    · refine Or.inl ⟨List.mem_cons_of_mem _ hf, fun heq => hkeys ?_⟩
      exact List.mem_append_left _ (List.mem_map.mpr ⟨f, hf, heq.symm⟩)
  · refine Or.inl ⟨hf, fun heq => hkeys ?_⟩
    exact List.mem_append_right _ (List.mem_map.mpr ⟨f, hf, heq.symm⟩)
  · refine htight r (hr.imp id ?_)
    rintro ⟨b, hb, hin⟩
    cases (show some a = some b from ha.symm.trans hb)
    exact hin

/-- A call's claim becomes one of the execution. -/
theorem InOrder.acquired_flight {r : Remote}
    (h : InOrder allowed ((g.working ⟨key, a, none, none⟩).calling r) m) :
    InOrder allowed (g.working ⟨key, a.grown (.flight r), some r, none⟩)
      (m.onArena key fun arena => arena.grown (.flight r)) := by
  obtain ⟨ha, hs⟩ := h.steady _ List.mem_cons_self
  obtain ⟨hrec, hnot⟩ := h.calls r List.mem_cons_self
  have he := h.entered key a ha
  rw [Machine.onArena_of_get? ha]
  -- The two ways to add to the holdings commute.
  have h' : InOrder allowed ((g.calling r).working ⟨key, a, none, none⟩) m := h
  refine h'.regrown ?_ (fun key' b hb hne => ?_) (List.sublist_cons_self ..) (fun r' hr' => ?_) ?_
    (List.Sublist.refl _) (fun id hid t ht => ?_) (fun r' hr' => ?_)
  · exact { context := he.context
            ordered := Arena.ordered_grown.mpr ⟨he.ordered, nofun⟩
            nodup := by
              rw [Arena.claims_grown]
              exact List.nodup_append.mpr ⟨he.nodup, by simp, fun x hx y hy heq =>
                hnot key a ha (by rw [← List.mem_singleton.mp hy, ← heq]; exact hx)⟩
            claims := fun r' hr' => by
              rw [Arena.mem_claims_flight] at hr'
              rcases hr' with hr' | rfl
              · exact he.claims r' hr'
              · exact hrec
            transients := fun t ht => he.transients t (by simpa using ht) }
  · have hold := h.apart key a key' b ha hb hne
    refine { context := hold.context, claims := fun r' hr' => ?_, transients := fun t ht => ?_ }
    · rw [Arena.mem_claims_flight] at hr'
      rcases hr' with hr' | rfl
      · exact hold.claims r' hr'
      · exact hnot key' b hb
    · exact hold.transients t (by simpa using ht)
  · rw [Arena.mem_claims_flight]
    rintro (hin | rfl)
    · exact (h.calls r' (List.mem_cons_of_mem _ hr')).2 key a ha hin
    · exact (List.nodup_cons.mp h.callsOnce).1 hr'
  · exact { shows := fun _ _ => hs.shows_grown rfl
            memories := fun memory hm => by
              obtain ⟨resource, hget, hi, ho⟩ := hs.memories memory (by simpa using hm)
              refine ⟨resource, hget, hi, ho.imp (fun hin => by simpa using hin) ?_⟩
              rintro ⟨r', hr', hid⟩
              exact ⟨r', by simp [hr'], hid⟩
            bindings := fun bound hb e he => by simpa using hs.bindings bound hb e he
            copies := fun _ => hs.copies_grown
            -- The new claim is the one exception, until its mapping is ended.
            withdrawn := fun r' hr' hne status hstatus => by
              rw [Arena.mem_claims_flight] at hr'
              rcases hr' with hr' | rfl
              · exact hs.withdrawn r' hr' nofun status hstatus
              · exact absurd rfl hne }
  · exact (h.locals id hid).unowned key a ha t (by simpa using ht)
  · rw [Arena.mem_claims_flight]
    rcases hr' with hin | hin
    · rcases List.mem_cons.mp hin with rfl | hin
      · exact Or.inr (Or.inr rfl)
      · exact Or.inl hin
    · exact Or.inr (Or.inl hin)

/-- The claims and resources of an execution at work stay as they are, and so does its place in
    the ledger. -/
theorem InOrder.regrown_same (h : InOrder allowed (g.working ⟨key, a, claiming, none⟩) m)
    (hcontext : a'.context = a.context) (hordered : a.Ordered → a'.Ordered)
    (hclaims : a'.claims = a.claims) (htransients : a'.transients = a.transients)
    (hsound : SoundOn m.platform.driver m.remotes a' claiming') :
    InOrder allowed (g.working ⟨key, a', claiming', none⟩) { m with arenas := m.arenas.set key a' } := by
  obtain ⟨ha, -⟩ := h.steady _ List.mem_cons_self
  have he := h.entered key a ha
  refine h.regrown ?_ (fun key' b hb hne => ?_) (List.Sublist.refl _) (fun r hr => ?_) hsound
    (List.Sublist.refl _) (fun id hid t ht => ?_) (fun r hr => ?_)
  · exact { context := hcontext ▸ he.context, ordered := hordered he.ordered
            nodup := hclaims ▸ he.nodup
            claims := hclaims ▸ he.claims, transients := htransients ▸ he.transients }
  · have hold := h.apart key a key' b ha hb hne
    exact { context := hcontext ▸ hold.context, claims := hclaims ▸ hold.claims
            transients := htransients ▸ hold.transients }
  · rw [hclaims]
    exact (h.calls r hr).2 key a ha
  · rw [htransients] at ht
    exact (h.locals id hid).unowned key a ha t ht
  · rw [hclaims]
    exact hr

section

variable (h : InOrder allowed (g.working ⟨key, a, none, none⟩) m)

include h

/-- A memory object for an owned resource becomes the execution's. -/
theorem InOrder.acquired_memory {memory : Ident .memory} {resource : Ident .resource}
    (hget : m.platform.driver.memories.get? memory = some (a.context, resource))
    (hidle : Idle m.platform.driver.resources resource) (howned : a.Owns resource)
    (hexposed : a.exposed? = some resource) :
    InOrder allowed (g.working ⟨key, a.grown (.memory memory), none, none⟩)
      (m.onArena key fun arena => arena.grown (.memory memory)) := by
  obtain ⟨ha, hs⟩ := h.steady _ List.mem_cons_self
  rw [Machine.onArena_of_get? ha]
  have hclaims : (a.grown (.memory memory)).claims = a.claims := by simp
  have htransients : (a.grown (.memory memory)).transients = a.transients := by simp
  have hmemories : (a.grown (.memory memory)).memories = a.memories ++ [memory] := by simp
  refine h.regrown_same rfl (fun ho => Arena.ordered_grown.mpr ⟨ho, nofun⟩) hclaims htransients ?_
  exact { shows := fun memory' resource' hshows => by
            rcases Arena.shows_grown.mp hshows with hshows | ⟨heq, hexposed'⟩
            · exact hs.shows memory' resource' hshows
            · cases heq
              cases (show some resource = some resource' from hexposed.symm.trans hexposed')
              exact hget
          memories := fun memory' hm => by
            rw [hmemories, List.mem_append, List.mem_singleton] at hm
            rw [hclaims, htransients]
            rcases hm with hm | rfl
            · exact hs.memories memory' hm
            · exact ⟨resource, hget, hidle, howned⟩
          bindings := fun bound hb e he => by
            rw [hmemories]
            exact List.mem_append_left _ (hs.bindings bound hb e he)
          copies := fun _ => hs.copies_grown
          withdrawn := fun r hr => by
            rw [hclaims] at hr
            exact hs.withdrawn r hr }

theorem InOrder.acquired_unmapped {register : String} {r : Remote} (hr : r ∈ a.claims) :
    InOrder allowed (g.working ⟨key, a.grown (.unmapped register r), none, none⟩)
      (m.onArena key fun arena => arena.grown (.unmapped register r)) := by
  obtain ⟨ha, hs⟩ := h.steady _ List.mem_cons_self
  rw [Machine.onArena_of_get? ha]
  refine h.regrown_same rfl (fun ho => Arena.ordered_grown.mpr ⟨ho, fun _ _ heq => ?_⟩)
    (by simp) (by simp) ?_
  · cases heq
    exact hr
  exact { shows := fun _ _ => hs.shows_grown rfl
          memories := by simpa using hs.memories
          bindings := by simpa using hs.bindings
          copies := fun _ => hs.copies_grown
          withdrawn := by simpa using hs.withdrawn }

theorem InOrder.noted_copy {c : CopyRecord} (hremote : a.Shows c.remoteMemory c.remote.id)
    (htransient : a.Shows c.transientMemory c.transient) :
    InOrder allowed (g.working ⟨key, a.copying c, none, none⟩)
      (m.onArena key fun arena => arena.copying c) := by
  obtain ⟨ha, hs⟩ := h.steady _ List.mem_cons_self
  rw [Machine.onArena_of_get? ha]
  refine h.regrown_same rfl Arena.ordered_copying.mpr rfl rfl ?_
  exact { hs with
    copies := fun c' hc' => by
      rcases List.mem_append.mp hc' with hc' | hc'
      · exact hs.copies c' hc'
      · cases List.mem_singleton.mp hc'
        exact ⟨hremote, htransient⟩ }

end

variable {id : Ident .resource} {host : ω}

theorem InOrder.acquired_transient {register : String}
    (h : InOrder allowed ((g.working ⟨key, a, none, none⟩).keeping id) m) :
    InOrder allowed (g.working ⟨key, a.grown (.transient register id), none, none⟩)
      (m.onArena key fun arena => arena.grown (.transient register id)) := by
  obtain ⟨ha, hs⟩ := h.steady _ List.mem_cons_self
  have he := h.entered key a ha
  have hl := h.locals id List.mem_cons_self
  have hmem : ∀ t, t ∈ (a.grown (.transient register id)).transients ↔
      t ∈ a.transients ∨ t = (register, id) := fun t => by simp
  rw [Machine.onArena_of_get? ha]
  have h' : InOrder allowed ((g.keeping id).working ⟨key, a, none, none⟩) m := h
  refine h'.regrown ?_ (fun key' b hb hne => ?_) (List.Sublist.refl _) (fun r hr => ?_) ?_
    (List.sublist_cons_self ..) (fun i hi t ht => ?_) (fun r hr => ?_)
  · exact { context := he.context
            ordered := Arena.ordered_grown.mpr ⟨he.ordered, nofun⟩
            nodup := by simpa using he.nodup
            claims := by simpa using he.claims
            transients := fun t ht => by
              rcases (hmem t).mp ht with ht | rfl
              · exact he.transients t ht
              · exact ⟨hl.number, hl.place⟩ }
  -- It was in nobody's arena, so no other arena has it.
  · have hold := h.apart key a key' b ha hb hne
    refine { context := hold.context, claims := by simpa using hold.claims
             transients := fun t ht u hu => ?_ }
    rcases (hmem t).mp ht with ht | rfl
    · exact hold.transients t ht u hu
    · exact (hl.unowned key' b hb u hu).symm
  · simpa using (h.calls r hr).2 key a ha
  · exact { shows := fun _ _ => hs.shows_grown rfl
            memories := fun memory hm => by
              obtain ⟨resource, hget, hi, ho⟩ := hs.memories memory (by simpa using hm)
              refine ⟨resource, hget, hi, ho.imp ?_ fun hin => by simpa using hin⟩
              rintro ⟨name, hin⟩
              exact ⟨name, (hmem _).mpr (Or.inl hin)⟩
            bindings := by simpa using hs.bindings
            copies := fun _ => hs.copies_grown
            withdrawn := by simpa using hs.withdrawn }
  · rcases (hmem t).mp ht with ht | rfl
    · exact (h.locals i (List.mem_cons_of_mem _ hi)).unowned key a ha t ht
    · rintro rfl
      exact (List.nodup_cons.mp h.localsOnce).1 hi
  · simpa [Holdings.keeping] using hr

/-- A remote resource is claimed for good once its mapping has ended. -/
theorem InOrder.settled_claim {r : Remote} (h : InOrder allowed (g.working ⟨key, a, some r, none⟩) m)
    {status : RemoteStatus} (hr : m.remotes.get? r = some status) (hlink : status.link = none) :
    InOrder allowed (g.working ⟨key, a, none, none⟩) m :=
  { h with
    steady := by
      intro f hf
      rcases List.mem_cons.mp hf with rfl | hf
      · obtain ⟨ha, hs⟩ := h.steady _ List.mem_cons_self
        refine ⟨ha, { hs with withdrawn := fun r' hr' _ status' hs' => ?_ }⟩
        by_cases heq : r' = r
        · subst heq
          cases (show some status = some status' from hr.symm.trans hs')
          exact hlink
        · exact hs.withdrawn r' hr' (fun hsome => heq (Option.some.inj hsome).symm) status' hs'
      · exact h.steady f (List.mem_cons_of_mem _ hf)
    watched := by
      intro f hf
      rcases List.mem_cons.mp hf with rfl | hf
      · exact nofun
      · exact h.watched f (List.mem_cons_of_mem _ hf) }

/-! ## Executions that are taken down -/

theorem InOrder.unique_of_dropping (h : InOrder allowed (g.dropping key a) m) :
    key ∉ g.keys ∧ (∀ e ∈ Keeper.executions m.host, key ≠ e.key) ∧
      (g.keys ++ (Keeper.executions m.host).map Execution.key).Nodup := by
  have hnodup := ((g.keys_dropping key a).append_right _).nodup_iff.mp h.owners
  obtain ⟨hnot, hrest⟩ := List.nodup_cons.mp hnodup
  refine ⟨fun hin => hnot (List.mem_append_left _ hin), fun e he heq => hnot ?_, hrest⟩
  exact List.mem_append_right _ (List.mem_map.mpr ⟨e, he, heq.symm⟩)

/-- From now on nobody relies on what the execution owns. -/
theorem InOrder.falls {f : Frame} (h : InOrder allowed (g.working f) m) :
    InOrder allowed (g.dropping f.key f.arena) m :=
  { h with
    steady := fun f' hf' => h.steady f' (List.mem_cons_of_mem _ hf')
    falling := by
      intro f' hf'
      rcases List.mem_cons.mp hf' with rfl | hf'
      · exact (h.steady f List.mem_cons_self).1
      · exact h.falling f' hf'
    owners := ((g.keys_dropping f.key f.arena).append_right _).nodup_iff.mpr h.owners
    settled := fun hq key a ha hkey => h.settled hq key a ha fun hin =>
      hkey ((g.keys_dropping f.key f.arena).mem_iff.mpr hin)
    watched := fun f' hf' => h.watched f' (List.mem_cons_of_mem _ hf') }

/-- An execution that is taken down leaves claims to the call that takes it down, and forgets
    resources and memory objects. -/
theorem InOrder.reshrunk (h : InOrder allowed (g.dropping key a) m) (left : List Remote)
    (hcontext : a'.context = a.context) (hordered : a.Ordered → a'.Ordered)
    (hclaims : ∀ r ∈ a'.claims, r ∈ a.claims)
    (honce : a'.claims.Nodup) (htransients : ∀ t ∈ a'.transients, t ∈ a.transients)
    (hleft : ∀ r ∈ left, r ∈ a.claims ∧ r ∉ a'.claims) (hleftOnce : left.Nodup)
    (hall : ∀ r ∈ a.claims, r ∈ left ∨ r ∈ a'.claims) :
    InOrder allowed ({ g with calls := left ++ g.calls }.dropping key a')
      { m with arenas := m.arenas.set key a' } := by
  have ha := h.falling _ List.mem_cons_self
  have he := h.entered key a ha
  obtain ⟨hkeys, hheld, -⟩ := h.unique_of_dropping
  have hcalls : ∀ r ∈ g.calls, r ∉ a.claims := fun r hr => (h.calls r hr).2 key a ha
  have hdropping : ∀ k, k ∈ (g.dropping key a).keys ↔
      k ∈ ({ g with calls := left ++ g.calls }.dropping key a').keys := fun k =>
    (g.keys_dropping key a).mem_iff.trans
      (({ g with calls := left ++ g.calls } : Holdings).keys_dropping key a').mem_iff.symm
  refine h.setArena (h.keys key a ha) ?_ (fun key' b hb hne => ?_)
    (fun k hk => ⟨hk, fun heq => ?_⟩) h.reservedOnce (fun r hr => ?_) ?_ (fun f hf => ?_)
    (fun f hf => ?_) hheld h.owners (List.Sublist.refl _) (fun id hid t ht => ?_) rfl rfl
    rfl (fun r hr => ?_) ?_ fun k _ hk hin => hk ((hdropping k).mp hin)
  · exact { context := hcontext ▸ he.context, ordered := hordered he.ordered, nodup := honce
            claims := fun r hr => he.claims r (hclaims r hr)
            transients := fun t ht => he.transients t (htransients t ht) }
  · have hold := h.apart key a key' b ha hb hne
    exact { context := hcontext ▸ hold.context
            claims := fun r hr => hold.claims r (hclaims r hr)
            transients := fun t ht => hold.transients t (htransients t ht) }
  · have hnone := (h.reserved k hk).2.2
    rw [← heq] at hnone
    exact nomatch ha.symm.trans hnone
  · rcases List.mem_append.mp hr with hr | hr
    · obtain ⟨hin, hnot⟩ := hleft r hr
      exact ⟨he.claims r hin, hnot, fun key' b hb hne => (h.apart key a key' b ha hb hne).claims r hin⟩
    · exact ⟨(h.calls r hr).1, fun hin => hcalls r hr (hclaims r hin), fun key' b hb _ =>
        (h.calls r hr).2 key' b hb⟩
  · refine List.nodup_append.mpr ⟨hleftOnce, h.callsOnce, fun x hx y hy heq => ?_⟩
    exact hcalls y hy (heq ▸ (hleft x hx).1)
  · refine Or.inl ⟨hf, fun heq => hkeys ?_⟩
    exact List.mem_append_left _ (List.mem_map.mpr ⟨f, hf, heq.symm⟩)
  · rcases List.mem_cons.mp hf with rfl | hf
    · exact Or.inr rfl
    · refine Or.inl ⟨List.mem_cons_of_mem _ hf, fun heq => hkeys ?_⟩
      exact List.mem_append_right _ (List.mem_map.mpr ⟨f, hf, heq.symm⟩)
  · exact (h.locals id hid).unowned key a ha t (htransients t ht)
  · rcases hr with hin | ⟨b, hb, hin⟩
    · exact Or.inl (List.mem_append_right _ hin)
    · cases (show some a = some b from ha.symm.trans hb)
      exact (hall r hin).imp (List.mem_append_left _) id
  · exact (hdropping key).mp ((g.keys_dropping key a).mem_iff.mpr List.mem_cons_self)

/-- The arena of an execution that claims nothing any more can be closed. -/
theorem InOrder.closed (h : InOrder allowed (g.dropping key a) m) (hclaims : a.claims = []) :
    InOrder allowed g (m.closeArena key) := by
  have ha := h.falling _ List.mem_cons_self
  obtain ⟨hkeys, hheld, howners⟩ := h.unique_of_dropping
  -- An arena that is left was there before, and is not the one that goes.
  have hcases : ∀ k b, (m.arenas.erase key).get? k = some b → m.arenas.get? k = some b ∧ key ≠ k :=
    fun k b hb => by
      exact (Assoc.of_get?_erase hb).symm
  have hother : ∀ k, key ≠ k → (m.arenas.erase key).get? k = m.arenas.get? k :=
    fun k hk => Assoc.get?_erase_of_ne _ hk
  exact { h with
    keys := fun k b hb => h.keys k b (hcases k b hb).1
    entered := fun k b hb => h.entered k b (hcases k b hb).1
    apart := fun k b k' b' hb hb' => h.apart k b k' b' (hcases k b hb).1 (hcases k' b' hb').1
    reserved := fun k hk => by
      obtain ⟨h1, h2, h3⟩ := h.reserved k hk
      refine ⟨h1, h2, ?_⟩
      show (m.arenas.erase key).get? k = none
      rw [Assoc.get?_erase, h3, ite_self]
    calls := fun r hr => ⟨(h.calls r hr).1, fun k b hb => (h.calls r hr).2 k b (hcases k b hb).1⟩
    steady := fun f hf => by
      refine ⟨(hother _ fun heq => hkeys ?_).trans (h.steady f hf).1, (h.steady f hf).2⟩
      exact List.mem_append_left _ (List.mem_map.mpr ⟨f, hf, heq.symm⟩)
    falling := fun f hf => by
      refine (hother _ fun heq => hkeys ?_).trans (h.falling f (List.mem_cons_of_mem _ hf))
      exact List.mem_append_right _ (List.mem_map.mpr ⟨f, hf, heq.symm⟩)
    held := fun e he => by
      obtain ⟨b, hb, hrest⟩ := h.held e he
      exact ⟨b, (hother _ (hheld e he)).trans hb, hrest⟩
    owners := howners
    locals := fun id hid => by
      have hl := h.locals id hid
      exact ⟨hl.number, hl.place, fun k b hb => hl.unowned k b (hcases k b hb).1⟩
    tight := fun hq r status hs hflight => by
      rcases h.tight hq r status hs hflight with hin | ⟨k, b, hb, hin⟩
      · exact Or.inl hin
      -- The arena that goes claims nothing, so no mark rests on it.
      · refine Or.inr ⟨k, b, (hother k ?_).trans hb, hin⟩
        rintro rfl
        cases (show some a = some b from ha.symm.trans hb)
        rw [hclaims] at hin
        cases hin
    settled := fun hq k b hb hk => by
      obtain ⟨hold, hne⟩ := hcases k b hb
      refine h.settled hq k b hold fun hin => ?_
      rcases List.mem_cons.mp ((g.keys_dropping key a).mem_iff.mp hin) with heq | hin
      · exact hne heq.symm
      · exact hk hin }

/-! ## Letting go -/

/-- Holdings that are part of others. -/
structure Holdings.Part (g g' : Holdings) : Prop where
  reserved : g.reserved.Sublist g'.reserved
  calls : g.calls.Sublist g'.calls
  steady : g.steady.Sublist g'.steady
  falling : g.falling.Sublist g'.falling
  locals : g.locals.Sublist g'.locals
  newborn : g.newborn.Sublist g'.newborn
  freed : g.freed.Sublist g'.freed
  running : g.running.Sublist g'.running

namespace Holdings.Part

theorem refl : g.Part g :=
  ⟨.refl _, .refl _, .refl _, .refl _, .refl _, .refl _, .refl _, .refl _⟩

theorem reserve : g.Part (g.reserve key) := { refl with reserved := List.sublist_cons_self .. }

theorem calling {r : Remote} : g.Part (g.calling r) := { refl with calls := List.sublist_cons_self .. }

theorem working {f : Frame} : g.Part (g.working f) := { refl with steady := List.sublist_cons_self .. }

theorem dropping : g.Part (g.dropping key a) := { refl with falling := List.sublist_cons_self .. }

theorem keeping {id : Ident .resource} : g.Part (g.keeping id) :=
  { refl with locals := List.sublist_cons_self .. }

theorem bearing {id : Ident .resource} {layout : Layout} {format : Format} :
    g.Part (g.bearing id layout format) :=
  { refl with newborn := List.sublist_cons_self .. }

theorem following : g.Part (g.following key) := { refl with running := List.sublist_cons_self .. }

end Holdings.Part

/-- Once a call has been cut off, whatever the calls under way held may be forgotten. -/
theorem Broken.part (h : Broken allowed g' m) (hpart : g.Part g') : Broken allowed g m := by
  refine ⟨?_, h.2⟩
  have hkeys : g.keys.Sublist g'.keys :=
    (hpart.steady.map _).append (hpart.falling.map _)
  exact { h.1 with
    reserved := fun k hk => h.1.reserved k (hpart.reserved.subset hk)
    reservedOnce := hpart.reserved.nodup h.1.reservedOnce
    calls := fun r hr => h.1.calls r (hpart.calls.subset hr)
    callsOnce := hpart.calls.nodup h.1.callsOnce
    steady := fun f hf => h.1.steady f (hpart.steady.subset hf)
    falling := fun f hf => h.1.falling f (hpart.falling.subset hf)
    owners := (hkeys.append (List.Sublist.refl _)).nodup h.1.owners
    locals := fun id hid =>
      h.1.locals id ((hpart.locals.append (List.Sublist.refl _)).subset hid)
    localsOnce := (hpart.locals.append (List.Sublist.refl _)).nodup h.1.localsOnce
    newborn := fun n hn => h.1.newborn n (hpart.newborn.subset hn)
    newbornOnce := (hpart.newborn.map _).nodup h.1.newbornOnce
    freed := fun r hr => h.1.freed r (hpart.freed.subset hr)
    tight := fun hq => absurd hq h.2
    settled := fun hq => absurd hq h.2
    running := fun k hk => h.1.running k (hpart.running.subset hk)
    watched := fun f hf => h.1.watched f (hpart.steady.subset hf) }

/-- What is only set aside can be let go at any time. -/
theorem InOrder.of_reserve (h : InOrder allowed (g.reserve key) m) : InOrder allowed g m :=
  { h with
    reserved := fun k hk => h.reserved k (List.mem_cons_of_mem _ hk)
    reservedOnce := (List.nodup_cons.mp h.reservedOnce).2 }

theorem InOrder.of_following (h : InOrder allowed (g.following key) m) : InOrder allowed g m :=
  { h with running := fun k hk => h.running k (List.mem_cons_of_mem _ hk) }

/-- Numbers that are in use stay so. -/
theorem InOrder.followed (h : InOrder allowed g m)
    (hkey : key.1 = m.platform.serial ∧ key.2.number < m.platform.nextExecution) :
    InOrder allowed (g.following key) m :=
  { h with running := List.forall_mem_cons.mpr ⟨hkey, h.running⟩ }

/-! ## What the program keeps -/

section Values

variable {ρ ν : Type} [DecidableEq ρ] {t : Assoc ρ ν} {q : ρ} {v : ν}

/-- Taking a key out takes its value out. -/
theorem Assoc.cons_values_erase_le (h : t.get? q = some v) :
    v ::ₘ ((Assoc.erase t q).values : Multiset ν) ≤ t.values := by
  obtain ⟨front, back, rfl⟩ := List.append_of_mem (Assoc.mem_of_get? h)
  have herase : (Assoc.erase (front ++ (q, v) :: back) q).Sublist (front ++ back) := by
    simpa [Assoc.erase] using List.filter_sublist.append List.filter_sublist
  have hperm : (Assoc.values (front ++ (q, v) :: back)).Perm (v :: Assoc.values (front ++ back)) :=
    List.perm_middle.map Prod.snd
  rw [Multiset.coe_eq_coe.mpr hperm]
  exact Multiset.cons_le_cons v (Multiset.coe_le.mpr (herase.map Prod.snd).subperm)

/-- Setting a key adds its value, perhaps in place of another. -/
theorem Assoc.values_set_le : ((Assoc.set t q v).values : Multiset ν) ≤ v ::ₘ t.values := by
  induction t with
  | nil => exact le_refl _
  | cons e rest ih =>
    obtain ⟨k, u⟩ := e
    by_cases hk : k = q
    · have hset : Assoc.set ((k, u) :: rest) q v = (k, v) :: rest := by simp [Assoc.set, hk]
      rw [hset]
      exact Multiset.cons_le_cons v (Multiset.le_cons_self (Assoc.values rest : Multiset ν) u)
    · have hset : Assoc.set ((k, u) :: rest) q v = (k, u) :: Assoc.set rest q v := by
        simp [Assoc.set, hk]
      rw [hset]
      exact (Multiset.cons_le_cons u ih).trans (Multiset.cons_swap u v _).le

end Values

/-- A program may forget executions, and local resources go from it to a call or back. -/
theorem InOrder.rehosted (h : InOrder allowed g m) (host : ω) (locals : List (Ident .resource))
    (hexecutions : (Keeper.executions host : Multiset Execution) ≤ Keeper.executions m.host)
    (hlocals : (locals + Keeper.locals host : Multiset (Ident .resource)) ≤
      g.locals + Keeper.locals m.host) : InOrder allowed { g with locals } { m with host } := by
  have hkeys := Multiset.add_le_add_left (s := g.keys)
    (Multiset.map_le_map (f := Execution.key) hexecutions)
  exact { h with
    held := fun e he => h.held e (Multiset.mem_of_le hexecutions he)
    owners := Multiset.nodup_of_le hkeys h.owners
    locals := fun id hid => h.locals id (Multiset.mem_of_le hlocals hid)
    localsOnce := Multiset.nodup_of_le hlocals h.localsOnce }

theorem InOrder.of_keeping (h : InOrder allowed (g.keeping id) m) : InOrder allowed g m :=
  h.rehosted _ g.locals le_rfl (Multiset.le_cons_self _ id)

theorem InOrder.taken_local (h : InOrder allowed g m)
    (hexecutions : (Keeper.executions host : Multiset Execution) ≤ Keeper.executions m.host)
    (hlocals : id ::ₘ (Keeper.locals host : Multiset (Ident .resource)) ≤ Keeper.locals m.host) :
    InOrder allowed (g.keeping id) { m with host } :=
  h.rehosted _ (id :: g.locals) hexecutions
    ((Multiset.add_cons id g.locals _).symm.le.trans (Multiset.add_le_add_left hlocals))

theorem InOrder.kept_local (h : InOrder allowed (g.keeping id) m)
    (hexecutions : (Keeper.executions host : Multiset Execution) ≤ Keeper.executions m.host)
    (hlocals : (Keeper.locals host : Multiset (Ident .resource)) ≤ id ::ₘ Keeper.locals m.host) :
    InOrder allowed g { m with host } :=
  h.rehosted _ g.locals hexecutions
    ((Multiset.add_le_add_left hlocals).trans (Multiset.add_cons id g.locals _).le)

theorem InOrder.taken (h : InOrder allowed g m) (host : ω) {e : Execution}
    (hexecutions : e ::ₘ (Keeper.executions host : Multiset Execution) ≤ Keeper.executions m.host)
    (hlocals : Keeper.locals host = Keeper.locals m.host) :
    ∃ a, a.context = e.context ∧
      InOrder allowed (g.working ⟨e.key, a, none, none⟩) { m with host } := by
  obtain ⟨a, ha, hctx, hs⟩ := h.held e (Multiset.mem_of_le hexecutions (Multiset.mem_cons_self ..))
  have hkeys := Multiset.add_le_add_left (s := g.keys)
    (Multiset.map_le_map (f := Execution.key) hexecutions)
  rw [Multiset.map_cons, Multiset.add_cons] at hkeys
  refine ⟨a, hctx, { h.rehosted host g.locals
      ((Multiset.le_cons_self ..).trans hexecutions) (hlocals ▸ le_rfl) with
    steady := List.forall_mem_cons.mpr ⟨⟨ha, hs⟩, h.steady⟩
    owners := Multiset.nodup_of_le hkeys h.owners
    settled := fun hq k b hb hk => h.settled hq k b hb fun hin => hk (List.mem_cons_of_mem _ hin)
    watched := List.forall_mem_cons.mpr ⟨nofun, h.watched⟩ }⟩

/-- An execution may be given up while it is at work: it stays in the ledger. -/
theorem InOrder.abandoned (h : InOrder allowed (g.working ⟨key, a, none, none⟩) m) :
    InOrder allowed g m := by
  obtain ⟨ha, hs⟩ := h.steady _ List.mem_cons_self
  exact { h with
    steady := fun f hf => h.steady f (List.mem_cons_of_mem _ hf)
    owners := (List.nodup_cons.mp h.owners).2
    watched := fun f hf => h.watched f (List.mem_cons_of_mem _ hf)
    settled := fun hq k b hb hk r hr status hstatus => by
      by_cases heq : k = key
      · subst heq
        cases (show some a = some b from ha.symm.trans hb)
        exact hs.withdrawn r hr nofun status hstatus
      · exact h.settled hq k b hb (fun hin => hk ((List.mem_cons.mp hin).resolve_left heq)) r hr
          status hstatus }

theorem InOrder.kept (h : InOrder allowed (g.working ⟨key, a, none, none⟩) m) {e : Execution}
    (hkey : e.key = key) (hctx : a.context = e.context)
    (hexecutions : (Keeper.executions host : Multiset Execution) ≤ e ::ₘ Keeper.executions m.host)
    (hlocals : Keeper.locals host = Keeper.locals m.host) : InOrder allowed g { m with host } := by
  obtain ⟨ha, hs⟩ := h.steady _ List.mem_cons_self
  have hkeys := Multiset.add_le_add_left (s := g.keys)
    (Multiset.map_le_map (f := Execution.key) hexecutions)
  rw [Multiset.map_cons, Multiset.add_cons, hkey] at hkeys
  exact { h.abandoned with
    held := fun e' he' => by
      rcases Multiset.mem_cons.mp (Multiset.mem_of_le hexecutions he') with rfl | he'
      · exact ⟨a, hkey ▸ ha, hctx, hs⟩
      · exact h.held e' he'
    owners := Multiset.nodup_of_le hkeys h.owners
    locals := fun id hid => h.locals id (hlocals ▸ hid)
    localsOnce := hlocals ▸ h.localsOnce }

end InOrder

end StreamCompute
