/-
  StreamCompute.Proofs.Setup

  A launch that is being set up or taken down while nobody interferes. `Setup`
  compares the machine with what it was before the launch: the driver has what
  the launch owns in addition, and the records of remote resources differ by
  its claims and the mappings it ended. Every driver call that a launch makes
  keeps this, whether it is accepted or refused.
-/
import StreamCompute.Proofs.Driving
import StreamCompute.Proofs.Extension

namespace StreamCompute

/-- The entry points that launching and joining use. -/
def Operation.ofLaunch : Operation → Bool
  | .createContext => true
  | .destroyContext => true
  | .loadModule => true
  | .unloadModule => true
  | .findRegister => true
  | .findEntry => true
  | .getMemory => true
  | .releaseMemory => true
  | .bindMemory => true
  | .allocLocal1D => true
  | .allocLocal2D => true
  | .freeResource => true
  | .mapResource => true
  | .unmapResource => true
  | .copyMemory => true
  | .runProgram => true
  | .queryEvent => true
  | _ => false

theorem Operation.ofLaunch_allocate (layout : Layout) :
    (Operation.allocate .onDevice layout).ofLaunch = true := by
  cases layout <;> rfl

theorem Operation.allocate_ne_runProgram (place : Placement) (layout : Layout) :
    Operation.allocate place layout ≠ .runProgram := by
  cases place <;> cases layout <;> nofun

/-- The kernel ran at this moment. -/
def Moment.isRun (mo : Moment) : Bool :=
  mo.operation == .runProgram && mo.verdict == .accepted

/-- What a record says about the resource: whether it is mapped, in flight, freed. -/
def RemoteStatus.marks (s : RemoteStatus) : Bool × Bool × Bool :=
  (s.mapped, s.inFlight, s.freed)

/-- What a record said before the execution claimed the resource and ended its mapping. -/
def Arena.marks (a : Arena) (r : Remote) (s : RemoteStatus) : Bool × Bool × Bool :=
  (s.mapped || a.unmapped.any (·.2 = r), s.inFlight && r ∉ a.claims, s.freed)

/-- A call that runs no kernel adds no run to the history. -/
theorem Machine.runs_handled {κ ω : Type} {m : Machine κ ω} {op : Operation} {verdict : Verdict}
    {s : Simulator} (hrun : op ≠ .runProgram ∨ verdict ≠ .accepted) :
    (m.handled op verdict s).history.filter Moment.isRun = m.history.filter Moment.isRun :=
  List.filter_cons_of_neg (by simpa [Moment.isRun, ← not_and_or] using hrun)

section Setup

variable {κ ω : Type}

/-- The machine `m` is `base` with a launch set up as far as the contexts, the modules and the
    arena say. -/
structure Setup (base : Machine κ ω) (owner : ExecutionKey) (opened : List (Ident .context))
    (loaded : List (Ident .module)) (a : Arena) (m : Machine κ ω) : Prop where
  driver : Simulator.Extends opened loaded a base.platform.driver m.platform.driver
  numbered : m.platform.driver.Numbered
  grown : base.platform.driver.nextNumber ≤ m.platform.driver.nextNumber
  contexts : ∀ c ∈ opened, c.number < m.platform.driver.nextNumber
  spec : m.platform.driver.spec = base.platform.driver.spec
  young : ∀ t ∈ a.transients, base.platform.driver.nextNumber ≤ t.2.number
  marks : ∀ r, (m.remotes.get? r).map (a.marks r) = (base.remotes.get? r).map RemoteStatus.marks
  recorded : ∀ r ∈ a.claims, ∃ status, m.remotes.get? r = some status
  withdrawn : ∀ u ∈ a.unmapped, ∃ status, m.remotes.get? u.2 = some status ∧ status.link = none
  once : (a.unmapped.map Prod.snd).Nodup
  hooks : m.Unhooked Operation.ofLaunch
  config : m.platform.config = base.platform.config
  arena : m.arenas.get? owner = some a
  progress : m.progress = base.progress
  history : base.history <:+ m.history
  runs : m.history.filter Moment.isRun = base.history.filter Moment.isRun

variable {base m : Machine κ ω} {owner : ExecutionKey} {opened opened' : List (Ident .context)}
  {loaded loaded' : List (Ident .module)} {a : Arena} {op : Operation} {verdict : Verdict}
  {s : Simulator}

namespace Setup

variable (h : Setup base owner opened loaded a m)

include h

theorem journal {journal : List Event} :
    Setup base owner opened loaded a { m with journal } :=
  { h with }

theorem record {e : Event} :
    Setup base owner opened loaded a (Journaled.record e m) :=
  h.journal

/-! ## Calls -/

theorem handled (hrun : op ≠ .runProgram ∨ verdict ≠ .accepted)
    (hdriver : Simulator.Extends opened' loaded' a base.platform.driver s) (hn : s.Numbered)
    (hnext : m.platform.driver.nextNumber ≤ s.nextNumber)
    (hcontexts : ∀ c ∈ opened', c.number < s.nextNumber) (hspec : s.spec = m.platform.driver.spec) :
    Setup base owner opened' loaded' a (m.handled op verdict s) :=
  { h with
    driver := { hdriver with }
    numbered := { hn with }
    grown := Nat.le_trans h.grown hnext
    contexts := hcontexts
    spec := hspec.trans h.spec
    history := h.history.trans (List.suffix_cons ..)
    runs := (Machine.runs_handled hrun).trans h.runs }

theorem refused {e : DriverError} {calls : List Call} {counts : Assoc Operation Nat} :
    Setup base owner opened loaded a
      (m.handled op (.refused e) (m.platform.driver.relogged calls counts)) :=
  h.handled (Or.inr nofun) { h.driver with } { h.numbered with } (Nat.le_refl _) h.contexts rfl

theorem polled {context : Ident .context}
    (hin : context ∈ opened) (hs : m.platform.driver.Polled context s) :
    Setup base owner opened loaded a (m.handled .queryEvent verdict s) := by
  obtain ⟨calls, counts, tokens, rfl, rfl | ⟨event, token, pending, htoken, rfl, rfl⟩⟩ := hs
  · exact h.handled (Or.inl nofun) { h.driver with } { h.numbered with } (Nat.le_refl _)
      h.contexts rfl
  · have hold : ∀ old, m.platform.driver.tokens.get? event = some old → old.context ∈ opened := by
      intro old hget
      cases htoken.symm.trans hget
      exact hin
    have hdriver : Simulator.Extends opened loaded a base.platform.driver { m.platform.driver with
        tokens := m.platform.driver.tokens.set event { token with pending } } :=
      h.driver.setToken hin hold
    refine h.handled (Or.inl nofun) { hdriver with } { h.numbered with
      tokens := h.numbered.tokens.reset htoken
      tokenContexts := fun e he => ?_ } (Nat.le_refl _) h.contexts rfl
    rcases Assoc.mem_set he with rfl | he
    · exact h.numbered.tokenContexts (event, token) (Assoc.mem_of_get? htoken)
    · exact h.numbered.tokenContexts e he

/-- A copy into a resource that was made for the launch was submitted. -/
theorem copied {context : Ident .context}
    (hin : context ∈ opened) {dst : Ident .resource} {old res : Resource}
    (hmade : a.made dst = true) (hold : m.platform.driver.resources.get? dst = some old)
    {calls : List Call} {counts : Assoc Operation Nat} :
    Setup base owner opened loaded a (m.handled .copyMemory verdict
      (Simulator.tokenMade .copyMemory context { m.platform.driver with
        calls, counts, resources := m.platform.driver.resources.set dst res })) := by
  have hn : Simulator.Numbered { m.platform.driver with
      calls, counts, resources := m.platform.driver.resources.set dst res } :=
    { h.numbered with
      resources := h.numbered.resources.reset hold }
  refine h.handled (Or.inl nofun) (Simulator.Extends.tokenMade ?_ hn hin)
    (hn.tokenMade (h.contexts context hin)) (Nat.le_succ _)
    (fun c hc => Nat.lt_succ_of_lt (h.contexts c hc)) rfl
  exact { h.driver.setMade hmade with }

theorem copying {c : CopyRecord} :
    Setup base owner opened loaded (a.copying c)
      (m.onArena owner fun arena => arena.copying c) := by
  rw [Machine.onArena_of_get? h.arena]
  exact { h with
    driver := { h.driver with }
    arena := Assoc.get?_set_self .. }

/-- A call after which the arena and the records are written anew. -/
theorem rewritten {a' : Arena} {remotes : Assoc Remote RemoteStatus} {journal : List Event}
    (hrun : op ≠ .runProgram)
    (hdriver : Simulator.Extends opened loaded a' base.platform.driver s) (hn : s.Numbered)
    (hnext : m.platform.driver.nextNumber ≤ s.nextNumber) (hspec : s.spec = m.platform.driver.spec)
    (hyoung : ∀ t ∈ a'.transients, base.platform.driver.nextNumber ≤ t.2.number)
    (hmarks : ∀ r, (remotes.get? r).map (a'.marks r) = (m.remotes.get? r).map (a.marks r))
    (hrecorded : ∀ r ∈ a'.claims, ∃ status, remotes.get? r = some status)
    (hwithdrawn : ∀ u ∈ a'.unmapped, ∃ status, remotes.get? u.2 = some status ∧ status.link = none)
    (honce : (a'.unmapped.map Prod.snd).Nodup) :
    Setup base owner opened loaded a'
      { m.handled op verdict s with remotes, journal, arenas := m.arenas.set owner a' } where
  driver := { hdriver with }
  numbered := { hn with }
  grown := Nat.le_trans h.grown hnext
  contexts c hc := Nat.lt_of_lt_of_le (h.contexts c hc) hnext
  spec := hspec.trans h.spec
  young := hyoung
  marks r := (hmarks r).trans (h.marks r)
  recorded := hrecorded
  withdrawn := hwithdrawn
  once := honce
  hooks := h.hooks
  config := h.config
  arena := Assoc.get?_set_self ..
  progress := h.progress
  history := h.history.trans (List.suffix_cons ..)
  runs := (Machine.runs_handled (Or.inl hrun)).trans h.runs

/-- Something new that is neither a claim nor the end of a mapping is written down. -/
theorem acquired {x : Acquired}
    (hunmapped : (a.grown x).unmapped = a.unmapped) (hclaims : (a.grown x).claims = a.claims)
    (hyoung : ∀ t, x.transient? = some t → base.platform.driver.nextNumber ≤ t.2.number)
    (hrun : op ≠ .runProgram)
    (hdriver : Simulator.Extends opened loaded (a.grown x) base.platform.driver s)
    (hn : s.Numbered) (hnext : m.platform.driver.nextNumber ≤ s.nextNumber)
    (hspec : s.spec = m.platform.driver.spec) :
    Setup base owner opened loaded (a.grown x)
      ((m.handled op verdict s).onArena owner fun arena => arena.grown x) := by
  rw [Machine.onArena_of_get? (m := m.handled op verdict s) h.arena]
  refine h.rewritten hrun hdriver hn hnext hspec (fun t ht => ?_) (fun r => ?_)
    (hclaims ▸ h.recorded) (hunmapped ▸ h.withdrawn) (hunmapped ▸ h.once)
  · rw [Arena.transients_grown, List.mem_append, Option.mem_toList] at ht
    exact ht.elim (h.young t) (hyoung t)
  · unfold Arena.marks
    rw [hunmapped, hclaims]
    rfl

/-- A claim is written down on the record and in the arena. -/
theorem claimed {r : Remote}
    (hfreed : (m.status r).freed = false) (hflight : (m.status r).inFlight = false) :
    Setup base owner opened loaded (a.grown (.flight r))
      ((m.onStatus r fun s => { s with inFlight := true }).onArena owner fun arena =>
        arena.grown (.flight r)) := by
  -- A resource without a record would count as freed.
  obtain ⟨status, hr⟩ := Machine.recorded_of_not_freed hfreed
  have hstatus := Machine.status_of_get? hr
  rw [hstatus] at hflight
  have hunmapped : (a.grown (.flight r)).unmapped = a.unmapped := by simp
  rw [Machine.onArena_of_get? (m := m.onStatus r fun s => { s with inFlight := true }) h.arena,
    Machine.onStatus, hstatus]
  exact { h with
    driver := Simulator.Extends.flight_iff.mpr h.driver
    young := by simpa using h.young
    marks := fun r' => by
      rw [← h.marks r', Assoc.get?_set]
      split
      · rename_i heq
        subst heq
        simp [hr, Arena.marks, hflight, RemoteStatus.mapped]
      · rename_i hne
        have hmarks : (a.grown (.flight r)).marks r' = a.marks r' := by
          funext status
          simp [Arena.marks, Ne.symm hne]
        rw [hmarks]
    recorded := fun r' hr' => by
      rw [Assoc.get?_set]
      split
      · exact ⟨_, rfl⟩
      · rename_i hne
        exact h.recorded r' ((Arena.mem_claims_flight.mp hr').resolve_right (Ne.symm hne))
    withdrawn := fun u hu => by
      obtain ⟨old, hold, hlink⟩ := h.withdrawn u (hunmapped ▸ hu)
      rw [Assoc.get?_set]
      split
      · rename_i heq
        cases hr.symm.trans (heq ▸ hold)
        exact ⟨_, rfl, hlink⟩
      · exact ⟨old, hold, hlink⟩
    once := hunmapped ▸ h.once
    arena := Assoc.get?_set_self .. }

/-- The end of a mapping is written down on the record and in the arena. -/
theorem unmapped {register : String} {r : Remote}
    {status : RemoteStatus} (hr : m.remotes.get? r = some status) (hmapped : status.mapped = true)
    (hrun : op ≠ .runProgram)
    (hdriver : Simulator.Extends opened loaded (a.grown (.unmapped register r))
      base.platform.driver s)
    (hn : s.Numbered) (hnext : m.platform.driver.nextNumber ≤ s.nextNumber)
    (hspec : s.spec = m.platform.driver.spec) :
    Setup base owner opened loaded (a.grown (.unmapped register r))
      (((m.handled op verdict s).onStatus r fun s => { s with link := none }).onArena owner
        fun arena => arena.grown (.unmapped register r)) := by
  -- It was mapped until now, so its mapping has not been ended before.
  have hnew : ∀ u ∈ a.unmapped, u.2 ≠ r := fun u hu heq => by
    obtain ⟨old, hold, hlink⟩ := h.withdrawn u hu
    cases hr.symm.trans (heq ▸ hold)
    rw [RemoteStatus.mapped, hlink] at hmapped
    cases hmapped
  have hstatus : (m.handled op verdict s).status r = status := Machine.status_of_get? hr
  have hmem : ∀ u, u ∈ (a.grown (.unmapped register r)).unmapped ↔
      u ∈ a.unmapped ∨ u = (register, r) := by simp
  rw [Machine.onArena_of_get? (m := (m.handled op verdict s).onStatus r fun s =>
    { s with link := none }) h.arena, Machine.onStatus, hstatus]
  refine h.rewritten hrun hdriver hn hnext hspec (by simpa using h.young) (fun r' => ?_)
    (fun r' hr' => ?_) (fun u hu => ?_) ?_
  · rw [Assoc.get?_set]
    split
    · rename_i heq
      subst heq
      simp [hr, Arena.marks, hmapped]
    · rename_i hne
      have hmarks : (a.grown (.unmapped register r)).marks r' = a.marks r' := by
        funext status
        simp [Arena.marks, hne]
      rw [hmarks]
      rfl
  · rw [Assoc.get?_set]
    split
    · exact ⟨_, rfl⟩
    · exact h.recorded r' (by simpa using hr')
  · rw [Assoc.get?_set]
    split
    · exact ⟨_, rfl, rfl⟩
    · rename_i hne
      exact h.withdrawn u (((hmem u).mp hu).resolve_right fun heq => hne (heq ▸ rfl))
  · have hlist : (a.grown (.unmapped register r)).unmapped.map Prod.snd =
        a.unmapped.map Prod.snd ++ [r] := by simp
    rw [hlist]
    refine List.nodup_append.mpr ⟨h.once, by simp, fun r' hr' r'' hr'' heq => ?_⟩
    obtain ⟨u, hu, rfl⟩ := List.mem_map.mp hr'
    exact hnew u hu (heq.trans (List.mem_singleton.mp hr''))

end Setup

end Setup

end StreamCompute
