/-
  StreamCompute.Proofs.LaunchTrace

  The calls of a launch, one after the other, where no hook interferes. `Took`
  compares two machines during the setup: the trace between them, what was
  written down in the arena meanwhile, and that the two match. What the trace
  says about copies is kept beside it: a copy is asked about until it is done
  before anything else is called, and the copies are those of the entries that
  are copied in.

  Both survive a step that fails, because what was called before it stays in
  the trace.
-/
import StreamCompute.Proofs.Asking
import StreamCompute.Proofs.Rollback

namespace StreamCompute

/-! ## Releases -/

/-- The call that gives back what was acquired. -/
def Acquired.release? (context : Ident .context) : Acquired → Option Call
  | .memory m => some (.releaseMemory context m)
  | .transient _ resource => some (.freeResource resource)
  | .unmapped _ r => some (.mapResource r.id)
  | .flight _ => none

/-! ## Copies in a trace -/

/-- The resources between which a copy was logged. -/
def Moment.copied? (mo : Moment) : Option (Ident .resource × Ident .resource) :=
  if mo.operation = .copyMemory then
    match mo.call? with
    | some (.copyMemory _ source target) => some (source, target)
    | _ => none
  else none

/-- After each accepted copy the trace goes on as told, given the context and the token. -/
def EachCopy (follows : Ident .context → Ident .event → List Moment → Prop) :
    List Moment → Prop
  | [] => True
  | mo :: rest => (∀ context source target, mo.operation = .copyMemory →
      mo.accepted? = some (.copyMemory context source target) →
      follows context ⟨mo.found.nextNumber⟩ rest) ∧ EachCopy follows rest

/-- The trace begins with asking the token until it is done. -/
def Settles (context : Ident .context) (event : Ident .event) (trace : List Moment) : Prop :=
  ∃ asks rest, trace = asks ++ rest ∧ Finished context event asks

/-- The trace begins with asking the token until it is done, or consists of asking it. -/
def SettlesOrAsks (context : Ident .context) (event : Ident .event) (trace : List Moment) :
    Prop :=
  Settles context event trace ∨ ∀ mo ∈ trace, mo.Asks context event

section EachCopy

variable {follows follows' : Ident .context → Ident .event → List Moment → Prop}
  {trace trace' : List Moment}

theorem EachCopy.append (h : EachCopy follows trace) (h' : EachCopy follows' trace')
    (hmore : ∀ context event rest, follows context event rest →
      follows' context event (rest ++ trace')) : EachCopy follows' (trace ++ trace') := by
  induction trace with
  | nil => exact h'
  | cons mo rest ih =>
    refine ⟨fun context source target hop hcall => ?_, ih h.2⟩
    exact hmore _ _ _ (h.1 context source target hop hcall)

theorem EachCopy.of_ne (h : ∀ mo ∈ trace, mo.operation ≠ .copyMemory) :
    EachCopy follows trace := by
  induction trace with
  | nil => trivial
  | cons mo rest ih =>
    exact ⟨fun _ _ _ hop => absurd hop (h mo List.mem_cons_self),
      ih fun mo' hmo' => h mo' (List.mem_cons_of_mem mo hmo')⟩

theorem Settles.append {context : Ident .context} {event : Ident .event}
    (h : Settles context event trace) : Settles context event (trace ++ trace') := by
  obtain ⟨asks, rest, rfl, hasks⟩ := h
  exact ⟨asks, rest ++ trace', List.append_assoc .., hasks⟩

/-- Copies that are settled stay so, whatever comes after them. -/
theorem EachCopy.settled (h : EachCopy Settles trace) (h' : EachCopy Settles trace') :
    EachCopy Settles (trace ++ trace') :=
  h.append h' fun _ _ _ hs => hs.append

theorem EachCopy.stopped (h : EachCopy Settles trace) (h' : EachCopy SettlesOrAsks trace') :
    EachCopy SettlesOrAsks (trace ++ trace') :=
  h.append h' fun _ _ _ hs => Or.inl hs.append

theorem Moment.copied?_of_call {mo : Moment} {context : Ident .context}
    {source target : Ident .resource} (hop : mo.operation = .copyMemory)
    (hcall : mo.call? = some (.copyMemory context source target)) :
    mo.copied? = some (source, target) := by
  rw [copied?, if_pos hop, hcall]

theorem Moment.copied?_of_ne {mo : Moment} (h : mo.operation ≠ .copyMemory) :
    mo.copied? = none :=
  if_neg h

theorem filterMap_copied?_of_ne (h : ∀ mo ∈ trace, mo.operation ≠ .copyMemory) :
    trace.filterMap Moment.copied? = [] :=
  List.filterMap_eq_nil_iff.mpr fun mo hmo => Moment.copied?_of_ne (h mo hmo)

end EachCopy

/-! ## A copy and the calls that ask its token -/

namespace Machine

variable {κ ω : Type} {m : Machine κ ω} {verdict : Verdict} {s : Simulator}
  {context : Ident .context} {src dst : Ident .resource} {asks : List Moment}
  {event : Ident .event} (hcalls : s.calls = .copyMemory context src dst :: m.platform.driver.calls)
  (hasks : ∀ mo ∈ asks, mo.Asks context event)

include hcalls hasks

theorem copied?_copy :
    (m.moment .copyMemory verdict s :: asks).filterMap Moment.copied? = [(src, dst)] := by
  have hcopied : (m.moment .copyMemory verdict s).copied? = some (src, dst) :=
    Moment.copied?_of_call rfl (Machine.call?_moment hcalls)
  rw [List.filterMap_cons_some hcopied, filterMap_copied?_of_ne fun mo hmo => ?_]
  rw [(hasks mo hmo).1]
  nofun

theorem eachCopy_copy {follows : Ident .context → Ident .event → List Moment → Prop}
    (hfollows : verdict = .accepted → follows context ⟨m.platform.driver.nextNumber⟩ asks) :
    EachCopy follows (m.moment .copyMemory verdict s :: asks) := by
  refine ⟨fun context _ _ _ hcall => ?_, .of_ne fun mo hmo => ?_⟩
  · by_cases hv : verdict = .accepted
    · subst hv
      rw [Machine.accepted?_moment hcalls] at hcall
      cases hcall
      exact hfollows rfl
    · rw [Moment.accepted?_of_ne hv] at hcall
      cases hcall
  · rw [(hasks mo hmo).1]
    nofun

end Machine

/-! ## From one machine to another -/

variable {κ ω : Type}

/-- From the first machine to the second the calls of the trace were made. What they have
    acquired was written down in the arena, and so were the given copies; none of the calls
    cleans up or runs the kernel. -/
structure Took (site : BindSite) (a : Arena) (m : Machine κ ω) (xs : List Acquired)
    (cs : List CopyRecord) (trace : List Moment) (a' : Arena) (m' : Machine κ ω) : Prop where
  history : m'.history = trace.reverse ++ m.history
  arena : m'.arenas.get? site.owner = some a'
  acquired : a'.acquired = a.acquired ++ xs
  copies : a'.copies = a.copies ++ cs
  releases : xs.filterMap (Acquired.release? site.context) = trace.filterMap Moment.release?
  forward : ∀ mo ∈ trace, mo.operation.cleansUp = false ∧ mo.operation ≠ .runProgram

variable {base m m' m'' : Machine κ ω} {site : BindSite} {a a' a'' : Arena}
  {xs xs' : List Acquired} {cs cs' : List CopyRecord} {trace trace' : List Moment}

namespace Took

theorem refl (harena : m.arenas.get? site.owner = some a) : Took site a m [] [] [] a m where
  history := rfl
  arena := harena
  acquired := (List.append_nil _).symm
  copies := (List.append_nil _).symm
  releases := rfl
  forward _ hmo := absurd hmo List.not_mem_nil

theorem trans (h : Took site a m xs cs trace a' m')
    (h' : Took site a' m' xs' cs' trace' a'' m'') :
    Took site a m (xs ++ xs') (cs ++ cs') (trace ++ trace') a'' m'' where
  history := by rw [h'.history, h.history, List.reverse_append, List.append_assoc]
  arena := h'.arena
  acquired := by rw [h'.acquired, h.acquired, List.append_assoc]
  copies := by rw [h'.copies, h.copies, List.append_assoc]
  releases := by rw [List.filterMap_append, List.filterMap_append, h.releases, h'.releases]
  forward mo hmo := by
    rcases List.mem_append.mp hmo with hmo | hmo
    · exact h.forward mo hmo
    · exact h'.forward mo hmo

theorem journal (h : Took site a m xs cs trace a' m') {journal : List Event} :
    Took site a m xs cs trace a' { m' with journal } :=
  { h with }

theorem called (h : Underway base site a m) (hcalled : m.Called trace m')
    (hreleases : trace.filterMap Moment.release? = [])
    (hforward : ∀ mo ∈ trace, mo.operation.cleansUp = false ∧ mo.operation ≠ .runProgram) :
    Took site a m [] [] trace a m' where
  history := hcalled.history
  arena := hcalled.arenas ▸ h.arena
  acquired := (List.append_nil _).symm
  copies := (List.append_nil _).symm
  releases := hreleases.symm
  forward := hforward

theorem grown (m' : Machine κ ω) {x : Acquired}
    (hhistory : m'.history = trace.reverse ++ m.history)
    (harena : m'.arenas.get? site.owner = some a)
    (hreleases : [x].filterMap (Acquired.release? site.context) =
      trace.filterMap Moment.release?)
    (hforward : ∀ mo ∈ trace, mo.operation.cleansUp = false ∧ mo.operation ≠ .runProgram) :
    Took site a m [x] [] trace (a.grown x)
      (m'.onArena site.owner fun arena => arena.grown x) := by
  rw [Machine.onArena_of_get? harena]
  exact {
    history := hhistory
    arena := Assoc.get?_set_self ..
    acquired := rfl
    copies := (List.append_nil _).symm
    releases := hreleases
    forward := hforward }

theorem noted (h : Underway base site a m) {c : CopyRecord} :
    Took site a m [] [c] [] (a.copying c)
      (m.onArena site.owner fun arena => arena.copying c) := by
  rw [Machine.onArena_of_get? h.arena]
  exact {
    history := rfl
    arena := Assoc.get?_set_self ..
    acquired := (List.append_nil _).symm
    copies := rfl
    releases := rfl
    forward := fun _ hmo => absurd hmo List.not_mem_nil }

end Took

theorem Took.made (h : Took site a m xs cs trace a' m') {id : Ident .resource}
    (hid : a.made id = true) : a'.made id = true := by
  simp only [Arena.made, Arena.transients, h.acquired, List.filterMap_append, List.any_append,
    Bool.or_eq_true] at hid ⊢
  exact Or.inl hid

/-- There is one arena at the site. -/
theorem Took.underway (h : Took site a m xs cs trace a' m') (hs : Halted base site m') :
    Underway base site a' m' := by
  obtain ⟨b, hb⟩ := hs
  cases hb.arena.symm.trans h.arena
  exact hb

/-! ## Steps that succeed and steps that fail -/

/-- The bytes that the noted copies bring in: from which resource, and to which. -/
def incoming (cs : List CopyRecord) : List (Ident .resource × Ident .resource) :=
  (cs.filter (·.direction.copiesIn)).map fun c => (c.remote.id, c.transient)

/-- Steps have succeeded that claimed these remote resources, noted these copies, and copied
    between these resources; each copy was awaited before anything else was called. -/
def Advanced (site : BindSite) (a : Arena) (m : Machine κ ω) (claims : List Remote)
    (cs : List CopyRecord) (copied : List (Ident .resource × Ident .resource)) (a' : Arena)
    (m' : Machine κ ω) : Prop :=
  ∃ xs trace, Took site a m xs cs trace a' m' ∧ xs.filterMap Acquired.claim? = claims ∧
    trace.filterMap Moment.copied? = copied ∧ (∀ p ∈ copied, a'.made p.2 = true) ∧
    EachCopy Settles trace

/-- Steps have ended with a failure. No more was copied than what comes first among these
    sources, and the targets of the copies were made for the launch. -/
def Stopped (site : BindSite) (a : Arena) (m : Machine κ ω) (sources : List (Ident .resource))
    (a' : Arena) (m' : Machine κ ω) : Prop :=
  ∃ xs cs trace, Took site a m xs cs trace a' m' ∧
    (trace.filterMap Moment.copied?).map Prod.fst <+: sources ∧
    (∀ p ∈ trace.filterMap Moment.copied?, a'.made p.2 = true) ∧ EachCopy SettlesOrAsks trace

variable {claims claims' : List Remote}
  {copied copied' : List (Ident .resource × Ident .resource)}
  {sources sources' : List (Ident .resource)}

namespace Advanced

theorem refl (h : Underway base site a m) : Advanced site a m [] [] [] a m :=
  ⟨[], [], .refl h.arena, rfl, rfl, nofun, trivial⟩

theorem trans (h : Advanced site a m claims cs copied a' m')
    (h' : Advanced site a' m' claims' cs' copied' a'' m'') :
    Advanced site a m (claims ++ claims') (cs ++ cs') (copied ++ copied') a'' m'' := by
  obtain ⟨xs, trace, htook, rfl, rfl, hmade, hcopies⟩ := h
  obtain ⟨xs', trace', htook', rfl, rfl, hmade', hcopies'⟩ := h'
  refine ⟨_, _, htook.trans htook', List.filterMap_append, List.filterMap_append, ?_,
    hcopies.settled hcopies'⟩
  intro p hp
  rcases List.mem_append.mp hp with hp | hp
  · exact htook'.made (hmade p hp)
  · exact hmade' p hp

theorem of_took (h : Took site a m xs cs trace a' m')
    (hquiet : ∀ mo ∈ trace, mo.operation ≠ .copyMemory) :
    Advanced site a m (xs.filterMap Acquired.claim?) cs [] a' m' :=
  ⟨xs, trace, h, rfl, filterMap_copied?_of_ne hquiet, nofun, .of_ne hquiet⟩

variable (h : Advanced site a m claims cs copied a' m')

include h

theorem journal {journal : List Event} :
    Advanced site a m claims cs copied a' { m' with journal } := by
  obtain ⟨xs, trace, htook, hrest⟩ := h
  exact ⟨xs, trace, htook.journal, hrest⟩

/-- A failure after steps that have succeeded. -/
theorem stopped (h' : Stopped site a' m' sources a'' m'') :
    Stopped site a m (copied.map Prod.fst ++ sources) a'' m'' := by
  obtain ⟨xs, trace, htook, rfl, rfl, hmade, hcopies⟩ := h
  obtain ⟨xs', cs', trace', htook', hsources, hmade', hcopies'⟩ := h'
  refine ⟨_, _, _, htook.trans htook', ?_, ?_, hcopies.stopped hcopies'⟩
  · rw [List.filterMap_append, List.map_append]
    exact (List.prefix_append_right_inj _).mpr hsources
  · intro p hp
    rw [List.filterMap_append] at hp
    rcases List.mem_append.mp hp with hp | hp
    · exact htook'.made (hmade p hp)
    · exact hmade' p hp

theorem made {id : Ident .resource} (hid : a.made id = true) : a'.made id = true :=
  let ⟨_, _, htook, _⟩ := h
  htook.made hid

theorem underway (hs : Halted base site m') :
    Underway base site a' m' :=
  let ⟨_, _, htook, _⟩ := h
  htook.underway hs

end Advanced

namespace Stopped

theorem mono (h : Stopped site a m sources a' m') (hsources : sources <+: sources') :
    Stopped site a m sources' a' m' := by
  obtain ⟨xs, cs, trace, htook, hprefix, hrest⟩ := h
  exact ⟨xs, cs, trace, htook, hprefix.trans hsources, hrest⟩

theorem of_took (h : Took site a m xs cs trace a' m')
    (hquiet : ∀ mo ∈ trace, mo.operation ≠ .copyMemory) : Stopped site a m [] a' m' := by
  have hnone := filterMap_copied?_of_ne hquiet
  refine ⟨xs, cs, trace, h, ?_, ?_, .of_ne hquiet⟩
  · rw [hnone]
    exact List.prefix_refl _
  · rw [hnone]
    exact nofun

theorem refl (h : Underway base site a m) : Stopped site a m [] a m :=
  of_took (.refl h.arena) fun _ hmo => absurd hmo List.not_mem_nil

theorem journal (h : Stopped site a m sources a' m') {journal : List Event} :
    Stopped site a m sources a' { m' with journal } := by
  obtain ⟨xs, cs, trace, htook, hrest⟩ := h
  exact ⟨xs, cs, trace, htook.journal, hrest⟩

theorem underway (h : Stopped site a m sources a' m') (hs : Halted base site m') :
    Underway base site a' m' :=
  let ⟨_, _, _, htook, _⟩ := h
  htook.underway hs

end Stopped

/-- What a step that fails leaves, with its calls. -/
def HaltedAfter (base : Machine κ ω) (site : BindSite) (a : Arena) (m : Machine κ ω)
    (sources : List (Ident .resource)) (m' : Machine κ ω) : Prop :=
  ∃ a', Underway base site a' m' ∧ Stopped site a m sources a' m'

theorem HaltedAfter.mono (h : HaltedAfter base site a m sources m')
    (hsources : sources <+: sources') : HaltedAfter base site a m sources' m' := by
  obtain ⟨a', hs, hstopped⟩ := h
  exact ⟨a', hs, hstopped.mono hsources⟩

theorem Advanced.halted (h : Advanced site a m claims cs copied a' m')
    (h' : HaltedAfter base site a' m' sources m'') :
    HaltedAfter base site a m (copied.map Prod.fst ++ sources) m'' := by
  obtain ⟨a'', hs, hstopped⟩ := h'
  exact ⟨a'', hs, h.stopped hstopped⟩

theorem Took.call (h : Underway base site a m) {op : Operation} {verdict : Verdict} {s : Simulator}
    (hrelease : (m.moment op verdict s).release? = none)
    (hforward : op.cleansUp = false ∧ op ≠ .runProgram) :
    Took site a m [] [] [m.moment op verdict s] a (m.handled op verdict s) := by
  refine .called h .handled ?_ fun mo hmo => ?_
  · rw [List.filterMap_cons_none hrelease, List.filterMap_nil]
  · cases List.mem_singleton.mp hmo
    exact hforward

/-- One call that neither acquires nor copies anything. -/
theorem Advanced.call (h : Underway base site a m) {op : Operation} {verdict : Verdict}
    {s : Simulator} (hrelease : (m.moment op verdict s).release? = none)
    (hforward : op.cleansUp = false ∧ op ≠ .runProgram) (hop : op ≠ .copyMemory) :
    Advanced site a m [] [] [] a (m.handled op verdict s) :=
  .of_took (.call h hrelease hforward) fun mo hmo => by
    cases List.mem_singleton.mp hmo
    exact hop

theorem Stopped.call (h : Underway base site a m) {op : Operation} {e : DriverError}
    {s : Simulator} (hforward : op.cleansUp = false ∧ op ≠ .runProgram) (hop : op ≠ .copyMemory) :
    Stopped site a m [] a (m.handled op (.refused e) s) :=
  .of_took (.call h (Moment.release?_of_ne nofun) hforward) fun mo hmo => by
    cases List.mem_singleton.mp hmo
    exact hop

end StreamCompute
