/-
  StreamCompute.Proofs.Wiring

  What the registers of a launch are bound to. Binding an entry of the table
  ties its register to a memory object and to the resource behind it, which
  holds what the binding says the register starts with. `Tied` says so of one
  entry, and `Loaded` of all entries that were bound so far.
-/
import StreamCompute.Proofs.Operations
import StreamCompute.Proofs.SetupSteps

namespace StreamCompute

open Fallible

variable {κ ω : Type}

/-! ## What registers start with -/

/-- The direction in which a register is copied, given the one that was asked for. -/
def Machine.direction (m : Machine κ ω) (register : String) (asked : Option Direction) :
    Direction :=
  asked.getD (.standard m.platform.config.conventions register)

/-- What a register holds when the kernel starts: the bytes of its remote resource if it is
    used in place or copied in, and zeros otherwise. -/
def Machine.initial (m : Machine κ ω) (register : String) : Binding → Bytes
  | .direct r => (m.platform.driver.held? r.id).getD []
  | .copied r asked =>
    let bytes := (m.platform.driver.held? r.id).getD []
    if (m.direction register asked).copiesIn then bytes else Bytes.zeros bytes.length
  | .scratch shape format => Bytes.zeros (shape.elements * format.elementSize)

/-- The remote resource is live, and its record gives its size. -/
structure Machine.Usable (m : Machine κ ω) (r : Remote) : Prop where
  issued : r.id.number < m.platform.driver.nextNumber
  bytes : ∃ bytes, m.platform.driver.held? r.id = some bytes ∧
    bytes.length = (m.status r).pitch * r.shape.height * r.format.elementSize

theorem Simulator.newSize_onDevice (spec : Spec) (shape : Shape) (format : Format) :
    newSize spec .onDevice (.ofShape shape) format = shape.elements * format.elementSize := by
  have hshape := Layout.shape_ofShape shape
  rw [newSize, newPitch, Shape.elements, ← congrArg Shape.width hshape,
    ← congrArg Shape.height hshape]
  rfl

/-! ## Ties -/

/-- A bound register: the memory object and the resource behind it, and the note that was
    made if it is copied. -/
structure Tie where
  register : String
  binding : Binding
  memory : Ident .memory
  resource : Ident .resource
  copy? : Option CopyRecord := none

namespace Tie

/-- The entry of the table that was bound. -/
def entry (t : Tie) : String × Binding := (t.register, t.binding)

/-- The resource and the note are the right ones for the binding. -/
def Right (base : Machine κ ω) (t : Tie) : Prop :=
  match t.binding with
  | .direct r => t.resource = r.id ∧ t.copy? = none
  | .copied r asked => base.platform.driver.nextNumber ≤ t.resource.number ∧
      ∃ c, t.copy? = some c ∧ c.remote = r ∧ c.transientMemory = t.memory ∧
        c.direction = base.direction t.register asked
  | .scratch .. => base.platform.driver.nextNumber ≤ t.resource.number ∧ t.copy? = none

end Tie

/-- From the first machine with arena `a` to the second with arena `a'`, one entry was bound. -/
structure Tied (base : Machine κ ω) (site : BindSite) (t : Tie) (a : Arena) (m : Machine κ ω)
    (a' : Arena) (m' : Machine κ ω) : Prop where
  setup : Underway base site a' m'
  intact : m.Intact m'
  wiring : m'.wiring site.context = (m.wiring site.context).set t.register t.memory
  copies : a'.copies = a.copies ++ t.copy?.toList
  memory : m'.platform.driver.memories.get? t.memory = some (site.context, t.resource)
  held : m'.platform.driver.held? t.resource = some (base.initial t.register t.binding)
  right : t.Right base
  source : ∀ c, t.copy? = some c →
    m'.platform.driver.memories.get? c.remoteMemory = some (site.context, c.remote.id)
  fresh : base.platform.driver.nextNumber ≤ t.resource.number →
    m.platform.driver.held? t.resource = none

variable {base m m' : Machine κ ω} {site : BindSite} {a a' : Arena} {t : Tie} {r : Remote}
  {register : String}

theorem Tied.journal (h : Tied base site t a m a' m') {journal : List Event} :
    Tied base site t a m a' { m' with journal } :=
  { h with
    setup := h.setup.journal
    intact := h.intact.journal }

section Setup

variable {owner : ExecutionKey} {opened : List (Ident .context)} {loaded : List (Ident .module)}
  {id : Ident .resource}

/-- A resource from before the launch was not made for it. -/
theorem Setup.made_eq_false (h : Setup base owner opened loaded a m)
    (hid : id.number < base.platform.driver.nextNumber) : a.made id = false := by
  simp only [Arena.made, List.any_eq_false, decide_eq_true_eq]
  rintro t ht rfl
  exact Nat.not_le_of_lt hid (h.young t ht)

/-- A resource that was not made for the launch holds what it held before. -/
theorem Setup.held?_of_made_eq_false (h : Setup base owner opened loaded a m)
    (hmade : a.made id = false) :
    m.platform.driver.held? id = base.platform.driver.held? id := by
  have hresource := congrArg (Option.map fun res : Resource => res.bytes.toList)
    (h.driver.get?_resources hmade)
  simpa [Simulator.held?, Simulator.bytes?, Function.comp_def, Arena.restored,
    Resource.settled] using hresource

theorem Setup.held?_eq (h : Setup base owner opened loaded a m)
    (hid : id.number < base.platform.driver.nextNumber) :
    m.platform.driver.held? id = base.platform.driver.held? id :=
  h.held?_of_made_eq_false (h.made_eq_false hid)

/-- The next resource is not held yet. -/
theorem Setup.held?_eq_none (h : Setup base owner opened loaded a m') (hintact : m.Intact m')
    (hid : id.number = m'.platform.driver.nextNumber) : m.platform.driver.held? id = none := by
  cases hheld : m.platform.driver.held? id with
  | none => rfl
  | some bytes =>
    obtain ⟨res, hres, -⟩ := Simulator.held?_eq_some (hintact.held id bytes hheld)
    exact absurd (h.numbered.resources.lt_of_get? hres) (hid ▸ Nat.lt_irrefl _)

end Setup

namespace Binder

variable [Reentry κ ω]

theorem bindDirect_tied (h : Underway base site a m) (hr : base.Usable r) :
    (bindDirect site register r).Leads m
      (fun _ m' => ∃ t a', t.entry = (register, .direct r) ∧ Tied base site t a m a' m')
      (fun _ => Halted base site) fun _ => True := by
  unfold bindDirect
  refine .bind (claim_reached h) fun _ m₁ ⟨a₁, hcopies, h₁⟩ => ?_
  refine .bind (getMemory_reached h₁.setup) fun memory m₂ ⟨h₂, hmemory⟩ => ?_
  refine .bind (bindRegister_wires h₂.setup) fun _ m₃ ⟨h₃, hintact, hwiring⟩ => ?_
  obtain ⟨bytes, hbytes, -⟩ := hr.bytes
  have htied : Tied base site ⟨register, .direct r, memory, r.id, none⟩ a m _ m₃ := {
    setup := h₃
    intact := (h₁.trans h₂).intact.trans hintact
    wiring := (h₁.trans h₂).wiring ▸ hwiring
    copies := by simpa using hcopies
    memory := hintact.memories _ _ hmemory
    held := by rw [h₃.held?_eq hr.issued, Machine.initial, hbytes, Option.getD_some]
    right := ⟨rfl, rfl⟩
    source := nofun
    fresh := fun hyoung => absurd hr.issued (Nat.not_lt_of_le hyoung) }
  exact ⟨_, _, rfl, htied.journal⟩

theorem bindScratch_tied (h : Underway base site a m) {shape : Shape} {format : Format} :
    (bindScratch site register shape format).Leads m
      (fun _ m' => ∃ t a', t.entry = (register, .scratch shape format) ∧
        Tied base site t a m a' m')
      (fun _ => Halted base site) fun _ => True := by
  unfold bindScratch
  refine .bind (allocate_reached h) fun resource m₁ ⟨h₁, hnumber, hheld⟩ => ?_
  refine .bind (getMemory_reached h₁.setup) fun memory m₂ ⟨h₂, hmemory⟩ => ?_
  refine .bind (bindRegister_wires h₂.setup) fun _ m₃ ⟨h₃, hintact, hwiring⟩ => ?_
  rw [Simulator.newSize_onDevice] at hheld
  have htied : Tied base site ⟨register, .scratch shape format, memory, resource, none⟩ a m _ m₃ := {
    setup := h₃
    intact := (h₁.trans h₂).intact.trans hintact
    wiring := (h₁.trans h₂).wiring ▸ hwiring
    copies := by simp
    memory := hintact.memories _ _ hmemory
    held := (h₂.intact.trans hintact).held _ _ hheld
    right := ⟨hnumber ▸ h.grown, rfl⟩
    source := nofun
    fresh := fun _ => h.held?_eq_none .refl hnumber }
  exact ⟨_, _, rfl, htied.journal⟩

/-- A copied register is bound to its resource in device memory; what is left is to fill it
    and to note the copy. -/
structure Prepared (base : Machine κ ω) (site : BindSite) (c : CopyRecord) (a : Arena)
    (m : Machine κ ω) (a' : Arena) (m' : Machine κ ω) : Prop where
  setup : Underway base site a' m'
  intact : m.Intact m'
  wiring : m'.wiring site.context = (m.wiring site.context).set c.register c.transientMemory
  copies : a'.copies = a.copies
  made : a'.made c.transient = true
  source : m'.platform.driver.memories.get? c.remoteMemory = some (site.context, c.remote.id)
  target : m'.platform.driver.memories.get? c.transientMemory = some (site.context, c.transient)
  young : base.platform.driver.nextNumber ≤ c.transient.number
  fresh : m.platform.driver.held? c.transient = none

namespace Prepared

variable {c : CopyRecord} {m'' : Machine κ ω}

omit [Reentry κ ω] in
theorem journal (h : Prepared base site c a m a' m') {journal : List Event} :
    Prepared base site c a m a' { m' with journal } :=
  { h with
    setup := h.setup.journal
    intact := h.intact.journal }

omit [Reentry κ ω] in
/-- The register is filled, and everything else is as before. -/
theorem filled (h : Prepared base site c a m a' m') (hset : Underway base site a' m'')
    (hcopied : m'.Copied site.context c.remoteMemory c.transientMemory m'') :
    Prepared base site c a m a' m'' := by
  obtain ⟨old, new, -, -, hheld⟩ := hcopied.bytes _ _ h.source h.target
  exact {
    setup := hset
    intact := {
      memories := fun memory v hv => by
        rw [hcopied.steady.memories]
        exact h.intact.memories memory v hv
      held := fun id bytes hb => by
        have hne : c.transient ≠ id := by
          rintro rfl
          cases h.fresh.symm.trans hb
        rw [hheld, if_neg hne]
        exact h.intact.held id bytes hb
      pitch := fun r => by
        rw [← h.intact.pitch, Machine.status, hcopied.steady.remotes]
        rfl }
    wiring := by
      rw [← h.wiring, Machine.wiring, hcopied.steady.bindings]
      rfl
    copies := h.copies
    made := h.made
    source := hcopied.steady.memories ▸ h.source
    target := hcopied.steady.memories ▸ h.target
    young := h.young
    fresh := h.fresh }

omit [Reentry κ ω] in
/-- Once the copy is noted, the register is tied. -/
theorem tied (h : Prepared base site c a m a' m') {asked : Option Direction}
    (hdirection : c.direction = base.direction c.register asked)
    (hheld : m'.platform.driver.held? c.transient =
      some (base.initial c.register (.copied c.remote asked))) :
    ∃ t a', t.entry = (c.register, .copied c.remote asked) ∧
      Tied base site t a m a' (m'.onArena site.owner fun arena => arena.copying c) :=
  ⟨⟨c.register, .copied c.remote asked, c.transientMemory, c.transient, some c⟩, _, rfl, {
    setup := h.setup.copying
    intact := h.intact.onArena _ _
    wiring := Machine.wiring_onArena.trans h.wiring
    copies := congrArg (· ++ [c]) h.copies
    memory := by
      rw [Machine.platform_onArena]
      exact h.target
    held := by
      rw [Machine.platform_onArena]
      exact hheld
    right := ⟨h.young, c, rfl, rfl, rfl, hdirection⟩
    source := fun c' hc' => by
      cases hc'
      rw [Machine.platform_onArena]
      exact h.source
    fresh := fun _ => h.fresh }⟩

end Prepared

theorem bindCopied_tied (h : Underway base site a m) (hr : base.Usable r)
    (hpitch : (m.status r).pitch = (base.status r).pitch) {asked : Option Direction} :
    (bindCopied site register r (base.direction register asked)).Leads m
      (fun _ m' => ∃ t a', t.entry = (register, .copied r asked) ∧ Tied base site t a m a' m')
      (fun _ => Halted base site) fun _ => True := by
  unfold bindCopied
  refine .bind (claim_reached h) fun _ m₁ ⟨a₁, hcopies, h₁⟩ => ?_
  refine .bind (getMemory_reached h₁.setup) fun remoteMemory m₂ ⟨h₂, hremote⟩ => ?_
  rw [leads_bind, leads_get]
  refine .bind (allocate_reached h₂.setup) fun transient m₃ ⟨h₃, hnumber, hzeros⟩ => ?_
  refine .bind (getMemory_reached h₃.setup) fun transientMemory m₄ ⟨h₄, htransient⟩ => ?_
  refine .bind (bindRegister_wires h₄.setup) fun _ m₅ ⟨h₅, hintact, hwiring⟩ => ?_
  have hreached := ((h₁.trans h₂).trans h₃).trans h₄
  have hprepared : Prepared base site ⟨register, r, remoteMemory, transient, transientMemory,
      base.direction register asked⟩ a m _ m₅ := {
    setup := h₅
    intact := hreached.intact.trans hintact
    wiring := hreached.wiring ▸ hwiring
    copies := hcopies
    made := by simp [Arena.made]
    source := ((h₃.trans h₄).intact.trans hintact).memories _ _ hremote
    target := hintact.memories _ _ htransient
    young := hnumber ▸ h₂.setup.grown
    fresh := h₂.setup.held?_eq_none (h₁.trans h₂).intact hnumber }
  obtain ⟨bytes, hbytes, hlength⟩ := hr.bytes
  -- The resource in device memory is as large as the remote one.
  have hheld : m₅.platform.driver.held? transient = some (Bytes.zeros bytes.length) := by
    refine (h₄.intact.trans hintact).held _ _ (hzeros.trans ?_)
    rw [Simulator.newSize_onDevice, Shape.elements, (h₁.trans h₂).intact.pitch, hpitch, hlength]
  split
  · rename_i hin
    refine .bind (copyIn_copies h₅ hprepared.target hprepared.made) fun _ m₆ hm₆ => ?_
    obtain ⟨h₆, hcopied⟩ := hm₆
    obtain ⟨old, new, hold, hnew, hcontents⟩ := hcopied.bytes _ _ hprepared.source hprepared.target
    have hinitial : m₆.platform.driver.held? transient =
        some (base.initial register (.copied r asked)) := by
      cases hheld.symm.trans hold
      cases hbytes.symm.trans ((h₅.held?_eq hr.issued).symm.trans hnew)
      rw [hcontents, if_pos rfl, Bytes.overwrite_of_length_eq (by simp), Machine.initial, hbytes,
        if_pos hin, Option.getD_some]
    exact (hprepared.filled h₆ hcopied).journal.tied rfl hinitial
  · rename_i hout
    have hinitial : m₅.platform.driver.held? transient =
        some (base.initial register (.copied r asked)) := by
      rw [hheld, Machine.initial, hbytes, if_neg hout, Option.getD_some]
    exact hprepared.journal.tied rfl hinitial

end Binder

theorem BindingTable.get?_eq (t : BindingTable) (register : String) :
    t.get? register = Assoc.get? t.entries register := by
  unfold get?
  induction t.entries with
  | nil => rfl
  | cons e rest ih =>
    obtain ⟨name, binding⟩ := e
    by_cases hname : name = register
    · simp [Assoc.get?, hname]
    · simpa [Assoc.get?, hname] using ih

/-! ## Whole tables -/

/-- The entries can be bound together: they have different registers and different remote
    resources, all of which are usable. -/
structure Machine.Fit (m : Machine κ ω) (entries : List (String × Binding)) : Prop where
  registers : (entries.map Prod.fst).Nodup
  remotes : (entries.filterMap fun e => e.2.remote?.map (·.id)).Nodup
  usable : ∀ e ∈ entries, ∀ r, e.2.remote? = some r → m.Usable r

theorem Machine.Fit.sublist {entries entries' : List (String × Binding)} (h : m.Fit entries)
    (hsub : entries'.Sublist entries) : m.Fit entries' where
  registers := h.registers.sublist (hsub.map Prod.fst)
  remotes := h.remotes.sublist (hsub.filterMap _)
  usable e he := h.usable e (hsub.subset he)

theorem Machine.Fit.perm {entries entries' : List (String × Binding)} (h : m.Fit entries)
    (hperm : entries'.Perm entries) : m.Fit entries' where
  registers := (hperm.map Prod.fst).nodup_iff.mpr h.registers
  remotes := (hperm.filterMap _).nodup_iff.mpr h.remotes
  usable e he := h.usable e (hperm.mem_iff.mp he)

/-- Everything that was bound so far, one tie for each entry. -/
structure Loaded (base : Machine κ ω) (site : BindSite) (ties : List Tie) (a : Arena)
    (m : Machine κ ω) : Prop where
  setup : Underway base site a m
  wiring : m.wiring site.context = ties.map fun t => (t.register, t.memory)
  copies : a.copies = ties.filterMap Tie.copy?
  memories : ∀ t ∈ ties,
    m.platform.driver.memories.get? t.memory = some (site.context, t.resource)
  held : ∀ t ∈ ties,
    m.platform.driver.held? t.resource = some (base.initial t.register t.binding)
  right : ∀ t ∈ ties, t.Right base
  sources : ∀ t ∈ ties, ∀ c, t.copy? = some c →
    m.platform.driver.memories.get? c.remoteMemory = some (site.context, c.remote.id)
  distinct : (ties.map Tie.resource).Nodup
  pitch : ∀ r, (m.status r).pitch = (base.status r).pitch

/-- A register that is tied to a resource from before the launch is used in place. -/
theorem Tie.Right.direct_of_lt (h : t.Right base)
    (hold : t.resource.number < base.platform.driver.nextNumber) :
    ∃ r, t.binding = .direct r ∧ t.resource = r.id := by
  unfold Tie.Right at h
  split at h
  · exact ⟨_, ‹_›, h.1⟩
  · exact absurd hold (Nat.not_lt_of_le h.1)
  · exact absurd hold (Nat.not_lt_of_le h.1)

namespace Loaded

variable {ties : List Tie}

/-- A step that acquires nothing leaves everything bound. -/
theorem reached (h : Loaded base site ties a m) (h' : Reached base site a m m') :
    Loaded base site ties a m' where
  setup := h'.setup
  wiring := h'.wiring.trans h.wiring
  copies := h.copies
  memories t ht := h'.intact.memories _ _ (h.memories t ht)
  held t ht := h'.intact.held _ _ (h.held t ht)
  right := h.right
  sources t ht c hc := h'.intact.memories _ _ (h.sources t ht c hc)
  distinct := h.distinct
  pitch r := (h'.intact.pitch r).trans (h.pitch r)

/-- No earlier register is tied to the resource of a new tie. -/
theorem resource_notMem (h : Loaded base site ties a m) (ht : Tied base site t a m a' m')
    (hfit : base.Fit (ties.map Tie.entry ++ [t.entry])) :
    t.resource ∉ ties.map Tie.resource := by
  intro hin
  obtain ⟨u, hu, hsame⟩ := List.mem_map.mp hin
  rcases Nat.lt_or_ge t.resource.number base.platform.driver.nextNumber with hold | hyoung
  · obtain ⟨r, hr, hid⟩ := ht.right.direct_of_lt hold
    obtain ⟨r', hr', hid'⟩ := (h.right u hu).direct_of_lt (hsame ▸ hold)
    have hremotes := hfit.remotes
    rw [List.filterMap_append, List.nodup_append] at hremotes
    refine hremotes.2.2 r'.id (List.mem_filterMap.mpr ⟨u.entry, List.mem_map_of_mem hu, ?_⟩)
      r.id (List.mem_filterMap.mpr ⟨t.entry, List.mem_singleton_self _, ?_⟩) ?_
    · simp [Tie.entry, hr', Binding.remote?]
    · simp [Tie.entry, hr, Binding.remote?]
    · rw [← hid', hsame, hid]
  · have hheld := h.held u hu
    rw [hsame, ht.fresh hyoung] at hheld
    cases hheld

theorem tie (h : Loaded base site ties a m) (ht : Tied base site t a m a' m')
    (hfit : base.Fit (ties.map Tie.entry ++ [t.entry])) :
    Loaded base site (ties ++ [t]) a' m' := by
  -- Registers are distinct, so the new one is bound at the end of the list.
  have hregister : Assoc.get? (ties.map fun u => (u.register, u.memory)) t.register = none := by
    rw [Assoc.get?_eq_none_iff]
    intro e he
    obtain ⟨u, hu, rfl⟩ := List.mem_map.mp he
    have hregisters := hfit.registers
    rw [List.map_append, List.nodup_append, List.map_map] at hregisters
    exact hregisters.2.2 u.register (List.mem_map_of_mem hu) t.register (by simp [Tie.entry])
  have heach {P : Tie → Prop} (hties : ∀ u ∈ ties, P u) (hnew : P t) : ∀ u ∈ ties ++ [t], P u := by
    intro u hu
    rcases List.mem_append.mp hu with hu | hu
    · exact hties u hu
    · exact List.mem_singleton.mp hu ▸ hnew
  exact {
    setup := ht.setup
    wiring := by
      rw [ht.wiring, h.wiring, Assoc.set_of_get?_eq_none hregister, List.map_append]
      rfl
    copies := by
      rw [ht.copies, h.copies, List.filterMap_append]
      cases hcopy : t.copy? <;> simp [hcopy]
    memories := heach (fun u hu => ht.intact.memories _ _ (h.memories u hu)) ht.memory
    held := heach (fun u hu => ht.intact.held _ _ (h.held u hu)) ht.held
    right := heach h.right ht.right
    sources := heach (fun u hu c hc => ht.intact.memories _ _ (h.sources u hu c hc)) ht.source
    distinct := by
      have hnew := h.resource_notMem ht hfit
      rw [List.map_append, List.nodup_append]
      exact ⟨h.distinct, by simp, fun id hid id' hid' heq => hnew (by simp_all)⟩
    pitch := fun r => (ht.intact.pitch r).trans (h.pitch r) }

end Loaded

namespace Binder

variable [Reentry κ ω] {ties : List Tie}

theorem bindEntry_tied (h : Loaded base site ties a m) {e : String × Binding}
    (husable : ∀ r, e.2.remote? = some r → base.Usable r) :
    (bindEntry site base.platform.config.conventions e).Leads m
      (fun _ m' => ∃ t a', t.entry = e ∧ Tied base site t a m a' m')
      (fun _ => Halted base site) fun _ => True := by
  obtain ⟨register, binding⟩ := e
  cases binding with
  | direct r => exact bindDirect_tied h.setup (husable r rfl)
  | scratch shape format => exact bindScratch_tied h.setup
  | copied r asked => exact bindCopied_tied h.setup (husable r rfl) (h.pitch r)

/-- The loop: each entry is bound after those before it. -/
theorem forM_loads (h : Loaded base site ties a m) {rest : List (String × Binding)}
    (hfit : base.Fit (ties.map Tie.entry ++ rest)) :
    (rest.forM (bindEntry site base.platform.config.conventions)).Leads m
      (fun _ m' => ∃ ties' a', ties'.map Tie.entry = ties.map Tie.entry ++ rest ∧
        Loaded base site ties' a' m')
      (fun _ => Halted base site) fun _ => True := by
  induction rest generalizing ties a m with
  | nil => exact ⟨ties, a, (List.append_nil _).symm, h⟩
  | cons e rest ih =>
    rw [leads_forM_cons]
    refine (bindEntry_tied h fun r hr => hfit.usable e (by simp) r hr).imp
      fun _ m' ⟨t, a', ht, htied⟩ => ?_
    subst ht
    have hsplit : (ties ++ [t]).map Tie.entry ++ rest = ties.map Tie.entry ++ t.entry :: rest := by
      simp
    rw [← hsplit] at hfit
    refine (ih (h.tie htied ?_) hfit).imp fun _ m'' ⟨ties', a'', hties', hm''⟩ => ?_
    · rw [List.map_append] at hfit
      exact hfit.sublist (List.sublist_append_left _ _)
    · exact ⟨ties', a'', hties'.trans hsplit, hm''⟩

end Binder

end StreamCompute
