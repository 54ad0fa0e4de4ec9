/-
  StreamCompute.Proofs.CustodySteps

  Steps that keep the machine in order. Each lemma is about one kind of change:
  of the driver and the records (`InOrder.update`), of an arena that is being
  filled or emptied, or of what the calls under way hold.

  A call that takes hold of something adds it to the holdings, and one that
  lets go takes it away again, so most of the lemmas go from the holdings `g`
  with something in front to the holdings `g` with something else in front.
-/
import StreamCompute.Proofs.Custody

namespace StreamCompute

/-! ## Taking hold -/

namespace Holdings

/-- With an execution's number set aside. -/
def reserve (key : ExecutionKey) (g : Holdings) : Holdings := { g with reserved := key :: g.reserved }

/-- With a remote resource claimed by a call. -/
def calling (r : Remote) (g : Holdings) : Holdings := { g with calls := r :: g.calls }

def working (f : Frame) (g : Holdings) : Holdings := { g with steady := f :: g.steady }

def dropping (key : ExecutionKey) (a : Arena) (g : Holdings) : Holdings :=
  { g with falling := (key, a) :: g.falling }

/-- With a device resource. -/
def keeping (id : Ident .resource) (g : Holdings) : Holdings := { g with locals := id :: g.locals }

/-- With a host resource that has no record yet. -/
def bearing (id : Ident .resource) (layout : Layout) (format : Format) (g : Holdings) : Holdings :=
  { g with newborn := (id, layout, format) :: g.newborn }

def missing (r : Remote) (g : Holdings) : Holdings := { g with freed := r :: g.freed }

def following (key : ExecutionKey) (g : Holdings) : Holdings := { g with running := key :: g.running }

theorem keys_dropping (g : Holdings) (key : ExecutionKey) (a : Arena) :
    (g.dropping key a).keys.Perm (key :: g.keys) := by
  simp [keys, dropping]

end Holdings

/-! ## Moments -/

namespace Moment

variable {mo : Moment}

theorem safe_of_verdict (h : mo.verdict ≠ .accepted) : mo.Safe :=
  fun haccepted => absurd haccepted h

/-- An accepted call is the newest one in the log that it left. -/
theorem safe_of_logged (s : Simulator) (call : Call) (hcalls : mo.left.calls = (s.logged call).calls)
    (hop : call.operation = mo.operation)
    (h : ∀ context resource, call.Touches mo.found context resource → mo.Guards context resource) :
    mo.Safe := by
  intro haccepted
  refine ⟨call, ?_, hop, h⟩
  rw [accepted?, if_pos haccepted, hcalls]
  rfl

end Moment

theorem Quiet.of_subset {l l' : List Moment} (h : Quiet l') (hsub : l ⊆ l') : Quiet l :=
  fun mo hmo => h mo (hsub hmo)

theorem not_quiet_of_cutOff {mo : Moment} {l : List Moment} (h : mo.verdict = .cutOff) :
    ¬ Quiet (mo :: l) :=
  fun hq => hq mo List.mem_cons_self h

/-! ## Resources -/

/-- Whatever has a number below `next` and is live afterwards was live before, in the same
    place. -/
def SamePlaces (next : Nat) (t t' : Assoc (Ident .resource) Resource) : Prop :=
  ∀ id res', t'.get? id = some res' → id.number < next →
    ∃ res, t.get? id = some res ∧ res.place = res'.place

/-- Nothing but bytes changed, and as many of them are there as before. -/
def Refilled (t t' : Assoc (Ident .resource) Resource) : Prop :=
  ∀ id, (t.get? id = none ∧ t'.get? id = none) ∨
    ∃ res bytes, t.get? id = some res ∧ bytes.size = res.bytes.size ∧
      t'.get? id = some { res with bytes }

section Resources

variable {next : Nat} {t t' t'' : Assoc (Ident .resource) Resource} {id : Ident .resource}
  {res res' : Resource}

theorem SamePlaces.refl : SamePlaces next t t :=
  fun _ res h _ => ⟨res, h, rfl⟩

theorem SamePlaces.set (hid : t.get? id = some res) (hplace : res'.place = res.place) :
    SamePlaces next t (t.set id res') := by
  intro i r hr _
  rcases Assoc.of_get?_set hr with ⟨rfl, rfl⟩ | ⟨-, hr⟩
  · exact ⟨res, hid, hplace.symm⟩
  · exact ⟨r, hr, rfl⟩

theorem SamePlaces.set_next : SamePlaces next t (t.set ⟨next⟩ res) := by
  intro i r hr hi
  rcases Assoc.of_get?_set hr with ⟨rfl, -⟩ | ⟨-, hr⟩
  · exact absurd hi (Nat.lt_irrefl next)
  · exact ⟨r, hr, rfl⟩

theorem SamePlaces.erase : SamePlaces next t (t.erase id) := by
  intro i r hr _
  exact ⟨r, (Assoc.of_get?_erase hr).2, rfl⟩

/-- Only the resource of the record counts. -/
theorem Agrees.congr {serial : Nat} {r : Remote} {status : RemoteStatus}
    (h : Agrees serial t r status) (hsame : t'.get? r.id = t.get? r.id) :
    Agrees serial t' r status where
  freed hf := ⟨hsame.trans (h.freed hf).1, (h.freed hf).2⟩
  live hf := by
    obtain ⟨res, hres, hmatch⟩ := h.live hf
    exact ⟨res, hsame.trans hres, hmatch⟩

theorem Newborn.congr {remotes : Assoc Remote RemoteStatus} {layout : Layout} {format : Format}
    (h : Newborn t remotes id layout format) (hsame : t'.get? id = t.get? id) :
    Newborn t' remotes id layout format := by
  obtain ⟨res, hres, hrest⟩ := h.live
  exact ⟨⟨res, hsame.trans hres, hrest⟩, h.unrecorded⟩

theorem Refilled.refl : Refilled t t := by
  intro id
  cases h : t.get? id with
  | none => exact Or.inl ⟨rfl, rfl⟩
  | some res => exact Or.inr ⟨res, res.bytes, rfl, rfl, rfl⟩

/-- What was live stays so. -/
theorem Refilled.live (h : Refilled t t') (hres : t.get? id = some res) :
    ∃ bytes, bytes.size = res.bytes.size ∧ t'.get? id = some { res with bytes } := by
  rcases h id with ⟨h0, -⟩ | ⟨res', bytes, h0, hs, h1⟩ <;> rw [h0] at hres <;> cases hres
  exact ⟨bytes, hs, h1⟩

theorem Refilled.trans (h : Refilled t t') (h' : Refilled t' t'') : Refilled t t'' := by
  intro id
  rcases h id with ⟨h0, h1⟩ | ⟨res, bytes, h0, hs, h1⟩
  · rcases h' id with ⟨-, h2⟩ | ⟨res', _, h1', -, -⟩
    · exact Or.inl ⟨h0, h2⟩
    · rw [h1] at h1'
      cases h1'
  · obtain ⟨bytes', hs', h2⟩ := h'.live h1
    exact Or.inr ⟨res, bytes', h0, hs'.trans hs, h2⟩

theorem Refilled.set {bytes : Contents} (hid : t.get? id = some res)
    (hsize : bytes.size = res.bytes.size) : Refilled t (t.set id { res with bytes }) := by
  intro i
  by_cases hi : id = i
  · subst hi
    exact Or.inr ⟨res, bytes, hid, hsize, Assoc.get?_set_self ..⟩
  · rw [Assoc.get?_set_of_ne _ _ hi]
    exact Refilled.refl i

theorem Refilled.samePlaces (h : Refilled t t') : SamePlaces next t t' := by
  intro id res' hres' _
  rcases h id with ⟨-, h1⟩ | ⟨res, bytes, h0, -, h1⟩
  · rw [h1] at hres'
    cases hres'
  · rw [h1] at hres'
    cases hres'
    exact ⟨res, h0, rfl⟩

theorem Refilled.idle (h : Refilled t t') (hidle : Idle t id) : Idle t' id := by
  obtain ⟨res, hres, hm⟩ := hidle
  obtain ⟨bytes, -, h1⟩ := h.live hres
  exact ⟨_, h1, hm⟩

theorem Refilled.agrees {serial : Nat} {r : Remote} {status : RemoteStatus} (h : Refilled t t')
    (hr : Agrees serial t r status) : Agrees serial t' r status where
  freed hf := by
    obtain ⟨hnone, hrest⟩ := hr.freed hf
    rcases h r.id with ⟨-, h1⟩ | ⟨res, _, h0, -, -⟩
    · exact ⟨h1, hrest⟩
    · rw [hnone] at h0
      cases h0
  live hf := by
    obtain ⟨res, hres, hmatch⟩ := hr.live hf
    obtain ⟨bytes, hs, h1⟩ := h.live hres
    exact ⟨_, h1, { hmatch with
      size := hs.trans hmatch.size, small := Nat.lt_of_le_of_lt (Nat.le_of_eq hs) hmatch.small }⟩

theorem Refilled.newborn {remotes : Assoc Remote RemoteStatus} {layout : Layout} {format : Format}
    (h : Refilled t t') (hn : Newborn t remotes id layout format) :
    Newborn t' remotes id layout format where
  unrecorded := hn.unrecorded
  live := by
    obtain ⟨res, hres, hplace, hlayout, hformat, hsize, hsmall⟩ := hn.live
    obtain ⟨bytes, hs, h1⟩ := h.live hres
    exact ⟨_, h1, hplace, hlayout, hformat, hs.trans hsize,
      Nat.lt_of_le_of_lt (Nat.le_of_eq hs) hsmall⟩

end Resources

/-! ## Arenas under change -/

section Arenas

variable {next next' : Nat}
  {memories memories' : Assoc (Ident .memory) (Ident .context × Ident .resource)}
  {bindings bindings' : Assoc (Ident .context) (Assoc String (Ident .memory))}
  {resources resources' : Assoc (Ident .resource) Resource}
  {remotes remotes' : Assoc Remote RemoteStatus} {a : Arena} {claiming : Option Remote}

/-- The execution owns the resource: it was made for it, or it is claimed by it. -/
def Arena.Owns (a : Arena) (resource : Ident .resource) : Prop :=
  (∃ register, (register, resource) ∈ a.transients) ∨ ∃ r ∈ a.claims, r.id = resource

theorem Entered.update (h : Entered next resources remotes a) (hnext : next ≤ next')
    (hplaces : SamePlaces next resources resources')
    (hclaims : ∀ r ∈ a.claims, ∀ status, remotes.get? r = some status → status.inFlight = true →
      ∃ status', remotes'.get? r = some status' ∧ status'.inFlight = true) :
    Entered next' resources' remotes' a where
  context := Nat.lt_of_lt_of_le h.context hnext
  ordered := h.ordered
  nodup := h.nodup
  claims r hr := by
    obtain ⟨status, hstatus, hflight⟩ := h.claims r hr
    exact hclaims r hr status hstatus hflight
  transients t ht := by
    obtain ⟨hlt, hplace⟩ := h.transients t ht
    refine ⟨Nat.lt_of_lt_of_le hlt hnext, fun res' hres' => ?_⟩
    obtain ⟨res, hres, heq⟩ := hplaces t.2 res' hres' hlt
    exact heq ▸ hplace res hres

theorem Arena.Shows.mem {memory : Ident .memory} {resource : Ident .resource}
    (h : a.Shows memory resource) : memory ∈ a.memories := by
  obtain ⟨before, after, heq, -⟩ := h
  simp [Arena.memories, heq]

theorem Sound.update (h : Sound memories bindings resources remotes a claiming)
    (hmemories : ∀ memory ∈ a.memories, ∀ v, memories.get? memory = some v →
      memories'.get? memory = some v)
    (hbindings : ∀ bound', bindings'.get? a.context = some bound' → ∀ e ∈ bound',
      e.2 ∈ a.memories ∨ ∃ bound, bindings.get? a.context = some bound ∧ e ∈ bound)
    (hidle : ∀ resource, Idle resources resource → a.Owns resource → Idle resources' resource)
    (hlinks : ∀ r ∈ a.claims, ∀ status', remotes'.get? r = some status' →
      ∃ status, remotes.get? r = some status ∧ (status.link = none → status'.link = none)) :
    Sound memories' bindings' resources' remotes' a claiming where
  memories memory hm := by
    obtain ⟨resource, hget, hi, howned⟩ := h.memories memory hm
    exact ⟨resource, hmemories memory hm _ hget, hidle resource hi howned, howned⟩
  bindings bound' hbound' e he := by
    rcases hbindings bound' hbound' e he with hin | ⟨bound, hbound, he'⟩
    · exact hin
    · exact h.bindings bound hbound e he'
  copies := h.copies
  withdrawn r hr hne status' hstatus' := by
    obtain ⟨status, hstatus, himp⟩ := hlinks r hr status' hstatus'
    exact himp (h.withdrawn r hr hne status hstatus)
  shows memory resource hshows := hmemories memory hshows.mem _ (h.shows memory resource hshows)

/-- Only resources change. -/
theorem Sound.reowned (h : Sound memories bindings resources remotes a claiming)
    (hidle : ∀ resource, Idle resources resource → a.Owns resource → Idle resources' resource) :
    Sound memories bindings resources' remotes a claiming :=
  h.update (fun _ _ _ hv => hv) (fun bound hb _ he => Or.inr ⟨bound, hb, he⟩) hidle
    fun _ _ status hr => ⟨status, hr, id⟩

/-- A resource that the execution does not own may change in any way. -/
theorem Sound.update_other (h : Sound memories bindings resources remotes a claiming)
    {id : Ident .resource} (hother : ∀ i, id ≠ i → resources'.get? i = resources.get? i)
    (hid : ¬ a.Owns id) : Sound memories bindings resources' remotes a claiming := by
  refine h.reowned fun resource hi ho => ?_
  have hne : id ≠ resource := fun heq => hid (heq ▸ ho)
  obtain ⟨res, hres, hm⟩ := hi
  exact ⟨res, (hother resource hne).trans hres, hm⟩

theorem Loose.update {arenas : Assoc ExecutionKey Arena} {id : Ident .resource}
    (h : Loose next resources arenas id) (hnext : next ≤ next')
    (hplaces : SamePlaces next resources resources') : Loose next' resources' arenas id where
  number := Nat.lt_of_lt_of_le h.number hnext
  place res' hres' := by
    obtain ⟨res, hres, heq⟩ := hplaces id res' hres' h.number
    exact heq ▸ h.place res hres
  unowned := h.unowned

end Arenas

/-! ## Changes of the driver and of records -/

section InOrder

variable {κ ω : Type} [Keeper ω] {allowed : κ → Prop} {g : Holdings} {m : Machine κ ω}

/-- An execution at work or kept for later: what it may touch must not change hands. -/
def Working (g : Holdings) (m : Machine κ ω) (key : ExecutionKey) : Prop :=
  key ∈ g.steady.map Frame.key ∨ key ∈ (Keeper.executions m.host).map Execution.key

/-- The machine with another driver, other records and another history. -/
def Machine.renewed (driver : Simulator) (remotes : Assoc Remote RemoteStatus)
    (history : List Moment) (journal : List Event) (m : Machine κ ω) : Machine κ ω :=
  { m with platform := { m.platform with driver }, remotes, history, journal }

variable {driver : Simulator} {op : Operation} {key : ExecutionKey} {a : Arena} {r : Remote}
  {id : Ident .resource} {res : Resource} {status : RemoteStatus} {layout : Layout}
  {format : Format} {notices : List Event}

/-- No number is given twice, and whatever has one stays in its place. -/
structure Simulator.Continues (s s' : Simulator) : Prop where
  numbered : s'.Numbered
  next : s.nextNumber ≤ s'.nextNumber
  places : SamePlaces s.nextNumber s.resources s'.resources

/-- The arena of an execution whose kernel may still run, next to this driver. -/
abbrev SoundOn (s : Simulator) (remotes : Assoc Remote RemoteStatus) (a : Arena)
    (claiming : Option Remote) : Prop :=
  Sound s.memories s.bindings s.resources remotes a claiming

/-- A new record is of a resource that no other record is of, and nobody claims it. -/
structure Fresh (driver : Simulator) (remotes : Assoc Remote RemoteStatus) (m : Machine κ ω)
    (r : Remote) (status : RemoteStatus) : Prop where
  idle : status.inFlight = false
  issued : r.id.number < driver.nextNumber
  single : ∀ r' status', remotes.get? r' = some status' → r'.id = r.id → r' = r
  unclaimed : ∀ key a, m.arenas.get? key = some a → r ∉ a.claims

/-- The driver and the records may change together, as long as they agree afterwards and
    whatever an execution at work relies on stays. A call that is under way may claim a record
    or give its claim back on the way. -/
theorem InOrder.update (h : InOrder allowed g m)
    {remotes : Assoc Remote RemoteStatus} {history : List Moment} {journal : List Event}
    {calls : List Remote}
    (hsafe : ∀ mo ∈ history, mo.Safe) (hpast : m.history ⊆ history)
    (hdriver : m.platform.driver.Continues driver)
    (hrecords : ∀ r status', remotes.get? r = some status' →
      Agrees m.platform.serial driver.resources r status')
    (hold : ∀ r status', remotes.get? r = some status' →
      (∃ status, m.remotes.get? r = some status ∧
        (status'.inFlight = true →
          r ∈ calls ∨ status.inFlight = true ∧ (r ∈ g.calls → r ∈ calls))) ∨
      Fresh driver remotes m r status')
    (hnew : ∀ r status, m.remotes.get? r = some status →
      ∃ status', remotes.get? r = some status' ∧ (status.freed = true → status'.freed = true) ∧
        (status.inFlight = true →
          (r ∈ calls ∨ ∃ key a, m.arenas.get? key = some a ∧ r ∈ a.claims) →
            status'.inFlight = true))
    (hcallsOnce : calls.Nodup)
    (hcalls : ∀ r ∈ calls, r ∈ g.calls ∨
      (∃ status', remotes.get? r = some status' ∧ status'.inFlight = true) ∧
        ∀ key a, m.arenas.get? key = some a → r ∉ a.claims)
    (hsound : ∀ key a claiming, Working g m key → m.arenas.get? key = some a →
      SoundOn m.platform.driver m.remotes a claiming → SoundOn driver remotes a claiming)
    (hnewborn : ∀ n ∈ g.newborn, Newborn driver.resources remotes n.1 n.2.1 n.2.2)
    (hsettled : ∀ key a, m.arenas.get? key = some a → key ∉ g.keys → ∀ r ∈ a.claims,
      ∀ status status', m.remotes.get? r = some status → remotes.get? r = some status' →
        status.link = none → status'.link = none) :
    InOrder allowed { g with calls } (m.renewed driver remotes history journal) where
  numbered := hdriver.numbered
  hooks := h.hooks
  safe := hsafe
  keys := h.keys
  records := hrecords
  issued r status' hr := by
    rcases hold r status' hr with ⟨status, hs, -⟩ | hfresh
    · exact Nat.lt_of_lt_of_le (h.issued r status hs) hdriver.next
    · exact hfresh.issued
  single r r' status status' hr hr' hid := by
    rcases hold r status hr with ⟨_, hs, -⟩ | hfresh
    · rcases hold r' status' hr' with ⟨_, hs', -⟩ | hfresh
      · exact h.single r r' _ _ hs hs' hid
      · exact hfresh.single r status hr hid
    · exact (hfresh.single r' status' hr' hid.symm).symm
  entered key a ha := by
    refine (h.entered key a ha).update hdriver.next hdriver.places fun r hr status hs hflight => ?_
    obtain ⟨status', hs', -, himp⟩ := hnew r status hs
    exact ⟨status', hs', himp hflight (Or.inr ⟨key, a, ha, hr⟩)⟩
  apart := h.apart
  reserved := h.reserved
  reservedOnce := h.reservedOnce
  calls r hr := by
    rcases hcalls r hr with hin | hclaimed
    · obtain ⟨⟨status, hs, hflight⟩, hfree⟩ := h.calls r hin
      obtain ⟨status', hs', -, himp⟩ := hnew r status hs
      exact ⟨⟨status', hs', himp hflight (Or.inl hr)⟩, hfree⟩
    · exact hclaimed
  callsOnce := hcallsOnce
  steady f hf := by
    obtain ⟨ha, hs⟩ := h.steady f hf
    exact ⟨ha, hsound f.key f.arena f.claiming (Or.inl (List.mem_map_of_mem hf)) ha hs⟩
  falling := h.falling
  held e he := by
    obtain ⟨a, ha, hctx, hs⟩ := h.held e he
    exact ⟨a, ha, hctx, hsound e.key a none (Or.inr (List.mem_map_of_mem he)) ha hs⟩
  owners := h.owners
  locals id hid := (h.locals id hid).update hdriver.next hdriver.places
  localsOnce := h.localsOnce
  newborn := hnewborn
  newbornOnce := h.newbornOnce
  freed r hr := by
    obtain ⟨status, hs, hfreed⟩ := h.freed r hr
    obtain ⟨status', hs', himp, -⟩ := hnew r status hs
    exact ⟨status', hs', himp hfreed⟩
  tight hq r status' hr hflight := by
    rcases hold r status' hr with ⟨status, hs, himp⟩ | hfresh
    · rcases himp hflight with hin | ⟨hflight', hcall⟩
      · exact Or.inl hin
      · exact (h.tight (hq.of_subset hpast) r status hs hflight').imp_left hcall
    · cases hfresh.idle.symm.trans hflight
  -- A new record is claimed by nobody yet.
  settled hq key a ha hkey r hr status' hs' := by
    rcases hold r status' hs' with ⟨status, hs, -⟩ | hfresh
    · exact hsettled key a ha hkey r hr status status' hs hs'
        (h.settled (hq.of_subset hpast) key a ha hkey r hr status hs)
    · exact absurd hr (hfresh.unclaimed key a ha)
  running := h.running
  progressed := h.progressed
  watched f hf event hevent p hp hdone := by
    obtain ⟨mo, hmo, hasked⟩ := h.watched f hf event hevent p hp hdone
    exact ⟨mo, hpast hmo, hasked⟩

/-- The machine is in order, and some call has been cut off. -/
def Broken (allowed : κ → Prop) (g : Holdings) (m : Machine κ ω) : Prop :=
  InOrder allowed g m ∧ ¬ Quiet m.history

section

variable (h : InOrder allowed g m)

include h

/-- The driver changes, and the records do not. -/
theorem InOrder.redriven {history : List Moment} {journal : List Event}
    (hsafe : ∀ mo ∈ history, mo.Safe) (hpast : m.history ⊆ history)
    (hdriver : m.platform.driver.Continues driver)
    (hrecords : ∀ r status, m.remotes.get? r = some status →
      Agrees m.platform.serial driver.resources r status)
    (hsound : ∀ key a claiming, Working g m key → m.arenas.get? key = some a →
      SoundOn m.platform.driver m.remotes a claiming → SoundOn driver m.remotes a claiming)
    (hnewborn : ∀ n ∈ g.newborn, Newborn driver.resources m.remotes n.1 n.2.1 n.2.2) :
    InOrder allowed g (m.renewed driver m.remotes history journal) := by
  refine h.update hsafe hpast hdriver hrecords
    (fun r status hr => Or.inl ⟨status, hr, fun hf => Or.inr ⟨hf, id⟩⟩)
    (fun r status hr => ⟨status, hr, id, fun hf _ => hf⟩) h.callsOnce (fun _ => Or.inl) hsound
    hnewborn fun key a _ _ r _ status status' hs hs' hnone => ?_
  cases hs.symm.trans hs'
  exact hnone

/-- At most bytes change. -/
theorem InOrder.refilled {history : List Moment} {journal : List Event}
    (hsafe : ∀ mo ∈ history, mo.Safe) (hpast : m.history ⊆ history) (hnumbered : driver.Numbered)
    (hnext : m.platform.driver.nextNumber ≤ driver.nextNumber)
    (hresources : Refilled m.platform.driver.resources driver.resources)
    (hmemories : driver.memories = m.platform.driver.memories)
    (hbindings : driver.bindings = m.platform.driver.bindings) :
    InOrder allowed g (m.renewed driver m.remotes history journal) := by
  refine h.redriven hsafe hpast ⟨hnumbered, hnext, hresources.samePlaces⟩
    (fun r status hr => hresources.agrees (h.records r status hr)) ?_
    fun n hn => hresources.newborn (h.newborn n hn)
  intro key a claiming _ _ hs
  unfold SoundOn
  rw [hmemories, hbindings]
  exact hs.reowned fun _ hi _ => hresources.idle hi

theorem InOrder.controlled {f : Simulator → Simulator}
    (hf : ∀ s, (f s).resources = s.resources ∧ (f s).memories = s.memories ∧
      (f s).bindings = s.bindings ∧ (f s).nextNumber = s.nextNumber ∧
      (s.Numbered → (f s).Numbered)) : InOrder allowed g (m.onDriver f) := by
  obtain ⟨hr, hm, hb, hn, hnumbered⟩ := hf m.platform.driver
  exact h.refilled h.safe (List.Subset.refl _) (hnumbered h.numbered) (Nat.le_of_eq hn.symm)
    (hr ▸ Refilled.refl) hm hb

theorem InOrder.safe_cons {mo : Moment} (hmo : mo.Safe) :
    ∀ mo' ∈ mo :: m.history, mo'.Safe :=
  List.forall_mem_cons.mpr ⟨hmo, h.safe⟩

/-- A call that changes the driver and leaves the records alone. -/
theorem InOrder.handled {verdict : Verdict} (hsafe : (m.moment op verdict driver).Safe)
    (hdriver : m.platform.driver.Continues driver)
    (hrecords : ∀ r status, m.remotes.get? r = some status →
      Agrees m.platform.serial driver.resources r status)
    (hsound : ∀ key a claiming, Working g m key → m.arenas.get? key = some a →
      SoundOn m.platform.driver m.remotes a claiming → SoundOn driver m.remotes a claiming)
    (hnewborn : ∀ n ∈ g.newborn, Newborn driver.resources m.remotes n.1 n.2.1 n.2.2) :
    InOrder allowed g (m.handled op verdict driver) :=
  h.redriven (h.safe_cons hsafe) (List.subset_cons_self _ _)
    { hdriver with numbered := { hdriver.numbered with } } hrecords hsound hnewborn

/-- The device may change bytes; what it touches must be guarded. -/
theorem InOrder.handled_refilled {verdict : Verdict}
    (hsafe : (m.moment op verdict driver).Safe) (hnumbered : driver.Numbered)
    (hnext : m.platform.driver.nextNumber ≤ driver.nextNumber)
    (hresources : Refilled m.platform.driver.resources driver.resources)
    (hmemories : driver.memories = m.platform.driver.memories)
    (hbindings : driver.bindings = m.platform.driver.bindings) :
    InOrder allowed g (m.handled op verdict driver) :=
  h.refilled (h.safe_cons hsafe) (List.subset_cons_self _ _) { hnumbered with } hnext hresources
    hmemories hbindings

theorem InOrder.handled_relogged {verdict : Verdict} {calls : List Call}
    {counts : Assoc Operation Nat} (hverdict : verdict ≠ .accepted) :
    InOrder allowed g (m.handled op verdict (m.platform.driver.relogged calls counts)) :=
  h.handled_refilled (Moment.safe_of_verdict hverdict) { h.numbered with } (Nat.le_refl _)
    Refilled.refl rfl rfl

theorem InOrder.handled_refused {e : DriverError}
    {calls : List Call} {counts : Assoc Operation Nat} :
    InOrder allowed g (m.handled op (.refused e) (m.platform.driver.relogged calls counts)) :=
  h.handled_relogged nofun

theorem InOrder.handled_cutOff {calls : List Call} {counts : Assoc Operation Nat} :
    Broken allowed g (m.handled op .cutOff (m.platform.driver.relogged calls counts)) :=
  ⟨h.handled_relogged nofun, not_quiet_of_cutOff rfl⟩

/-! ## Owners -/

/-- Whoever claims a recorded remote resource has it marked. -/
theorem InOrder.recorded_of_claimed (ha : m.arenas.get? key = some a) (hr : r ∈ a.claims) :
    ∃ status, m.remotes.get? r = some status ∧ status.inFlight = true ∧ status.freed = false := by
  obtain ⟨status, hs, hflight⟩ := (h.entered key a ha).claims r hr
  refine ⟨status, hs, hflight, ?_⟩
  cases hf : status.freed with
  | false => rfl
  | true =>
    have hidle := ((h.records r status hs).freed hf).2.2
    rw [hidle] at hflight
    cases hflight

/-- A resource that an execution owns is a device resource made for it, or the host resource of
    a claimed record. -/
theorem InOrder.owns_cases (ha : m.arenas.get? key = some a)
    (ho : a.Owns id) (hid : m.platform.driver.resources.get? id = some res) :
    (res.place = .onDevice ∧ ∃ register, (register, id) ∈ a.transients) ∨
      (res.place = .onHost ∧ ∃ r ∈ a.claims, r.id = id) := by
  rcases ho with ⟨register, hin⟩ | ⟨r, hr, rfl⟩
  · exact Or.inl ⟨((h.entered key a ha).transients _ hin).2 res hid, register, hin⟩
  · obtain ⟨status, hs, -, hfreed⟩ := h.recorded_of_claimed ha hr
    obtain ⟨res', hres', hmatch⟩ := (h.records r status hs).live hfreed
    rw [hid] at hres'
    cases hres'
    exact Or.inr ⟨hmatch.place, r, hr, rfl⟩

/-- A live resource has a record that says so. -/
theorem InOrder.not_freed_of_live (hr : m.remotes.get? r = some status)
    (hid : m.platform.driver.resources.get? r.id = some res) :
    status.freed = false ∧ Matches m.platform.serial r status res := by
  cases hf : status.freed with
  | true =>
    rw [((h.records r status hr).freed hf).1] at hid
    cases hid
  | false =>
    obtain ⟨res', hres', hmatch⟩ := (h.records r status hr).live hf
    rw [hid] at hres'
    cases hres'
    exact ⟨rfl, hmatch⟩

/-- Whoever owns the resource of a record claims the record: it is a host resource, and no other
    record has it. -/
theorem InOrder.claims_of_owns (hr : m.remotes.get? r = some status)
    (hres : m.platform.driver.resources.get? r.id = some res) (ha : m.arenas.get? key = some a)
    (ho : a.Owns r.id) : r ∈ a.claims := by
  rcases h.owns_cases ha ho hres with ⟨hdev, -⟩ | ⟨-, r', hr', hid⟩
  · rw [(h.not_freed_of_live hr hres).2.place] at hdev
    cases hdev
  · obtain ⟨status', hs', -⟩ := h.recorded_of_claimed ha hr'
    exact h.single r' r status' status hs' hr hid ▸ hr'

end

/-- The frame in front is nobody else's. -/
theorem InOrder.not_working_of_dropping
    (h : InOrder allowed (g.dropping key a) m) : ¬ Working (g.dropping key a) m key := by
  have hnodup := ((g.keys_dropping key a).append_right _).nodup_iff.mp h.owners
  have hnot := (List.nodup_cons.mp hnodup).1
  rintro (hin | hin)
  · exact hnot (List.mem_append_left _ (List.mem_append_left _ hin))
  · exact hnot (List.mem_append_right _ hin)

/-- Whatever an execution at work may touch is guarded. -/
theorem InOrder.guards (h : InOrder allowed g m) {f : Frame} (hf : f ∈ g.steady)
    {memory : Ident .memory} (hm : memory ∈ f.arena.memories) {context : Ident .context}
    {resource : Ident .resource}
    (hget : m.platform.driver.memories.get? memory = some (context, resource)) {verdict : Verdict} :
    (m.moment op verdict driver).Guards f.arena.context resource := by
  obtain ⟨ha, hsound⟩ := h.steady f hf
  obtain ⟨resource', hget', hidle, howned⟩ := hsound.memories memory hm
  rw [hget] at hget'
  cases hget'
  refine ⟨hidle, f.key, f.arena, ha, rfl, ?_⟩
  rintro r status hr rfl
  obtain ⟨res, hres, -⟩ := hidle
  have hclaimed := h.claims_of_owns hr hres ha howned
  obtain ⟨status', hs', hflight, -⟩ := h.recorded_of_claimed ha hclaimed
  cases hr.symm.trans hs'
  refine ⟨hflight, hclaimed, fun key' a' ha' hclaim => ?_⟩
  by_cases hkey : key' = f.key
  · exact hkey
  · exact absurd hclaim ((h.apart _ _ _ _ ha ha' (Ne.symm hkey)).claims r hclaimed)

/-! ## Memory objects and bindings -/

/-- A new memory object belongs to nobody yet. -/
theorem InOrder.handled_getMemory (h : InOrder allowed g m) {context : Ident .context}
    {resource : Ident .resource} :
    InOrder allowed g (m.handled .getMemory .accepted
      { m.platform.driver.logged (.getMemory context resource) with
        nextNumber := m.platform.driver.nextNumber + 1
        memories := m.platform.driver.memories.set ⟨m.platform.driver.nextNumber⟩
          (context, resource) }) := by
  have hn := h.numbered
  refine h.handled (Moment.safe_of_logged _ _ rfl rfl fun _ _ => False.elim)
    ⟨{ hn.next with memories := hn.memories.set_next }, Nat.le_succ _, SamePlaces.refl⟩
    h.records (fun key a claiming _ _ hs => ?_) h.newborn
  · refine hs.update (fun memory _ v hv => ?_) (fun bound hb e he => Or.inr ⟨bound, hb, he⟩)
      (fun _ hi _ => hi) fun r _ status hr => ⟨status, hr, id⟩
    have hne : (⟨m.platform.driver.nextNumber⟩ : Ident .memory) ≠ memory := by
      rintro rfl
      rw [hn.memories.fresh] at hv
      cases hv
    rw [Assoc.get?_set_of_ne _ _ hne]
    exact hv

/-- An execution at work binds memory objects of its own. -/
theorem InOrder.handled_bindMemory {f : Frame} (h : InOrder allowed (g.working f) m)
    {name : String} {memory : Ident .memory} (hm : memory ∈ f.arena.memories) :
    InOrder allowed (g.working f) (m.handled .bindMemory .accepted
      { m.platform.driver.logged (.bindMemory f.arena.context name memory) with
        bindings := m.platform.driver.bindings.set f.arena.context
          (((m.platform.driver.bindings.get? f.arena.context).getD []).set name memory) }) := by
  have hn := h.numbered
  obtain ⟨ha, -⟩ := h.steady f List.mem_cons_self
  refine h.handled (Moment.safe_of_logged _ _ rfl rfl fun _ _ => False.elim)
    ⟨{ hn with bindings := hn.bindings.set (h.entered _ _ ha).context }, Nat.le_refl _,
      SamePlaces.refl⟩ h.records (fun key a claiming _ hkey hs => ?_) h.newborn
  · refine hs.update (fun _ _ _ hv => hv) (fun bound hb e he => ?_) (fun _ hi _ => hi)
      fun r _ status hr => ⟨status, hr, id⟩
    rcases Assoc.of_get?_set hb with ⟨hctx, rfl⟩ | ⟨-, hb⟩
    · -- Contexts of different executions differ, so this is the execution at work.
      have heq : a = f.arena := by
        by_cases hk : key = f.key
        · rw [hk, ha] at hkey
          exact (Option.some.inj hkey).symm
        · exact absurd hctx.symm (h.apart _ _ _ _ hkey ha hk).context
      rcases Assoc.mem_set he with rfl | he
      · exact Or.inl (heq ▸ hm)
      · cases hget : m.platform.driver.bindings.get? f.arena.context with
        | none => simp [hget] at he
        | some bound =>
          rw [hget] at he
          exact Or.inr ⟨bound, heq ▸ hget, he⟩
    · exact Or.inr ⟨bound, hb, he⟩

/-- An execution that is being taken down gives up what belongs to its context. -/
theorem InOrder.handled_dropping (h : InOrder allowed (g.dropping key a) m)
    (hsafe : (m.moment op .accepted driver).Safe) (hnumbered : driver.Numbered)
    (hnext : driver.nextNumber = m.platform.driver.nextNumber)
    (hresources : driver.resources = m.platform.driver.resources)
    (hmemories : ∀ memory context resource, context ≠ a.context →
      m.platform.driver.memories.get? memory = some (context, resource) →
      driver.memories.get? memory = some (context, resource))
    (hbindings : ∀ context, a.context ≠ context →
      driver.bindings.get? context = m.platform.driver.bindings.get? context) :
    InOrder allowed (g.dropping key a) (m.handled op .accepted driver) := by
  have ha := h.falling _ List.mem_cons_self
  refine h.handled hsafe ⟨hnumbered, Nat.le_of_eq hnext.symm, hresources ▸ SamePlaces.refl⟩
    (hresources ▸ h.records) (fun key' a' claiming hw ha' hs => ?_) (hresources ▸ h.newborn)
  have hkey : key' ≠ key := fun hk => h.not_working_of_dropping (hk ▸ hw)
  have hctx : a.context ≠ a'.context := (h.apart _ _ _ _ ha ha' (Ne.symm hkey)).context
  refine hs.update (fun memory hm v hv => ?_) (fun bound hb e he => ?_)
    (fun _ hi _ => hresources ▸ hi) fun r _ status hr => ⟨status, hr, id⟩
  · obtain ⟨_, howner, -⟩ := hs.memories memory hm
    cases howner.symm.trans hv
    exact hmemories _ _ _ hctx.symm hv
  · exact Or.inr ⟨bound, (hbindings _ hctx).symm.trans hb, he⟩

/-- An execution that is being taken down releases a memory object of its own. -/
theorem InOrder.handled_releaseMemory
    (h : InOrder allowed (g.dropping key a) m) {memory : Ident .memory}
    {resource : Ident .resource}
    (hget : m.platform.driver.memories.get? memory = some (a.context, resource)) :
    InOrder allowed (g.dropping key a) (m.handled .releaseMemory .accepted
      { m.platform.driver.logged (.releaseMemory a.context memory) with
        memories := m.platform.driver.memories.erase memory
        bindings := m.platform.driver.unbound a.context memory }) := by
  have hn := h.numbered
  refine h.handled_dropping (Moment.safe_of_logged _ _ rfl rfl fun _ _ => False.elim)
    { hn with memories := hn.memories.erase, bindings := hn.unbound } rfl rfl
    (fun memory' context _ hctx hv => ?_) fun context hctx => ?_
  · have hne : memory ≠ memory' := by
      rintro rfl
      cases hget.symm.trans hv
      exact hctx rfl
    exact (Assoc.get?_erase_of_ne _ hne).trans hv
  · show (m.platform.driver.unbound a.context memory).get? context = _
    unfold Simulator.unbound
    split
    · exact Assoc.get?_set_of_ne _ _ hctx
    · rfl

/-- An execution that is being taken down destroys its context. -/
theorem InOrder.handled_destroyContext
    (h : InOrder allowed (g.dropping key a) m) :
    InOrder allowed (g.dropping key a) (m.handled .destroyContext .accepted
      { m.platform.driver.logged (.destroyContext a.context) with
        contexts := m.platform.driver.contexts.erase a.context
        bindings := m.platform.driver.bindings.erase a.context
        tokens := m.platform.driver.tokens.keepValues (·.context ≠ a.context) }) :=
  h.handled_dropping (Moment.safe_of_logged _ _ rfl rfl fun _ _ => False.elim)
    { h.numbered.destroyContext with } rfl rfl (fun _ _ _ _ hv => hv)
    fun _ hctx => Assoc.get?_erase_of_ne _ hctx

/-! ## New resources -/

section

variable (h : InOrder allowed g m)

include h

/-- A new resource has a number that nobody knows yet. -/
theorem InOrder.handled_allocate {place : Placement} {flags : AllocFlags} :
    InOrder allowed g (m.handled (.allocate place layout) .accepted
      { m.platform.driver.logged (.allocate place layout format flags) with
        notices
        nextNumber := m.platform.driver.nextNumber + 1
        resources := m.platform.driver.resources.set ⟨m.platform.driver.nextNumber⟩ res }) := by
  have hn := h.numbered
  have hother : ∀ {id : Ident .resource}, id.number < m.platform.driver.nextNumber →
      (m.platform.driver.resources.set ⟨m.platform.driver.nextNumber⟩ res).get? id =
        m.platform.driver.resources.get? id := fun hid =>
    Assoc.get?_set_of_ne _ _ (Ident.ne_of_number_lt hid).symm
  refine h.handled (Moment.safe_of_logged _ _ rfl rfl fun _ _ => False.elim)
    ⟨{ hn.next with resources := hn.resources.set_next }, Nat.le_succ _, SamePlaces.set_next⟩
    (fun r status hr => ?_) (fun key a claiming _ _ hs => hs.reowned fun resource hi _ => ?_)
    fun n hborn => ?_
  · exact (h.records r status hr).congr (hother (h.issued r status hr))
  · obtain ⟨res', hres', hm⟩ := hi
    exact ⟨res', (hother (hn.resources.lt_of_get? hres')).trans hres', hm⟩
  · obtain ⟨res', hres', -⟩ := (h.newborn n hborn).live
    exact (h.newborn n hborn).congr (hother (hn.resources.lt_of_get? hres'))

/-- A device resource that was just allocated is held by the call that allocated it. -/
theorem InOrder.keep (hnumber : id.number < m.platform.driver.nextNumber)
    (hplace : ∀ res, m.platform.driver.resources.get? id = some res → res.place = .onDevice)
    (htransients : ∀ key a, m.arenas.get? key = some a → ∀ t ∈ a.transients, t.2 ≠ id)
    (hlocals : id ∉ g.locals ++ Keeper.locals m.host) : InOrder allowed (g.keeping id) m :=
  { h with
    locals := List.forall_mem_cons.mpr ⟨⟨hnumber, hplace, htransients⟩, h.locals⟩
    localsOnce := List.nodup_cons.mpr ⟨hlocals, h.localsOnce⟩ }

/-- A host resource that was just allocated is held by the call that allocated it. -/
theorem InOrder.bear (hborn : Newborn m.platform.driver.resources m.remotes id layout format)
    (hnew : id ∉ g.newborn.map Prod.fst) : InOrder allowed (g.bearing id layout format) m :=
  { h with
    newborn := List.forall_mem_cons.mpr ⟨hborn, h.newborn⟩
    newbornOnce := List.nodup_cons.mpr ⟨hnew, h.newbornOnce⟩ }

theorem InOrder.handled_allocate_local {flags : AllocFlags} (hplace : res.place = .onDevice) :
    InOrder allowed (g.keeping ⟨m.platform.driver.nextNumber⟩)
      (m.handled (.allocate .onDevice layout) .accepted
        { m.platform.driver.logged (.allocate .onDevice layout format flags) with
        notices
        nextNumber := m.platform.driver.nextNumber + 1
        resources := m.platform.driver.resources.set ⟨m.platform.driver.nextNumber⟩ res }) := by
  refine h.handled_allocate.keep (Nat.lt_succ_self _) (fun res' hres' => ?_)
    (fun key a ha t ht heq => ?_) fun hin => ?_
  · have hself := Assoc.get?_set_self m.platform.driver.resources
      ⟨m.platform.driver.nextNumber⟩ res
    cases hself.symm.trans hres'
    exact hplace
  · have hlt := ((h.entered key a ha).transients t ht).1
    rw [heq] at hlt
    exact Nat.lt_irrefl _ hlt
  · exact Nat.lt_irrefl _ (h.locals _ hin).number

theorem InOrder.handled_allocate_remote {flags : AllocFlags} :
    Simulator.newSize m.platform.driver.spec .onHost layout format < UInt64.size →
    InOrder allowed (g.bearing ⟨m.platform.driver.nextNumber⟩ layout format)
      (m.handled (.allocate .onHost layout) .accepted
        { m.platform.driver.logged (.allocate .onHost layout format flags) with
          notices
          nextNumber := m.platform.driver.nextNumber + 1
          resources := m.platform.driver.resources.set ⟨m.platform.driver.nextNumber⟩
            (Simulator.newResource m.platform.driver.spec .onHost layout format) }) := by
  intro hsmall
  refine h.handled_allocate.bear ⟨⟨_, Assoc.get?_set_self .., rfl, rfl, rfl, rfl, hsmall⟩, ?_⟩ ?_
  · intro r status hr heq
    have hlt := h.issued r status hr
    rw [heq] at hlt
    exact Nat.lt_irrefl _ hlt
  · intro hin
    obtain ⟨n, hn, heq⟩ := List.mem_map.mp hin
    obtain ⟨res, hres, -⟩ := (h.newborn n hn).live
    have hlt := h.numbered.resources.lt_of_get? hres
    rw [heq] at hlt
    exact Nat.lt_irrefl _ hlt

/-! ## Resources without a record -/

theorem InOrder.not_owns_newborn {n : Ident .resource × Layout × Format}
    (hn : n ∈ g.newborn) (ha : m.arenas.get? key = some a) :
    ¬ a.Owns n.1 := by
  intro ho
  have hborn := h.newborn n hn
  obtain ⟨res, hres, hplace, -⟩ := hborn.live
  rcases h.owns_cases ha ho hres with ⟨hdev, -⟩ | ⟨-, r, hr, hid⟩
  · rw [hplace] at hdev
    cases hdev
  · obtain ⟨status, hs, -⟩ := h.recorded_of_claimed ha hr
    exact hborn.unrecorded r status hs hid

/-- A host resource without a record may change in any way. -/
theorem InOrder.handled_newborn {n : Ident .resource × Layout × Format}
    (hborn : Newborn m.platform.driver.resources m.remotes n.1 n.2.1 n.2.2)
    (hsafe : (m.moment op .accepted driver).Safe) (hdriver : m.platform.driver.Continues driver)
    (hmemories : driver.memories = m.platform.driver.memories)
    (hbindings : driver.bindings = m.platform.driver.bindings)
    (hother : ∀ i, n.1 ≠ i → driver.resources.get? i = m.platform.driver.resources.get? i)
    (hunowned : ∀ key a, m.arenas.get? key = some a → ¬ a.Owns n.1)
    (hnewborn : ∀ n' ∈ g.newborn, n.1 = n'.1 → Newborn driver.resources m.remotes n'.1 n'.2.1 n'.2.2) :
    InOrder allowed g (m.handled op .accepted driver) := by
  refine h.handled hsafe hdriver (fun r status hr => ?_) ?_ fun n' hn' => ?_
  · exact (h.records r status hr).congr
      (hother r.id fun heq => hborn.unrecorded r status hr heq.symm)
  · intro key a claiming _ ha hs
    unfold SoundOn
    rw [hmemories, hbindings]
    exact hs.update_other hother (hunowned key a ha)
  · by_cases heq : n.1 = n'.1
    · exact hnewborn n' hn' heq
    · exact (h.newborn n' hn').congr (hother _ heq)

end

theorem InOrder.handled_map_newborn
    (h : InOrder allowed (g.bearing id layout format) m)
    {moves : Nat}
    (hid : m.platform.driver.resources.get? id = some res) :
    InOrder allowed (g.bearing id layout format) (m.handled .mapResource .accepted
      { m.platform.driver.logged (.mapResource id) with
        notices
        resources := m.platform.driver.resources.set id
          { res with mapped := true, everMapped := true, moves } }) := by
  have hborn := h.newborn _ List.mem_cons_self
  refine h.handled_newborn hborn (Moment.safe_of_logged _ _ rfl rfl fun _ _ => False.elim)
    ⟨{ h.numbered with resources := h.numbered.resources.reset hid }, Nat.le_refl _,
      SamePlaces.set hid rfl⟩ rfl rfl (fun i hi => Assoc.get?_set_of_ne _ _ hi)
    (fun key a ha => h.not_owns_newborn List.mem_cons_self ha) fun n' hn' heq => ?_
  · have hb := h.newborn n' hn'
    obtain ⟨res', hres', hrest⟩ := hb.live
    rw [← heq, hid] at hres'
    cases hres'
    refine { unrecorded := hb.unrecorded
             live := ⟨{ res with mapped := true, everMapped := true, moves }, ?_, hrest⟩ }
    rw [← heq]
    exact Assoc.get?_set_self ..

/-- Forgetting that a host resource has no record yet. -/
theorem InOrder.of_bearing
    (h : InOrder allowed (g.bearing id layout format) m) : InOrder allowed g m :=
  { h with
    newborn := fun n hn => h.newborn n (List.mem_cons_of_mem _ hn)
    newbornOnce := (List.nodup_cons.mp h.newbornOnce).2 }

theorem InOrder.handled_free_newborn
    (h : InOrder allowed (g.bearing id layout format) m) :
    InOrder allowed g (m.handled .freeResource .accepted
      { m.platform.driver.logged (.freeResource id) with
        resources := m.platform.driver.resources.erase id }) := by
  have hborn := h.newborn _ List.mem_cons_self
  refine h.of_bearing.handled_newborn hborn (Moment.safe_of_logged _ _ rfl rfl fun _ _ => False.elim)
    ⟨{ h.numbered with resources := h.numbered.resources.erase }, Nat.le_refl _, SamePlaces.erase⟩
    rfl rfl (fun i hi => Assoc.get?_erase_of_ne _ hi)
    (fun key a ha => h.not_owns_newborn List.mem_cons_self ha) fun n' hn' heq => ?_
  have hnot := (List.nodup_cons.mp h.newbornOnce).1
  exact absurd (List.mem_map.mpr ⟨n', hn', heq.symm⟩) hnot

/-- A device resource may be freed when no execution at work relies on it. -/
theorem InOrder.handled_free_device (h : InOrder allowed g m)
    (hid : m.platform.driver.resources.get? id = some res) (hplace : res.place = .onDevice)
    (hunowned : ∀ key a, Working g m key → m.arenas.get? key = some a →
      ∀ t ∈ a.transients, t.2 ≠ id) :
    InOrder allowed g (m.handled .freeResource .accepted
      { m.platform.driver.logged (.freeResource id) with
        resources := m.platform.driver.resources.erase id }) := by
  refine h.handled (Moment.safe_of_logged _ _ rfl rfl fun _ _ => False.elim)
    ⟨{ h.numbered with resources := h.numbered.resources.erase }, Nat.le_refl _, SamePlaces.erase⟩
    (fun r status hr => ?_) ?_ fun n hn => ?_
  · -- The resource of a record is a host resource.
    have hne : id ≠ r.id := by
      rintro rfl
      rw [(h.not_freed_of_live hr hid).2.place] at hplace
      cases hplace
    exact (h.records r status hr).congr (Assoc.get?_erase_of_ne _ hne)
  · intro key a claiming hw ha hs
    refine hs.update_other (fun i hi => Assoc.get?_erase_of_ne _ hi) fun ho => ?_
    rcases h.owns_cases ha ho hid with ⟨-, register, hin⟩ | ⟨hhost, -⟩
    · exact hunowned key a hw ha _ hin rfl
    · rw [hhost] at hplace
      cases hplace
  · obtain ⟨res', hres', hhost, -⟩ := (h.newborn n hn).live
    have hne : id ≠ n.1 := by
      rintro rfl
      rw [hid] at hres'
      cases hres'
      rw [hhost] at hplace
      cases hplace
    exact (h.newborn n hn).congr (Assoc.get?_erase_of_ne _ hne)

/-! ## Records -/

/-- Nobody who needs the resource of a record unmapped claims it: those that claim it are being
    taken down. -/
def Released (g : Holdings) (m : Machine κ ω) (r : Remote) : Prop :=
  ∀ key a, m.arenas.get? key = some a → r ∈ a.claims → ¬ Working g m key ∧ key ∈ g.keys

/-- One record changes, and with it the resource that it is about. -/
theorem InOrder.update_record (h : InOrder allowed g m)
    {status' : RemoteStatus} (hr : m.remotes.get? r = some status)
    {history : List Moment} {journal : List Event} {calls : List Remote}
    (hsafe : ∀ mo ∈ history, mo.Safe) (hpast : m.history ⊆ history)
    (hdriver : m.platform.driver.Continues driver)
    (hmemories : driver.memories = m.platform.driver.memories)
    (hbindings : driver.bindings = m.platform.driver.bindings)
    (hother : ∀ i, r.id ≠ i → driver.resources.get? i = m.platform.driver.resources.get? i)
    (hagrees : Agrees m.platform.serial driver.resources r status')
    (hfreed : status.freed = true → status'.freed = true)
    (hcallsOnce : calls.Nodup)
    (hcalls : ∀ r' ∈ calls, r' ∈ g.calls ∨ r' = r ∧ status'.inFlight = true ∧
      ∀ key a, m.arenas.get? key = some a → r ∉ a.claims)
    (hothers : ∀ r' ∈ g.calls, r ≠ r' → r' ∈ calls)
    (hmarked : status'.inFlight = true →
      r ∈ calls ∨ status.inFlight = true ∧ (r ∈ g.calls → r ∈ calls))
    (hkept : status.inFlight = true →
      (r ∈ calls ∨ ∃ key a, m.arenas.get? key = some a ∧ r ∈ a.claims) → status'.inFlight = true)
    (hidle : Idle m.platform.driver.resources r.id → Idle driver.resources r.id ∨ Released g m r)
    (hlink : (status.link = none → status'.link = none) ∨ Released g m r) :
    InOrder allowed { g with calls } (m.renewed driver (m.remotes.set r status') history journal) := by
  refine h.update hsafe hpast hdriver (fun r' s' hs' => ?_) (fun r' s' hs' => Or.inl ?_)
    (fun r' s hs => ?_) hcallsOnce (fun r' hr' => ?_) ?_ (fun n hn => ?_) ?_
  · rcases Assoc.of_get?_set hs' with ⟨rfl, rfl⟩ | ⟨hne, hs'⟩
    · exact hagrees
    · have hid : r.id ≠ r'.id := fun hid => hne (h.single r r' status s' hr hs' hid)
      exact (h.records r' s' hs').congr (hother _ hid)
  · rcases Assoc.of_get?_set hs' with ⟨rfl, rfl⟩ | ⟨hne, hs'⟩
    · exact ⟨status, hr, hmarked⟩
    · exact ⟨s', hs', fun hf => Or.inr ⟨hf, fun hin => hothers r' hin hne⟩⟩
  · by_cases heq : r = r'
    · subst heq
      rw [hr] at hs
      cases hs
      exact ⟨status', Assoc.get?_set_self .., hfreed, hkept⟩
    · exact ⟨s, (Assoc.get?_set_of_ne _ _ heq).trans hs, fun hf => hf, fun hf _ => hf⟩
  · refine (hcalls r' hr').imp_right ?_
    rintro ⟨rfl, hflight, hfree⟩
    exact ⟨⟨status', Assoc.get?_set_self .., hflight⟩, hfree⟩
  -- Either the resource stays as executions need it, or none that is at work claims it.
  · intro key a claiming hw ha hs
    unfold SoundOn
    rw [hmemories, hbindings]
    refine hs.update (fun _ _ _ hv => hv) (fun bound hb e he => Or.inr ⟨bound, hb, he⟩)
      (fun resource hi ho => ?_) fun r' hr' s' hs' => ?_
    · by_cases hid : r.id = resource
      · subst hid
        rcases hidle hi with hidle | hrel
        · exact hidle
        · obtain ⟨res, hres, -⟩ := hi
          exact absurd hw (hrel key a ha (h.claims_of_owns hr hres ha ho)).1
      · obtain ⟨res, hres, hm⟩ := hi
        exact ⟨res, (hother _ hid).trans hres, hm⟩
    · rcases Assoc.of_get?_set hs' with ⟨rfl, rfl⟩ | ⟨-, hs'⟩
      · rcases hlink with hlink | hrel
        · exact ⟨status, hr, hlink⟩
        · exact absurd hw (hrel key a ha hr').1
      · exact ⟨s', hs', fun hl => hl⟩
  · have hb := h.newborn n hn
    refine ⟨(hb.congr (hother _ (hb.unrecorded r status hr))).live, fun r' s' hs' => ?_⟩
    rcases Assoc.of_get?_set hs' with ⟨rfl, -⟩ | ⟨-, hs'⟩
    · exact hb.unrecorded r status hr
    · exact hb.unrecorded r' s' hs'
  · intro key a ha hkey r' hr' s s' hs hs' hnone
    rcases Assoc.of_get?_set hs' with ⟨rfl, rfl⟩ | ⟨-, hs'⟩
    · rw [hr] at hs
      cases hs
      rcases hlink with hlink | hrel
      · exact hlink hnone
      · exact absurd (hrel key a ha hr').2 hkey
    · rw [hs] at hs'
      cases hs'
      exact hnone

/-- The mapping of a live resource changes, and with it what the record says of it. -/
theorem InOrder.remapped (h : InOrder allowed g m) (hr : m.remotes.get? r = some status)
    (hid : m.platform.driver.resources.get? r.id = some res) {res' : Resource} {call : Call}
    {f : RemoteStatus → RemoteStatus} (hplace : res'.place = res.place)
    (hfreed : (f status).freed = status.freed) (hflight : (f status).inFlight = status.inFlight)
    (hcall : ∀ context resource, ¬ call.Touches m.platform.driver context resource)
    (hmatch : Matches m.platform.serial r status res →
      Matches m.platform.serial r (f status) res')
    (hkept : res'.mapped = false ∧ (f status).link = none ∨ Released g m r) :
    InOrder allowed g ((m.handled call.operation .accepted { m.platform.driver.logged call with
      notices, resources := m.platform.driver.resources.set r.id res' }).onStatus r f) := by
  obtain ⟨hf, hmatched⟩ := h.not_freed_of_live hr hid
  change InOrder allowed { g with calls := g.calls } (m.renewed _
    (m.remotes.set r (f (m.status r))) (_ :: m.history) _)
  rw [Machine.status_of_get? hr]
  refine h.update_record hr
    (h.safe_cons (Moment.safe_of_logged _ _ rfl rfl fun _ _ ht => absurd ht (hcall _ _)))
    (List.subset_cons_self _ _) ⟨{ h.numbered with resources := h.numbered.resources.reset hid },
      Nat.le_refl _, SamePlaces.set hid hplace⟩ rfl rfl (fun i hi => Assoc.get?_set_of_ne _ _ hi) ?_
    (fun hfreed' => hfreed.trans hfreed') h.callsOnce (fun _ => Or.inl) (fun _ hin _ => hin)
    (fun hin => Or.inr ⟨hflight.symm.trans hin, id⟩) (fun hin _ => hflight.trans hin)
    (fun _ => hkept.imp_left fun hk => ⟨_, Assoc.get?_set_self .., hk.1⟩)
    (hkept.imp_left fun hk _ => hk.2)
  exact { freed := fun hfreed' => by cases hf.symm.trans (hfreed.symm.trans hfreed')
          live := fun _ => ⟨_, Assoc.get?_set_self .., hmatch hmatched⟩ }

theorem InOrder.withdrawn (h : InOrder allowed g m)
    (hr : m.remotes.get? r = some status)
    (hid : m.platform.driver.resources.get? r.id = some res) :
    InOrder allowed g ((m.handled .unmapResource .accepted
      { m.platform.driver.logged (.unmapResource r.id) with
        resources := m.platform.driver.resources.set r.id { res with mapped := false } }).onStatus r
      fun s => { s with link := none }) :=
  h.remapped hr hid rfl rfl rfl (fun _ _ => id)
    (fun hmatch => { hmatch with mapped := rfl, link := fun _ hl => by cases hl })
    (Or.inl ⟨rfl, rfl⟩)

/-- A mapping may be made where nobody relies on its absence. -/
theorem InOrder.restored (h : InOrder allowed g m)
    (hr : m.remotes.get? r = some status) (hrel : Released g m r)
    (hid : m.platform.driver.resources.get? r.id = some res) {moves : Nat} :
    InOrder allowed g ((m.handled .mapResource .accepted
      { m.platform.driver.logged (.mapResource r.id) with
        notices
        resources := m.platform.driver.resources.set r.id
          { res with mapped := true, everMapped := true, moves } }).onStatus r
      fun s => { s with pitch := res.pitch, link := some ⟨m.platform.serial, moves⟩ }) :=
  h.remapped hr hid rfl rfl rfl (fun _ _ => id)
    (fun hmatch => { hmatch with
      pitch := rfl, mapped := rfl, link := fun _ hl => (Option.some.inj hl).symm })
    (Or.inr hrel)

/-- A host resource gets its record once it is mapped. -/
theorem InOrder.recorded (h : InOrder allowed (g.bearing r.id (.ofShape r.shape) r.format) m)
    (hid : m.platform.driver.resources.get? r.id = some res) (hmapped : res.mapped = true) :
    InOrder allowed g (m.onStatus r fun _ =>
      { link := some ⟨m.platform.serial, res.moves⟩, pitch := res.pitch }) := by
  have hborn := h.newborn _ List.mem_cons_self
  have hfresh : m.remotes.get? r = none := by
    cases hget : m.remotes.get? r with
    | none => rfl
    | some status => exact absurd rfl (hborn.unrecorded r status hget)
  -- Nobody can claim what has no record.
  have hunclaimed : ∀ key a, m.arenas.get? key = some a → r ∉ a.claims := fun key a ha hin => by
    obtain ⟨status, hs, -⟩ := h.recorded_of_claimed ha hin
    cases hfresh.symm.trans hs
  obtain ⟨res', hres', hplace, hlayout, hformat, hsize, hsmall⟩ := hborn.live
  cases hid.symm.trans hres'
  refine h.of_bearing.update h.safe (List.Subset.refl _)
    ⟨h.numbered, Nat.le_refl _, SamePlaces.refl⟩ (fun r' status' hs' => ?_)
    (fun r' status' hs' => ?_) (fun r' status' hs' => ⟨status', ?_, id, fun hf _ => hf⟩) h.callsOnce
    (fun _ => Or.inl) (fun key a claiming _ ha hs => ?_) (fun n hn => ?_)
    fun key a ha _ r' hr' status status' hs hs' hnone => ?_
  · rcases Assoc.of_get?_set hs' with ⟨rfl, rfl⟩ | ⟨-, hs'⟩
    · exact { freed := nofun
              live := fun _ => ⟨res, hid, {
                place := hplace, layout := hlayout, format := hformat, pitch := rfl
                size := hsize, small := hsmall, mapped := hmapped
                link := fun _ hl => (Option.some.inj hl).symm }⟩ }
    · exact h.records r' status' hs'
  · rcases Assoc.of_get?_set hs' with ⟨rfl, rfl⟩ | ⟨-, hs'⟩
    · refine Or.inr ⟨rfl, h.numbered.resources.lt_of_get? hid, fun r' status' hs' heq => ?_,
        hunclaimed⟩
      rcases Assoc.of_get?_set hs' with ⟨rfl, -⟩ | ⟨-, hs'⟩
      · rfl
      · exact absurd heq (hborn.unrecorded r' status' hs')
    · exact Or.inl ⟨status', hs', fun hf => Or.inr ⟨hf, id⟩⟩
  · have hne : r ≠ r' := by
      rintro rfl
      cases hfresh.symm.trans hs'
    exact (Assoc.get?_set_of_ne _ _ hne).trans hs'
  · refine hs.update (fun _ _ _ hv => hv) (fun bound hb e he => Or.inr ⟨bound, hb, he⟩)
      (fun _ hi _ => hi) fun r' hr' status' hs' => ?_
    rcases Assoc.of_get?_set hs' with ⟨rfl, -⟩ | ⟨-, hs'⟩
    · exact absurd hr' (hunclaimed key a ha)
    · exact ⟨status', hs', id⟩
  · have hb := h.newborn n (List.mem_cons_of_mem _ hn)
    refine { live := hb.live, unrecorded := fun r' status' hs' => ?_ }
    rcases Assoc.of_get?_set hs' with ⟨rfl, -⟩ | ⟨-, hs'⟩
    · exact fun heq => (List.nodup_cons.mp h.newbornOnce).1 (List.mem_map.mpr ⟨n, hn, heq.symm⟩)
    · exact hb.unrecorded r' _ hs'
  · rcases Assoc.of_get?_set hs' with ⟨rfl, -⟩ | ⟨-, hs'⟩
    · exact absurd hr' (hunclaimed key a ha)
    · cases hs.symm.trans hs'
      exact hnone

/-! ## Claims of calls -/

theorem InOrder.released_of_calling (h : InOrder allowed (g.calling r) m) :
    Released (g.calling r) m r :=
  fun key a ha hin => absurd hin ((h.calls r List.mem_cons_self).2 key a ha)

theorem InOrder.recorded_of_calling (h : InOrder allowed (g.calling r) m) :
    ∃ status, m.remotes.get? r = some status ∧ status.inFlight = true :=
  (h.calls r List.mem_cons_self).1

/-- A record that is neither freed nor marked can be claimed. -/
theorem InOrder.claimed (h : InOrder allowed g m)
    (hfreed : (m.status r).freed = false) (hidle : (m.status r).inFlight = false) :
    InOrder allowed (g.calling r) (m.onStatus r fun s => { s with inFlight := true }) := by
  obtain ⟨status, hr⟩ : ∃ status, m.remotes.get? r = some status := by
    cases hget : m.remotes.get? r with
    | some status => exact ⟨status, rfl⟩
    | none =>
      rw [Machine.status, hget, Option.getD_none] at hfreed
      cases hfreed
  rw [Machine.status_of_get? hr] at hfreed hidle
  -- Whoever has a claim has it marked, so nobody has one on this record.
  have hunmarked : ¬ ∃ status', m.remotes.get? r = some status' ∧ status'.inFlight = true := by
    rintro ⟨status', hs', hflight⟩
    rw [hr] at hs'
    cases hs'
    rw [hidle] at hflight
    cases hflight
  have hcalls : r ∉ g.calls := fun hin => hunmarked (h.calls r hin).1
  have harenas : ∀ key a, m.arenas.get? key = some a → r ∉ a.claims := fun key a ha hin =>
    hunmarked ((h.entered key a ha).claims r hin)
  change InOrder allowed { g with calls := r :: g.calls } (m.renewed m.platform.driver
    (m.remotes.set r { m.status r with inFlight := true }) m.history m.journal)
  rw [Machine.status_of_get? hr]
  refine h.update_record hr h.safe (List.Subset.refl _) ⟨h.numbered, Nat.le_refl _, SamePlaces.refl⟩
    rfl rfl (fun _ _ => rfl) ?_ (fun hf => hf) (List.nodup_cons.mpr ⟨hcalls, h.callsOnce⟩)
    (fun r' hin => ?_) (fun _ hin _ => List.mem_cons_of_mem _ hin)
    (fun _ => Or.inl List.mem_cons_self) (fun _ _ => rfl) (fun hi => Or.inl hi)
    (Or.inl fun hl => hl)
  · have hr' := h.records r status hr
    exact { freed := fun hf => by rw [hfreed] at hf; cases hf
            live := fun hf => by
              obtain ⟨res, hres, hmatch⟩ := hr'.live hf
              exact ⟨res, hres, { hmatch with }⟩ }
  · rcases List.mem_cons.mp hin with rfl | hin
    · exact Or.inr ⟨rfl, rfl, harenas⟩
    · exact Or.inl hin

/-- The claim of a call ends with a change of the record. -/
theorem InOrder.update_claimed (h : InOrder allowed (g.calling r) m)
    {history : List Moment} {journal : List Event} {f : RemoteStatus → RemoteStatus}
    (hsafe : ∀ mo ∈ history, mo.Safe) (hpast : m.history ⊆ history)
    (hdriver : m.platform.driver.Continues driver)
    (hmemories : driver.memories = m.platform.driver.memories)
    (hbindings : driver.bindings = m.platform.driver.bindings)
    (hother : ∀ i, r.id ≠ i → driver.resources.get? i = m.platform.driver.resources.get? i)
    (hagrees : ∀ status, Agrees m.platform.serial m.platform.driver.resources r status →
      Agrees m.platform.serial driver.resources r (f status))
    (hfreed : ∀ status, status.freed = true → (f status).freed = true)
    (hidle : ∀ status, (f status).inFlight = false) :
    InOrder allowed g (m.renewed driver (m.remotes.set r (f (m.status r))) history journal) := by
  obtain ⟨status, hr, -⟩ := h.recorded_of_calling
  have hrel := h.released_of_calling
  rw [Machine.status_of_get? hr]
  change InOrder allowed { g.calling r with calls := g.calls } _
  refine h.update_record hr hsafe hpast hdriver hmemories hbindings hother
    (hagrees status (h.records r status hr)) (hfreed status) (List.nodup_cons.mp h.callsOnce).2
    (fun _ hin => Or.inl (List.mem_cons_of_mem _ hin)) ?_
    (fun hflight => by cases (hidle status).symm.trans hflight) ?_ (fun _ => Or.inr hrel)
    (Or.inr hrel)
  · intro r' hin hne
    rcases List.mem_cons.mp hin with heq | hin
    · exact absurd heq.symm hne
    · exact hin
  · rintro - (hin | ⟨key, a, ha, hin⟩)
    · exact absurd hin (List.nodup_cons.mp h.callsOnce).1
    · exact absurd hin ((h.calls r List.mem_cons_self).2 key a ha)

theorem InOrder.unclaimed (h : InOrder allowed (g.calling r) m) :
    InOrder allowed g (Memory.unclaimed r m) := by
  refine h.update_claimed (f := fun s => { s with inFlight := false }) h.safe (List.Subset.refl _)
    ⟨h.numbered, Nat.le_refl _, SamePlaces.refl⟩ rfl rfl (fun _ _ => rfl) (fun status hr => ?_)
    (fun _ hf => hf) fun _ => rfl
  exact { freed := fun hf => ⟨(hr.freed hf).1, (hr.freed hf).2.1, rfl⟩
          live := fun hf => by
            obtain ⟨res, hres, hmatch⟩ := hr.live hf
            exact ⟨res, hres, { hmatch with }⟩ }

/-- A call frees what it claims, and the claim ends with it. -/
theorem InOrder.released (h : InOrder allowed (g.calling r) m) :
    InOrder allowed g ((m.handled .freeResource .accepted
      { m.platform.driver.logged (.freeResource r.id) with
        resources := m.platform.driver.resources.erase r.id }).onStatus r RemoteStatus.released) := by
  refine h.update_claimed
    (h.safe_cons (Moment.safe_of_logged _ _ rfl rfl fun _ _ => False.elim))
    (List.subset_cons_self _ _) ⟨{ h.numbered with resources := h.numbered.resources.erase },
      Nat.le_refl _, SamePlaces.erase⟩ rfl rfl (fun i hi => Assoc.get?_erase_of_ne _ hi)
    (fun status hr => ?_) (fun _ _ => rfl) fun _ => rfl
  exact { freed := fun _ => ⟨Assoc.get?_erase_self .., rfl, rfl⟩
          live := nofun }

end InOrder

end StreamCompute
