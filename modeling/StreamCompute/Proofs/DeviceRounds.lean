/-
  StreamCompute.Proofs.DeviceRounds

  The devices of a platform from one shutdown to the next. `Devices.At` follows
  the driver through a discovery call by call: whether it is started, which
  devices are open, and how often it was started. A discovery that fails closes
  what it opened and stops the driver, so it leaves nothing behind, as long as
  no failures are injected into the calls that let go of devices.

  `Registered` is what holds between operations: what is known of the devices
  is what the driver has.
-/
import StreamCompute.Proofs.Abiding

namespace StreamCompute

open Fallible

/-- The entry points that let go of devices. -/
def Operation.letsGo : Operation → Bool
  | .closeDevice => true
  | .stop => true
  | _ => false

/-- No failure is injected into the calls that let go of devices. -/
def Simulator.Spares (s : Simulator) : Prop :=
  ∀ i ∈ s.injections, i.operation.letsGo = false

/-- A device as the driver lists it. -/
def Device.entry (d : Device) : Ident .device × Nat := (d.id, d.index)

namespace Simulator

variable {s : Simulator} {err : DriverError → Simulator → Prop} {cut : Simulator → Prop}

/-- No injected failure strikes a call that lets go of devices. -/
theorem Spares.spared (h : s.Spares) {op : Operation} (hop : op.letsGo = true) : s.Spared op := by
  intro i hi heq
  have hfalse := h i hi
  rw [heq, hop] at hfalse
  cases hfalse

/-- Afterwards the device is not open, whether it was or not. -/
theorem closeDevice_closes (h : s.Spares) {id : Ident .device} :
    (closeDevice id).run.Leads s (fun _ s' => s'.devices = s.devices.erase id)
      (fun _ s' => s'.devices = s.devices.erase id) fun _ => False := by
  simp only [closeDevice, leads_bind, leads_get]
  refine enter_spared (h.spared rfl) ?_
  unfold require
  split
  · rfl
  · rename_i hnot
    have hnone : s.devices.get? id = none := by
      simpa [Assoc.has, logged] using hnot
    exact (Assoc.erase_of_get?_eq_none hnone).symm

theorem stop_stops (h : s.Spares) (hstarted : s.started = true) :
    stop.run.Leads s (fun _ s' => s'.started = false) (fun _ _ => False) fun _ => False := by
  simp only [stop, requireStarted, leads_bind, leads_get]
  refine enter_spared (h.spared rfl) ?_
  rw [show (logged .stop s).started = true from hstarted]
  rfl

end Simulator

variable {κ ω α : Type}

/-- How often the driver was started. -/
def Machine.starts (m : Machine κ ω) : Nat :=
  (m.history.map Moment.operation).count .start

theorem Machine.starts_handled {m : Machine κ ω} {op : Operation} {verdict : Verdict}
    {s : Simulator} :
    (m.handled op verdict s).starts = m.starts + if op = .start then 1 else 0 := by
  unfold starts
  rw [history_handled, List.map_cons, List.count_cons]
  by_cases hop : op = .start
  · subst hop
    rfl
  · simp [hop, moment]

/-! ## Following the driver -/

namespace Devices

/-- Where a platform stands with its devices: whether the driver is started, which devices are
    open, the number of the discovery and how often the driver was started. The first two need
    not be known; where they are, no failures are injected into the calls that let go of
    devices. -/
structure At (known : Prop) (base : Machine κ ω) (started : Bool) (devices : Assoc (Ident .device) Nat)
    (generation starts : Nat) (m : Machine κ ω) : Prop where
  hooks : m.platform.hooks = []
  registry : m.platform.registry = base.platform.registry
  generation : m.platform.generation = generation
  spec : m.platform.driver.spec = base.platform.driver.spec
  injections : m.platform.driver.injections = base.platform.driver.injections
  starts : m.starts = starts
  spares : known → m.platform.driver.Spares
  started : known → m.platform.driver.started = started
  devices : known → m.platform.driver.devices = devices

namespace At

variable {known : Prop} {base m : Machine κ ω} {started started' : Bool}
  {devices devices' : Assoc (Ident .device) Nat} {generation starts : Nat}

section

variable (h : At known base started devices generation starts m)

include h

theorem journal {journal : List Event} :
    At known base started devices generation starts { m with journal } :=
  { h with }

theorem unhooked :
    m.Unhooked fun _ => true := .of_nil h.hooks

theorem handled {op : Operation} {verdict : Verdict} {s : Simulator} (hop : op ≠ .start)
    (hs : m.platform.driver.SameButDevices s) (hstarted : known → s.started = started')
    (hdevices : known → s.devices = devices') :
    At known base started' devices' generation starts (m.handled op verdict s) where
  hooks := h.hooks
  registry := h.registry
  generation := h.generation
  spec := by
    obtain ⟨_, _, _, _, _, _, rfl⟩ := hs
    exact h.spec
  injections := by
    obtain ⟨_, _, _, _, _, _, rfl⟩ := hs
    exact h.injections
  starts := by
    rw [Machine.starts_handled, if_neg hop]
    exact h.starts
  spares hknown := by
    obtain ⟨_, _, _, _, _, _, rfl⟩ := hs
    exact h.spares hknown
  started := hstarted
  devices := hdevices

theorem refused {op : Operation} {verdict : Verdict} {call : Call} (hop : op ≠ .start) :
    At known base started devices generation starts
      (m.handled op verdict (m.platform.driver.logged call)) :=
  h.handled hop .logged h.started h.devices

end

variable [Reentry κ ω]

theorem close (h : At known base started devices generation starts m) {id : Ident .device} :
    (Machine.tryDrive (Simulator.closeDevice id)).Leads m
      (fun _ => At known base started (devices.erase id) generation starts) fun _ => False := by
  unfold Machine.tryDrive
  rw [leads_attempt, Machine.leads_drive h.unhooked rfl]
  have hsame : (Simulator.closeDevice id).run.Leads m.platform.driver
      (fun _ s => m.platform.driver.SameButDevices s ∧ s.started = m.platform.driver.started)
      (fun _ s => m.platform.driver.SameButDevices s ∧ s.started = m.platform.driver.started)
      fun _ => False :=
    Simulator.closeDevice_leads (fun _ => ⟨.logged, rfl⟩)
      ⟨⟨_, _, _, _, _, Nat.le_refl _, rfl⟩, rfl⟩
  -- Without injected failures a device that is open is closed. Otherwise nothing is said of it.
  have hcloses : (Simulator.closeDevice id).run.Leads m.platform.driver
      (fun _ s => m.platform.driver.Spares → s.devices = m.platform.driver.devices.erase id)
      (fun _ s => m.platform.driver.Spares → s.devices = m.platform.driver.devices.erase id)
      fun _ => False := by
    by_cases hknown : m.platform.driver.Spares
    · exact (Simulator.closeDevice_closes hknown).mono (fun _ _ hs _ => hs) (fun _ _ hs _ => hs)
        fun _ hs => hs
    · exact Simulator.closeDevice_leads (fun _ hs => absurd hs hknown)
        fun hs => absurd hs hknown
  have hclosed : ∀ verdict s, (m.platform.driver.SameButDevices s ∧
      s.started = m.platform.driver.started) ∧
      (m.platform.driver.Spares → s.devices = m.platform.driver.devices.erase id) →
      At known base started (devices.erase id) generation starts (m.handled .closeDevice verdict s) := by
    intro verdict s hs
    obtain ⟨⟨hs, hstarted⟩, hdevices⟩ := hs
    refine h.handled nofun hs (fun hknown => hstarted.trans (h.started hknown)) fun hknown => ?_
    rw [hdevices (h.spares hknown), h.devices hknown]
  exact (hsame.and hcloses).mono (fun _ s hs => hclosed _ s hs) (fun _ s hs => hclosed _ s hs)
    fun _ hs => hs.1

theorem stop (h : At known base true devices generation starts m) :
    (Machine.tryDrive Simulator.stop).Leads m
      (fun _ => At known base false devices generation starts) fun _ => False := by
  unfold Machine.tryDrive
  rw [leads_attempt, Machine.leads_drive h.unhooked rfl]
  have hstopped : ∀ verdict s, m.platform.driver.SameButDevices s →
      s.devices = m.platform.driver.devices → (known → s.started = false) →
      At known base false devices generation starts (m.handled .stop verdict s) := by
    intro verdict s hs hdevices hstarted
    exact h.handled nofun hs hstarted fun hknown => hdevices.trans (h.devices hknown)
  by_cases hknown : known
  · have hstops := Simulator.stop_stops (h.spares hknown) (h.started hknown)
    have hrest : Simulator.stop.run.Leads m.platform.driver
        (fun _ s => m.platform.driver.SameButDevices s ∧ s.devices = m.platform.driver.devices)
        (fun _ _ => True) fun _ => False :=
      Simulator.stop_leads (fun _ => trivial) fun _ =>
        ⟨⟨_, _, _, _, _, Nat.le_refl _, rfl⟩, rfl⟩
    exact (hstops.and hrest).mono (fun _ s hs => hstopped _ s hs.2.1 hs.2.2 fun _ => hs.1)
      (fun _ _ hs => hs.1.elim) fun _ hs => hs.1
  · exact Simulator.stop_leads
      (fun _ => hstopped _ _ .logged rfl fun hs => absurd hs hknown)
      fun _ => hstopped _ _ ⟨_, _, _, _, _, Nat.le_refl _, rfl⟩ rfl fun hs => absurd hs hknown

end At

/-! ## Letting go -/

/-- The devices that are left open once those on the list were closed. -/
def without (devices : Assoc (Ident .device) Nat) (list : List Device) :
    Assoc (Ident .device) Nat :=
  list.foldl (fun t d => t.erase d.id) devices

theorem mem_without {e : Ident .device × Nat} {list : List Device}
    {devices : Assoc (Ident .device) Nat} (h : e ∈ without devices list) :
    e ∈ devices ∧ ∀ d ∈ list, d.id ≠ e.1 := by
  induction list generalizing devices with
  | nil => exact ⟨h, List.forall_mem_nil _⟩
  | cons d rest ih =>
    obtain ⟨hmem, hrest⟩ := ih h
    obtain ⟨hmem, hne⟩ := Assoc.mem_erase hmem
    exact ⟨hmem, List.forall_mem_cons.mpr ⟨fun heq => hne heq.symm, hrest⟩⟩

theorem without_all {found list : List Device} (h : ∀ d ∈ found, d ∈ list) :
    without (found.map Device.entry) list = [] := by
  rw [List.eq_nil_iff_forall_not_mem]
  intro e he
  obtain ⟨hmem, hnone⟩ := mem_without he
  obtain ⟨d, hd, rfl⟩ := List.mem_map.mp hmem
  exact hnone d (h d hd) rfl

section Following

variable [Reentry κ ω] {known : Prop} {base m : Machine κ ω} {started : Bool}
  {devices : Assoc (Ident .device) Nat} {generation starts : Nat}

theorem closeAll_at {list : List Device} (h : At known base started devices generation starts m) :
    (closeAll list).Leads m
      (fun _ => At known base started (without devices list) generation starts) fun _ => False := by
  unfold closeAll
  induction list generalizing m devices with
  | nil => exact h
  | cons d rest ih =>
    rw [Act.leads_forM_cons, Act.leads_bind]
    exact h.close.imp fun _ _ h₁ => ih h₁

theorem giveUp_at {opened : List Device}
    (h : At known base true (opened.map Device.entry) generation starts m) :
    (giveUp opened).Leads m (fun _ => At known base false [] generation starts) fun _ => False := by
  unfold giveUp
  refine .bind (closeAll_at h) fun _ m₁ h₁ => ?_
  rw [without_all fun d hd => List.mem_reverse.mpr hd] at h₁
  rw [Act.leads_bind]
  exact h₁.stop.imp fun _ _ h₂ => h₂

theorem closeEach_at {list : List Device} (h : At known base started devices generation starts m) :
    (closeEach list).Leads m
      (fun _ => At known base started (without devices list) generation starts) fun _ => False := by
  induction list generalizing m devices with
  | nil => exact h
  | cons d rest ih =>
    unfold closeEach
    rw [Act.leads_bind]
    refine h.close.imp fun answer m₁ h₁ => ?_
    cases answer with
    | ok => exact ih h₁
    | error e =>
      rw [Act.leads_bind, Act.leads_log]
      exact .bind (ih h₁.journal) fun _ _ h₂ => h₂

theorem stopDriver_at (h : At known base true devices generation starts m) :
    (stopDriver).Leads m (fun _ => At known base false devices generation starts) fun _ => False := by
  unfold stopDriver
  rw [Act.leads_bind]
  refine h.stop.imp fun answer m₁ h₁ => ?_
  cases answer with
  | ok => exact h₁
  | error e => exact h₁.journal

/-! ## Looking for devices -/

/-- A device that the discovery with this number has opened. -/
structure Opened (base : Machine κ ω) (generation : Nat) (d : Device) : Prop where
  info : d.info = base.platform.driver.spec.info
  generation : d.generation = generation

theorem openOne_at {opened : List Device} {index : Nat}
    (h : At known base true (opened.map Device.entry) generation starts m)
    (hnumbers : ∀ d ∈ opened, d.id.number < m.platform.driver.nextNumber) :
    (openOne generation index).Leads m
      (fun d m' => Opened base generation d ∧ d.index = index ∧
        At known base true ((opened ++ [d]).map Device.entry) generation starts m' ∧
        ∀ d' ∈ opened ++ [d], d'.id.number < m'.platform.driver.nextNumber)
      (fun _ => At known base true (opened.map Device.entry) generation starts) fun _ => False := by
  unfold openOne
  rw [leads_bind, Machine.leads_drive h.unhooked rfl]
  refine Simulator.describeDevice_leads (fun _ => h.refused nofun) ?_
  have h₁ : At known base true (opened.map Device.entry) generation starts
      (m.handled .describeDevice .accepted
        (Simulator.logged (.describeDevice index) m.platform.driver)) := h.refused nofun
  rw [leads_bind]
  refine (Machine.leads_drive h₁.unhooked rfl).mpr ?_
  refine Simulator.openDevice_leads (fun _ => h₁.refused nofun) ?_
  refine ⟨⟨h.spec ▸ rfl, rfl⟩, rfl, h₁.handled nofun ⟨_, _, _, _, _, Nat.le_succ _, rfl⟩
    h₁.started fun hknown => ?_, fun d hd => ?_⟩
  · -- The new device has a new number, so it goes to the end of the list.
    have hfresh : Assoc.get? (opened.map Device.entry) ⟨m.platform.driver.nextNumber⟩ = none := by
      rw [Assoc.get?_eq_none_iff]
      intro e he
      obtain ⟨d, hd, rfl⟩ := List.mem_map.mp he
      exact Ident.ne_of_number_lt (hnumbers d hd)
    show Assoc.set _ _ _ = _
    rw [h₁.devices hknown]
    refine (Assoc.set_of_get?_eq_none hfresh index).trans ?_
    rw [List.map_append]
    rfl
  · rcases List.mem_append.mp hd with hd | hd
    · exact Nat.lt_succ_of_lt (hnumbers d hd)
    · cases List.mem_singleton.mp hd
      exact Nat.lt_succ_self _

theorem openAll_at {indices : List Nat} {opened : List Device}
    (h : At known base true (opened.map Device.entry) generation starts m)
    (hnumbers : ∀ d ∈ opened, d.id.number < m.platform.driver.nextNumber)
    (hopened : ∀ d ∈ opened, Opened base generation d) :
    (openAll generation indices opened).Leads m
      (fun found m' => (∀ d ∈ found, Opened base generation d) ∧
        found.map Device.index = opened.map Device.index ++ indices ∧
        At known base true (found.map Device.entry) generation starts m')
      (fun _ => At known base false [] generation starts) fun _ => False := by
  induction indices generalizing m opened with
  | nil => exact ⟨hopened, (List.append_nil _).symm, h⟩
  | cons index rest ih =>
    unfold openAll
    rw [leads_bind, leads_perform, leads_attempt]
    refine (openOne_at h hnumbers).mono (fun d m₁ h₁ => ?_) (fun e m₁ h₁ => ?_) fun _ h => h
    · obtain ⟨hd, hindex, h₁, hnumbers₁⟩ := h₁
      have hlogged : At known base true ((opened ++ [d]).map Device.entry) generation starts
          (Journaled.record (openedEvent d) m₁) := h₁.journal
      rw [leads_bind, leads_log]
      refine (ih hlogged hnumbers₁ fun d' hd' => ?_).imp fun found m₂ h₂ => ?_
      · rcases List.mem_append.mp hd' with hd' | hd'
        · exact hopened d' hd'
        · cases List.mem_singleton.mp hd'
          exact hd
      · refine ⟨h₂.1, ?_, h₂.2.2⟩
        rw [h₂.2.1, List.map_append, List.append_assoc, List.map_singleton, hindex]
        rfl
    · dsimp only
      exact .perform_bind (giveUp_at h₁) fun _ _ h₂ => h₂

theorem start_at (h : At known base false [] generation starts m) :
    (Machine.drive Simulator.start).Leads m
      (fun _ => At known base true (List.map Device.entry []) generation (starts + 1))
      (fun _ => At known base false [] generation (starts + 1)) fun _ => False := by
  rw [Machine.leads_drive h.unhooked rfl]
  have hcount : ∀ verdict s, (m.handled .start verdict s).starts = starts + 1 := fun _ _ => by
    rw [Machine.starts_handled, if_pos rfl, h.starts]
  refine Simulator.start_leads (fun _ => ?_) ?_
  · exact { h with starts := hcount _ _ }
  · exact { h with starts := hcount _ _, started := fun _ => rfl }

theorem countDevices_at {opened : List Device}
    (h : At known base true (opened.map Device.entry) generation starts m) :
    (Machine.drive Simulator.countDevices).Leads m
      (fun count m' => count = base.platform.driver.spec.deviceCount ∧
        At known base true (opened.map Device.entry) generation starts m')
      (fun _ => At known base true (opened.map Device.entry) generation starts) fun _ => False := by
  rw [Machine.leads_drive h.unhooked rfl]
  exact Simulator.countDevices_leads (fun _ => h.refused nofun) ⟨h.spec ▸ rfl, h.refused nofun⟩

/-- A discovery starts the driver once. It opens every device in order, or leaves nothing
    behind. -/
theorem discover_at (h : At known base false [] generation starts m) :
    (discover).Leads m
      (fun found m' => (∀ d ∈ found, Opened base (generation + 1) d) ∧
        found.map Device.index = List.range base.platform.driver.spec.deviceCount ∧
        At known base true (found.map Device.entry) (generation + 1) (starts + 1) m')
      (fun _ => At known base false [] (generation + 1) (starts + 1)) fun _ => False := by
  unfold discover Machine.driveAs Machine.tryDrive
  rw [leads_bind, leads_modify, leads_bind, leads_get]
  have h₁ : At known base false [] (generation + 1) starts
      (m.onPlatform fun p => { p with generation := p.generation + 1 }) :=
    { h with generation := congrArg (· + 1) h.generation }
  rw [leads_bind, leads_mapError, h₁.generation]
  refine (start_at h₁).imp fun _ m₂ h₂ => ?_
  rw [leads_bind, leads_perform, leads_attempt]
  refine (countDevices_at h₂).mono (fun count m₃ h₃ => ?_) (fun e m₃ h₃ => ?_) fun _ h => h
  · obtain ⟨rfl, h₃⟩ := h₃
    refine .bind (openAll_at h₃ (List.forall_mem_nil _) (List.forall_mem_nil _)) fun found m₄ h₄ => ?_
    exact ⟨h₄.1, h₄.2.1, h₄.2.2.journal⟩
  · dsimp only
    exact .perform_bind (giveUp_at h₃) fun _ _ h₄ => h₄

end Following

end Devices

/-! ## Between operations -/

/-- What is known of the devices is what the driver has: either it is started and these are its
    devices, in order and all of one discovery, or it is not started and has none. -/
def Machine.Registered (m : Machine κ ω) : Prop :=
  match m.platform.registry with
  | .ready found =>
    m.platform.driver.started = true ∧ m.platform.driver.devices = found.map Device.entry ∧
      found.map Device.index = List.range m.platform.driver.spec.deviceCount ∧
      ∀ d ∈ found, d.generation = m.platform.generation
  | _ => m.platform.driver.started = false ∧ m.platform.driver.devices = []

namespace Machine.Registered

variable {m : Machine κ ω}

theorem of_ready (h : m.Registered) {found : List Device}
    (hfound : m.platform.registry = .ready found) :
    m.platform.driver.started = true ∧ m.platform.driver.devices = found.map Device.entry ∧
      found.map Device.index = List.range m.platform.driver.spec.deviceCount ∧
      ∀ d ∈ found, d.generation = m.platform.generation := by
  unfold Registered at h
  rwa [hfound] at h

theorem of_uninitialized (h : m.Registered)
    (hregistry : m.platform.registry = .uninitialized) :
    m.platform.driver.started = false ∧ m.platform.driver.devices = [] := by
  unfold Registered at h
  rwa [hregistry] at h

/-- Devices are listed by their indices. -/
theorem index_of_getElem? (h : m.Registered) {found : List Device}
    (hfound : m.platform.registry = .ready found) {index : Nat} {d : Device}
    (hd : found[index]? = some d) : d.index = index := by
  have hindices := (h.of_ready hfound).2.2.1
  have hget : (found.map Device.index)[index]? = some d.index := by
    rw [List.getElem?_map, hd]
    rfl
  rw [hindices, List.getElem?_eq_some_iff] at hget
  obtain ⟨hlt, heq⟩ := hget
  rw [← heq, List.getElem_range]

end Machine.Registered

/-- From the first machine to the second, devices were looked for once. -/
structure Machine.Discovers (m m' : Machine κ ω) : Prop where
  unknown : m.platform.registry = .uninitialized
  known : m'.platform.registry ≠ .uninitialized
  hooks : m'.platform.hooks = []
  generation : m'.platform.generation = m.platform.generation + 1
  spec : m'.platform.driver.spec = m.platform.driver.spec
  injections : m'.platform.driver.injections = m.platform.driver.injections
  starts : m'.starts = m.starts + 1
  infos : ∀ found, m'.platform.registry = .ready found →
    ∀ d ∈ found, d.info = m.platform.driver.spec.info
  registered : m.platform.driver.Spares → m.Registered → m'.Registered

namespace Devices

variable [Reentry κ ω] {m : Machine κ ω}

/-- Devices that are known are not looked for again, and neither are those that could not be
    found. -/
theorem devices_of_ready {found : List Device} (h : m.platform.registry = .ready found) :
    devices.Leads m (fun found' m' => found' = found ∧ m' = m)
      (fun _ _ => False) fun _ => False := by
  unfold devices
  rw [leads_bind, leads_get, h]
  exact ⟨rfl, rfl⟩

theorem devices_of_failed {e : Error} (h : m.platform.registry = .failed e) :
    devices.Leads m (fun _ _ => False) (fun e' m' => e' = e ∧ m' = m)
      fun _ => False := by
  unfold devices
  rw [leads_bind, leads_get, h]
  exact ⟨rfl, rfl⟩

theorem devices_of_uninitialized (hooks : m.platform.hooks = [])
    (h : m.platform.registry = .uninitialized) :
    devices.Leads m
      (fun found m' => m'.platform.registry = .ready found ∧ m.Discovers m')
      (fun e m' => m'.platform.registry = .failed e ∧ m.Discovers m') fun _ => False := by
  unfold devices
  rw [leads_bind, leads_get, h]
  rw [leads_bind, leads_perform, leads_attempt]
  have hat : At (m.platform.driver.Spares ∧ m.Registered) m false [] m.platform.generation
      m.starts m :=
    ⟨hooks, rfl, rfl, rfl, rfl, rfl, fun hknown => hknown.1,
      fun hknown => (hknown.2.of_uninitialized h).1, fun hknown => (hknown.2.of_uninitialized h).2⟩
  refine (discover_at hat).mono (fun found m₁ h₁ => ?_) (fun e m₁ h₁ => ?_) fun _ h₁ => h₁
  · obtain ⟨hopened, hindices, h₁⟩ := h₁
    refine ⟨rfl, h, nofun, h₁.hooks, h₁.generation, h₁.spec, h₁.injections, h₁.starts,
      fun found' hfound' d hd => ?_, fun hspares hregistered => ?_⟩
    · cases hfound'
      exact (hopened d hd).info
    · refine ⟨h₁.started ⟨hspares, hregistered⟩, h₁.devices ⟨hspares, hregistered⟩, ?_,
        fun d hd => (hopened d hd).generation.trans h₁.generation.symm⟩
      show _ = List.range m₁.platform.driver.spec.deviceCount
      rw [h₁.spec]
      exact hindices
  · exact ⟨rfl, h, nofun, h₁.hooks, h₁.generation, h₁.spec, h₁.injections, h₁.starts, nofun,
      fun hspares hregistered =>
        ⟨h₁.started ⟨hspares, hregistered⟩, h₁.devices ⟨hspares, hregistered⟩⟩⟩

/-- Whatever was known, the devices are looked for at most once, and what comes of it is known
    afterwards. -/
theorem devices_leads (hooks : m.platform.hooks = []) :
    devices.Leads m
      (fun found m' => m'.platform.registry = .ready found ∧ (m' = m ∨ m.Discovers m'))
      (fun e m' => m'.platform.registry = .failed e ∧ (m' = m ∨ m.Discovers m'))
      fun _ => False := by
  cases hregistry : m.platform.registry with
  | ready found =>
    refine (devices_of_ready hregistry).mono (fun found' m' hm' => ?_) (fun _ _ hm' => hm'.elim)
      fun _ hm' => hm'
    obtain ⟨rfl, rfl⟩ := hm'
    exact ⟨hregistry, Or.inl rfl⟩
  | failed e =>
    refine (devices_of_failed hregistry).mono (fun _ _ hm' => hm'.elim) (fun e' m' hm' => ?_)
      fun _ hm' => hm'
    obtain ⟨rfl, rfl⟩ := hm'
    exact ⟨hregistry, Or.inl rfl⟩
  | uninitialized =>
    exact (devices_of_uninitialized hooks hregistry).mono
      (fun _ _ hm' => ⟨hm'.1, Or.inr hm'.2⟩) (fun _ _ hm' => ⟨hm'.1, Or.inr hm'.2⟩) fun _ hm' => hm'

end Devices

/-- From the first machine to the second, the devices were let go of. -/
structure Machine.LetsGo (m m' : Machine κ ω) : Prop where
  hooks : m'.platform.hooks = []
  registry : m'.platform.registry = .uninitialized
  generation : m'.platform.generation = m.platform.generation
  spec : m'.platform.driver.spec = m.platform.driver.spec
  injections : m'.platform.driver.injections = m.platform.driver.injections
  registered : m.platform.driver.Spares → m.Registered → m'.Registered

theorem Devices.shutdown_leads [Reentry κ ω] {m : Machine κ ω} (hooks : m.platform.hooks = []) :
    shutdown.Leads m (fun _ => m.LetsGo) (fun _ => m.LetsGo) fun _ => False := by
  unfold shutdown
  rw [leads_bind, leads_get, leads_bind, leads_modify]
  cases hregistry : m.platform.registry with
  | uninitialized =>
    exact ⟨hooks, rfl, rfl, rfl, rfl, fun _ h => h.of_uninitialized hregistry⟩
  | failed e =>
    refine ⟨hooks, rfl, rfl, rfl, rfl, fun _ h => ?_⟩
    unfold Machine.Registered at h
    rw [hregistry] at h
    exact h
  | ready found =>
    -- The registry is emptied before the first call, so that it does not depend on the rest.
    have hat : At (m.platform.driver.Spares ∧ m.Registered) (setRegistry .uninitialized m) true
        (found.map Device.entry) m.platform.generation m.starts (setRegistry .uninitialized m) :=
      ⟨hooks, rfl, rfl, rfl, rfl, rfl, fun hknown => hknown.1,
        fun hknown => (hknown.2.of_ready hregistry).1,
        fun hknown => (hknown.2.of_ready hregistry).2.1⟩
    refine .perform_bind (closeEach_at hat) fun closing m₁ h₁ => ?_
    rw [without_all fun d hd => hd] at h₁
    refine .perform_bind (stopDriver_at h₁) fun stopping m₂ h₂ => ?_
    have hdone : m.LetsGo (Journaled.record
        (.info "runtime shut down" [("devices", .nat found.length)]) m₂) := by
      refine ⟨h₂.hooks, h₂.registry, h₂.generation, h₂.spec, h₂.injections,
        fun hspares hregistered => ?_⟩
      unfold Machine.Registered
      rw [show (Journaled.record (Event.info "runtime shut down" [("devices", .nat found.length)])
        m₂).platform.registry = .uninitialized from h₂.registry]
      exact ⟨h₂.started ⟨hspares, hregistered⟩, h₂.devices ⟨hspares, hregistered⟩⟩
    rw [leads_bind, leads_log]
    cases closing.or stopping with
    | some e => exact hdone
    | none => exact hdone

end StreamCompute
