/-
  StreamCompute.Proofs.StaleDevices

  Devices are good for one round, from the discovery that opened them to the
  next shutdown. `Within` is one thing that happens within a round and `Turns`
  allows shutdowns as well; a roster keeps the devices that were given out in
  this round and in earlier ones, and only these can be named.

  After any number of rounds, what is known of the devices is what the driver
  has; the driver is started at most once in a round; a failed discovery is
  answered again, without a driver call, until the round ends; and a device is
  accepted exactly if it was given out in this round.
-/
import StreamCompute.Proofs.DeviceErrors
import StreamCompute.Proofs.DeviceRounds

namespace StreamCompute

open Fallible

variable {κ ω α : Type}

/-! ## Rounds -/

/-- The devices that were given out. -/
structure Roster where
  current : List Device := []
  former : List Device := []

/-- One thing that happens between two shutdowns: a device is given out, an errand is done,
    however it ends, or other failures are planned. Only devices that were given out can be named;
    failures of the `spared` entry points are not planned. -/
inductive Within [Reentry κ ω] (spared : Operation → Bool) :
    Roster × Machine κ ω → Roster × Machine κ ω → Prop
  | device {roster : Roster} {m m' : Machine κ ω} {index : Nat} {d : Device}
      (hrun : (Devices.get index).run m = (.ok (.ok d), m')) :
      Within spared (roster, m) ({ roster with current := d :: roster.current }, m')
  | errand {roster : Roster} {m : Machine κ ω} {c : Errand} (hc : c ≠ .shutdown)
      (hgiven : ∀ d, c.device? = some d → d ∈ roster.current ∨ d ∈ roster.former) :
      Within spared (roster, m) (roster, (c.perform.run m).2)
  | sabotage {roster : Roster} {m : Machine κ ω} (injections : List Injection)
      (tokenErrors : List (Operation × String))
      (hspared : ∀ i ∈ injections, spared i.operation = false) :
      Within spared (roster, m)
        (roster, m.onDriver fun s => { s with injections, tokenErrors })

/-- The same, or a shutdown. -/
inductive Turns [Reentry κ ω] (spared : Operation → Bool) :
    Roster × Machine κ ω → Roster × Machine κ ω → Prop
  | within {p p' : Roster × Machine κ ω} (h : Within spared p p') : Turns spared p p'
  | shutdown {roster : Roster} {m : Machine κ ω} :
      Turns spared (roster, m)
        ({ former := roster.current ++ roster.former }, (Devices.shutdown.run m).2)

/-- Nothing that concerns the devices differs. -/
structure Machine.SameDevices (m m' : Machine κ ω) : Prop where
  hooks : m'.platform.hooks = m.platform.hooks
  registry : m'.platform.registry = m.platform.registry
  generation : m'.platform.generation = m.platform.generation
  spec : m'.platform.driver.spec = m.platform.driver.spec
  injections : m'.platform.driver.injections = m.platform.driver.injections
  started : m'.platform.driver.started = m.platform.driver.started
  devices : m'.platform.driver.devices = m.platform.driver.devices
  starts : m'.starts = m.starts

theorem Machine.Moves.sameDevices {info : DeviceInfo} {m m' : Machine κ ω}
    (h : m.Moves info m') : m.SameDevices m' := by
  cases h with
  | call hop _ hs =>
    refine ⟨rfl, rfl, rfl, hs.spec, hs.injections, hs.started, hs.devices, ?_⟩
    rw [starts_handled, if_neg, Nat.add_zero]
    rintro rfl
    cases hop
  | marked => exact ⟨rfl, rfl, rfl, rfl, rfl, rfl, rfl, rfl⟩
  | mapped => exact ⟨rfl, rfl, rfl, rfl, rfl, rfl, rfl, rfl⟩
  | recorded => exact ⟨rfl, rfl, rfl, rfl, rfl, rfl, rfl, rfl⟩
  | arena => exact ⟨rfl, rfl, rfl, rfl, rfl, rfl, rfl, rfl⟩
  | ended => exact ⟨rfl, rfl, rfl, rfl, rfl, rfl, rfl, rfl⟩
  | beside => exact ⟨rfl, rfl, rfl, rfl, rfl, rfl, rfl, rfl⟩
  | @written id f =>
    have hchanged : ∃ resources, Memory.changed id f m.platform.driver =
        { m.platform.driver with resources } := by
      unfold Memory.changed
      split
      · exact ⟨_, rfl⟩
      · exact ⟨m.platform.driver.resources, rfl⟩
    obtain ⟨resources, hresources⟩ := hchanged
    rw [onDriver, onPlatform, hresources]
    exact ⟨rfl, rfl, rfl, rfl, rfl, rfl, rfl, rfl⟩

theorem Machine.Registered.congr {m m' : Machine κ ω} (h : m.Registered) (hm' : m.SameDevices m') :
    m'.Registered := by
  unfold Registered at h ⊢
  rw [hm'.registry, hm'.started, hm'.devices, hm'.spec, hm'.generation]
  exact h

/-- What is known of the devices is what the driver has. Devices that were given out in this round
    are among them, and those of earlier rounds have earlier numbers. -/
structure Roster.Fits (roster : Roster) (m : Machine κ ω) : Prop where
  hooks : m.platform.hooks = []
  spares : m.platform.driver.Spares
  registered : m.Registered
  current : ∀ d ∈ roster.current, ∃ found, m.platform.registry = .ready found ∧
    found[d.index]? = some d
  former : ∀ d ∈ roster.former, d.generation ≤ m.platform.generation ∧
    ∀ found, m.platform.registry = .ready found → d.generation < m.platform.generation

namespace Roster.Fits

variable {roster : Roster} {m m' : Machine κ ω}

theorem same (h : roster.Fits m) (hm' : m.SameDevices m') : roster.Fits m' where
  hooks := hm'.hooks.trans h.hooks
  spares := by
    unfold Simulator.Spares
    rw [hm'.injections]
    exact h.spares
  registered := h.registered.congr hm'
  current := hm'.registry ▸ h.current
  former := by
    rw [hm'.generation, hm'.registry]
    exact h.former

/-- Nothing is given out in this round before devices were looked for. -/
theorem discovers (h : roster.Fits m) (hm' : m.Discovers m') : roster.Fits m' where
  hooks := hm'.hooks
  spares := by
    unfold Simulator.Spares
    rw [hm'.injections]
    exact h.spares
  registered := hm'.registered h.spares h.registered
  current d hd := by
    obtain ⟨found, hfound, -⟩ := h.current d hd
    cases hm'.unknown.symm.trans hfound
  former d hd := by
    have hle := (h.former d hd).1
    rw [hm'.generation]
    exact ⟨Nat.le_succ_of_le hle, fun _ _ => Nat.lt_succ_of_le hle⟩

/-- With a shutdown, all devices become devices of earlier rounds. -/
theorem letsGo (h : roster.Fits m) (hm' : m.LetsGo m') :
    Roster.Fits { former := roster.current ++ roster.former } m' where
  hooks := hm'.hooks
  spares := by
    unfold Simulator.Spares
    rw [hm'.injections]
    exact h.spares
  registered := hm'.registered h.spares h.registered
  current := nofun
  former d hd := by
    rw [hm'.generation, hm'.registry]
    refine ⟨?_, nofun⟩
    rcases List.mem_append.mp hd with hd | hd
    · obtain ⟨found, hfound, hget⟩ := h.current d hd
      exact Nat.le_of_eq ((h.registered.of_ready hfound).2.2.2 d (List.mem_of_getElem? hget))
    · exact (h.former d hd).1

end Roster.Fits

/-- Since the first machine, devices were looked for at most once, and only if it was not known
    what would come of it. -/
def Machine.Discovered (base m : Machine κ ω) : Prop :=
  (m.platform.registry = base.platform.registry ∧ m.starts = base.starts) ∨
    (base.platform.registry = .uninitialized ∧ m.platform.registry ≠ .uninitialized ∧
      m.starts = base.starts + 1)

namespace Machine.Discovered

variable {base m m' : Machine κ ω}

theorem same (h : base.Discovered m) (hm' : m.SameDevices m') : base.Discovered m' := by
  unfold Discovered
  rw [hm'.registry, hm'.starts]
  exact h

theorem discovers (h : base.Discovered m) (hm' : m.Discovers m') : base.Discovered m' := by
  rcases h with ⟨hregistry, hstarts⟩ | ⟨-, hknown, -⟩
  · exact Or.inr ⟨hregistry ▸ hm'.unknown, hm'.known, hstarts ▸ hm'.starts⟩
  · exact absurd hm'.unknown hknown

end Machine.Discovered

section Rounds

variable [Reentry κ ω] {roster roster' : Roster} {base m m' : Machine κ ω}

/-- Looking for devices keeps both. -/
theorem Devices.devices_fits (h : roster.Fits m ∧ base.Discovered m) :
    devices.Leads m
      (fun found m' => m'.platform.registry = .ready found ∧ roster.Fits m' ∧ base.Discovered m')
      (fun e m' => m'.platform.registry = .failed e ∧ roster.Fits m' ∧ base.Discovered m')
      fun _ => False := by
  have hkept : ∀ m', m' = m ∨ m.Discovers m' → roster.Fits m' ∧ base.Discovered m' := by
    rintro m' (rfl | hm')
    · exact h
    · exact ⟨h.1.discovers hm', h.2.discovers hm'⟩
  exact (devices_leads h.1.hooks).mono (fun _ m' hm' => ⟨hm'.1, hkept m' hm'.2⟩)
    (fun _ m' hm' => ⟨hm'.1, hkept m' hm'.2⟩) fun _ hm' => hm'

theorem Devices.devices_stands_fits :
    devices.Stands (fun m => roster.Fits m ∧ base.Discovered m)
      fun m => roster.Fits m ∧ base.Discovered m := fun _ h =>
  (devices_fits h).mono (fun _ _ hm' => hm'.2) (fun _ _ hm' => hm'.2) fun _ hm' => hm'.elim

omit [Reentry κ ω] in
theorem Roster.Fits.abides_discovered {info : DeviceInfo} :
    Abides info fun m => roster.Fits m ∧ base.Discovered m where
  hooks _ h := h.1.hooks
  moves _ _ hmoves h := ⟨h.1.same hmoves.sameDevices, h.2.same hmoves.sameDevices⟩

theorem Roster.Fits.within (h : roster.Fits m ∧ base.Discovered m)
    (hw : Within Operation.letsGo (roster, m) (roster', m')) :
    roster'.Fits m' ∧ base.Discovered m' := by
  cases hw with
  | @device _ _ _ index d hrun =>
    have hget : (Devices.get index).Leads m
        (fun d m' => (∃ found, m'.platform.registry = .ready found ∧ found[index]? = some d) ∧
          roster.Fits m' ∧ base.Discovered m') (fun _ _ => True) fun _ => False := by
      unfold Devices.get
      rw [leads_bind]
      refine (Devices.devices_fits h).mono (fun found m₁ h₁ => ?_) (fun _ _ _ => trivial)
        fun _ h₁ => h₁
      split
      · rename_i hd
        exact ⟨⟨found, h₁.1, hd⟩, h₁.2⟩
      · trivial
    obtain ⟨⟨found, hfound, hd⟩, hfits, hdiscovered⟩ := hget.of_eq_ok hrun
    -- The roster finds a device again by the index that the device has itself.
    have hindex : d.index = index := hfits.registered.index_of_getElem? hfound hd
    refine ⟨{ hfits with current := List.forall_mem_cons.mpr ⟨⟨found, hfound, ?_⟩, hfits.current⟩ },
      hdiscovered⟩
    rw [hindex]
    exact hd
  | @errand _ _ c hc hgiven =>
    have hinfo : ∀ d, c.device? = some d → d.info = (c.device?.map Device.info).getD {} := by
      intro d hd
      rw [hd]
      rfl
    have hsame : ∀ {m m' : Machine κ ω}, m.SameDevices m' → roster.Fits m ∧ base.Discovered m →
        roster.Fits m' ∧ base.Discovered m' := fun hm' h => ⟨h.1.same hm', h.2.same hm'⟩
    exact (Errand.perform_abides Roster.Fits.abides_discovered Devices.devices_stands_fits hinfo
      (fun hshutdown => absurd hshutdown hc)
      (fun _ _ => hsame ⟨rfl, rfl, rfl, rfl, rfl, rfl, rfl, rfl⟩)
      (fun _ _ _ => hsame ⟨rfl, rfl, rfl, rfl, rfl, rfl, rfl, rfl⟩) m h).final
  | sabotage injections tokenErrors hspared =>
    refine ⟨⟨h.1.hooks, hspared, ?_, h.1.current, h.1.former⟩, h.2⟩
    have hregistered := h.1.registered
    unfold Machine.Registered at hregistered ⊢
    exact hregistered

theorem Roster.Fits.round (h : roster.Fits m)
    (hr : Relation.ReflTransGen (Within Operation.letsGo) (roster, m) (roster', m')) :
    m.Discovered m' := by
  suffices ∀ p, Relation.ReflTransGen (Within Operation.letsGo) (roster, m) p →
      p.1.Fits p.2 ∧ m.Discovered p.2 from (this _ hr).2
  intro p hp
  induction hp with
  | refl => exact ⟨h, Or.inl ⟨rfl, rfl⟩⟩
  | tail _ hw ih => exact Roster.Fits.within ih hw

theorem Roster.Fits.turns {serial : Nat} {spec : Spec} {config : Config} {host : ω}
    (hr : Relation.ReflTransGen (Turns Operation.letsGo)
      ({}, Machine.unused serial spec config host) (roster, m)) : roster.Fits m := by
  suffices ∀ p : Roster × Machine κ ω, Relation.ReflTransGen (Turns Operation.letsGo)
      ({}, Machine.unused serial spec config host) p → p.1.Fits p.2 from this _ hr
  intro p hp
  induction hp with
  | refl => exact ⟨rfl, nofun, ⟨rfl, rfl⟩, nofun, nofun⟩
  | tail _ hturn ih =>
    cases hturn with
    | within hw => exact (Roster.Fits.within ⟨ih, Or.inl ⟨rfl, rfl⟩⟩ hw).1
    | shutdown =>
      apply ih.letsGo
      apply Fallible.Leads.final
      exact (Devices.shutdown_leads ih.hooks).mono (fun _ _ h => h) (fun _ _ h => h)
        fun _ h => h.elim

/-! ## Errands that need devices -/

/-- The errand needs devices to be known. -/
def Errand.needsDevices : Errand → Bool
  | .countDevices => true
  | .device _ => true
  | .compile _ => true
  | c => c.device?.isSome

/-- Such an errand begins by looking for devices. -/
theorem Errand.perform_eq_devices {c : Errand} (hc : c.needsDevices = true) :
    ∃ k : List Device → Task κ ω Proceeds, c.perform = Devices.devices >>= k := by
  cases c with
  | countDevices => exact ⟨_, bind_assoc ..⟩
  | device index => exact ⟨_, bind_assoc ..⟩
  | compile source => exact ⟨_, by simp only [perform, Images.compile, Devices.get, bind_assoc]; rfl⟩
  | compileFor d source =>
    exact ⟨_, by simp only [perform, Images.compileFor, Devices.check, bind_assoc]; rfl⟩
  | allocateLocal d shape format flags =>
    exact ⟨_, by
      simp only [perform, Memory.allocateLocal, Memory.accept, Devices.check, bind_assoc]; rfl⟩
  | allocateRemote d shape format flags =>
    exact ⟨_, by
      simp only [perform, Memory.allocateRemote, Memory.accept, Devices.check, bind_assoc]; rfl⟩
  | launch i q =>
    exact ⟨_, by simp only [perform, Launch.launch, Devices.check, bind_assoc]; rfl⟩
  | run i q =>
    exact ⟨_, by simp only [perform, Launch.run, Launch.launch, Devices.check, bind_assoc]; rfl⟩
  | shutdown | freeImage _ | freeLocal _ | freeRemote _ | map _ | unmap _ | read _ | write _ _ _
  | poll _ | join _ | joinWithin _ _ => cases hc

/-- An errand that names a device begins by checking it, and rejects no device later. -/
theorem Errand.perform_eq_check {c : Errand} {d : Device} (hc : c.device? = some d) :
    ∃ k : Unit → Task κ ω Proceeds, c.perform = Devices.check d >>= k ∧ (k ()).Accepts := by
  cases c with
  | compileFor d' source =>
    cases hc
    refine ⟨_, bind_assoc .., ?_⟩
    exact .bind (.bind (.wrapped fun _ => rfl) fun _ => .bind .modified fun _ => .pure) fun _ => .pure
  | allocateLocal d' shape format flags =>
    cases hc
    refine ⟨_, by simp only [perform, Memory.allocateLocal, Memory.accept, bind_assoc]; rfl, ?_⟩
    exact .bind Shape.validate_accepts fun _ => .bind (.wrapped fun _ => rfl) fun _ =>
      .bind .modified fun _ => .pure
  | allocateRemote d' shape format flags =>
    cases hc
    -- A resource that cannot be mapped is freed again, with an error that is about no device.
    have hmapping : ∀ id, (Memory.firstMapping id : Task κ ω HostView).Accepts := by
      intro id
      refine .bind (.perform Act.upholds_true) fun answer => ?_
      cases answer with
      | ok view => exact .pure
      | error e =>
        refine .bind (.perform Act.upholds_true) fun answer => ?_
        cases answer with
        | ok => exact .throw fun _ _ => rfl
        | error f => exact .bind .modified fun _ => .throw fun _ _ => rfl
    refine ⟨_, by simp only [perform, Memory.allocateRemote, Memory.accept, bind_assoc]; rfl, ?_⟩
    exact .bind Shape.validate_accepts fun _ => .bind (.wrapped fun _ => rfl) fun id =>
      .bind (hmapping id) fun _ => .bind .modified fun _ => .bind .get fun _ =>
        .bind .modified fun _ => .pure
  | launch i q =>
    cases hc
    refine ⟨fun _ => Launch.checked i q >>= fun e => pure (.execution e), ?_,
      .bind Launch.checked_accepts fun _ => .pure⟩
    simp only [perform, Launch.launch_eq_check, bind_assoc]
  | run i q =>
    cases hc
    refine ⟨fun _ => Launch.checked i q >>= fun e => e.join >>= fun _ => pure .nothing, ?_,
      .bind Launch.checked_accepts fun _ => .bind Execution.join_accepts fun _ => .pure⟩
    simp only [perform, Launch.run, Launch.launch_eq_check, bind_assoc]
  | countDevices | device _ | compile _ | shutdown | freeImage _ | freeLocal _ | freeRemote _ | map _
  | unmap _ | read _ | write _ _ _ | poll _ | join _ | joinWithin _ _ => cases hc

namespace Roster.Fits

/-- A device of this round is accepted, and nothing happens. -/
theorem check_current (h : roster.Fits m) {d : Device} (hd : d ∈ roster.current) :
    (Devices.check d).run m = (.ok (.ok ()), m) := by
  obtain ⟨found, hfound, hget⟩ := h.current d hd
  apply Fallible.run_of_leads_ok
  unfold Devices.check
  rw [leads_bind]
  refine (Devices.devices_of_ready hfound).mono (fun found' m' hm' => ?_) (fun _ _ hm' => hm')
    fun _ hm' => hm'
  obtain ⟨rfl, rfl⟩ := hm'
  have hcurrent : Devices.isCurrent found' d = true := by
    simp [Devices.isCurrent, hget]
  rw [if_pos hcurrent]
  exact ⟨rfl, rfl⟩

/-- A device of an earlier round is rejected, with the failure of the discovery if that fails. -/
theorem check_former (h : roster.Fits m) {d : Device} (hd : d ∈ roster.former) :
    (Devices.check d).Leads m (fun _ _ => False)
      (fun e m' => m.Looked m' ∧ (m'.platform.registry = .failed e ∨
        ∃ found, m'.platform.registry = .ready found ∧ e = .invalidDevice d.index found.length))
      fun _ => False := by
  have hrejected : (Devices.check d).Leads m (fun _ _ => False)
      (fun e m' => m'.platform.registry = .failed e ∨
        ∃ found, m'.platform.registry = .ready found ∧ e = .invalidDevice d.index found.length)
      fun _ => False := by
    unfold Devices.check
    rw [leads_bind]
    refine (Devices.devices_fits ⟨h, Or.inl ⟨rfl, rfl⟩⟩).mono (fun found m₁ h₁ => ?_)
      (fun _ _ h₁ => Or.inl h₁.1) fun _ h₁ => h₁
    obtain ⟨hfound, hfits, -⟩ := h₁
    -- All devices that are known have the number of this discovery.
    have hstale : Devices.isCurrent found d = false := by
      unfold Devices.isCurrent
      cases hget : found[d.index]? with
      | none => rfl
      | some c =>
        have hc := (hfits.registered.of_ready hfound).2.2.2 c (List.mem_of_getElem? hget)
        have hlt := (hfits.former d hd).2 found hfound
        have hne : c.generation ≠ d.generation := by omega
        simp [hne]
    rw [hstale]
    exact Or.inr ⟨found, hfound, rfl⟩
  have hlooked := Devices.check_stands (d := d) (Machine.looked_blind h.hooks).aside m .refl
  exact (hlooked.and hrejected).mono (fun _ _ hm' => hm'.2) (fun _ _ hm' => hm') fun _ hm' => hm'.2

end Roster.Fits

/-- No hook waits, and the devices are known. -/
def Machine.Equipped (m : Machine κ ω) : Prop :=
  m.platform.hooks = [] ∧ ∃ found, m.platform.registry = .ready found

/-- Nothing but a shutdown makes a runtime forget its devices. -/
theorem Errand.perform_equipped {c : Errand} (hc : c ≠ .shutdown) :
    (c.perform : Task κ ω Proceeds).Stands Machine.Equipped Machine.Equipped := by
  have hsame : ∀ {m m' : Machine κ ω}, m.SameDevices m' → m.Equipped → m'.Equipped :=
    fun hm' hm => ⟨hm'.hooks.trans hm.1, hm'.registry ▸ hm.2⟩
  have habides : Abides ((c.device?.map Device.info).getD {})
      (Machine.Equipped : Machine κ ω → Prop) :=
    ⟨fun _ hm => hm.1, fun _ _ hmoves hm => hsame hmoves.sameDevices hm⟩
  have hdevices : (Devices.devices : Task κ ω (List Device)).Stands Machine.Equipped
      Machine.Equipped := by
    intro m hm
    obtain ⟨hooks, found, hfound⟩ := hm
    refine (Devices.devices_of_ready hfound).mono (fun _ m' hm' => ?_) (fun _ _ hm' => hm'.elim)
      fun _ hm' => hm'.elim
    obtain ⟨-, rfl⟩ := hm'
    exact ⟨hooks, found, hfound⟩
  refine perform_abides habides hdevices (fun d hd => ?_) (fun hshutdown => absurd hshutdown hc)
    (fun _ _ => hsame ⟨rfl, rfl, rfl, rfl, rfl, rfl, rfl, rfl⟩)
    fun _ _ _ => hsame ⟨rfl, rfl, rfl, rfl, rfl, rfl, rfl, rfl⟩
  rw [hd]
  rfl

/-- An errand that needs devices ends with devices known, or it answers the failure that is
    known. -/
theorem Errand.perform_leads_known {c : Errand} (hc : c.needsDevices = true)
    (hooks : m.platform.hooks = []) :
    c.perform.Leads m (fun _ => Machine.Equipped)
      (fun e m' => m'.platform.registry = .failed e ∨ m'.Equipped) Machine.Equipped := by
  have hshutdown : c ≠ .shutdown := by
    rintro rfl
    cases hc
  obtain ⟨k, hk⟩ : ∃ k : List Device → Task κ ω Proceeds, c.perform = Devices.devices >>= k :=
    perform_eq_devices hc
  rw [hk, leads_bind]
  refine (Devices.devices_leads hooks).mono (fun found m₁ h₁ => ?_) (fun _ _ h₁ => Or.inl h₁.1)
    fun _ h₁ => h₁.elim
  -- From here on it goes as it would have gone if the devices had been known before.
  have hhooks : m₁.platform.hooks = [] := by
    rcases h₁.2 with rfl | hdiscovers
    · exact hooks
    · exact hdiscovers.hooks
  have hrest := perform_equipped hshutdown m₁ ⟨hhooks, found, h₁.1⟩
  rw [hk, leads_bind] at hrest
  have hfound := Fallible.run_of_leads_ok (Devices.devices_of_ready h₁.1)
  exact (hrest.of_eq_ok hfound).mono (fun _ _ h => h) (fun _ _ h => Or.inr h) fun _ h => h

/-- The failure of a discovery is the answer. -/
theorem Errand.answers_failure {c : Errand} (hc : c.needsDevices = true)
    (hooks : m.platform.hooks = []) {e : Error}
    (he : (c.perform.run m).2.platform.registry = .failed e) :
    (c.perform.run m).1 = .ok (.error e) := by
  have hleads := perform_leads_known hc hooks
  have hnot : ∀ m' : Machine κ ω, m'.platform.registry = .failed e → ¬ m'.Equipped := by
    intro m' hm' hequipped
    obtain ⟨found, hfound⟩ := hequipped.2
    cases hm'.symm.trans hfound
  unfold Fallible.Leads at hleads
  revert hleads he
  rcases c.perform.run m with ⟨_ | (e' | a), m'⟩ <;> intro he hleads
  · exact absurd hleads (hnot m' he)
  · rcases hleads with hfailed | hequipped
    · cases he.symm.trans hfailed
      rfl
    · exact absurd hequipped (hnot m' he)
  · exact absurd hleads (hnot m' he)

/-- Until the next shutdown, it is the answer without a driver call. -/
theorem Errand.repeats_failure {c : Errand} (hc : c.needsDevices = true) {e : Error}
    (he : m.platform.registry = .failed e) : c.perform.run m = (.ok (.error e), m) := by
  obtain ⟨k, hk⟩ : ∃ k : List Device → Task κ ω Proceeds, c.perform = Devices.devices >>= k :=
    perform_eq_devices hc
  have hleads : c.perform.Leads m (fun _ _ => False) (fun e' m' => e' = e ∧ m' = m)
      fun _ => False := by
    rw [hk]
    exact .bind (Devices.devices_of_failed he) fun _ _ h => h.elim
  obtain ⟨e', m', hrun, rfl, rfl⟩ := Fallible.run_of_leads_error hleads
  exact hrun

/-- The answer of an errand that names a device of this round is not that the device is invalid. -/
theorem Roster.Fits.accepted (h : roster.Fits m) {c : Errand} {d : Device}
    (hc : c.device? = some d) (hd : d ∈ roster.current) (index count : Nat) :
    (c.perform.run m).1 ≠ .ok (.error (.invalidDevice index count)) := by
  obtain ⟨k, hk, haccepts⟩ : ∃ k : Unit → Task κ ω Proceeds,
      c.perform = Devices.check d >>= k ∧ (k ()).Accepts := Errand.perform_eq_check hc
  have hleads : c.perform.Leads m (fun _ _ => True) (fun e _ => e.rejectsRequest = false)
      fun _ => True := by
    have hself : (Devices.check d).Leads m (fun _ m' => m' = m) (fun _ _ => False)
        fun _ => False := by
      unfold Fallible.Leads
      rw [h.check_current hd]
    rw [hk, leads_bind]
    exact hself.mono (fun _ m' _ => haccepts m' trivial) (fun _ _ hm' => hm'.elim)
      fun _ hm' => hm'.elim
  intro hrun
  have hrejects := hleads.of_eq_error (Prod.ext hrun rfl)
  cases hrejects

theorem Roster.Fits.rejected (h : roster.Fits m) {c : Errand} {d : Device}
    (hc : c.device? = some d) (hd : d ∈ roster.former) :
    ∃ e m', c.perform.run m = (.ok (.error e), m') ∧ m.Looked m' ∧
      (m'.platform.registry = .failed e ∨
        ∃ found, m'.platform.registry = .ready found ∧ e = .invalidDevice d.index found.length) := by
  obtain ⟨k, hk, -⟩ : ∃ k : Unit → Task κ ω Proceeds,
      c.perform = Devices.check d >>= k ∧ (k ()).Accepts := Errand.perform_eq_check hc
  apply Fallible.run_of_leads_error
  rw [hk, leads_bind]
  exact (h.check_former hd).mono (fun _ _ hm' => hm'.elim) (fun _ _ hm' => hm') fun _ hm' => hm'

/-- After any number of rounds, whatever happened in them: what is known of the devices is what
    the driver has. Until the next shutdown the driver is started at most once more, and not if
    devices were looked for already. A failed discovery is answered as it is, and again without a
    driver call. An errand that names a device of this round is not turned down for it; one that
    names a device of an earlier round is, and then devices are all that the driver is asked for. -/
theorem devices_are_good_for_one_round {serial : Nat} {spec : Spec} {config : Config} {host : ω}
    (h : Relation.ReflTransGen (Turns Operation.letsGo)
      ({}, Machine.unused serial spec config host) (roster, m)) :
    m.Registered ∧
      (∀ roster' m', Relation.ReflTransGen (Within Operation.letsGo) (roster, m) (roster', m') →
        m.Discovered m') ∧
      (∀ c : Errand, c.needsDevices = true → ∀ e,
        (m.platform.registry = .failed e → c.perform.run m = (.ok (.error e), m)) ∧
          ((c.perform.run m).2.platform.registry = .failed e →
            (c.perform.run m).1 = .ok (.error e))) ∧
      ∀ (c : Errand) (d : Device), c.device? = some d →
        (d ∈ roster.current → (Devices.check d).run m = (.ok (.ok ()), m) ∧
          ∀ index count, (c.perform.run m).1 ≠ .ok (.error (.invalidDevice index count))) ∧
        (d ∈ roster.former → ∃ e m', c.perform.run m = (.ok (.error e), m') ∧ m.Looked m' ∧
          (m'.platform.registry = .failed e ∨ ∃ found, m'.platform.registry = .ready found ∧
            e = .invalidDevice d.index found.length)) := by
  have hfits := Roster.Fits.turns h
  refine ⟨hfits.registered, fun _ _ hround => hfits.round hround, fun c hc e => ⟨?_, ?_⟩,
    fun c d hc => ⟨fun hd => ⟨hfits.check_current hd, hfits.accepted hc hd⟩, hfits.rejected hc⟩⟩
  · exact Errand.repeats_failure hc
  · exact Errand.answers_failure hc hfits.hooks

end Rounds

/-! ## A scene -/

namespace Scenario

/-- A runtime for two devices, after the first was asked for. -/
def firstRound : Machine Unit Unit :=
  ((Devices.get 0).run (.unused 0 { deviceCount := 2 } {} ())).2

def firstDevice : Device := ⟨0, ⟨1⟩, {}, 1⟩

/-- The next discovery opens one device and fails to open the other one. -/
def secondRound : Machine Unit Unit :=
  (Errand.countDevices.perform.run ((Devices.shutdown.run firstRound).2.onDriver fun s =>
    { s with injections := [⟨.openDevice, 4, "injected failure"⟩], tokenErrors := [] })).2

/-- After another shutdown the second device is asked for. -/
def thirdRound : Machine Unit Unit :=
  ((Devices.get 1).run ((Devices.shutdown.run secondRound).2.onDriver fun s =>
    { s with injections := [], tokenErrors := [] })).2

def thirdDevice : Device := ⟨1, ⟨5⟩, {}, 3⟩

/-- The devices are listed, and the old one is of an earlier round. -/
theorem thirdRound_turns :
    Relation.ReflTransGen (Turns Operation.letsGo)
      ({}, Machine.unused 0 { deviceCount := 2 } {} ())
      (⟨[thirdDevice], [firstDevice]⟩, thirdRound) := by
  have hfirst : (Devices.get 0).run (Machine.unused 0 { deviceCount := 2 } {} ()) =
      (.ok (.ok firstDevice), firstRound) := Prod.ext (by decide +kernel) rfl
  have hthird : (Devices.get 1).run ((Devices.shutdown.run secondRound).2.onDriver fun s =>
      { s with injections := [], tokenErrors := [] }) = (.ok (.ok thirdDevice), thirdRound) :=
    Prod.ext (by decide +kernel) rfl
  have hround₁ : Relation.ReflTransGen (Turns Operation.letsGo)
      ({}, Machine.unused 0 { deviceCount := 2 } {} ()) (⟨[firstDevice], []⟩, firstRound) :=
    .single (.within (.device hfirst))
  have hround₂ : Relation.ReflTransGen (Turns Operation.letsGo)
      ({}, Machine.unused 0 { deviceCount := 2 } {} ()) (⟨[], [firstDevice]⟩, secondRound) :=
    .tail (.tail (.tail hround₁ .shutdown) (.within (.sabotage _ _ (by decide))))
      (.within (.errand nofun nofun))
  exact .tail (.tail (.tail hround₂ .shutdown) (.within (.sabotage _ _ (by decide))))
    (.within (.device hthird))

theorem thirdRound_rejects_firstDevice :
    Relation.ReflTransGen (Turns Operation.letsGo)
        ({}, Machine.unused 0 { deviceCount := 2 } {} ())
        (⟨[thirdDevice], [firstDevice]⟩, thirdRound) ∧
      secondRound.platform.registry =
        .failed (.initialization ⟨"calDeviceOpen", "injected failure"⟩) ∧
      thirdRound.Registered ∧
      (Devices.check thirdDevice).run thirdRound = (.ok (.ok ()), thirdRound) ∧
      ∃ e m', (Errand.compileFor firstDevice "o0").perform.run thirdRound = (.ok (.error e), m') ∧
        thirdRound.Looked m' := by
  obtain ⟨hregistered, -, -, hdevices⟩ := devices_are_good_for_one_round thirdRound_turns
  have haccepted := (hdevices (.compileFor thirdDevice "o0") thirdDevice rfl).1 (by decide)
  obtain ⟨e, m', hrun, hlooked, -⟩ :=
    (hdevices (.compileFor firstDevice "o0") firstDevice rfl).2 (by decide)
  exact ⟨thirdRound_turns, by decide +kernel, hregistered, haccepted.1, e, m', hrun, hlooked⟩

end Scenario

end StreamCompute
