/-
  StreamCompute.Proofs.AllocationSizes

  How large the resources are that the driver is asked for. A shape that a
  caller asks for is held against the limits of the device, so what the driver
  is asked for has a shape that the device allows. The rows of a remote
  resource are padded by the driver, though, and what holds a copy of it is
  allocated with the padded rows, which nothing holds against the limits. It
  can be too wide by less than the alignment, unless the limits are aligned.

  The invariant ties every record of a remote resource to a shape that the
  device allows and to the pitch that the driver gives to such a shape.
-/
import StreamCompute.Proofs.StaleDevices

namespace StreamCompute

/-- The same rows, padded as the driver pads those of a remote resource. -/
def Shape.padded (spec : Spec) (shape : Shape) : Shape :=
  ⟨Simulator.newPitch spec .onHost (.ofShape shape), shape.height⟩

/-- A resource that the driver may be asked for: one of a shape that the device allows, or room on
    the device for the padded rows of one. -/
def Spec.Allows (spec : Spec) (place : Placement) (layout : Layout) : Prop :=
  ∃ shape : Shape, shape.refusal? spec.info = none ∧
    (layout = .ofShape shape ∨ place = .onDevice ∧ layout = .ofShape (shape.padded spec))

theorem Spec.alignment_pos (spec : Spec) : 0 < spec.alignment :=
  Nat.lt_of_lt_of_le Nat.one_pos (Nat.le_max_right ..)

namespace Shape

variable {spec : Spec} {shape : Shape}

theorem refusal?_eq_none_iff {info : DeviceInfo} :
    shape.refusal? info = none ↔ 0 < shape.width ∧ 0 < shape.height ∧
      if shape.height = 1 then shape.width ≤ info.maxWidth1D
      else shape.width ≤ info.maxWidth2D ∧ shape.height ≤ info.maxHeight2D := by
  unfold refusal? isRow
  grind

theorem padded_width :
    (shape.padded spec).width = (shape.width + spec.alignment - 1) / spec.alignment * spec.alignment := by
  have hwidth : (Layout.ofShape shape).width = shape.width :=
    congrArg Shape.width (Layout.shape_ofShape shape)
  show (_ + spec.alignment - 1) / spec.alignment * spec.alignment = _
  rw [hwidth]

theorem width_le_padded : shape.width ≤ (shape.padded spec).width := by
  have hpos := spec.alignment_pos
  rw [padded_width]
  have hdiv := Nat.div_add_mod (shape.width + spec.alignment - 1) spec.alignment
  have hmod := Nat.mod_lt (shape.width + spec.alignment - 1) hpos
  rw [Nat.mul_comm] at hdiv
  omega

theorem padded_lt : (shape.padded spec).width < shape.width + spec.alignment := by
  have hpos := spec.alignment_pos
  rw [padded_width]
  have hle := Nat.div_mul_le_self (shape.width + spec.alignment - 1) spec.alignment
  omega

/-- A limit that is aligned holds for the padded rows as well. -/
theorem padded_le {limit : Nat} (hlimit : shape.width ≤ limit) (haligned : spec.alignment ∣ limit) :
    (shape.padded spec).width ≤ limit := by
  obtain ⟨rows, rfl⟩ := haligned
  have hpos := spec.alignment_pos
  rw [padded_width, Nat.mul_comm spec.alignment rows]
  apply Nat.mul_le_mul_right
  rw [Nat.div_le_iff_le_mul_add_pred hpos]
  omega

theorem padded_allowed (h : shape.refusal? spec.info = none)
    (h1D : spec.alignment ∣ spec.info.maxWidth1D) (h2D : spec.alignment ∣ spec.info.maxWidth2D) :
    (shape.padded spec).refusal? spec.info = none := by
  rw [refusal?_eq_none_iff] at h ⊢
  obtain ⟨hwidth, hheight, hlimits⟩ := h
  refine ⟨Nat.lt_of_lt_of_le hwidth width_le_padded, hheight, ?_⟩
  show if shape.height = 1 then _ else _ ∧ shape.height ≤ _
  split
  · rename_i hrow
    rw [if_pos hrow] at hlimits
    exact padded_le hlimits h1D
  · rename_i hrow
    rw [if_neg hrow] at hlimits
    exact ⟨padded_le hlimits.1 h2D, hlimits.2⟩

end Shape

variable {κ ω : Type}

/-! ## What the records say -/

/-- A remote resource on record has a shape that the device allows, and is known by the pitch that
    the driver gives to such a shape. -/
structure Remote.Recorded (spec : Spec) (s : Simulator) (r : Remote) (status : RemoteStatus) :
    Prop where
  shape : r.shape.refusal? spec.info = none
  pitch : status.pitch = (r.shape.padded spec).width
  number : r.id.number < s.nextNumber
  resource : ∀ res, s.resources.get? r.id = some res →
    res.place = .onHost ∧ res.layout = .ofShape r.shape

/-- The driver was only asked for resources that it may be asked for, and the records are right. -/
structure Machine.Sized (spec : Spec) (m : Machine κ ω) : Prop where
  hooks : m.platform.hooks = []
  fixed : m.platform.driver.spec = spec
  requests : ∀ call ∈ m.platform.driver.calls, ∀ place layout,
    call.request? = some (place, layout) → spec.Allows place layout
  resources : ∀ id res, m.platform.driver.resources.get? id = some res →
    id.number < m.platform.driver.nextNumber ∧
      res.pitch = Simulator.newPitch spec res.place res.layout
  records : ∀ r, (m.status r).freed = false → r.Recorded spec m.platform.driver (m.status r)

/-- The host writes nothing but the contents of a resource. -/
theorem Simulator.changed_served {s : Simulator} {id : Ident .resource} {f : Contents → Contents} :
    s.Served none (Memory.changed id f s) := by
  unfold Memory.changed
  split
  · rename_i res hres
    have hsame : res.SameShape { res with bytes := f res.bytes } := ⟨rfl, rfl, rfl, rfl⟩
    exact ⟨rfl, rfl, rfl, rfl, Nat.le_refl _, Or.inl rfl, fun id' res' h =>
      Or.inl (Served.set hres hsame id' res' h)⟩
  · exact .refl

/-- A call about devices asks for no resource. -/
theorem Call.request?_of_ofDevices {call : Call} (h : call.operation.ofDevices = true) :
    call.request? = none := by
  cases call with
  | allocate place layout format flags =>
    cases (Operation.ofDevices_allocate place layout).symm.trans h
  | _ => rfl

namespace Machine.Sized

variable {spec : Spec} {m m' : Machine κ ω}

/-- What may be asked for is a resource that the driver may be asked for. -/
theorem allows (h : m.Sized spec) {place : Placement} {layout : Layout}
    (hasks : m.Asks spec.info (some (place, layout))) : spec.Allows place layout := by
  rcases hasks with ⟨shape, hlayout, hshape⟩ | ⟨hplace, r, hr, hlayout⟩
  · exact ⟨shape, hshape, Or.inl hlayout⟩
  · have hrecorded := h.records r hr
    refine ⟨r.shape, hrecorded.shape, Or.inr ⟨hplace, ?_⟩⟩
    rw [hlayout, hrecorded.pitch]
    rfl

/-- The driver has changed as a call can change it, and the records have not. -/
theorem served (h : m.Sized spec) {request? : Option (Placement × Layout)}
    (hasks : m.Asks spec.info request?)
    (hs : m.platform.driver.Served request? m'.platform.driver)
    (hhooks : m'.platform.hooks = m.platform.hooks) (hremotes : m'.remotes = m.remotes) :
    m'.Sized spec where
  hooks := hhooks.trans h.hooks
  fixed := hs.spec.trans h.fixed
  requests call hcall place layout hrequest := by
    rcases hs.calls with hcalls | ⟨new, hnew, hcalls⟩
    · exact h.requests call (hcalls ▸ hcall) place layout hrequest
    · rw [hcalls] at hcall
      rcases List.mem_cons.mp hcall with rfl | hcall
      · rw [← hnew, hrequest] at hasks
        exact h.allows hasks
      · exact h.requests call hcall place layout hrequest
  resources id res' hres := by
    rcases hs.resources id res' hres with ⟨res, hres, hsame⟩ | ⟨hid, hlt, -, hpitch⟩
    · obtain ⟨hnumber, hpitch⟩ := h.resources id res hres
      refine ⟨Nat.lt_of_lt_of_le hnumber hs.numbers, ?_⟩
      rw [hsame.pitch, hsame.place, hsame.layout]
      exact hpitch
    · exact ⟨hid ▸ hlt, h.fixed ▸ hpitch⟩
  records r hr := by
    have hstatus : m'.status r = m.status r := by
      unfold Machine.status
      rw [hremotes]
    rw [hstatus] at hr ⊢
    have hrecorded := h.records r hr
    refine ⟨hrecorded.shape, hrecorded.pitch, Nat.lt_of_lt_of_le hrecorded.number hs.numbers, ?_⟩
    intro res' hres
    rcases hs.resources r.id res' hres with ⟨res, hres, hsame⟩ | ⟨hid, -⟩
    · rw [hsame.place, hsame.layout]
      exact hrecorded.resource res hres
    · -- A new resource has a new number.
      exact absurd hid (Nat.ne_of_lt hrecorded.number)

theorem onStatus (h : m.Sized spec) {r : Remote} {f : RemoteStatus → RemoteStatus}
    (hf : (f (m.status r)).freed = false → r.Recorded spec m.platform.driver (f (m.status r))) :
    (m.onStatus r f).Sized spec where
  hooks := h.hooks
  fixed := h.fixed
  requests := h.requests
  resources := h.resources
  records r' hr' := by
    rw [status_onStatus] at hr' ⊢
    split at hr'
    · rename_i heq
      subst heq
      rw [if_pos rfl]
      exact hf hr'
    · rename_i hne
      rw [if_neg hne]
      exact h.records r' hr'

theorem moves (h : m.Sized spec) (hmoves : m.Moves spec.info m') : m'.Sized spec := by
  cases hmoves with
  | call _ hasks hs => exact h.served hasks { hs with } rfl rfl
  | marked hpitch hfreed =>
    refine h.onStatus fun hr => ?_
    have hrecorded := h.records _ ((hfreed _).symm.trans hr)
    exact { hrecorded with pitch := (hpitch _).trans hrecorded.pitch }
  | @mapped r res link hres =>
    refine h.onStatus fun hr => ?_
    have hrecorded := h.records r hr
    obtain ⟨hplace, hlayout⟩ := hrecorded.resource res hres
    have hpitch := (h.resources r.id res hres).2
    rw [hplace, hlayout] at hpitch
    exact { hrecorded with pitch := hpitch }
  | @recorded r res status hres hplace hlayout hpitch _ hshape =>
    refine h.onStatus fun _ => ?_
    obtain ⟨hnumber, hres'⟩ := h.resources r.id res hres
    rw [hplace, hlayout] at hres'
    refine ⟨hshape, hpitch.trans hres', hnumber, fun res' hget => ?_⟩
    cases hres.symm.trans hget
    exact ⟨hplace, hlayout⟩
  | written => exact @served _ _ _ _ _ h none trivial Simulator.changed_served rfl rfl
  | arena => exact ⟨h.hooks, h.fixed, h.requests, h.resources, h.records⟩
  | ended => exact ⟨h.hooks, h.fixed, h.requests, h.resources, h.records⟩
  | beside => exact ⟨h.hooks, h.fixed, h.requests, h.resources, h.records⟩

/-- Looking for devices does not matter, nor letting go of them. -/
theorem blind : Devices.Blind (Sized spec : Machine κ ω → Prop) where
  hooks _ h := h.hooks
  handled m op verdict s h _ _ hs hcall := by
    obtain ⟨call, hdevices, hcalls⟩ := hcall
    obtain ⟨_, _, _, _, nextNumber, hle, rfl⟩ := hs
    refine ⟨h.hooks, h.fixed, fun call' hcall' place layout hrequest => ?_, fun id res hres => ?_,
      fun r hr => ?_⟩
    · have hmem : call' ∈ call :: m.platform.driver.calls := hcalls ▸ hcall'
      rcases List.mem_cons.mp hmem with rfl | hmem
      · cases (Call.request?_of_ofDevices hdevices).symm.trans hrequest
      · exact h.requests call' hmem place layout hrequest
    · obtain ⟨hnumber, hpitch⟩ := h.resources id res hres
      exact ⟨Nat.lt_of_lt_of_le hnumber hle, hpitch⟩
    · have hrecorded := h.records r hr
      exact { hrecorded with number := Nat.lt_of_lt_of_le hrecorded.number hle }
  registry _ _ _ h := { h with }
  journal _ _ h := { h with }

end Machine.Sized

/-! ## Any number of rounds -/

/-- All devices are as the driver describes them, whether they are known or were given out. -/
structure Roster.Described (spec : Spec) (roster : Roster) (m : Machine κ ω) : Prop where
  sized : m.Sized spec
  known : ∀ found, m.platform.registry = .ready found → ∀ d ∈ found, d.info = spec.info
  given : ∀ d, d ∈ roster.current ∨ d ∈ roster.former → d.info = spec.info

namespace Roster.Described

variable {spec : Spec} {roster roster' : Roster} {m m' : Machine κ ω}

theorem abides : Abides spec.info (roster.Described spec : Machine κ ω → Prop) where
  hooks _ h := h.sized.hooks
  moves _ _ hmoves h :=
    ⟨h.sized.moves hmoves, hmoves.sameDevices.registry ▸ h.known, h.given⟩

variable [Reentry κ ω]

theorem devices (h : roster.Described spec m) :
    Devices.devices.Leads m
      (fun found m' => m'.platform.registry = .ready found ∧ roster.Described spec m')
      (fun _ => roster.Described spec) fun _ => False := by
  have hsized := Devices.devices_stands Machine.Sized.blind.aside m h.sized
  have hkept : ∀ m' : Machine κ ω, m'.Sized spec → m' = m ∨ m.Discovers m' →
      roster.Described spec m' := by
    intro m' hm' hor
    rcases hor with rfl | hdiscovers
    · exact h
    · exact ⟨hm', h.sized.fixed ▸ hdiscovers.infos, h.given⟩
  exact (hsized.and (Devices.devices_leads h.sized.hooks)).mono
    (fun _ m' hm' => ⟨hm'.2.1, hkept m' hm'.1 hm'.2.2⟩) (fun _ m' hm' => hkept m' hm'.1 hm'.2.2)
    fun _ hm' => hm'.2

theorem shutdown (h : roster.Described spec m) :
    Roster.Described spec { former := roster.current ++ roster.former }
      (Devices.shutdown.run m).2 := by
  have hsized := Devices.shutdown_stands Machine.Sized.blind.aside m h.sized
  have hletsGo := Devices.shutdown_leads h.sized.hooks
  have hfinal : ((Devices.shutdown.run m).2.Sized spec ∧ m.LetsGo (Devices.shutdown.run m).2) := by
    apply Fallible.Leads.final (I := fun m' => m'.Sized spec ∧ m.LetsGo m')
    exact (hsized.and hletsGo).mono (fun _ _ h => h) (fun _ _ h => h) fun _ h => h.2.elim
  refine ⟨hfinal.1, fun found hfound => ?_, fun d hd => ?_⟩
  · cases hfinal.2.registry.symm.trans hfound
  · rcases hd with hd | hd
    · cases hd
    · exact h.given d (List.mem_append.mp hd)

theorem within (h : roster.Described spec m)
    (hw : Within (fun _ => false) (roster, m) (roster', m')) : roster'.Described spec m' := by
  cases hw with
  | @device _ _ _ index d hrun =>
    have hget : (Devices.get index).Leads m
        (fun d m' => d.info = spec.info ∧ roster.Described spec m') (fun _ _ => True)
        fun _ => False := by
      unfold Devices.get
      rw [Fallible.leads_bind]
      refine h.devices.mono (fun found m₁ h₁ => ?_) (fun _ _ _ => trivial) fun _ h₁ => h₁
      split
      · rename_i hd
        exact ⟨h₁.2.known found h₁.1 _ (List.mem_of_getElem? hd), h₁.2⟩
      · trivial
    obtain ⟨hinfo, hdescribed⟩ := hget.of_eq_ok hrun
    refine { hdescribed with given := fun d' hd' => ?_ }
    rcases hd' with hd' | hd'
    · rcases List.mem_cons.mp hd' with rfl | hd'
      · exact hinfo
      · exact h.given d' (Or.inl hd')
    · exact h.given d' (Or.inr hd')
  | @errand _ _ c hc hgiven =>
    have hdevices : (Devices.devices : Task κ ω (List Device)).Stands (roster.Described spec)
        (roster.Described spec) := fun _ h₁ =>
      h₁.devices.mono (fun _ _ h₂ => h₂.2) (fun _ _ h₂ => h₂) fun _ h₂ => h₂.elim
    -- A freed resource allocates nothing any more, so its record does not matter.
    have hreleased : ∀ (r : Remote) (m : Machine κ ω), roster.Described spec m →
        roster.Described spec (m.onStatus r RemoteStatus.released) := fun r m h =>
      ⟨h.sized.onStatus nofun, h.known, h.given⟩
    exact (Errand.perform_abides abides hdevices (fun d hd => h.given d (hgiven d hd))
      (fun hshutdown => absurd hshutdown hc) hreleased
      (fun _ _ _ h => ⟨{ h.sized with }, h.known, h.given⟩) m h).final
  | sabotage injections tokenErrors _ =>
    have hsized := h.sized
    exact ⟨⟨hsized.hooks, hsized.fixed, hsized.requests, hsized.resources, fun r hr =>
      { hsized.records r hr with }⟩, h.known, h.given⟩

theorem turns {serial : Nat} {config : Config} {host : ω}
    (hr : Relation.ReflTransGen (Turns fun _ => false)
      ({}, Machine.unused serial spec config host) (roster, m)) : roster.Described spec m := by
  suffices ∀ p : Roster × Machine κ ω, Relation.ReflTransGen (Turns fun _ => false)
      ({}, Machine.unused serial spec config host) p → p.1.Described spec p.2 from this _ hr
  intro p hp
  induction hp with
  | refl => exact ⟨⟨rfl, rfl, nofun, nofun, nofun⟩, nofun, nofun⟩
  | tail _ hturn ih =>
    cases hturn with
    | within hw => exact ih.within hw
    | shutdown => exact ih.shutdown

end Roster.Described

/-- Whatever was done, on whatever device: a resource that the driver was asked for has no extent of
    zero and is laid out in a plane only if it has several rows. The device allows its shape, or it
    is on the device and has the rows of a shape that the device allows, padded by less than the
    alignment. If the limits are aligned, the device allows the padded rows as well. -/
theorem allocations_fit_but_for_padding [Reentry κ ω] {serial : Nat} {spec : Spec} {config : Config}
    {host : ω} {roster : Roster} {m : Machine κ ω}
    (h : Relation.ReflTransGen (Turns fun _ => false)
      ({}, Machine.unused serial spec config host) (roster, m))
    {place : Placement} {layout : Layout} {format : Format} {flags : AllocFlags}
    (hcall : .allocate place layout format flags ∈ m.platform.driver.calls) :
    0 < layout.width ∧ 0 < layout.height ∧ layout = .ofShape layout.shape ∧
      (layout.shape.refusal? spec.info = none ∨ place = .onDevice ∧
        ∃ shape : Shape, shape.refusal? spec.info = none ∧ layout.shape = shape.padded spec ∧
          layout.width < shape.width + spec.alignment) ∧
      (spec.alignment ∣ spec.info.maxWidth1D → spec.alignment ∣ spec.info.maxWidth2D →
        layout.shape.refusal? spec.info = none) := by
  obtain ⟨shape, hshape, hlayout⟩ :=
    (Roster.Described.turns h).sized.requests _ hcall place layout rfl
  obtain ⟨hwidth, hheight, -⟩ := Shape.refusal?_eq_none_iff.mp hshape
  rcases hlayout with rfl | ⟨rfl, rfl⟩
  · have hsame := Layout.shape_ofShape shape
    have hallowed : (Layout.ofShape shape).shape.refusal? spec.info = none := hsame.symm ▸ hshape
    obtain ⟨hwidth', hheight', -⟩ := Shape.refusal?_eq_none_iff.mp hallowed
    exact ⟨hwidth', hheight', congrArg Layout.ofShape hsame.symm, Or.inl hallowed, fun _ _ => hallowed⟩
  · have hsame := Layout.shape_ofShape (shape.padded spec)
    have hpadded : (Layout.ofShape (shape.padded spec)).width = (shape.padded spec).width :=
      congrArg Shape.width hsame
    have hrows : (Layout.ofShape (shape.padded spec)).height = shape.height :=
      congrArg Shape.height hsame
    rw [hpadded, hrows]
    refine ⟨Nat.lt_of_lt_of_le hwidth Shape.width_le_padded, hheight,
      congrArg Layout.ofShape hsame.symm, Or.inr ⟨rfl, shape, hshape, hsame, Shape.padded_lt⟩,
      fun h1D h2D => ?_⟩
    rw [hsame]
    exact Shape.padded_allowed hshape h1D h2D

namespace Scenario

/-- The device has room for rows of ten elements, and the driver pads rows to 64. -/
def narrowSpec : Spec := { info := { maxWidth1D := 10 } }

def narrowDevice : Device := ⟨0, ⟨1⟩, narrowSpec.info, 1⟩

def narrowRemote : Remote := ⟨0, ⟨3⟩, ⟨1⟩, ⟨10, 1⟩, plainFormat, .plain⟩

def narrowStart : Machine Unit Unit := ((Devices.get 0).run (.unused 0 narrowSpec {} ())).2

/-- A kernel is launched, with a register bound to a copy of the remote resource. -/
def narrowLaunch : Errand :=
  .launch ⟨⟨2⟩, 5⟩ ⟨narrowDevice, ⟨0, 0, 1, 1⟩, ⟨[("o0", .copied narrowRemote none)], by simp⟩⟩

/-- An image is compiled, and the remote resource is allocated. -/
def narrowReady : Machine Unit Unit :=
  ((Errand.allocateRemote narrowDevice ⟨10, 1⟩ plainFormat .plain).perform.run
    ((Errand.compile "o0").perform.run narrowStart).2).2

def narrowRun : Machine Unit Unit := (narrowLaunch.perform.run narrowReady).2

theorem narrowRun_turns :
    Relation.ReflTransGen (Turns fun _ => false) ({}, Machine.unused 0 narrowSpec {} ())
      (⟨[narrowDevice], []⟩, narrowRun) := by
  have hdevice : (Devices.get 0).run (Machine.unused 0 narrowSpec {} ()) =
      (.ok (.ok narrowDevice), narrowStart) := Prod.ext (by decide +kernel) rfl
  have hstart : Relation.ReflTransGen (Turns fun _ => false)
      ({}, Machine.unused 0 narrowSpec {} ()) (⟨[narrowDevice], []⟩, narrowStart) :=
    .single (.within (.device hdevice))
  have hgiven : ∀ d, some narrowDevice = some d → d ∈ [narrowDevice] ∨ d ∈ [] := by
    rintro d ⟨⟩
    exact Or.inl List.mem_cons_self
  have hready : Relation.ReflTransGen (Turns fun _ => false)
      ({}, Machine.unused 0 narrowSpec {} ()) (⟨[narrowDevice], []⟩, narrowReady) :=
    .tail (.tail hstart (.within (.errand (c := .compile "o0") nofun nofun)))
      (.within (.errand (c := .allocateRemote narrowDevice ⟨10, 1⟩ plainFormat .plain) nofun hgiven))
  exact .tail hready (.within (.errand (c := narrowLaunch) nofun hgiven))

theorem narrowRun_allocates :
    .allocate .onDevice (.linear 64) plainFormat .plain ∈ narrowRun.platform.driver.calls := by
  decide +kernel

theorem narrowRun_pads :
    Relation.ReflTransGen (Turns fun _ => false) ({}, Machine.unused 0 narrowSpec {} ())
        (⟨[narrowDevice], []⟩, narrowRun) ∧
      .allocate .onDevice (.linear 64) plainFormat .plain ∈ narrowRun.platform.driver.calls ∧
      ((Layout.linear 64).shape.refusal? narrowSpec.info = none ∨ Placement.onDevice = .onDevice ∧
        ∃ shape : Shape, shape.refusal? narrowSpec.info = none ∧
          (Layout.linear 64).shape = shape.padded narrowSpec ∧
          64 < shape.width + narrowSpec.alignment) :=
  ⟨narrowRun_turns, narrowRun_allocates,
    (allocations_fit_but_for_padding narrowRun_turns narrowRun_allocates).2.2.2.1⟩

/-- The driver is asked for a resource that is wider than the device allows. -/
theorem narrowRun_exceeds_limit :
    ∃ (roster : Roster) (m : Machine Unit Unit),
      Relation.ReflTransGen (Turns fun _ => false) ({}, Machine.unused 0 narrowSpec {} ())
        (roster, m) ∧
      ∃ layout, .allocate .onDevice layout plainFormat .plain ∈ m.platform.driver.calls ∧
        layout.shape.refusal? narrowSpec.info = some "1-D width 64 exceeds device limit 10" :=
  ⟨_, narrowRun, narrowRun_turns, .linear 64, narrowRun_allocates, by decide +kernel⟩

end Scenario

end StreamCompute
