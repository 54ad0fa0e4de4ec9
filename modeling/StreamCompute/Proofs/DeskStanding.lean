/-
  StreamCompute.Proofs.DeskStanding

  Properties that stand through calls at a desk, whatever platforms are
  installed and whatever hooks do in the middle of driver calls. `Seated` is
  what holds of every desk: it knows the platforms of its executions, and
  handles and contexts have numbers that were given out. On top of it a
  property may speak about the tables of the desk, the calls so far and the
  drivers of all platforms.

  A hook may make any call at the desk, in the middle of any other. So the
  argument goes by induction on how deeply hooks may be nested, and a property
  has to be kept by hooks for the calls to keep it.
-/
import StreamCompute.Desk.Shutdown
import StreamCompute.Proofs.CallLog
import StreamCompute.Proofs.Standing

namespace StreamCompute

open Fallible

variable {κ ρ α ε : Type}

theorem Operation.ne_destroyContext {op : Operation} (h : op.routine = true) :
    op ≠ .destroyContext := by
  rintro rfl
  cases h

/-- The platforms by their serial numbers. -/
abbrev Platforms (κ : Type) := Nat → Option (Platform κ)

/-- Every token has a number that was given out, on every platform. -/
def Platforms.Numbered (v : Platforms κ) : Prop :=
  ∀ t p, v t = some p → Below p.driver.nextNumber p.driver.tokens

/-- The platforms are still there, and their drivers come after those of before. -/
def Platforms.Onward (v v' : Platforms κ) : Prop :=
  ∀ t p, v t = some p → ∃ p', v' t = some p' ∧ p.driver.Later p'.driver

/-- The property of platforms is kept as they go on. -/
def Platforms.Lasting (R : Platforms κ → Prop) : Prop :=
  ∀ v v', Platforms.Numbered v → Platforms.Onward v v' → R v → R v'

theorem Platforms.Lasting.known {R : Platforms κ → Prop} (hR : Platforms.Lasting R) (t : Nat) :
    Platforms.Lasting fun v => R v ∧ ∃ p, v t = some p := by
  rintro v v' hv honward ⟨hRv, p, hp⟩
  obtain ⟨p', hp', -⟩ := honward t p hp
  exact ⟨hR v v' hv honward hRv, p', hp'⟩

theorem Platforms.Lasting.made {R : Platforms κ → Prop} (hR : Platforms.Lasting R) (t : Nat)
    (number : Nat) (q : Prop) : Platforms.Lasting fun v =>
      R v ∧ q ∧ ∃ p, v t = some p ∧ number < p.driver.nextNumber := by
  rintro v v' hv honward ⟨hRv, hq, p, hp, hnumber⟩
  obtain ⟨p', hp', hlater⟩ := honward t p hp
  exact ⟨hR v v' hv honward hRv, hq, p', hp', Nat.lt_of_lt_of_le hnumber hlater.numbers⟩

/-- The platform of the execution is there, and gave out the numbers of its context and token. -/
def Platforms.Knows (v : Platforms κ) (e : Execution) : Prop :=
  ∃ p, v e.home = some p ∧ e.context.number < p.driver.nextNumber ∧
    e.event.number < p.driver.nextNumber

theorem Platforms.Knows.onward {v v' : Platforms κ} {e : Execution} (h : v.Knows e)
    (honward : v.Onward v') : v'.Knows e := by
  obtain ⟨p, hp, hcontext, hevent⟩ := h
  obtain ⟨p', hp', hlater⟩ := honward _ p hp
  exact ⟨p', hp', Nat.lt_of_lt_of_le hcontext hlater.numbers,
    Nat.lt_of_lt_of_le hevent hlater.numbers⟩

theorem Platforms.Lasting.knows {R : Platforms κ → Prop} (hR : Platforms.Lasting R)
    (e : Execution) (q : Prop) : Platforms.Lasting fun v => R v ∧ q ∧ v.Knows e :=
  fun v v' hv honward h => ⟨hR v v' hv honward h.1, h.2.1, h.2.2.onward honward⟩

namespace Machine

variable {ω : Type} {m : Machine κ ω} {t : Nat}

theorem platform?_of_eq (h : m.platform.serial = t) : m.platform? t = some m.platform :=
  if_pos h

theorem platform?_of_ne (h : m.platform.serial ≠ t) : m.platform? t = m.parked.get? t :=
  if_neg h

/-- Parked platforms are found under their serial numbers. -/
def Labelled (m : Machine κ ω) : Prop :=
  ∀ t p, m.parked.get? t = some p → p.serial = t

/-- Putting another platform in use loses none. -/
theorem platform?_focus (h : m.Labelled) : (m.focus t).platform? = m.platform? := by
  unfold focus
  split
  · rfl
  · rename_i hne
    cases hp : m.parked.get? t with
    | none => rfl
    | some p =>
      funext u
      unfold platform?
      rw [h t p hp, Assoc.get?_set, Assoc.get?_erase]
      by_cases hu : t = u
      · subst hu
        rw [if_pos rfl, if_neg hne, hp]
      · simp only [if_neg hu]

theorem Labelled.focus (h : m.Labelled) :
    (m.focus t).Labelled := by
  intro u q hq
  unfold Machine.focus at hq
  split at hq
  · exact h u q hq
  · split at hq
    · exact h u q hq
    · rw [Assoc.get?_set, Assoc.get?_erase] at hq
      split at hq
      · cases hq
        assumption
      · split at hq
        · cases hq
        · exact h u q hq

theorem Labelled.serial_focus {p : Platform κ}
    (h : m.Labelled) (hp : m.platform? t = some p) : (m.focus t).platform.serial = t := by
  unfold Machine.focus
  by_cases ht : m.platform.serial = t
  · rw [if_pos ht]
    exact ht
  · rw [platform?_of_ne ht] at hp
    rw [if_neg ht, hp]
    exact h t p hp

theorem Labelled.platform_focus {p : Platform κ}
    (h : m.Labelled) (hp : m.platform? t = some p) : (m.focus t).platform = p := by
  have hfound := platform?_of_eq (h.serial_focus hp)
  rw [platform?_focus h, hp] at hfound
  exact (Option.some.inj hfound).symm

end Machine

/-! ## Desks that are in order -/

/-- The platform in use has this serial number; platforms, tokens, handles and the executions in
    their places have numbers that were given out; hooks are such as are allowed. -/
structure Desk.Seated (allowed : κ → Prop) (serial : Nat) (m : Machine κ (Desk ρ)) : Prop where
  inUse : m.platform.serial = serial
  parked : ∀ t p, m.parked.get? t = some p → p.serial = t ∧ t ≠ serial
  issued : ∀ t p, m.platform? t = some p → t < m.host.nextSerial
  hooks : ∀ t p, m.platform? t = some p → ∀ hook ∈ p.hooks, allowed hook.2
  tokens : Platforms.Numbered m.platform?
  installed : ∀ t, m.host.installed = some t → ∃ p, m.platform? t = some p
  handles : ∀ h slot, m.host.slots.get? h = some slot → h < m.host.nextHandle
  homes : ∀ h slot e, m.host.slots.get? h = some slot → slot.execution = some e →
    Platforms.Knows m.platform? e

/-- The call destroys no context but foreign ones. -/
def Moment.Spares (foreign : Nat → Ident .context → Prop) (mo : Moment) : Prop :=
  mo.operation = .destroyContext →
    ∀ context, mo.call? = some (.destroyContext context) → foreign mo.serial context

/-- The handles of one's own have the same places as before, and in all other places there are
    foreign executions only. -/
structure Desk.Alike (own : Nat → Prop) (foreign : Nat → Ident .context → Prop)
    (d d' : Desk ρ) : Prop where
  next : d.nextHandle ≤ d'.nextHandle
  places : ∀ h, own h → d'.slots.get? h = d.slots.get? h
  seats : ∀ h slot e, d'.slots.get? h = some slot → slot.execution = some e → ¬ own h →
    foreign e.home e.context

/-- The property of a desk and of the calls so far does not depend on other handles than one's
    own, nor on calls that spare what is not foreign. -/
structure Desk.Fit (own : Nat → Prop) (foreign : Nat → Ident .context → Prop)
    (P : Desk ρ → List Moment → Prop) : Prop where
  issued : ∀ {d history}, P d history → ∀ h, own h → h < d.nextHandle
  called : ∀ {d history mo}, mo.Spares foreign → P d history → P d (mo :: history)
  alike : ∀ {d d' history}, Desk.Alike own foreign d d' → P d history → P d' history
  seats : ∀ {d history}, P d history → ∀ h slot e, d.slots.get? h = some slot →
    slot.execution = some e → ¬ own h → foreign e.home e.context

/-- Images that are in use do not matter. -/
theorem Desk.Fit.held {own : Nat → Prop} {foreign : Nat → Ident .context → Prop}
    {P : Desk ρ → List Moment → Prop} (hfit : Desk.Fit own foreign P) {d : Desk ρ}
    {history : List Moment} {held : List Nat} (h : P d history) : P { d with held } history :=
  hfit.alike (d := d) ⟨Nat.le_refl _, fun _ _ => rfl, fun n slot e hslot he hn =>
    hfit.seats h n slot e hslot he hn⟩ h

/-- The desk is in order, and has the two properties. -/
structure Desk.Kept (allowed : κ → Prop) (P : Desk ρ → List Moment → Prop)
    (R : Platforms κ → Prop) (serial : Nat) (m : Machine κ (Desk ρ)) : Prop where
  seated : Desk.Seated allowed serial m
  desk : P m.host m.history
  platforms : R m.platform?

namespace Desk

variable {allowed : κ → Prop} {own : Nat → Prop} {foreign : Nat → Ident .context → Prop}
  {P P' : Desk ρ → List Moment → Prop} {R R' : Platforms κ → Prop} {serial t : Nat}
  {m m' : Machine κ (Desk ρ)}

namespace Kept

theorem mono (h : Kept allowed P R serial m) (hP : ∀ d history, P d history → P' d history)
    (hR : ∀ v, R v → R' v) : Kept allowed P' R' serial m :=
  ⟨h.seated, hP _ _ h.desk, hR _ h.platforms⟩

theorem platform? (h : Kept allowed P R serial m) : m.platform? serial = some m.platform :=
  Machine.platform?_of_eq h.seated.inUse

/-- The platforms after a change of the one in use. -/
theorem onward (hserial : m'.platform.serial = m.platform.serial) (hparked : m'.parked = m.parked)
    (hdriver : m.platform.driver.Later m'.platform.driver) :
    Platforms.Onward m.platform? m'.platform? := by
  intro t p hp
  by_cases ht : m.platform.serial = t
  · rw [Machine.platform?_of_eq ht] at hp
    cases hp
    exact ⟨m'.platform, Machine.platform?_of_eq (hserial.trans ht), hdriver⟩
  · rw [Machine.platform?_of_ne ht] at hp
    refine ⟨p, ?_, .same rfl rfl⟩
    rw [Machine.platform?_of_ne (hserial ▸ ht), hparked, hp]

variable (h : Kept allowed P R serial m)

include h

/-- The platforms have gone on, and the rest of the machine is as told. -/
theorem moved (hR : Platforms.Lasting R) (hserial : m'.platform.serial = m.platform.serial)
    (hparked : ∀ t p, m'.parked.get? t = some p → p.serial = t ∧ t ≠ serial)
    (honward : Platforms.Onward m.platform? m'.platform?)
    (hplatform : ∀ t p', m'.platform? t = some p' → ∃ p, m.platform? t = some p ∧
      (∀ hook ∈ p'.hooks, hook ∈ p.hooks ∨ allowed hook.2) ∧ p.driver.Later p'.driver)
    (hhost : m'.host = m.host) (hdesk : P' m'.host m'.history) :
    Kept allowed P' R serial m' := by
  refine ⟨⟨hserial.trans h.seated.inUse, hparked, fun t p' hp' => ?_,
    fun t p' hp' hook hhook => ?_, fun t p' hp' => ?_, fun t ht => ?_,
    hhost ▸ h.seated.handles, fun n slot e hslot he => ?_⟩, hdesk,
    hR _ _ h.seated.tokens honward h.platforms⟩
  · obtain ⟨p, hp, -⟩ := hplatform t p' hp'
    exact hhost ▸ h.seated.issued t p hp
  · obtain ⟨p, hp, hsub, -⟩ := hplatform t p' hp'
    exact (hsub hook hhook).elim (h.seated.hooks t p hp hook) id
  · obtain ⟨p, hp, -, hlater⟩ := hplatform t p' hp'
    exact hlater.tokens (h.seated.tokens t p hp)
  · obtain ⟨p, hp⟩ := h.seated.installed t (hhost ▸ ht)
    obtain ⟨p', hp', -⟩ := honward t p hp
    exact ⟨p', hp'⟩
  · exact (h.seated.homes n slot e (hhost ▸ hslot) he).onward honward

/-- The platform in use has gone on, and the rest of the machine is as told. -/
theorem renewed (hR : Platforms.Lasting R)
    (hserial : m'.platform.serial = m.platform.serial) (hparked : m'.parked = m.parked)
    (hdriver : m.platform.driver.Later m'.platform.driver)
    (hhooks : ∀ hook ∈ m'.platform.hooks, hook ∈ m.platform.hooks ∨ allowed hook.2)
    (hhost : m'.host = m.host) (hdesk : P' m'.host m'.history) : Kept allowed P' R serial m' := by
  refine h.moved hR hserial (hparked ▸ h.seated.parked) (onward hserial hparked hdriver)
    (fun t p' hp' => ?_) hhost hdesk
  by_cases ht : m.platform.serial = t
  · rw [Machine.platform?_of_eq (hserial.trans ht)] at hp'
    cases hp'
    exact ⟨m.platform, Machine.platform?_of_eq ht, hhooks, hdriver⟩
  · rw [Machine.platform?_of_ne (hserial ▸ ht), hparked] at hp'
    exact ⟨p', (Machine.platform?_of_ne ht).trans hp', fun _ => .inl, .same rfl rfl⟩

theorem beside (hR : Platforms.Lasting R) (hm' : m.Beside m') :
    Kept allowed P R serial m' := by
  refine h.renewed hR hm'.serial hm'.parked ?_ ?_ hm'.host ?_
  · exact hm'.driver ▸ .same rfl rfl
  · exact fun hook hhook => .inl (hm'.hooks ▸ hhook)
  · rw [hm'.host, hm'.history]
    exact h.desk

theorem handled (hR : Platforms.Lasting R) {op : Operation}
    {verdict : Verdict} {s : Simulator} (hs : m.platform.driver.Later s)
    (hdesk : P' m.host (m.moment op verdict s :: m.history)) :
    Kept allowed P' R serial (m.handled op verdict s) :=
  h.renewed hR rfl rfl ⟨hs.numbers, hs.tokens, hs.polls⟩ (fun _ => .inl) rfl hdesk

theorem focus (ht : ∃ p, m.platform? t = some p) :
    Kept allowed P R t (m.focus t) ∧ (m.focus t).platform? = m.platform? := by
  unfold Machine.focus
  by_cases hserial : m.platform.serial = t
  · rw [if_pos hserial]
    cases h.seated.inUse.symm.trans hserial
    exact ⟨h, rfl⟩
  · rw [if_neg hserial]
    obtain ⟨p, hp⟩ := ht
    rw [Machine.platform?_of_ne hserial] at hp
    obtain ⟨hpt, -⟩ := h.seated.parked t p hp
    have hview := Machine.platform?_focus (t := t) fun t p hp => (h.seated.parked t p hp).1
    rw [Machine.focus, if_neg hserial, hp] at hview
    rw [hp]
    -- All that the desk keeps speaks of platforms by serial, and is seen as before.
    refine ⟨⟨⟨hpt, fun u q hq => ?_, ?_, ?_, ?_, ?_, h.seated.handles, ?_⟩, h.desk, ?_⟩, hview⟩
    · dsimp only at hq
      rw [Assoc.get?_set, Assoc.get?_erase] at hq
      by_cases hu : m.platform.serial = u
      · rw [if_pos hu] at hq
        cases hq
        exact ⟨hu, fun hut => hserial (hu.trans hut)⟩
      · rw [if_neg hu] at hq
        by_cases hut : t = u
        · rw [if_pos hut] at hq
          cases hq
        · rw [if_neg hut] at hq
          exact ⟨(h.seated.parked u q hq).1, Ne.symm hut⟩
    · rw [hview]
      exact h.seated.issued
    · rw [hview]
      exact h.seated.hooks
    · rw [hview]
      exact h.seated.tokens
    · rw [hview]
      exact h.seated.installed
    · rw [hview]
      exact h.seated.homes
    · rw [hview]
      exact h.platforms

/-- The driver of a platform was changed from outside. -/
theorem onDriverOf (hR : Platforms.Lasting R)
    {f : Simulator → Simulator} (hf : ∀ s : Simulator, s.Later (f s)) :
    Kept allowed P R serial (Memory.onDriverOf t f m) := by
  unfold Memory.onDriverOf
  by_cases hne : m.platform.serial = t
  · rw [if_pos hne]
    exact h.renewed hR rfl rfl (hf _) (fun _ => .inl) rfl h.desk
  rw [if_neg hne]
  cases hp : m.parked.get? t with
  | none => exact h
  | some p =>
    obtain ⟨hpt, hps⟩ := h.seated.parked t p hp
    have hbefore : m.platform? t = some p := (Machine.platform?_of_ne hne).trans hp
    -- The changed platform stands where it stood.
    have hview : ∀ u, Machine.platform? { m with
        parked := m.parked.set t { p with driver := f p.driver } } u =
        if t = u then some { p with driver := f p.driver } else m.platform? u := by
      intro u
      unfold Machine.platform?
      rw [Assoc.get?_set]
      by_cases hu : t = u
      · rw [if_pos hu, if_pos hu, if_neg (hu ▸ hne)]
      · rw [if_neg hu, if_neg hu]
    refine h.moved hR rfl (fun u q hq => ?_) (fun u q hq => ?_) (fun u q hq => ?_) rfl h.desk
    · dsimp only at hq
      rw [Assoc.get?_set] at hq
      by_cases hu : t = u
      · rw [if_pos hu] at hq
        cases hq
        exact ⟨hpt.trans hu, hu ▸ hps⟩
      · rw [if_neg hu] at hq
        exact h.seated.parked u q hq
    · rw [hview]
      by_cases hu : t = u
      · subst hu
        cases hbefore.symm.trans hq
        exact ⟨_, if_pos rfl, hf _⟩
      · exact ⟨q, (if_neg hu).trans hq, .same rfl rfl⟩
    · rw [hview] at hq
      by_cases hu : t = u
      · subst hu
        rw [if_pos rfl] at hq
        cases hq
        exact ⟨p, hbefore, fun _ => .inl, hf _⟩
      · rw [if_neg hu] at hq
        exact ⟨q, hq, fun _ => .inl, .same rfl rfl⟩

/-- The desk has changed, but for what the properties are about. -/
theorem onDesk (hfit : Fit own foreign P)
    {f : Desk ρ → Desk ρ} (hnext : m.host.nextHandle ≤ (f m.host).nextHandle)
    (hserial : (f m.host).nextSerial = m.host.nextSerial)
    (hinstalled : ∀ t, (f m.host).installed = some t → m.host.installed = some t)
    (hplaces : ∀ n, own n → (f m.host).slots.get? n = m.host.slots.get? n)
    (hslots : ∀ n slot, (f m.host).slots.get? n = some slot → n < (f m.host).nextHandle ∧
      ∀ e, slot.execution = some e →
        Platforms.Knows m.platform? e ∧ (¬ own n → foreign e.home e.context)) :
    Kept allowed P R serial (Desk.onDesk f m) where
  seated := {
    h.seated with
    issued := fun t p hp => hserial.symm ▸ h.seated.issued t p hp
    installed := fun t ht => h.seated.installed t (hinstalled t ht)
    handles := fun n slot hslot => (hslots n slot hslot).1
    homes := fun n slot e hslot he => ((hslots n slot hslot).2 e he).1 }
  desk := hfit.alike ⟨hnext, hplaces, fun n slot e hslot he => ((hslots n slot hslot).2 e he).2⟩ h.desk
  platforms := h.platforms

/-- A change of the desk that leaves the places of executions alone. -/
theorem onTables (hfit : Fit own foreign P)
    {f : Desk ρ → Desk ρ} (hslots : (f m.host).slots = m.host.slots)
    (hnext : m.host.nextHandle ≤ (f m.host).nextHandle)
    (hserial : (f m.host).nextSerial = m.host.nextSerial)
    (hinstalled : ∀ t, (f m.host).installed = some t → m.host.installed = some t) :
    Kept allowed P R serial (Desk.onDesk f m) := by
  refine h.onDesk hfit hnext hserial hinstalled (fun _ _ => by rw [hslots]) fun n slot hslot => ?_
  rw [hslots] at hslot
  exact ⟨Nat.lt_of_lt_of_le (h.seated.handles n slot hslot) hnext, fun e he =>
    ⟨h.seated.homes n slot e hslot he, hfit.seats h.desk n slot e hslot he⟩⟩

end Kept

/-! ## Hooks that keep a property -/

/-- The property fits, contexts that are made are foreign, and whatever a hook does it keeps the
    property, together with what lasts on all platforms. -/
structure Polite [Reentry κ (Desk ρ)] (allowed : κ → Prop) (own : Nat → Prop)
    (foreign : Nat → Ident .context → Prop) (P : Desk ρ → List Moment → Prop)
    (R₀ : Platforms κ → Prop) : Prop where
  fit : Fit own foreign P
  fresh : ∀ v, R₀ v → ∀ t p, v t = some p → ∀ context : Ident .context,
    p.driver.nextNumber ≤ context.number → foreign t context
  hooks : ∀ R, Platforms.Lasting R → (∀ v, R v → R₀ v) → ∀ serial op k, allowed k →
    (Reentry.run op k).Upholds (Kept allowed P R serial)
      (Kept allowed P R serial)

/-- Destroying a context is logged as that, and never cut off. -/
theorem handle_destroyContext_leads {context : Ident .context}
    {ok : Unit → Machine κ (Desk ρ) → Prop} {err : DriverError → Machine κ (Desk ρ) → Prop}
    {cut : Machine κ (Desk ρ) → Prop} (hm : m.platform.serial = serial)
    (hend : ∀ verdict s, m.platform.driver.Later s →
      (m.moment .destroyContext verdict s).serial = serial →
      (m.moment .destroyContext verdict s).call? = some (.destroyContext context) →
      ok () (m.handled .destroyContext verdict s) ∧
        ∀ e, err e (m.handled .destroyContext verdict s)) :
    (Machine.handle (Simulator.destroyContext context)).Leads m ok err cut := by
  have hanswered : (Simulator.destroyContext context).run.Leads m.platform.driver
      (fun _ _ => True) (fun _ _ => True) fun _ => False :=
    Simulator.destroyContext_leads (fun _ => trivial) trivial
  rw [Machine.leads_handle]
  refine (((Command.grows _ m.platform.driver).and
    (Command.logs rfl)).and hanswered).mono (fun _ s hs => ?_) (fun e s hs => ?_)
    fun _ hs => hs.2.elim
  · exact (hend .accepted s hs.1.1 hm (Machine.call?_moment hs.1.2)).1
  · exact (hend (.refused e) s hs.1.1 hm (Machine.call?_moment hs.1.2)).2 e

section Calls

variable [Reentry κ (Desk ρ)] {R₀ : Platforms κ → Prop} {Pc : Desk ρ → List Moment → Prop}
  (hooks : Polite allowed own foreign P R₀) (hR : Platforms.Lasting R) (hsub : ∀ v, R v → R₀ v)
  (hcut : ∀ d history mo, mo.Spares foreign → mo.verdict = .cutOff → P d history →
    Pc d (mo :: history))

include hooks hR hsub

theorem fire_keeps {op : Operation} :
    (Machine.fire op).Upholds (Kept allowed P R serial)
      (Kept allowed P R serial) := by
  intro m hm
  unfold Machine.fire
  rw [Act.leads_bind, Act.leads_get, Act.leads_bind, Act.leads_modify]
  refine Act.leads_forM (fun hook hhook m' hm' => ?_) ?_
  · refine hooks.hooks R hR hsub serial op hook.2 ?_ m' hm'
    exact hm.seated.hooks serial m.platform hm.platform? hook (List.mem_filter.mp hhook).1
  · exact hm.renewed hR rfl rfl (.same rfl rfl) (fun _ hhook => .inl (List.mem_filter.mp hhook).1) rfl
      hm.desk

include hcut

/-- A driver call: the hooks keep the property, and then the call is handled. -/
theorem drive_leads {c : Command α} {ok : α → Machine κ (Desk ρ) → Prop}
    {err : DriverError → Machine κ (Desk ρ) → Prop}
    (hhandle : ∀ m, Kept allowed P R serial m →
      (Machine.handle c).Leads m ok err (Kept allowed Pc R serial))
    (hm : Kept allowed P R serial m) :
    (Machine.drive c).Leads m ok err (Kept allowed Pc R serial) := by
  unfold Machine.drive
  rw [leads_bind, leads_perform, Act.leads_onCutOff]
  refine (fire_keeps hooks hR hsub m hm).mono (fun _ m₁ h₁ => hhandle m₁ h₁) fun m₁ h₁ => ?_
  refine h₁.renewed hR rfl rfl (.same rfl rfl) (fun _ => .inl) rfl
    (hcut _ _ _ (fun _ context hcall => ?_) rfl h₁.desk)
  simp [Moment.call?] at hcall

omit hsub in
/-- What handling a call leaves, if the call spares what is not foreign. -/
theorem handle_leads {c : Command α} (hc : c.Grows)
    (hspares : ∀ verdict s, (m.moment c.operation verdict s).Spares foreign)
    (hm : Kept allowed P R serial m) :
    (Machine.handle c).Leads m (fun _ => Kept allowed P R serial)
      (fun _ => Kept allowed P R serial) (Kept allowed Pc R serial) := by
  rw [Machine.leads_handle]
  exact (hc m.platform.driver).mono
    (fun _ s hs => hm.handled hR hs (hooks.fit.called (hspares _ s) hm.desk))
    (fun _ s hs => hm.handled hR hs (hooks.fit.called (hspares _ s) hm.desk))
    fun s hs => hm.handled hR hs (hcut _ _ _ (hspares _ s) rfl hm.desk)

theorem drive_stands {c : Command α} (hc : c.Grows) (hop : c.operation ≠ .destroyContext) :
    (Machine.drive c).Stands (Kept allowed P R serial)
      (Kept allowed Pc R serial) := fun _ hm =>
  drive_leads hooks hR hsub hcut
    (fun _ => handle_leads hooks hR hcut hc fun _ _ h => absurd h hop) hm

variable {context : Ident .context}

theorem destroyContext_stands (hcontext : foreign serial context) :
    (Machine.drive (Simulator.destroyContext context)).Stands
      (Kept allowed P R serial) (Kept allowed Pc R serial) := fun _ hm =>
  drive_leads hooks hR hsub hcut (fun m hm =>
    handle_destroyContext_leads hm.seated.inUse fun verdict s hs hserial hcall => by
      have hspares : (m.moment .destroyContext verdict s).Spares foreign := by
        intro _ context' hcall'
        cases hcall.symm.trans hcall'
        rw [hserial]
        exact hcontext
      have hm' := hm.handled hR hs (hooks.fit.called hspares hm.desk)
      exact ⟨hm', fun _ => hm'⟩) hm

theorem copy_keeps {w : Waiter} {source target : Ident .memory} :
    (Completion.copy w context source target).Stands
      (Kept allowed P R serial) (Kept allowed Pc R serial) :=
  Completion.copy_stands ⟨fun _ _ hm => hm.beside hR .journal, fun _ _ hm => hm.beside hR .journal⟩
    (drive_stands hooks hR hsub hcut (Command.grows _) nofun)
    fun _ => drive_stands hooks hR hsub hcut (Command.grows _) nofun

/-- What the calls of a runtime keep. -/
theorem withstands : Withstands (foreign serial) (Kept allowed P R serial)
    (Kept allowed Pc R serial) fun _ _ => Kept allowed P R serial := by
  refine ⟨fun hbeside hm => hm.beside hR hbeside, fun hbeside hm => hm.beside hR hbeside,
    fun hbeside hm => hm.beside hR hbeside, fun hop hc => ?_, fun hcontext => ?_, ?_, fun hm => ?_⟩
  · exact drive_stands hooks hR hsub hcut hc (Operation.ne_destroyContext hop)
  · exact destroyContext_stands hooks hR hsub hcut hcontext
  · exact copy_keeps hooks hR hsub hcut
  · exact drive_stands hooks hR hsub hcut (Command.grows _) (by nofun) _ hm

/-- What is made has a number that was not given out before, and is from then on. -/
theorem made_leads {k : Kind} {c : Command (Ident k)} (hc : c.Grows)
    (hop : c.operation ≠ .destroyContext)
    (hmade : ∀ s : Simulator, c.run.Leads s
      (fun i s' => i = ⟨s.nextNumber⟩ ∧ s'.nextNumber = s.nextNumber + 1) (fun _ _ => True)
      fun _ => True) (hm : Kept allowed P R serial m) :
    (Machine.drive c).Leads m
      (fun i m' => (∃ found : Machine κ (Desk ρ), Kept allowed P R serial found ∧
          m'.host = found.host ∧ found.platform.driver.nextNumber = i.number) ∧
        Kept allowed P (fun v => R v ∧
          ∃ p, v serial = some p ∧ i.number < p.driver.nextNumber) serial m')
      (fun _ => Kept allowed P R serial) (Kept allowed Pc R serial) := by
  refine drive_leads hooks hR hsub hcut (fun m hm => ?_) hm
  have hkeeps : (Machine.handle c).Leads m (fun _ => Kept allowed P R serial)
      (fun _ => Kept allowed P R serial) (Kept allowed Pc R serial) :=
    handle_leads hooks hR hcut hc (fun _ _ h => absurd h hop) hm
  rw [Machine.leads_handle] at hkeeps ⊢
  refine (hkeeps.and (hmade m.platform.driver)).mono (fun i s hs => ?_) (fun _ _ hs => hs.1)
    fun _ hs => hs.1
  obtain ⟨hm', rfl, hnext⟩ := hs
  refine ⟨⟨m, hm, rfl, rfl⟩, hm'.seated, hm'.desk, hm'.platforms, _, hm'.platform?, ?_⟩
  exact hnext ▸ Nat.lt_succ_self _

/-- Contexts that are made are foreign. -/
theorem createContext_leads {device : Ident .device} (hm : Kept allowed P R serial m) :
    (Machine.drive (Simulator.createContext device)).Leads m
      (fun context => Kept allowed P (fun v => R v ∧ foreign serial context ∧
        ∃ p, v serial = some p ∧ context.number < p.driver.nextNumber) serial)
      (fun _ => Kept allowed P R serial) (Kept allowed Pc R serial) := by
  refine (made_leads hooks hR hsub hcut (Command.grows _) (by nofun) (fun s => ?_) hm).imp
    fun context m' ⟨⟨found, hfound, _, hnumber⟩, hm'⟩ => ?_
  · exact Simulator.createContext_leads (fun _ => trivial) ⟨rfl, rfl⟩
  · have hforeign := hooks.fresh _ (hsub _ hfound.platforms) serial _ hfound.platform? context
      (Nat.le_of_eq hnumber)
    exact hm'.mono (fun _ _ h => h) fun _ h => ⟨h.1, hforeign, h.2⟩

/-- A token has a number that was given out. -/
theorem runProgram_leads {entry : Ident .entry} {domain : Domain}
    (hm : Kept allowed P R serial m) :
    (Machine.drive (Simulator.runProgram context entry domain)).Leads m
      (fun event => Kept allowed P (fun v => R v ∧
        ∃ p, v serial = some p ∧ event.number < p.driver.nextNumber) serial)
      (fun _ => Kept allowed P R serial) (Kept allowed Pc R serial) := by
  refine (made_leads hooks hR hsub hcut (Command.grows _) (by nofun) (fun s => ?_) hm).imp
    fun _ _ h => h.2
  exact Simulator.runProgram_leads (fun _ => trivial) ⟨rfl, rfl⟩

end Calls

/-! ## Calls at the desk -/

section Tasks

variable [Reentry κ (Desk ρ)] {R₀ : Platforms κ → Prop}
  (hooks : Polite allowed own foreign P R₀) (hR : Platforms.Lasting R) (hsub : ∀ v, R v → R₀ v)

/-- The call keeps the property, even if it fails or is cut off. -/
abbrev Keeps (allowed : κ → Prop) (P : Desk ρ → List Moment → Prop) (R : Platforms κ → Prop)
    (serial : Nat) (act : Fallible ε (Machine κ (Desk ρ)) α) : Prop :=
  act.Stands (Kept allowed P R serial) (Kept allowed P R serial)

omit [Reentry κ (Desk ρ)] in
/-- Something is done on a platform that is known. -/
theorem withPlatform_leads {act : Act (Machine κ (Desk ρ)) α}
    {A : α → Desk ρ → List Moment → Prop} {B : α → Platforms κ → Prop}
    {Pc : Desk ρ → List Moment → Prop} (ht : ∃ p, m.platform? t = some p)
    (hact : ∀ m, Kept allowed P (fun v => R v ∧ ∃ p, v serial = some p) t m →
      act.Leads m (fun a => Kept allowed (A a) (fun v => B a v ∧ ∃ p, v serial = some p) t)
        (Kept allowed Pc (fun v => R v ∧ ∃ p, v serial = some p) t))
    (hm : Kept allowed P R serial m) :
    (Machine.withPlatform t act).Leads m (fun a => Kept allowed (A a) (B a) serial)
      (Kept allowed Pc R serial) := by
  have hback : ∀ {Q : Desk ρ → List Moment → Prop} {B : Platforms κ → Prop}
      {m' : Machine κ (Desk ρ)}, Kept allowed Q (fun v => B v ∧ ∃ p, v serial = some p) t m' →
      Kept allowed Q B serial (m'.focus serial) := fun hm' =>
    (hm'.focus hm'.platforms.2).1.mono (fun _ _ h => h) fun _ h => h.1
  obtain ⟨hfocus, hview⟩ := hm.focus ht
  rw [Machine.leads_withPlatform, hm.seated.inUse]
  refine (hact _ ⟨hfocus.seated, hfocus.desk, hfocus.platforms, ?_⟩).mono
    (fun _ _ => hback) fun _ => hback
  rw [hview]
  exact ⟨_, hm.platform?⟩

include hR hsub in
omit [Reentry κ (Desk ρ)] in
/-- Something is done on a platform, or on the one in use if there is no such platform. -/
theorem withPlatform_keeps {act : Act (Machine κ (Desk ρ)) α}
    (hact : ∀ R t, Platforms.Lasting R → (∀ v, R v → R₀ v) →
      act.Upholds (Kept allowed P R t) (Kept allowed P R t)) :
    (Machine.withPlatform t act).Upholds (Kept allowed P R serial) (Kept allowed P R serial) := by
  intro m hm
  cases ht : m.platform? t with
  | some p =>
    exact withPlatform_leads (A := fun _ => P) (B := fun _ => R) ⟨p, ht⟩
      (hact _ t (hR.known serial) fun v hv => hsub v hv.1) hm
  | none =>
    have hne : m.platform.serial ≠ t := by
      rintro rfl
      cases (Machine.platform?_of_eq rfl).symm.trans ht
    have hfocus : m.focus t = m := by
      unfold Machine.focus
      rw [if_neg hne, ← Machine.platform?_of_ne hne, ht]
    have hback : ∀ {m' : Machine κ (Desk ρ)}, Kept allowed P R serial m' →
        Kept allowed P R serial (m'.focus m.platform.serial) := by
      intro m' hm'
      rw [hm.seated.inUse, Machine.focus, if_pos hm'.seated.inUse]
      exact hm'
    rw [Machine.leads_withPlatform, hfocus]
    exact (hact R serial hR hsub m hm).mono (fun _ _ => hback) fun _ => hback

variable {task : Task κ (Desk ρ) α}

omit [Reentry κ (Desk ρ)] in
/-- A runtime does something on a platform that is known. -/
theorem onRuntime_leads {call : String}
    {A : α → Desk ρ → List Moment → Prop} {B : α → Platforms κ → Prop}
    {Pe Pc : Desk ρ → List Moment → Prop} (ht : ∃ p, m.platform? t = some p)
    (htask : ∀ m, Kept allowed P (fun v => R v ∧ ∃ p, v serial = some p) t m →
      task.Leads m (fun a => Kept allowed (A a) (fun v => B a v ∧ ∃ p, v serial = some p) t)
        (fun _ => Kept allowed Pe (fun v => R v ∧ ∃ p, v serial = some p) t)
        (Kept allowed Pc (fun v => R v ∧ ∃ p, v serial = some p) t))
    (hm : Kept allowed P R serial m) :
    (onRuntime t call task).Leads m (fun a => Kept allowed (A a) (B a) serial)
      (fun _ => Kept allowed Pe R serial) (Kept allowed Pc R serial) := by
  let A' : Except DeskError α → Desk ρ → List Moment → Prop := fun
    | .ok a => A a
    | .error _ => Pe
  let B' : Except DeskError α → Platforms κ → Prop := fun
    | .ok a => B a
    | .error _ => R
  unfold onRuntime
  rw [leads_mk]
  refine (withPlatform_leads (A := A') (B := B') ht (fun m hm => ?_) hm).imp fun a _ h => ?_
  · rw [leads_run, leads_mapError]
    exact htask m hm
  · cases a <;> exact h

/-- The operation of a runtime keeps the property on this platform, with whatever lasts. -/
def Lawful (allowed : κ → Prop) (P : Desk ρ → List Moment → Prop) (R₀ : Platforms κ → Prop)
    (t : Nat) (task : Task κ (Desk ρ) α) : Prop :=
  ∀ R, Platforms.Lasting R → (∀ v, R v → R₀ v) → Keeps allowed P R t task

include hooks in
/-- Operations keep what they withstand. -/
theorem lawful
    (h : ∀ R, Withstands (foreign t) (Kept allowed P R t) (Kept allowed P R t)
      (fun _ _ => Kept allowed P R t) → Keeps allowed P R t task) :
    Lawful allowed P R₀ t task := fun R hR hsub =>
  h R (withstands hooks hR hsub fun _ _ _ hspares _ => hooks.fit.called hspares)

include hR hsub in
omit [Reentry κ (Desk ρ)] in
theorem onRuntime_keeps {call : String}
    (htask : Lawful allowed P R₀ t task) (ht : ∃ p, m.platform? t = some p)
    (hm : Kept allowed P R serial m) :
    (onRuntime t call task).Leads m (fun _ => Kept allowed P R serial)
      (fun _ => Kept allowed P R serial) (Kept allowed P R serial) :=
  onRuntime_leads ht (htask _ (hR.known serial) fun v hv => hsub v hv.1) hm

end Tasks

end Desk

end StreamCompute
