/-
  StreamCompute.Proofs.DeviceCalls

  Looking for devices, and letting go of them, where no hook interferes. It
  makes calls of its own, but none that touches anything else in the driver,
  so whatever does not depend on the devices is kept. `Looked` is the least of
  this kind: it has the calls that were made.
-/
import StreamCompute.Proofs.CallLog
import StreamCompute.Proofs.Operations

namespace StreamCompute

open Fallible

/-- Apart from the log, the driver differs in its devices only. -/
def Simulator.SameButDevices (s s' : Simulator) : Prop :=
  ∃ calls counts started devices nextNumber, s.nextNumber ≤ nextNumber ∧
    s' = { s with calls, counts, started, devices, nextNumber }

/-- However the call ends, at most the devices differ afterwards, and it is logged as a call about
    devices. -/
structure Simulator.TouchesDevices {α : Type} (c : Command α) : Prop where
  same : ∀ s : Simulator, c.run.Leads s (fun _ => s.SameButDevices) (fun _ => s.SameButDevices)
    fun _ => True
  logs : ∀ s : Simulator, ∃ call : Call, call.operation.ofDevices = true ∧ c.Logs call s

namespace Simulator

theorem SameButDevices.logged {s : Simulator} {call : Call} :
    s.SameButDevices (s.logged call) :=
  ⟨_, _, s.started, s.devices, s.nextNumber, Nat.le_refl _, rfl⟩

theorem Effect.sameButDevices {s t : Simulator} {r : Request} {a : Answer} (he : s.Effect r a t)
    (hop : r.command.operation.ofDevices = true) : s.SameButDevices t := by
  have hnumbers := he.nextNumber_le
  cases he
  case allocate place _ layout _ _ _ _ => cases place <;> cases layout <;> cases hop
  all_goals first | exact ⟨_, _, _, _, _, hnumbers, rfl⟩ | cases hop

theorem call?_ofDevices {s : Simulator} {r : Request} (hop : r.command.operation.ofDevices = true) :
    ∃ call, r.call? s = some call ∧ call.operation.ofDevices = true := by
  cases r
  case allocate place _ layout _ _ => cases place <;> cases layout <;> cases hop
  all_goals first | exact ⟨_, rfl, rfl⟩ | cases hop

end Simulator

theorem Command.touchesDevices {α : Type} (c : Command α) [c.Requested]
    (hop : c.operation.ofDevices = true) : Simulator.TouchesDevices c where
  same s := by
    have hleads : c.run.Leads s (fun _ => s.SameButDevices) (fun _ => s.SameButDevices)
        s.SameButDevices := by
      refine leads_effect (fun t _ _ h => ?_) ⟨_, _, _, _, _, Nat.le_refl _, rfl⟩
        fun _ _ he => he.sameButDevices (c.operation_request ▸ hop)
      obtain ⟨_, _, _, _, _, hnumbers, rfl⟩ := h
      exact ⟨_, _, _, _, _, hnumbers, rfl⟩
    exact hleads.mono (fun _ _ h => h) (fun _ _ h => h) fun _ _ => trivial
  logs s := by
    obtain ⟨call, hcall, hdevices⟩ :=
      Simulator.call?_ofDevices (s := s) (c.operation_request ▸ hop)
    exact ⟨call, hdevices, Command.logs hcall⟩

variable {κ ω : Type}

/-- The property says that no hook waits, and does not depend on the devices, on what is known
    of them or on the journal. -/
structure Devices.Blind (I : Machine κ ω → Prop) : Prop where
  hooks : ∀ m, I m → m.platform.hooks = []
  handled : ∀ m op verdict s, I m → op.ofDevices = true → verdict ≠ .cutOff →
    m.platform.driver.SameButDevices s →
    (∃ call : Call, call.operation.ofDevices = true ∧ s.calls = call :: m.platform.driver.calls) →
    I (m.handled op verdict s)
  registry : ∀ m registry generation, I m →
    I (m.onPlatform fun p => { p with registry, generation })
  journal : ∀ m journal, I m → I { m with journal }

theorem Devices.Blind.aside [Reentry κ ω] {I : Machine κ ω → Prop} (hI : Blind I) :
    Aside I fun _ => True where
  journal := hI.journal
  cut _ _ h := h
  registry := hI.registry
  call {_ c _} hop m h := by
    have hc := c.touchesDevices hop
    have hooks : m.Unhooked fun _ => true := .of_nil (hI.hooks m h)
    rw [Machine.leads_drive hooks rfl]
    obtain ⟨call, hcall, hlogs⟩ := hc.logs m.platform.driver
    exact ((hc.same m.platform.driver).and hlogs).mono
      (fun _ s hs => hI.handled m _ _ s h hop nofun hs.1 ⟨call, hcall, hs.2⟩)
      (fun _ s hs => hI.handled m _ _ s h hop nofun hs.1 ⟨call, hcall, hs.2⟩) fun _ _ => trivial

/-! ## The calls of a lookup -/

/-- From the first machine to the second, devices may have been looked for. -/
structure Machine.Looked (m m' : Machine κ ω) : Prop where
  trace : ∃ trace : List Moment, m'.history = trace.reverse ++ m.history ∧
    ∀ mo ∈ trace, mo.operation.ofDevices = true
  grown : m.platform.driver.nextNumber ≤ m'.platform.driver.nextNumber
  rest : ∃ driver registry generation history journal,
    m' = { m with
      platform := { m.platform with driver, registry, generation }, history, journal }

theorem Machine.Looked.refl {m : Machine κ ω} : m.Looked m :=
  ⟨⟨[], rfl, List.forall_mem_nil _⟩, Nat.le_refl _, m.platform.driver, m.platform.registry,
    m.platform.generation, m.history, m.journal, rfl⟩

theorem Machine.looked_blind {m : Machine κ ω} (hooks : m.platform.hooks = []) :
    Devices.Blind m.Looked where
  hooks m' h := by
    obtain ⟨_, _, _, _, _, rfl⟩ := h.rest
    exact hooks
  handled m' op verdict s h hop _ hs _ := by
    obtain ⟨trace, hhistory, hops⟩ := h.trace
    refine ⟨⟨trace ++ [m'.moment op verdict s], ?_, fun mo hmo => ?_⟩, ?_, ?_⟩
    · rw [List.reverse_append, history_handled, hhistory]
      rfl
    · rcases List.mem_append.mp hmo with hmo | hmo
      · exact hops mo hmo
      · cases List.mem_singleton.mp hmo
        exact hop
    · obtain ⟨_, _, _, _, _, hle, rfl⟩ := hs
      exact Nat.le_trans h.grown hle
    · obtain ⟨_, _, _, _, _, rfl⟩ := h.rest
      exact ⟨_, _, _, _, _, rfl⟩
  registry m' registry generation h := by
    refine ⟨h.trace, h.grown, ?_⟩
    obtain ⟨_, _, _, _, _, rfl⟩ := h.rest
    exact ⟨_, registry, generation, _, _, rfl⟩
  journal m' journal h := by
    refine ⟨h.trace, h.grown, ?_⟩
    obtain ⟨_, _, _, _, _, rfl⟩ := h.rest
    exact ⟨_, _, _, _, journal, rfl⟩

end StreamCompute
