/-
  StreamCompute.Proofs.Served

  What a driver call can do to the driver, if it is none of those that are
  about devices. It is logged once, or not at all; it leaves the devices alone
  and gives no number back; and a resource that it leaves was there before, with
  the same place, layout and pitch, unless the call has allocated it.
-/
import StreamCompute.Proofs.CustodyCalls
import StreamCompute.Proofs.DeviceCalls

namespace StreamCompute

open Fallible

/-- Where and how large the resource is that a call asks for, if it asks for one. -/
def Call.request? : Call → Option (Placement × Layout)
  | .allocate place layout _ _ => some (place, layout)
  | _ => none

/-- The resources agree in what is fixed when one is allocated. -/
structure Resource.SameShape (res res' : Resource) : Prop where
  place : res'.place = res.place
  layout : res'.layout = res.layout
  format : res'.format = res.format
  pitch : res'.pitch = res.pitch

theorem Resource.SameShape.refl {res : Resource} : res.SameShape res :=
  ⟨rfl, rfl, rfl, rfl⟩

namespace Simulator

/-- The second driver is what a call that asks for this resource, if for any, can make of the
    first. -/
structure Served (request? : Option (Placement × Layout)) (s s' : Simulator) : Prop where
  spec : s'.spec = s.spec
  started : s'.started = s.started
  devices : s'.devices = s.devices
  injections : s'.injections = s.injections
  numbers : s.nextNumber ≤ s'.nextNumber
  calls : s'.calls = s.calls ∨
    ∃ call : Call, call.request? = request? ∧ s'.calls = call :: s.calls
  resources : ∀ id res', s'.resources.get? id = some res' →
    (∃ res, s.resources.get? id = some res ∧ res.SameShape res') ∨
      (id.number = s.nextNumber ∧ s.nextNumber < s'.nextNumber ∧
        request? = some (res'.place, res'.layout) ∧
        res'.pitch = newPitch s.spec res'.place res'.layout)

/-- However the call ends, it leaves what such a call can. -/
def Serves {α : Type} (request? : Option (Placement × Layout)) (c : Command α) : Prop :=
  ∀ s, c.run.Leads s (fun _ => s.Served request?) (fun _ => s.Served request?) (s.Served request?)

variable {s t : Simulator} {r : Request} {a : Answer}

/-- A resource that was there was changed, but not in what is fixed. -/
theorem Served.set {id : Ident .resource} {res res₁ : Resource}
    (hid : s.resources.get? id = some res) (hsame : res.SameShape res₁) (id' : Ident .resource)
    (res' : Resource) (h : (s.resources.set id res₁).get? id' = some res') :
    ∃ res, s.resources.get? id' = some res ∧ res.SameShape res' := by
  rcases Assoc.of_get?_set h with ⟨rfl, rfl⟩ | ⟨-, h⟩
  · exact ⟨res, hid, hsame⟩
  · exact ⟨res', h, .refl⟩

/-- A resource that is left was there before, or was asked for and takes the next number. -/
theorem Effect.resources (he : s.Effect r a t) (id : Ident .resource) (res' : Resource)
    (h : t.resources.get? id = some res') :
    (∃ res, s.resources.get? id = some res ∧ res.SameShape res') ∨
      (id.number = s.nextNumber ∧ s.nextNumber < t.nextNumber ∧
        r.asks? = some (res'.place, res'.layout) ∧
        res'.pitch = newPitch s.spec res'.place res'.layout) := by
  cases he
  case allocate =>
    rcases Assoc.of_get?_set h with ⟨rfl, rfl⟩ | ⟨-, h⟩
    · exact Or.inr ⟨rfl, Nat.lt_succ_self _, rfl, rfl⟩
    · exact Or.inl ⟨res', h, .refl⟩
  case freeResource =>
    exact Or.inl ⟨res', (Assoc.of_get?_erase h).2, .refl⟩
  case mapResource hres _ => exact Or.inl (Served.set hres (by constructor <;> rfl) id res' h)
  case unmapResource hres => exact Or.inl (Served.set hres (by constructor <;> rfl) id res' h)
  case copyMemory hres => exact Or.inl (Served.set hres (by constructor <;> rfl) id res' h)
  case runProgram context _ domain =>
    rcases s.executed_refilled context domain id with ⟨-, hnone⟩ | ⟨res, bytes, hres, -, hnew⟩
    · cases hnone.symm.trans h
    · cases hnew.symm.trans h
      exact Or.inl ⟨res, hres, rfl, rfl, rfl, rfl⟩
  all_goals exact Or.inl ⟨res', h, .refl⟩

theorem Effect.served (he : s.Effect r a t) (hop : r.command.operation.ofDevices = false) :
    s.Served r.asks? t := by
  have hnumbers := he.nextNumber_le
  have hresources := he.resources
  cases he
  case start | stop | countDevices | describeDevice | openDevice | closeDevice => cases hop
  all_goals exact ⟨rfl, rfl, rfl, rfl, hnumbers, Or.inl rfl, hresources⟩

/-- A request is logged as asking for what it asks for. -/
theorem Request.request?_of_call? {call : Call} (h : r.call? s = some call) :
    call.request? = r.asks? := by
  cases r
  case copyMemory context source target =>
    obtain ⟨_, _, h⟩ := Option.bind_eq_some_iff.mp h
    obtain ⟨_, _, rfl⟩ := Option.map_eq_some_iff.mp h
    rfl
  all_goals
    cases h
    rfl

theorem Served.refl {request? : Option (Placement × Layout)} : s.Served request? s :=
  ⟨rfl, rfl, rfl, rfl, Nat.le_refl _, Or.inl rfl, fun _ res h => Or.inl ⟨res, h, .refl⟩⟩

theorem Served.logged {call : Call} (h : s.Served r.asks? t) (hcalls : t.calls = s.calls)
    (hcall : r.call? s = some call) : s.Served r.asks? (logged call t) :=
  { h with calls := Or.inr ⟨call, Request.request?_of_call? hcall, congrArg _ hcalls⟩ }

end Simulator

/-- However a call that is not about devices ends, it leaves what such a call can. -/
theorem Command.serves {α : Type} (c : Command α) [c.Requested]
    (hop : c.operation.ofDevices = false) : Simulator.Serves c.request.asks? c := by
  intro s
  have hnoted : s.Served c.request.asks? (s.noted c.request) := by
    rw [Simulator.noted]
    cases hcall : c.request.call? s with
    | none => exact .refl
    | some call => exact Simulator.Served.refl.logged rfl hcall
  refine (c.leads_request s).mono (fun _ s' h => ?_) (fun _ _ h => h ▸ hnoted)
    fun _ h => h.1 ▸ hnoted
  cases h with
  | intro hcall he hleft =>
    rw [hleft]
    exact (he.served (c.operation_request ▸ hop)).logged he.calls hcall

end StreamCompute
