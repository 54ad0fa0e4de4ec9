/-
  StreamCompute.Proofs.DeviceErrors

  Which errors turn a request down for what it names. Only the check of a device
  answers that it is not current, and only a binding table that it has a register
  already; whatever goes wrong after that in allocating, compiling, launching or
  joining is another error. For a launch this is an instance of what its errors
  are once its request was checked, whatever hooks do.
-/
import StreamCompute.Proofs.Operations
import StreamCompute.Proofs.Refusals

namespace StreamCompute

open Fallible

variable {κ ω α β : Type}

/-- The error says that a device is not current, or that a register is bound already. -/
def Error.rejectsRequest : Error → Bool
  | .invalidDevice .. => true
  | .duplicateRegister _ => true
  | _ => false

abbrev Fallible.FailsOnly (B : Error → Prop) (act : Task κ ω α) : Prop :=
  act.Upholds (fun _ => True) (fun e _ => B e) fun _ => True

/-- Whatever goes wrong, the request was not turned down for what it names. -/
abbrev Fallible.Accepts (act : Task κ ω α) : Prop :=
  act.FailsOnly fun e => e.rejectsRequest = false

section Kinds

variable {B : Error → Prop}

/-- A failure of the driver becomes an error of the kind. -/
theorem Fallible.Upholds.wrapped {act : Drive κ ω α} {wrap : DriverError → Error}
    (hwrap : ∀ d, B (wrap d)) : (act.mapError wrap).FailsOnly B :=
  .mapError fun _ _ => leads_true.mono (fun _ _ h => h) (fun d _ _ => hwrap d) fun _ h => h

theorem Fallible.Upholds.modified {f : Machine κ ω → Machine κ ω} :
    (modify f : Task κ ω PUnit).FailsOnly B :=
  .change fun _ h => h

theorem Act.upholds_true {act : Act (Machine κ ω) α} :
    act.Upholds (fun _ => True) fun _ => True :=
  fun _ _ => Act.leads_true

theorem Performance.timed_fails {fields : Fields} {act : Task κ ω α} (h : act.FailsOnly B) :
    (timed fields act).FailsOnly B :=
  fun m hm => leads_timed.mpr (h m hm)

end Kinds

/-! ## Names of refusals -/

namespace Simulator

/-- Where the part of a call is refused, the refusal has the name of an entry point. -/
abbrev Named (act : Sim α) : Prop :=
  act.Upholds (fun _ => True) (fun d _ => ∃ op : Operation, d.operation = op.name) fun _ => True

theorem allocate_named {place : Placement} {device : Ident .device} {layout : Layout}
    {format : Format} {flags : AllocFlags} :
    Named (allocate place device layout format flags).run := by
  intro s _
  have hmeets := (Request.allocate place device layout format flags).command_meets s
  refine (leads_map.mp hmeets).mono (fun _ _ _ => trivial) (fun d _ hd => ?_) fun _ _ => trivial
  rcases hd with hd | ⟨-, hown⟩
  · have hstruck : (s.struck? (.allocate place layout format flags)).or none = some d := hd
    rw [Option.or_none] at hstruck
    obtain ⟨_, -, rfl⟩ := Option.map_eq_some_iff.mp hstruck
    exact ⟨_, rfl⟩
  · exact hown.named

end Simulator

/-- The kind has every error that a launch can meet once its request was checked: failures of the
    driver, of which an allocation names the entry point, and claims that are refused. -/
structure Error.MetInLaunch (B : Error → Prop) : Prop where
  execution : ∀ d, B (.execution d)
  binding : ∀ register d, B (.binding register d)
  allocation : ∀ d (op : Operation), d.operation = op.name → B (.allocation d)
  freed : ∀ id, B (.resourceFreed id)
  busy : ∀ id, B (.resourceBusy id)

section Accepting

variable [Reentry κ ω]

section Launching

variable {B : Error → Prop} (hB : Error.MetInLaunch B)

include hB

omit [Reentry κ ω] in
theorem Memory.claim_fails {r : Remote} : (claim r : Task κ ω Unit).FailsOnly B := by
  refine .bind .get fun m => ?_
  unfold Remote.claimRefusal?
  split
  · rename_i e he
    split at he
    · cases he
      exact .throw fun _ _ => hB.freed _
    · split at he
      · cases he
        exact .throw fun _ _ => hB.busy _
      · cases he
  · exact .modified

theorem Memory.request_fails {place : Placement} {device : Ident .device} {shape : Shape}
    {format : Format} {flags : AllocFlags} : (Machine.driveAs .allocation
      (request place device shape format flags) : Task κ ω _).FailsOnly B := by
  refine .mapError fun m _ => ?_
  unfold Machine.drive
  rw [leads_bind, leads_perform]
  refine Act.leads_true.imp fun _ m₁ _ => ?_
  rw [Machine.leads_handle]
  exact (Simulator.allocate_named _ trivial).mono (fun _ _ h => h)
    (fun d _ ⟨op, hop⟩ => hB.allocation d op hop) fun _ h => h

theorem Binder.binds_met {site : BindSite} {e : String × Binding} :
    Binds site e (fun _ : Machine κ ω => True) (fun err _ => B err) fun _ => True where
  journal _ _ h := h
  arena _ _ h := h
  withdraw := .wrapped (hB.binding e.1)
  memory := .wrapped (hB.binding e.1)
  register := .wrapped (hB.binding e.1)
  bind := .wrapped (hB.binding e.1)
  copyIn := Performance.timed_fails <| .bind (.wrapped (hB.binding e.1)) fun _ =>
    .bind .get fun _ => .modified
  scratch _ := Memory.request_fails hB
  transient _ := Memory.request_fails hB _

namespace Launch

theorem openSite_fails {owner : ExecutionKey} {image : Image} {device : Device} :
    (openSite owner image device : Task κ ω BindSite).FailsOnly B := by
  refine .bind .get fun _ => .bind (.wrapped hB.execution) fun context => .bind .modified fun _ => ?_
  refine .bind (.perform Act.upholds_true) fun answer => ?_
  cases answer with
  | ok module => exact .pure
  | error e =>
    exact .bind (.perform Act.upholds_true) fun _ => .bind .modified fun _ =>
      .throw fun _ _ => hB.execution e

theorem begin_fails {id : ExecutionId} {image : Image} {q : LaunchRequest} :
    (begin id image q : Task κ ω Execution).FailsOnly B := by
  have hbind : ∀ site conventions, (q.table.ordered.forM (Binder.bindEntry site conventions) :
      Task κ ω PUnit).FailsOnly B := fun _ _ => .forM fun _ _ _ =>
    Binder.bindEntry_leads (Binder.binds_met hB) (fun _ => trivial)
      fun _ _ => Memory.claim_fails hB _ trivial
  exact fun m hm => leads_begin (Q := fun _ _ => True) (F := fun _ e _ => B e)
    (openSite_fails hB m hm)
    (fun site m₁ h₁ => (hbind site _ m₁ h₁).mono (fun _ _ h => h) (fun _ _ h _ => h) fun _ h => h)
    (fun _ _ _ => leads_true.mono (fun _ _ _ _ => trivial) (fun d _ _ => hB.execution d)
      fun _ h => h) fun _ _ _ he => Act.leads_true.imp fun _ _ _ => he

end Launch

end Launching

namespace Launch

omit [Reentry κ ω] in
theorem rejectsRequest_of_refusal? {info : DeviceInfo} {status : Remote → RemoteStatus}
    {entries : List (String × Binding)} {seen : List Remote} {e : Error}
    (h : BindingTable.refusal? info status entries seen = some e) : e.rejectsRequest = false := by
  induction entries generalizing seen with
  | nil => cases h
  | cons entry rest ih =>
    obtain ⟨register, binding⟩ := entry
    unfold BindingTable.refusal? at h
    split at h
    · rename_i hscratch
      cases h
      unfold BindingTable.scratchRefusal? at hscratch
      split at hscratch
      · obtain ⟨detail, -, rfl⟩ := Option.map_eq_some_iff.mp hscratch
        rfl
      · cases hscratch
    · split at h
      · exact ih h
      · split at h
        · cases h
          rfl
        · split at h
          · cases h
            rfl
          · exact ih h

/-- A launch once its device was checked. -/
def checked (image : Image) (q : LaunchRequest) : Task κ ω Execution := do
  preflight q
  let id ← nextId
  Performance.timed
    [("name", .text "launch"), ("execution", .nat id.number), ("registers", .nat q.table.size)]
    (begin id image q)

theorem launch_eq_check {image : Image} {q : LaunchRequest} :
    (launch image q : Task κ ω Execution) = Devices.check q.device >>= fun _ => checked image q :=
  rfl

theorem checked_accepts {image : Image} {q : LaunchRequest} :
    (checked image q : Task κ ω Execution).Accepts := by
  have hmet : Error.MetInLaunch fun e => e.rejectsRequest = false :=
    ⟨fun _ => rfl, fun _ _ => rfl, fun _ _ _ => rfl, fun _ => rfl, fun _ => rfl⟩
  refine .bind (.bind .get fun m => ?_) fun _ => .bind ?_ fun id =>
    Performance.timed_fails (begin_fails hmet)
  · split
    · rename_i e he
      exact .throw fun _ _ => rejectsRequest_of_refusal? he
    · exact .pure
  · exact .bind .get fun _ => .bind .modified fun _ => .pure

end Launch

omit [Reentry κ ω] in
theorem Shape.validate_accepts {shape : Shape} {info : DeviceInfo} :
    (Fallible.answer (shape.validate info) : Task κ ω Unit).Accepts := by
  intro m _
  unfold Shape.validate
  cases shape.refusal? info with
  | none => trivial
  | some detail => rfl

namespace Execution

variable {e : Execution}

theorem finalize_accepts {failure : Option Error} {m : Machine κ ω}
    (hfailure : ∀ err, failure = some err → err.rejectsRequest = false) :
    (finalize e failure).Leads m (fun _ _ => True) (fun err _ => err.rejectsRequest = false)
      fun _ => True := by
  have hor : ∀ (first : Option Error) (err : Error),
      (∀ err, first = some err → err.rejectsRequest = false) → err.rejectsRequest = false →
      ∀ err', first.or (some err) = some err' → err'.rejectsRequest = false := by
    intro first err h herr err' herr'
    cases first with
    | some _ => exact h err' herr'
    | none =>
      cases herr'
      exact herr
  have htakes : TakesDown e (e.arena m) (fun _ first (_ : Machine κ ω) =>
      ∀ err, first = some err → err.rejectsRequest = false) fun _ => True :=
    .of_errors (fun first _ h => hor first _ h rfl) fun first _ _ h => hor first _ h rfl
  exact (htakes.finalize rfl hfailure).mono (fun _ _ _ => trivial) (fun err _ h => h err rfl)
    fun _ h => h

theorem join_accepts : (join e : Task κ ω Summary).Accepts := by
  refine .bind (fun m _ => leads_joinWithin (Q := fun _ _ => True) (E := fun _ _ => True)
    (fun _ => finalize_accepts nofun) leads_true (fun _ _ _ => finalize_accepts nofun)
    (fun _ _ _ _ => trivial) fun d _ _ _ => finalize_accepts fun err herr => ?_) fun summary => ?_
  · cases herr
    rfl
  · cases summary with
    | some summary => exact .pure
    | none => exact .throw fun _ _ => rfl

end Execution

end Accepting

end StreamCompute
