/-
  StreamCompute.Proofs.Custody

  Who holds what. The invariant of a machine, `InOrder`, says that the records
  of remote resources agree with the driver, that the arenas of unfinished
  executions are disjoint and their claims are marked on the records, and that
  what an execution may still touch is live and unmapped.

  Hooks may run whole operations in the middle of others, so the invariant has
  to survive at every driver call, with any number of calls under way. What
  the calls under way rely on is written down in `Holdings`; an operation that
  keeps the invariant for all holdings disturbs none of them.
-/
import StreamCompute.Proofs.CallLog

namespace StreamCompute

/-! ## Work of the device -/

/-- The call lets the device touch the resource through the context. -/
def Call.Touches (s : Simulator) (context : Ident .context) (resource : Ident .resource) :
    Call → Prop
  | .copyMemory c source target => c = context ∧ (resource = source ∨ resource = target)
  | .runProgram c _ => c = context ∧ ∃ register, (register, resource) ∈ s.boundResources c
  | _ => False

/-- The resource is live and not mapped. -/
def Idle (resources : Assoc (Ident .resource) Resource) (id : Ident .resource) : Prop :=
  ∃ res, resources.get? id = some res ∧ res.mapped = false

/-- At this moment the resource is idle, and an unfinished execution has the context. If a
    remote resource of a caller is behind it, then it is marked as in flight, and this
    execution claims it and no other unfinished execution does. -/
def Moment.Guards (mo : Moment) (context : Ident .context) (resource : Ident .resource) : Prop :=
  Idle mo.found.resources resource ∧
    ∃ key arena, mo.arenas.get? key = some arena ∧ arena.context = context ∧
      ∀ r status, mo.remotes.get? r = some status → r.id = resource →
        status.inFlight = true ∧ r ∈ arena.claims ∧
          ∀ key' arena', mo.arenas.get? key' = some arena' → r ∈ arena'.claims → key' = key

/-- An accepted call is in the log, and whatever it lets the device touch is guarded. -/
def Moment.Safe (mo : Moment) : Prop :=
  mo.verdict = .accepted → ∃ call, mo.accepted? = some call ∧ call.operation = mo.operation ∧
    ∀ context resource, call.Touches mo.found context resource → mo.Guards context resource

def Quiet (history : List Moment) : Prop :=
  ∀ mo ∈ history, mo.verdict ≠ .cutOff

/-! ## Records -/

/-- The status of an unfreed remote resource agrees with the driver's resource. -/
structure Matches (serial : Nat) (r : Remote) (status : RemoteStatus) (res : Resource) :
    Prop where
  place : res.place = .onHost
  layout : res.layout = .ofShape r.shape
  format : res.format = r.format
  pitch : res.pitch = status.pitch
  size : res.bytes.size = res.pitch * res.layout.height * res.format.elementSize
  small : res.bytes.size < UInt64.size
  mapped : res.mapped = status.mapped
  link : ∀ link, status.link = some link → link = ⟨serial, res.moves⟩

theorem Matches.size_eq {serial : Nat} {r : Remote} {status : RemoteStatus} {res : Resource}
    (h : Matches serial r status res) :
    res.bytes.size = status.pitch * r.shape.height * r.format.elementSize := by
  have hheight : res.layout.height = r.shape.height := by
    rw [h.layout, ← congrArg Shape.height (Layout.shape_ofShape r.shape)]
    rfl
  rw [h.size, h.pitch, hheight, h.format]

/-- The record of a remote resource agrees with the driver. -/
structure Agrees (serial : Nat) (resources : Assoc (Ident .resource) Resource) (r : Remote)
    (status : RemoteStatus) : Prop where
  freed : status.freed = true →
    resources.get? r.id = none ∧ status.link = none ∧ status.inFlight = false
  live : status.freed = false →
    ∃ res, resources.get? r.id = some res ∧ Matches serial r status res

/-! ## Arenas -/

/-- Only mappings of remote resources that were claimed before were ended. -/
def Arena.Ordered (a : Arena) : Prop :=
  ∀ before register r after, a.acquired = before ++ .unmapped register r :: after →
    .flight r ∈ before

/-- The resource that a memory object made right after this is for. -/
def Acquired.exposes? : Acquired → Option (Ident .resource)
  | .flight r => some r.id
  | .unmapped _ r => some r.id
  | .transient _ id => some id
  | .memory _ => none

/-- The resource that a memory object made next is for. -/
def Arena.exposed? (a : Arena) : Option (Ident .resource) :=
  a.acquired.reverse.findSome? Acquired.exposes?

/-- The memory object was made for the resource. -/
def Arena.Shows (a : Arena) (memory : Ident .memory) (resource : Ident .resource) : Prop :=
  ∃ before after, a.acquired = before ++ .memory memory :: after ∧
    before.reverse.findSome? Acquired.exposes? = some resource

/-- What holds of the arena of every unfinished execution. -/
structure Entered (next : Nat) (resources : Assoc (Ident .resource) Resource)
    (remotes : Assoc Remote RemoteStatus) (a : Arena) : Prop where
  context : a.context.number < next
  ordered : a.Ordered
  nodup : a.claims.Nodup
  claims : ∀ r ∈ a.claims, ∃ status, remotes.get? r = some status ∧ status.inFlight = true
  transients : ∀ t ∈ a.transients, t.2.number < next ∧
    ∀ res, resources.get? t.2 = some res → res.place = .onDevice

structure Apart (a b : Arena) : Prop where
  context : a.context ≠ b.context
  claims : ∀ r ∈ a.claims, r ∉ b.claims
  transients : ∀ t ∈ a.transients, ∀ u ∈ b.transients, t.2 ≠ u.2

/-- What holds of the arena of an execution whose kernel may still run. The one exception is
    the remote resource that is just being claimed, which may still be mapped. -/
structure Sound (memories : Assoc (Ident .memory) (Ident .context × Ident .resource))
    (bindings : Assoc (Ident .context) (Assoc String (Ident .memory)))
    (resources : Assoc (Ident .resource) Resource) (remotes : Assoc Remote RemoteStatus)
    (a : Arena) (claiming : Option Remote) : Prop where
  shows : ∀ memory resource, a.Shows memory resource →
    memories.get? memory = some (a.context, resource)
  memories : ∀ memory ∈ a.memories, ∃ resource, memories.get? memory = some (a.context, resource) ∧
    Idle resources resource ∧
      ((∃ register, (register, resource) ∈ a.transients) ∨ ∃ r ∈ a.claims, r.id = resource)
  bindings : ∀ bound, bindings.get? a.context = some bound → ∀ e ∈ bound, e.2 ∈ a.memories
  copies : ∀ c ∈ a.copies, a.Shows c.remoteMemory c.remote.id ∧
    a.Shows c.transientMemory c.transient
  withdrawn : ∀ r ∈ a.claims, claiming ≠ some r →
    ∀ status, remotes.get? r = some status → status.link = none

/-! ## Calls under way -/

/-- An execution that is being set up or waited for. -/
structure Frame where
  key : ExecutionKey
  arena : Arena
  /-- The remote resource that is just being claimed. -/
  claiming : Option Remote := none
  /-- The token of its kernel, for whoever relies on what is known of it. -/
  token? : Option (Ident .event) := none

/-- What the calls that are under way hold. -/
structure Holdings where
  /-- Numbers of executions that have no arena yet. -/
  reserved : List ExecutionKey := []
  /-- Remote resources that are being mapped, unmapped or freed. -/
  calls : List Remote := []
  steady : List Frame := []
  /-- Executions that are being taken down. -/
  falling : List (ExecutionKey × Arena) := []
  /-- Device resources that are in nobody's arena. -/
  locals : List (Ident .resource) := []
  /-- Host resources that have no record yet. -/
  newborn : List (Ident .resource × Layout × Format) := []
  /-- Remote resources that were seen freed. -/
  freed : List Remote := []
  /-- Numbers of executions that were seen running. -/
  running : List ExecutionKey := []

/-- What a program on top of a machine keeps. -/
class Keeper (ω : Type) where
  executions : ω → List Execution
  locals : ω → List (Ident .resource)

namespace Holdings

/-- The executions that calls under way are at work on. -/
def keys (g : Holdings) : List ExecutionKey :=
  g.steady.map Frame.key ++ g.falling.map Prod.fst

end Holdings

/-- A device resource that is in nobody's arena. -/
structure Loose (next : Nat) (resources : Assoc (Ident .resource) Resource)
    (arenas : Assoc ExecutionKey Arena) (id : Ident .resource) : Prop where
  number : id.number < next
  place : ∀ res, resources.get? id = some res → res.place = .onDevice
  unowned : ∀ key a, arenas.get? key = some a → ∀ t ∈ a.transients, t.2 ≠ id

/-- A host resource that has no record yet. -/
structure Newborn (resources : Assoc (Ident .resource) Resource)
    (remotes : Assoc Remote RemoteStatus) (id : Ident .resource) (layout : Layout)
    (format : Format) : Prop where
  live : ∃ res, resources.get? id = some res ∧ res.place = .onHost ∧ res.layout = layout ∧
    res.format = format ∧
    res.bytes.size = res.pitch * res.layout.height * res.format.elementSize ∧
    res.bytes.size < UInt64.size
  unrecorded : ∀ r status, remotes.get? r = some status → r.id ≠ id

/-! ## The invariant -/

variable {κ ω : Type} [Keeper ω]

/-- The machine is in order, given what the calls under way hold. As long as no call has been
    cut off, every mark on a record has someone behind it. -/
structure InOrder (allowed : κ → Prop) (g : Holdings) (m : Machine κ ω) : Prop where
  numbered : m.platform.driver.Numbered
  hooks : ∀ hook ∈ m.platform.hooks, allowed hook.2
  safe : ∀ mo ∈ m.history, mo.Safe
  keys : ∀ key a, m.arenas.get? key = some a →
    key.1 = m.platform.serial ∧ key.2.number < m.platform.nextExecution
  records : ∀ r status, m.remotes.get? r = some status →
    Agrees m.platform.serial m.platform.driver.resources r status
  issued : ∀ r status, m.remotes.get? r = some status →
    r.id.number < m.platform.driver.nextNumber
  single : ∀ r r' status status', m.remotes.get? r = some status →
    m.remotes.get? r' = some status' → r.id = r'.id → r = r'
  entered : ∀ key a, m.arenas.get? key = some a →
    Entered m.platform.driver.nextNumber m.platform.driver.resources m.remotes a
  apart : ∀ key a key' a', m.arenas.get? key = some a → m.arenas.get? key' = some a' →
    key ≠ key' → Apart a a'
  reserved : ∀ key ∈ g.reserved, key.1 = m.platform.serial ∧
    key.2.number < m.platform.nextExecution ∧ m.arenas.get? key = none
  reservedOnce : g.reserved.Nodup
  calls : ∀ r ∈ g.calls, (∃ status, m.remotes.get? r = some status ∧ status.inFlight = true) ∧
    ∀ key a, m.arenas.get? key = some a → r ∉ a.claims
  callsOnce : g.calls.Nodup
  steady : ∀ f ∈ g.steady, m.arenas.get? f.key = some f.arena ∧
    Sound m.platform.driver.memories m.platform.driver.bindings m.platform.driver.resources
      m.remotes f.arena f.claiming
  falling : ∀ f ∈ g.falling, m.arenas.get? f.1 = some f.2
  held : ∀ e ∈ Keeper.executions m.host, ∃ a, m.arenas.get? e.key = some a ∧
    a.context = e.context ∧
    Sound m.platform.driver.memories m.platform.driver.bindings m.platform.driver.resources
      m.remotes a none
  owners : (g.keys ++ (Keeper.executions m.host).map Execution.key).Nodup
  locals : ∀ id ∈ g.locals ++ Keeper.locals m.host,
    Loose m.platform.driver.nextNumber m.platform.driver.resources m.arenas id
  localsOnce : (g.locals ++ Keeper.locals m.host).Nodup
  newborn : ∀ n ∈ g.newborn, Newborn m.platform.driver.resources m.remotes n.1 n.2.1 n.2.2
  newbornOnce : (g.newborn.map Prod.fst).Nodup
  freed : ∀ r ∈ g.freed, ∃ status, m.remotes.get? r = some status ∧ status.freed = true
  tight : Quiet m.history → ∀ r status, m.remotes.get? r = some status →
    status.inFlight = true → r ∈ g.calls ∨ ∃ key a, m.arenas.get? key = some a ∧ r ∈ a.claims
  settled : Quiet m.history → ∀ key a, m.arenas.get? key = some a → key ∉ g.keys →
    ∀ r ∈ a.claims, ∀ status, m.remotes.get? r = some status → status.link = none
  running : ∀ key ∈ g.running,
    key.1 = m.platform.serial ∧ key.2.number < m.platform.nextExecution
  progressed : ∀ key p, m.progress.get? key = some p →
    key.1 = m.platform.serial ∧ key.2.number < m.platform.nextExecution
  watched : ∀ f ∈ g.steady, ∀ event, f.token? = some event →
    ∀ p, m.progress.get? f.key = some p → p.done = true →
      ∃ mo ∈ m.history, mo.Asked f.arena.context event .done

/-- A machine is in order before anything has happened, if the program on top keeps nothing. -/
theorem InOrder.initial {allowed : κ → Prop} {serial : Nat} {spec : Spec} {config : Config}
    {host : ω} (hexecutions : Keeper.executions host = []) (hlocals : Keeper.locals host = []) :
    InOrder allowed {} ({ platform := { serial, driver := { spec }, config }, host } :
      Machine κ ω) where
  numbered := ⟨.nil, .nil, .nil, .nil, .nil, .nil, .nil, nofun, nofun⟩
  hooks := nofun
  safe _ h := nomatch h
  keys _ _ h := nomatch h
  records _ _ h := nomatch h
  issued _ _ h := nomatch h
  single _ _ _ _ h := nomatch h
  entered _ _ h := nomatch h
  apart _ _ _ _ h := nomatch h
  reserved := nofun
  reservedOnce := List.nodup_nil
  calls := nofun
  callsOnce := List.nodup_nil
  steady := nofun
  falling := nofun
  held e he := by
    rw [show Keeper.executions _ = [] from hexecutions] at he
    cases he
  owners := by
    rw [show Keeper.executions _ = [] from hexecutions]
    exact List.nodup_nil
  locals id hid := by
    rw [show Keeper.locals _ = [] from hlocals] at hid
    cases hid
  localsOnce := by
    rw [show Keeper.locals _ = [] from hlocals]
    exact List.nodup_nil
  newborn := nofun
  newbornOnce := List.nodup_nil
  freed := nofun
  tight _ _ _ h := nomatch h
  settled _ _ _ h := nomatch h
  running := nofun
  progressed _ _ h := nomatch h
  watched := nofun

end StreamCompute
