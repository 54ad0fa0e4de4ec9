/-
  StreamCompute.Proofs.CallLog

  What the history tells of the calls in it. Every call but one is logged
  before anything else happens, so its moment has the call as it was logged,
  whether it was accepted or refused. An accepted call that acquires something
  takes the next number, so its moment also tells which call would give that
  back.

  Where no hook interferes, a driver call adds one moment to the history, and
  an operation adds a trace of them, the oldest first.
-/
import StreamCompute.Proofs.Effects

namespace StreamCompute

open Fallible

/-! ## Moments -/

/-- What a token answers when it is asked. -/
def Token.answer (t : Token) : Status :=
  if t.pending = 0 then t.error.elim .done .failed else .pending

/-- The call that gives back what a call acquires under this number. -/
def Call.release? (number : Nat) : Call → Option Call
  | .createContext _ => some (.destroyContext ⟨number⟩)
  | .loadModule context _ => some (.unloadModule context ⟨number⟩)
  | .getMemory context _ => some (.releaseMemory context ⟨number⟩)
  | .allocate .. => some (.freeResource ⟨number⟩)
  | .unmapResource resource => some (.mapResource resource)
  | _ => none

namespace Moment

variable {mo : Moment} {call : Call}

def call? (mo : Moment) : Option Call :=
  if mo.found.calls.length < mo.left.calls.length then mo.left.calls.head? else none

/-- The call that gives back what the call has acquired. -/
def release? (mo : Moment) : Option Call :=
  mo.accepted?.bind (Call.release? mo.found.nextNumber)

/-- A token of the context was asked and gave this answer. -/
structure Asked (context : Ident .context) (event : Ident .event) (status : Status)
    (mo : Moment) : Prop where
  operation : mo.operation = .queryEvent
  call : mo.call? = some (.queryEvent context event)
  accepted : mo.verdict = .accepted
  answer : (mo.found.tokens.get? event).map Token.answer = some status

theorem call?_of_logged (h : mo.left.calls = call :: mo.found.calls) : mo.call? = some call := by
  have hlength : mo.found.calls.length < mo.left.calls.length := by
    rw [h]
    exact Nat.lt_succ_self _
  rw [call?, if_pos hlength, h, List.head?_cons]

theorem accepted?_of_logged (h : mo.left.calls = call :: mo.found.calls)
    (haccepted : mo.verdict = .accepted) : mo.accepted? = some call := by
  rw [accepted?, if_pos haccepted, h, List.head?_cons]

theorem accepted?_of_ne (h : mo.verdict ≠ .accepted) : mo.accepted? = none :=
  if_neg h

theorem release?_of_ne (h : mo.verdict ≠ .accepted) : mo.release? = none := by
  rw [release?, accepted?_of_ne h, Option.bind_none]

end Moment

/-! ## What calls are logged as -/

/-- However the call ends, it is logged like this. -/
def Command.Logs {α : Type} (c : Command α) (call : Call) (s : Simulator) : Prop :=
  c.run.Leads s (fun _ s' => s'.calls = call :: s.calls) (fun _ s' => s'.calls = call :: s.calls)
    fun _ => True

theorem Command.logs {α : Type} {c : Command α} [c.Requested] {call : Call} {s : Simulator}
    (h : c.request.call? s = some call) : c.Logs call s := by
  have hnoted : (s.noted c.request).calls = call :: s.calls := by
    rw [Simulator.noted, h]
    rfl
  exact (c.leads_request s).mono (fun _ _ hs => hs.calls h) (fun _ _ hs => hs ▸ hnoted)
    fun _ _ => trivial

namespace Simulator

variable {s : Simulator} {context : Ident .context}

/-- A copy is logged by the resources behind its memory objects. -/
theorem copyMemory_logs {source target : Ident .memory} {src dst : Ident .resource}
    (hsource : s.memories.get? source = some (context, src))
    (htarget : s.memories.get? target = some (context, dst)) :
    (copyMemory context source target).Logs (.copyMemory context src dst) s := by
  apply Command.logs
  change ((s.memoryOf? context source).bind fun x => (s.memoryOf? context target).map _) = _
  rw [memoryOf?_eq_some_iff.mpr hsource, memoryOf?_eq_some_iff.mpr htarget]
  rfl

theorem queryEvent_answers {event : Ident .event} :
    (queryEvent context event).run.Leads s
      (fun status _ => (s.tokens.get? event).map Token.answer = some status) (fun _ _ => True)
      fun _ => True := by
  refine queryEvent_leads (fun _ => trivial) (fun token n htoken _ hn => ?_)
    fun token htoken _ hn => ?_
  · simp [htoken, Token.answer, hn]
  · simp [htoken, Token.answer, hn]

end Simulator

/-! ## Traces -/

namespace Machine

variable {κ ω α : Type} {m m' m'' : Machine κ ω} {c : Command α} {call : Call}
  {trace trace' : List Moment} {op : Operation} {verdict : Verdict} {s : Simulator}

def moment (op : Operation) (verdict : Verdict) (driver : Simulator) (m : Machine κ ω) : Moment :=
  { operation := op, serial := m.platform.serial, found := m.platform.driver, left := driver,
    verdict, remotes := m.remotes, arenas := m.arenas }

theorem history_handled : (m.handled op verdict s).history = m.moment op verdict s :: m.history :=
  rfl

theorem call?_moment (h : s.calls = call :: m.platform.driver.calls) :
    (m.moment op verdict s).call? = some call :=
  Moment.call?_of_logged h

theorem accepted?_moment (h : s.calls = call :: m.platform.driver.calls) :
    (m.moment op .accepted s).accepted? = some call :=
  Moment.accepted?_of_logged h rfl

theorem release?_moment (h : s.calls = call :: m.platform.driver.calls) :
    (m.moment op .accepted s).release? = call.release? m.platform.driver.nextNumber := by
  rw [Moment.release?, accepted?_moment h]
  rfl

/-- Nothing but the driver calls of the trace lies between the two machines. -/
structure Called (m : Machine κ ω) (trace : List Moment) (m' : Machine κ ω) : Prop where
  history : m'.history = trace.reverse ++ m.history
  rest : ∃ driver journal history,
    m' = { m with platform := { m.platform with driver }, journal, history }

namespace Called

theorem refl : m.Called [] m :=
  ⟨rfl, m.platform.driver, m.journal, m.history, rfl⟩

theorem trans (h : m.Called trace m') (h' : m'.Called trace' m'') :
    m.Called (trace ++ trace') m'' := by
  refine ⟨?_, ?_⟩
  · rw [h'.history, h.history, List.reverse_append, List.append_assoc]
  · obtain ⟨_, _, _, rfl⟩ := h.rest
    obtain ⟨driver, journal, history, rfl⟩ := h'.rest
    exact ⟨driver, journal, history, rfl⟩

theorem journal (h : m.Called trace m') {journal : List Event} :
    m.Called trace { m' with journal } := by
  refine ⟨h.history, ?_⟩
  obtain ⟨driver, _, history, rfl⟩ := h.rest
  exact ⟨driver, journal, history, rfl⟩

theorem record (h : m.Called trace m') {e : Event} : m.Called trace (Journaled.record e m') :=
  h.journal

theorem handled : m.Called [m.moment op verdict s] (m.handled op verdict s) :=
  ⟨rfl, _, _, _, rfl⟩

theorem remotes (h : m.Called trace m') : m'.remotes = m.remotes := by
  obtain ⟨_, _, _, rfl⟩ := h.rest
  rfl

theorem arenas (h : m.Called trace m') : m'.arenas = m.arenas := by
  obtain ⟨_, _, _, rfl⟩ := h.rest
  rfl

theorem progress (h : m.Called trace m') : m'.progress = m.progress := by
  obtain ⟨_, _, _, rfl⟩ := h.rest
  rfl

theorem unhooked (h : m.Called trace m') {kind : Operation → Bool} (hm : m.Unhooked kind) :
    m'.Unhooked kind := by
  obtain ⟨_, _, _, rfl⟩ := h.rest
  exact hm

end Called

variable [Reentry κ ω] {kind : Operation → Bool} {ok : α → Machine κ ω → Prop}
  {err : DriverError → Machine κ ω → Prop}

/-- A call that no hook waits for, with what it is logged as. -/
theorem drive_leads_logged {P : α → Simulator → Prop} {Q : DriverError → Simulator → Prop}
    (hooks : m.Unhooked kind) (hop : kind c.operation = true)
    (hlogs : c.Logs call m.platform.driver)
    (hc : c.run.Leads m.platform.driver P Q fun _ => True)
    (hok : ∀ a s, P a s → s.calls = call :: m.platform.driver.calls →
      ok a (m.handled c.operation .accepted s))
    (herr : ∀ e s, Q e s → s.calls = call :: m.platform.driver.calls →
      err e (m.handled c.operation (.refused e) s)) :
    (drive c).Leads m ok err fun _ => True := by
  rw [leads_drive hooks hop]
  exact (hc.and hlogs).mono (fun a s hs => hok a s hs.1 hs.2) (fun e s hs => herr e s hs.1 hs.2)
    fun _ _ => trivial

theorem drive_trace {P : α → Prop} (hooks : m.Unhooked kind) (hop : kind c.operation = true)
    (hlogs : c.Logs call m.platform.driver)
    (hc : c.run.Leads m.platform.driver (fun a _ => P a) (fun _ _ => True) fun _ => True) :
    (drive c).Leads m
      (fun a m' => P a ∧ ∃ mo : Moment, m.Called [mo] m' ∧ mo.operation = c.operation ∧
        mo.accepted? = some call ∧ mo.release? = call.release? m.platform.driver.nextNumber ∧
        mo.found = m.platform.driver)
      (fun e m' => ∃ mo : Moment, m.Called [mo] m' ∧ mo.operation = c.operation ∧
        mo.verdict = .refused e ∧ mo.release? = none) fun _ => True :=
  drive_leads_logged hooks hop hlogs hc
    (fun _ _ ha hcalls => ⟨ha, _, .handled, rfl, accepted?_moment hcalls, release?_moment hcalls,
      rfl⟩)
    fun _ _ _ _ => ⟨_, .handled, rfl, rfl, Moment.release?_of_ne nofun⟩

end Machine

end StreamCompute
