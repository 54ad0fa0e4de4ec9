/-
  StreamCompute.Proofs.DeadContexts

  What a driver still does for a context that was destroyed. Most requests that
  name the context are refused, because they ask whether it is live. The others
  look only at the module, the memory objects or the token that they name. The
  tokens of a context go with it, but its modules and memory objects stay behind,
  so a copy between the latter is still accepted, and its token is then live
  although its context is not.

  `Accounted` says where the modules, memory objects and tokens of a driver come
  from. One request keeps it, and so does every run.
-/
import StreamCompute.Proofs.DriverRuns

namespace StreamCompute

open Fallible Simulator

/-! ## What a granted request has found -/

namespace Request

/-- The context that has to be live for the request to be granted, where that is checked. -/
def checked? : Request → Option (Ident .context)
  | destroyContext c => some c
  | loadModule c _ => some c
  | getMemory c _ => some c
  | bindMemory c _ _ => some c
  | runProgram c _ _ => some c
  | _ => none

/-- The context and the module of a request that looks something up. -/
def lookup? : Request → Option (Ident .context × Ident .module)
  | findRegister c m _ => some (c, m)
  | findEntry c m _ => some (c, m)
  | _ => none

variable {r : Request} {s : Simulator} {a : Answer} {c : Ident .context}

/-- What a request leads to holds where it is granted. -/
theorem of_answer {p : Prop} (h : r.answer? s = some a)
    (hleads : r.command.run.Leads s (fun _ _ => p) (fun _ _ => True) fun _ => True) : p := by
  unfold answer? at h
  rcases hleads.run_cases with ⟨_, _, -, hp⟩ | ⟨_, _, hrun, -⟩ | ⟨_, _, hrun, -⟩
  · exact hp
  all_goals
    rw [hrun] at h
    cases h

/-- A part that does not matter any more. -/
theorem leads_settled {α : Type} {p : Prop} {act : Sim α} (hp : p) :
    act.Leads s (fun _ _ => p) (fun _ _ => True) fun _ => True :=
  leads_true.imp fun _ _ _ => hp

theorem checked_leads {α : Type} {call : Call} {op : Operation} {rest : Sim α} :
    Fallible.Leads (do
      enter call
      requireContext op c
      rest) s (fun _ _ => s.contexts.has c = true) (fun _ _ => True) fun _ => True := by
  refine leads_bind.mpr (enter_leads (fun _ => trivial) (leads_bind.mpr ?_))
  exact requireContext_leads (fun _ => trivial) leads_settled

theorem live_of_answer (hr : r.checked? = some c) (h : r.answer? s = some a) :
    s.contexts.has c = true := by
  refine of_answer h ?_
  cases r <;> cases hr
  case bindMemory => exact leads_map.mpr (leads_bind.mpr checked_leads)
  all_goals exact leads_map.mpr checked_leads

theorem module_of_answer {m : Ident .module} (hr : r.lookup? = some (c, m))
    (h : r.answer? s = some a) : ∃ image, s.modules.get? m = some (c, image) := by
  refine of_answer h ?_
  have hfound : ∀ {image}, s.moduleOf? c m = some image → ∃ image, s.modules.get? m = some (c, image) :=
    fun hi => ⟨_, moduleOf?_eq_some_iff.mp hi⟩
  cases r <;> cases hr <;> refine leads_map.mpr (leads_bind.mpr ?_) <;>
    refine enter_leads (fun _ => trivial) (leads_bind.mpr (leads_bind.mpr ?_))
  case findRegister =>
    exact obtain_leads (fun _ => trivial) fun _ hi => leads_settled (hfound hi)
  case findEntry =>
    refine require_leads (fun _ => trivial) fun hi => leads_settled ?_
    exact hfound (Option.some_get hi).symm

theorem memories_of_answer {x y : Ident .memory} (h : (copyMemory c x y).answer? s = some a) :
    ∃ src dst, s.memories.get? x = some (c, src) ∧ s.memories.get? y = some (c, dst) := by
  refine of_answer h ((command_leads _ s).mono (fun _ _ hgranted => ?_) (fun _ _ _ => trivial)
    fun _ _ => trivial)
  obtain ⟨hcall, -, -⟩ := hgranted
  obtain ⟨src, hsrc, hcall⟩ := Option.bind_eq_some_iff.mp hcall
  obtain ⟨dst, hdst, -⟩ := Option.map_eq_some_iff.mp hcall
  exact ⟨src, dst, memoryOf?_eq_some_iff.mp hsrc, memoryOf?_eq_some_iff.mp hdst⟩

theorem token_of_answer {event : Ident .event} (h : (queryEvent c event).answer? s = some a) :
    ∃ token, s.tokens.get? event = some token ∧ token.context = c := by
  refine of_answer h (leads_map.mpr (leads_bind.mpr ?_))
  refine enter_leads (fun _ => trivial) (leads_bind.mpr (leads_bind.mpr ?_))
  refine obtain_leads (fun _ => trivial) fun token htoken => leads_settled ?_
  obtain ⟨hget, hcontext⟩ := Option.filter_eq_some_iff.mp htoken
  exact ⟨token, hget, beq_iff_eq.mp hcontext⟩

/-- A request for anything but a new resource fails where it is not granted. -/
theorem fails_of_answer (hr : r.asks? = none) (h : r.answer? s = none) :
    ∃ e, r.result s = .ok (.error e) := by
  unfold result
  unfold answer? at h
  rcases (r.command_leads s).run_cases with ⟨_, _, hrun, -⟩ | ⟨e, _, hrun, -⟩ | ⟨_, _, -, -, hasks⟩
  · rw [hrun] at h
    cases h
  · exact ⟨e, by rw [hrun]⟩
  · rw [hr] at hasks
    cases hasks

end Request

/-! ## Where things come from -/

namespace Simulator

def Destroyed (c : Ident .context) (log : Exchanges) : Prop :=
  ∃ a, (.destroyContext c, some a) ∈ log

/-- The request was granted with this answer while the context was not destroyed yet. -/
def MadeIn (c : Ident .context) (r : Request) (a : Answer) (log : Exchanges) : Prop :=
  ∃ before since, log = before ++ (r, some a) :: since ∧ ¬ Destroyed c before

/-- A copy was accepted in the context once it was destroyed, and this is its token. -/
def MadeDead (c : Ident .context) (event : Ident .event) (log : Exchanges) : Prop :=
  ∃ before since x y, log = before ++ (.copyMemory c x y, some (.made .event event)) :: since ∧
    Destroyed c before

/-- What is live was made by the requests of the log: contexts that are destroyed stay so, modules
    and memory objects were made while their contexts were live, and tokens have live contexts
    but for those of copies that came too late. -/
structure Accounted (log : Exchanges) (t : Simulator) : Prop where
  numbered : ∀ c, t.contexts.has c = true ∨ Destroyed c log → c.number < t.nextNumber
  dead : ∀ c, Destroyed c log → t.contexts.has c = false
  modules : ∀ m c image, t.modules.get? m = some (c, image) →
    MadeIn c (.loadModule c image) (.made .module m) log
  memories : ∀ x c resource, t.memories.get? x = some (c, resource) →
    (t.contexts.has c = true ∨ Destroyed c log) ∧
      MadeIn c (.getMemory c resource) (.made .memory x) log
  tokens : ∀ e ∈ t.tokens, t.contexts.has e.2.context = true ∨ MadeDead e.2.context e.1 log

variable {log : Exchanges} {t u : Simulator} {r : Request} {a : Answer} {c : Ident .context}

/-- Only destroying the context destroys it. -/
theorem destroyed_append_iff {e : Request × Option Answer} :
    Destroyed c (log ++ [e]) ↔ Destroyed c log ∨ ∃ a, e = (.destroyContext c, some a) := by
  simp [Destroyed, exists_or, eq_comm]

theorem destroyed_call (h : (Request.destroyContext c).answer? t = some a) :
    Destroyed c (log ++ [(.destroyContext c, (Request.destroyContext c).answer? t)]) :=
  destroyed_append_iff.mpr (Or.inr ⟨a, by rw [h]⟩)

theorem MadeIn.append (h : MadeIn c r a log) (rest : Exchanges) : MadeIn c r a (log ++ rest) := by
  obtain ⟨before, since, rfl, hlive⟩ := h
  exact ⟨before, since ++ rest, by simp, hlive⟩

theorem MadeDead.append {event : Ident .event} (h : MadeDead c event log) (rest : Exchanges) :
    MadeDead c event (log ++ rest) := by
  obtain ⟨before, since, x, y, rfl, hdead⟩ := h
  exact ⟨before, since ++ rest, x, y, by simp, hdead⟩

namespace Accounted

theorem initial {spec : Spec} : Accounted [] { spec } where
  numbered c h := by
    rcases h with h | ⟨_, h⟩
    · cases h
    · cases h
  dead c h := by
    obtain ⟨_, h⟩ := h
    cases h
  modules := nofun
  memories := nofun
  tokens := nofun

/-- One more request that destroys nothing. -/
theorem append (h : Accounted log t) (e : Request × Option Answer)
    (he : ∀ c a, e ≠ (.destroyContext c, some a)) : Accounted (log ++ [e]) t := by
  have hdestroyed : ∀ c, Destroyed c (log ++ [e]) ↔ Destroyed c log := fun c =>
    destroyed_append_iff.trans (or_iff_left fun ⟨a, ha⟩ => he c a ha)
  refine ⟨fun c => ?_, fun c => ?_, fun m c image hm => ?_, fun x c resource hx => ?_, fun e he => ?_⟩
  · rw [hdestroyed]
    exact h.numbered c
  · rw [hdestroyed]
    exact h.dead c
  · exact (h.modules m c image hm).append _
  · rw [hdestroyed]
    exact (h.memories x c resource hx).imp_right (MadeIn.append · _)
  · exact (h.tokens e he).imp_right (MadeDead.append · _)

theorem next (h : Accounted log t) : Accounted log { t with nextNumber := t.nextNumber + 1 } :=
  { h with numbered := fun c hc => Nat.lt_succ_of_lt (h.numbered c hc) }

/-- What is made now is made while its context is live. -/
theorem madeIn (h : Accounted log t) (hlive : t.contexts.has c = true) (r : Request) (a : Answer) :
    MadeIn c r a (log ++ [(r, some a)]) := by
  refine ⟨log, [], rfl, fun hdead => ?_⟩
  rw [h.dead c hdead] at hlive
  cases hlive

theorem tokenMade (h : Accounted log t) {op : Operation}
    {resources : Assoc (Ident .resource) Resource}
    (hnew : t.contexts.has c = true ∨ MadeDead c ⟨t.nextNumber⟩ log) :
    Accounted log (tokenMade op c { t with resources }) := by
  refine { h.next with tokens := fun e he => ?_ }
  rcases Assoc.mem_set he with rfl | he
  · exact hnew
  · exact h.tokens e he

end Accounted

theorem has_contexts_set {contexts : Assoc (Ident .context) (Ident .device)} {context : Ident .context}
    {device : Ident .device} :
    (contexts.set context device).has c = true ↔ context = c ∨ contexts.has c = true := by
  unfold Assoc.has
  rw [Assoc.get?_set]
  by_cases heq : context = c <;> simp [heq]

theorem has_contexts_erase {contexts : Assoc (Ident .context) (Ident .device)}
    {context : Ident .context} :
    (contexts.erase context).has c = true ↔ context ≠ c ∧ contexts.has c = true := by
  unfold Assoc.has
  rw [Assoc.get?_erase]
  by_cases heq : context = c <;> simp [heq]

/-- Every granted request keeps things accounted for. -/
theorem Effect.accounted (he : t.Effect r a u) (h : Accounted log t) (ha : r.answer? t = some a) :
    Accounted (log ++ [(r, some a)]) u := by
  have hlater : (∀ c, r ≠ .destroyContext c) → Accounted (log ++ [(r, some a)]) t := fun hr =>
    h.append _ fun c b hb => hr c (congrArg Prod.fst hb)
  cases he
  case start | stop | countDevices | describeDevice | closeDevice | freeImage | bindMemory |
      freeResource | mapResource | unmapResource | ended =>
    exact { hlater nofun with }
  case openDevice | compile | findRegister | findEntry | allocate =>
    exact { (hlater nofun).next with }
  case createContext device =>
    have hl := hlater nofun
    refine { hl.next with numbered := fun c hc => ?_, dead := fun c hc => ?_,
                          memories := fun x c resource hx => ?_, tokens := fun e he => ?_ }
    · rw [has_contexts_set, or_assoc] at hc
      rcases hc with rfl | hc
      · exact Nat.lt_succ_self _
      · exact Nat.lt_succ_of_lt (hl.numbered c hc)
    · have hne := Ident.ne_of_number_lt (hl.numbered c (Or.inr hc))
      rw [← Bool.not_eq_true, has_contexts_set, hl.dead c hc]
      exact fun hset => hset.elim (fun heq => hne heq.symm) nofun
    · obtain ⟨hlive, hmade⟩ := hl.memories x c resource hx
      exact ⟨hlive.imp_left fun hc => has_contexts_set.mpr (Or.inr hc), hmade⟩
    · exact (hl.tokens e he).imp_left fun hc => has_contexts_set.mpr (Or.inr hc)
  case destroyContext context =>
    have hlive : t.contexts.has context = true := Request.live_of_answer rfl ha
    have hdestroyed : ∀ c, Destroyed c (log ++ [(.destroyContext context, some .done)]) ↔
        Destroyed c log ∨ context = c := fun c => by
      rw [destroyed_append_iff]
      simp
    -- Of what was live, only the context itself is not any more, and its tokens are gone.
    have hkept : ∀ c, c ≠ context → t.contexts.has c = true →
        (t.contexts.erase context).has c = true := fun c hne hc =>
      has_contexts_erase.mpr ⟨hne.symm, hc⟩
    refine ⟨fun c hc => ?_, fun c hc => ?_, fun m c image hm => ?_, fun x c resource hx => ?_,
      fun e he => ?_⟩
    · rw [hdestroyed] at hc
      rcases hc with hc | hc | rfl
      · exact h.numbered c (Or.inl (has_contexts_erase.mp hc).2)
      · exact h.numbered c (Or.inr hc)
      · exact h.numbered _ (Or.inl hlive)
    · rw [← Bool.not_eq_true, has_contexts_erase]
      rintro ⟨hne, hc'⟩
      rcases (hdestroyed c).mp hc with hc | heq
      · cases (h.dead c hc).symm.trans hc'
      · exact hne heq
    · exact (h.modules m c image hm).append _
    · obtain ⟨hc, hmade⟩ := h.memories x c resource hx
      refine ⟨?_, hmade.append _⟩
      rw [hdestroyed]
      by_cases heq : c = context
      · exact Or.inr (Or.inr heq.symm)
      · exact hc.imp (hkept c heq) Or.inl
    · obtain ⟨he, hne⟩ := Assoc.mem_keepValues (p := fun k : Token => k.context ≠ context) he
      exact (h.tokens e he).imp (hkept _ (of_decide_eq_true hne)) (MadeDead.append · _)
  case loadModule context image =>
    have hlive : t.contexts.has context = true := Request.live_of_answer rfl ha
    refine { (hlater nofun).next with modules := fun m c i hm => ?_ }
    rcases Assoc.of_get?_set hm with ⟨rfl, heq⟩ | ⟨-, hm⟩
    · cases heq
      exact h.madeIn hlive _ _
    · exact (h.modules m c i hm).append _
  case unloadModule context module =>
    refine { hlater nofun with modules := fun m c i hm => ?_ }
    exact (h.modules m c i (Assoc.of_get?_erase hm).2).append _
  case getMemory context resource =>
    have hlive : t.contexts.has context = true := Request.live_of_answer rfl ha
    refine { (hlater nofun).next with memories := fun x c i hx => ?_ }
    rcases Assoc.of_get?_set hx with ⟨rfl, heq⟩ | ⟨-, hx⟩
    · cases heq
      exact ⟨Or.inl hlive, h.madeIn hlive _ _⟩
    · exact (hlater nofun).memories x c i hx
  case releaseMemory context memory resource _ =>
    refine { hlater nofun with memories := fun x c i hx => ?_ }
    exact (hlater nofun).memories x c i (Assoc.of_get?_erase hx).2
  case copyMemory context x y dst read written _ =>
    obtain ⟨src, _, hx, -⟩ := Request.memories_of_answer ha
    refine (hlater nofun).tokenMade ((h.memories x context src hx).1.imp_right fun hdead => ?_)
    exact ⟨log, [], x, y, rfl, hdead⟩
  case runProgram context entry domain =>
    exact (hlater nofun).tokenMade (Or.inl (Request.live_of_answer rfl ha))
  case stillPending context event token n htoken _ =>
    refine { hlater nofun with tokens := fun e he => ?_ }
    rcases Assoc.mem_set he with rfl | he
    · exact (hlater nofun).tokens (event, token) (Assoc.mem_of_get? htoken)
    · exact (hlater nofun).tokens e he

theorem Run.accounted {spec : Spec} (h : Run { spec } log t) : Accounted log t :=
  h.keeps (P := Accounted) .initial (fun _ _ _ _ _ _ _ ht => { ht with })
    (fun _ _ _ _ _ _ ht ha he => he.accounted ht ha) fun _ _ _ ht => ht.append _ nofun

end Simulator

/-- What a driver does for a context that was destroyed. Loading a module, making or binding a memory
    object, running a program and destroying the context again fail. A register or an entry
    point is found, and a copy accepted, only by way of modules and memory objects that were made
    before the context was destroyed; a token answers only if it is one of such a copy. Every
    other token that is live has a live context. -/
theorem destroyed_context_takes_only_copies {spec : Spec} {log : Exchanges} {s : Simulator}
    (h : Run { spec } log s) {c : Ident .context} (hdead : Destroyed c log) :
    (∀ r : Request, r.checked? = some c → ∃ e, r.result s = .ok (.error e)) ∧
      (∀ (r : Request) m a, r.lookup? = some (c, m) → r.answer? s = some a →
        ∃ image, MadeIn c (.loadModule c image) (.made .module m) log) ∧
      (∀ x y a, (Request.copyMemory c x y).answer? s = some a →
        ∃ src dst, MadeIn c (.getMemory c src) (.made .memory x) log ∧
          MadeIn c (.getMemory c dst) (.made .memory y) log) ∧
      (∀ event a, (Request.queryEvent c event).answer? s = some a → MadeDead c event log) ∧
      ∀ e ∈ s.tokens, s.contexts.has e.2.context = true ∨ MadeDead e.2.context e.1 log := by
  have haccounted := h.accounted
  have hgone : s.contexts.has c = false := haccounted.dead c hdead
  refine ⟨fun r hr => ?_, fun r m a hr ha => ?_, fun x y a ha => ?_, fun event a ha => ?_,
    haccounted.tokens⟩
  · have hasks : r.asks? = none := by cases r <;> cases hr <;> rfl
    refine Request.fails_of_answer hasks ?_
    cases ha : r.answer? s with
    | none => rfl
    | some a => cases hgone.symm.trans (Request.live_of_answer hr ha)
  · obtain ⟨image, hm⟩ := Request.module_of_answer hr ha
    exact ⟨image, haccounted.modules m c image hm⟩
  · obtain ⟨src, dst, hx, hy⟩ := Request.memories_of_answer ha
    exact ⟨src, dst, (haccounted.memories x c src hx).2, (haccounted.memories y c dst hy).2⟩
  · obtain ⟨token, htoken, rfl⟩ := Request.token_of_answer ha
    rcases haccounted.tokens (event, token) (Assoc.mem_of_get? htoken) with hlive | hlate
    · cases hgone.symm.trans hlive
    · exact hlate

/-- A context that is destroyed as soon as it is created runs nothing. -/
theorem destroyed_context_runs_nothing :
    ∃ log s, Run {} log s ∧ Destroyed ⟨2⟩ log ∧
      ∃ e, (Request.runProgram ⟨2⟩ ⟨3⟩ (.sized 1 1)).result s = .ok (.error e) := by
  obtain ⟨log, s, hrun, hdead⟩ : ∃ log s, Run {} log s ∧ Destroyed ⟨2⟩ log :=
    ⟨_, _, (((Run.rest.call .start).call (.openDevice 0)).call (.createContext ⟨1⟩)).call
      (.destroyContext ⟨2⟩), destroyed_call (a := .done) rfl⟩
  exact ⟨log, s, hrun, hdead, (destroyed_context_takes_only_copies hrun hdead).1 _ rfl⟩

/-- Two memory objects outlive their context. A copy between them is accepted, and its token answers
    although the context is not live. -/
theorem destroyed_context_takes_a_copy :
    let copy := Request.copyMemory ⟨2⟩ ⟨5⟩ ⟨6⟩
    ∃ log s, Run {} log s ∧ Destroyed ⟨2⟩ log ∧ copy.answer? s = some (.made .event ⟨7⟩) ∧
      (copy.outcome s).contexts.has ⟨2⟩ = false ∧
      (Request.queryEvent ⟨2⟩ ⟨7⟩).answer? (copy.outcome s) = some (.status .done) := by
  intro copy
  let allocate := Request.allocate .onDevice ⟨1⟩ (.linear 4) ⟨.float32, .one⟩ .plain
  have hrun : Run {} _ _ :=
    (((((((Run.rest.call .start).call (.openDevice 0)).call (.createContext ⟨1⟩)).call
      allocate).call allocate).call (.getMemory ⟨2⟩ ⟨3⟩)).call (.getMemory ⟨2⟩ ⟨4⟩)).call
      (.destroyContext ⟨2⟩)
  exact ⟨_, _, hrun, destroyed_call (a := .done) (by decide +kernel), by decide +kernel,
    by decide +kernel, by decide +kernel⟩

end StreamCompute
