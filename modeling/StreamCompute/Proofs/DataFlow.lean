/-
  StreamCompute.Proofs.DataFlow

  What a run computes, from end to end. If a run succeeds, the kernel was
  applied once, to the contents that the table gives the registers, and after
  the run its output is in every remote resource that was used in place or is
  copied out, while all other resources are as before. So it makes no
  difference to the contents whether a resource is used in place or copied
  both ways.
-/
import Mathlib.Data.List.Pairwise
import StreamCompute.Proofs.CustodySession
import StreamCompute.Proofs.DeviceCalls
import StreamCompute.Proofs.TakeDown

namespace StreamCompute

open Fallible

variable {κ ω : Type} {base m m' m₁ : Machine κ ω}

/-! ## What a run is to leave -/

/-- The remote resource that gets the kernel's output for a register, if there is one. -/
def Machine.written? (m : Machine κ ω) (register : String) : Binding → Option Remote
  | .direct r => some r
  | .copied r asked => if (m.direction register asked).copiesOut then some r else none
  | .scratch .. => none

theorem Machine.remote?_of_written? {register : String} {binding : Binding} {r : Remote}
    (h : m.written? register binding = some r) : binding.remote? = some r := by
  cases binding with
  | direct r => exact h
  | scratch shape format => cases h
  | copied r asked =>
    rw [written?, Option.ite_none_right_eq_some] at h
    exact h.2

/-- What a resource holds after a run over the entries with this output: the output for the
    register that is written to it, or else what it held before. -/
def Machine.outcome (m : Machine κ ω) (entries : List (String × Binding)) (out : Registers)
    (id : Ident .resource) : Option Bytes :=
  match entries.find? fun e => (m.written? e.1 e.2).map (·.id) = some id with
  | some e => out.get? e.1
  | none => m.platform.driver.held? id

section Outcome

variable {entries : List (String × Binding)} {out : Registers} {e e' : String × Binding}
  {r r' : Remote} {id : Ident .resource}

/-- Where remote resources differ, two entries have one in common only if they are the same. -/
theorem Binding.eq_of_remote (h : (entries.filterMap fun e => e.2.remote?.map (·.id)).Nodup)
    (he : e ∈ entries) (he' : e' ∈ entries) (hr : e.2.remote? = some r)
    (hr' : e'.2.remote? = some r') (hid : r.id = r'.id) : e = e' := by
  rw [List.nodup_iff_pairwise_ne, List.pairwise_filterMap] at h
  have hsymm : Std.Symm fun e e' : String × Binding => ∀ b, e.2.remote?.map (·.id) = some b →
      ∀ b', e'.2.remote?.map (·.id) = some b' → b ≠ b' :=
    ⟨fun x y hxy b hb b' hb' => (hxy b' hb' b hb).symm⟩
  by_contra hne
  exact h.forall he he' hne r.id (by rw [hr, Option.map_some]) r'.id
    (by rw [hr', Option.map_some]) hid

theorem Machine.outcome_of_written
    (h : (entries.filterMap fun e => e.2.remote?.map (·.id)).Nodup) (he : e ∈ entries)
    (hr : m.written? e.1 e.2 = some r) : m.outcome entries out r.id = out.get? e.1 := by
  unfold outcome
  split
  · rename_i e' hfound
    obtain ⟨r', hr', hid⟩ : ∃ r', m.written? e'.1 e'.2 = some r' ∧ r'.id = r.id := by
      simpa using List.find?_some hfound
    have heq := Binding.eq_of_remote h (List.mem_of_find?_eq_some hfound) he
      (remote?_of_written? hr') (remote?_of_written? hr) hid
    rw [heq]
  · rename_i hnone
    have hno := List.find?_eq_none.mp hnone e he
    simp [hr] at hno

theorem Machine.outcome_of_not_written
    (h : ∀ e ∈ entries, ∀ r, m.written? e.1 e.2 = some r → r.id ≠ id) :
    m.outcome entries out id = m.platform.driver.held? id := by
  unfold outcome
  split
  · rename_i e hfound
    obtain ⟨r, hr, hid⟩ : ∃ r, m.written? e.1 e.2 = some r ∧ r.id = id := by
      simpa using List.find?_some hfound
    exact absurd hid (h e (List.mem_of_find?_eq_some hfound) r hr)
  · rfl

end Outcome

/-! ## After the kernel has run -/

namespace Loaded

variable {site : BindSite} {a : Arena} {ties : List Tie} {t : BindingTable} {domain : Domain}
  {tie : Tie} {id : Ident .resource}

/-- A register's resource that is newer than the launch was made for it. -/
theorem made_of_young (h : Loaded base site ties a m) (hn : base.platform.driver.Numbered)
    (htie : tie ∈ ties) (hyoung : base.platform.driver.nextNumber ≤ tie.resource.number) :
    a.made tie.resource = true := by
  by_contra hmade
  have hheld := h.held tie htie
  rw [h.setup.held?_of_made_eq_false (by simpa using hmade)] at hheld
  obtain ⟨res, hres, -⟩ := Simulator.held?_eq_some hheld
  exact Nat.not_lt_of_le hyoung (hn.resources.lt_of_get? hres)

/-- A copied register comes from an entry for its remote resource. -/
theorem tie_of_copy (h : Loaded base site ties a m) {c : CopyRecord} (hc : c ∈ a.copies) :
    ∃ tie ∈ ties, ∃ asked, tie.copy? = some c ∧ tie.binding = .copied c.remote asked ∧
      c.transientMemory = tie.memory ∧ c.direction = base.direction tie.register asked ∧
      base.platform.driver.nextNumber ≤ tie.resource.number := by
  rw [h.copies] at hc
  obtain ⟨tie, htie, hcopy⟩ := List.mem_filterMap.mp hc
  have hright := h.right tie htie
  unfold Tie.Right at hright
  split at hright
  · cases hright.2.symm.trans hcopy
  · rename_i r asked hbinding
    obtain ⟨hyoung, c', hc', rfl, hmemory, hdirection⟩ := hright
    cases hc'.symm.trans hcopy
    exact ⟨tie, htie, asked, hcopy, hbinding, hmemory, hdirection, hyoung⟩
  · cases hright.2.symm.trans hcopy

/-- An entry whose register is copied has left a note. -/
theorem copy_of_entry (h : Loaded base site ties a m) (htie : tie ∈ ties) {r : Remote}
    {asked : Option Direction} (hbinding : tie.binding = .copied r asked) :
    ∃ c ∈ a.copies, c.remote = r ∧ c.direction = base.direction tie.register asked := by
  have hright := h.right tie htie
  rw [Tie.Right, hbinding] at hright
  obtain ⟨-, c, hc, hr, -, hdirection⟩ := hright
  refine ⟨c, ?_, hr, hdirection⟩
  rw [h.copies]
  exact List.mem_filterMap.mpr ⟨tie, htie, hc⟩

variable (h : Loaded base site ties a m) (hfit : base.Fit t.entries)
  (hties : (ties.map Tie.entry).Perm t.entries)

include h hfit hties

/-- No register is tied to the remote resource of a copied one. -/
theorem resource_ne_of_copied (htie : tie ∈ ties) {r : Remote} {asked : Option Direction}
    (hbinding : tie.binding = .copied r asked) : ∀ u ∈ ties, u.resource ≠ r.id := by
  have hentry : ∀ {u : Tie}, u ∈ ties → u.entry ∈ t.entries := fun hu =>
    hties.mem_iff.mp (List.mem_map_of_mem hu)
  have hr : tie.entry.2.remote? = some r := by rw [Tie.entry, hbinding, Binding.remote?]
  intro u hu hid
  obtain ⟨r', hr', hid'⟩ := (h.right u hu).direct_of_lt
    (hid ▸ (hfit.usable _ (hentry htie) r hr).issued)
  have heq := Binding.eq_of_remote hfit.remotes (hentry hu) (hentry htie)
    (by rw [Tie.entry, hr', Binding.remote?]) hr (hid'.symm.trans hid)
  cases hr'.symm.trans ((congrArg Prod.snd heq).trans hbinding)

variable (hn : base.platform.driver.Numbered)

include hn

/-- Apart from what was made for the launch and what is still to be copied back, every resource
    holds what it is to hold as soon as the kernel has run. -/
theorem held?_ran_eq_outcome (hmade : a.made id = false)
    (hother : ∀ c ∈ a.copies, c.direction.copiesOut = true → c.remote.id ≠ id) :
    (m.ran site.context domain).platform.driver.held? id =
      base.outcome t.entries (base.platform.driver.spec.program.apply domain
        (m.platform.driver.registerContents site.context)) id := by
  -- Behind a register there is a resource of the caller itself, or one that was made for it.
  by_cases hany : ∃ tie ∈ ties, tie.resource = id
  · obtain ⟨tie, htie, rfl⟩ := hany
    have hold : tie.resource.number < base.platform.driver.nextNumber := by
      refine Nat.lt_of_not_le fun hyoung => ?_
      cases hmade.symm.trans (h.made_of_young hn htie hyoung)
    obtain ⟨r, hbinding, hid⟩ := (h.right tie htie).direct_of_lt hold
    have hwritten : base.written? tie.entry.1 tie.entry.2 = some r := by
      rw [Tie.entry, hbinding, Machine.written?]
    rw [h.held?_ran hties htie, hid, Machine.outcome_of_written hfit.remotes
      (hties.mem_iff.mp (List.mem_map_of_mem htie)) hwritten, Tie.entry]
  · have hne : ∀ tie ∈ ties, tie.resource ≠ id := fun tie htie heq => hany ⟨tie, htie, heq⟩
    rw [h.held?_ran_of_ne hne, h.setup.held?_of_made_eq_false hmade,
      Machine.outcome_of_not_written fun e he r hr hid => ?_]
    obtain ⟨tie, htie, rfl⟩ := List.mem_map.mp (hties.mem_iff.mpr he)
    rw [Tie.entry] at hr
    cases hbinding : tie.binding with
    | direct r' =>
      rw [hbinding, Machine.written?, Option.some.injEq] at hr
      have hright := h.right tie htie
      rw [Tie.Right, hbinding] at hright
      exact hne tie htie (hright.1.trans (hr ▸ hid))
    | scratch shape format =>
      rw [hbinding] at hr
      cases hr
    | copied r' asked =>
      rw [hbinding, Machine.written?, Option.ite_none_right_eq_some, Option.some.injEq] at hr
      obtain ⟨hout, rfl⟩ := hr
      obtain ⟨c, hc, hremote, hdirection⟩ := h.copy_of_entry htie hbinding
      exact hother c hc (hdirection ▸ hout) (hremote ▸ hid)

/-- Once the kernel has run, its results can be copied back. -/
theorem returning {journal : List Event} :
    Returning (base.outcome t.entries (base.platform.driver.spec.program.apply domain
        (m.platform.driver.registerContents site.context)))
      ((m.ran site.context domain).history.filter Moment.isRun) a site.context
      (a.copies.filter (·.direction.copiesOut)) { m.ran site.context domain with journal } where
  settling := {
    hooks := h.setup.hooks
    runs := rfl
    held := fun id hid => by
      simp only [List.mem_filter, not_or, not_exists, not_and, Bool.not_eq_true] at hid
      exact h.held?_ran_eq_outcome hfit hties hn hid.1
        fun c hc hout => hid.2 c ⟨hc, hout⟩ }
  sources c hc := by
    obtain ⟨hc, hout⟩ := List.mem_filter.mp hc
    obtain ⟨tie, htie, asked, -, hbinding, hmemory, hdirection, hyoung⟩ := h.tie_of_copy hc
    have hwritten : base.written? tie.entry.1 tie.entry.2 = some c.remote := by
      rw [Tie.entry, hbinding, Machine.written?, if_pos (hdirection ▸ hout)]
    refine ⟨tie.resource, hmemory ▸ h.memories tie htie, h.made_of_young hn htie hyoung, ?_⟩
    exact (h.held?_ran hties htie).trans (Machine.outcome_of_written hfit.remotes
      (hties.mem_iff.mp (List.mem_map_of_mem htie)) hwritten).symm
  targets c hc := by
    obtain ⟨tie, htie, asked, hcopy, hbinding, -⟩ := h.tie_of_copy (List.mem_filter.mp hc).1
    have hr : tie.entry.2.remote? = some c.remote := by rw [Tie.entry, hbinding, Binding.remote?]
    exact ⟨h.sources tie htie c hcopy, h.setup.made_eq_false (hfit.usable _
      (hties.mem_iff.mp (List.mem_map_of_mem htie)) c.remote hr).issued⟩
  -- Results are as long as what they replace, because the program keeps the length of registers.
  lengths c hc := by
    obtain ⟨hc, hout⟩ := List.mem_filter.mp hc
    obtain ⟨tie, htie, asked, -, hbinding, -, hdirection, -⟩ := h.tie_of_copy hc
    have hentry := hties.mem_iff.mp (List.mem_map_of_mem (f := Tie.entry) htie)
    have hr : tie.entry.2.remote? = some c.remote := by rw [Tie.entry, hbinding, Binding.remote?]
    have hwritten : base.written? tie.entry.1 tie.entry.2 = some c.remote := by
      rw [Tie.entry, hbinding, Machine.written?, if_pos (hdirection ▸ hout)]
    obtain ⟨bytes, hbytes, -⟩ := (hfit.usable _ hentry c.remote hr).bytes
    have hheld : (m.ran site.context domain).platform.driver.held? c.remote.id = some bytes := by
      rw [h.held?_ran_of_ne (h.resource_ne_of_copied hfit hties htie hbinding),
        h.setup.held?_eq (hfit.usable _ hentry c.remote hr).issued, hbytes]
    have hinitial : (base.initial tie.register tie.binding).length = bytes.length := by
      rw [hbinding, Machine.initial, hbytes, Option.getD_some]
      split
      · rfl
      · exact Bytes.length_zeros _
    have hget : t.get? tie.register = some tie.binding :=
      (t.get?_eq _).trans (Assoc.get?_of_mem t.distinct hentry)
    have hlength := base.platform.driver.spec.program.lengths domain _ tie.register
      (h.nodup_keys_registerContents hties)
    rw [h.get?_registerContents hties, hget, Option.map_some, Option.map_some, hinitial] at hlength
    rw [Machine.outcome_of_written hfit.remotes hentry hwritten]
    exact (congrArg (Option.map List.length) hheld).trans hlength.symm
  -- What was made for the launch did not exist before, so nothing is said of it.
  transients u hu := by
    have hyoung := h.setup.young u hu
    rw [Machine.outcome_of_not_written fun e he r hr hid => ?_]
    · cases hheld : base.platform.driver.held? u.2 with
      | none => rfl
      | some bytes =>
        obtain ⟨res, hres, -⟩ := Simulator.held?_eq_some hheld
        exact absurd (hn.resources.lt_of_get? hres) (Nat.not_lt_of_le hyoung)
    · exact Nat.not_lt_of_le hyoung
        (hid ▸ (hfit.usable e he r (Machine.remote?_of_written? hr)).issued)

end Loaded

/-- At this moment the kernel was applied to what the table gives the registers. -/
structure Applied (base : Machine κ ω) (t : BindingTable) (domain : Domain)
    (context : Ident .context) (mo : Moment) : Prop where
  call : mo.accepted? = some (.runProgram context domain)
  registers : ∀ name, (mo.found.registerContents context).get? name =
    (t.get? name).map (base.initial name)
  distinct : (mo.found.registerContents context).keys.Nodup

/-- A launch that was submitted has applied the kernel, and its results can be copied back. -/
theorem Submitted.ran {t : BindingTable} {domain : Domain} {e : Execution}
    (h : Submitted base t domain e m) (hn : base.platform.driver.Numbered) :
    ∃ context mo, Applied base t domain context mo ∧
      e.Ran (base.outcome t.entries (base.platform.driver.spec.program.apply domain
        (mo.found.registerContents context))) (mo :: base.history.filter Moment.isRun) m := by
  obtain ⟨hfit, site, ties, a, m₀, journal, howner, hcontext, hties, hm₀, rfl⟩ := h
  obtain ⟨mo, hhistory, hfound, hcall, hrun⟩ : ∃ mo : Moment,
      (m₀.ran site.context domain).history = mo :: m₀.history ∧ mo.found = m₀.platform.driver ∧
      mo.accepted? = some (.runProgram site.context domain) ∧ mo.isRun = true :=
    ⟨_, rfl, rfl, rfl, rfl⟩
  have harena : e.arena { m₀.ran site.context domain with journal } = a := by
    rw [Execution.arena, howner]
    exact congrArg (Option.getD · _) hm₀.setup.arena
  have hreturning : Returning (base.outcome t.entries (base.platform.driver.spec.program.apply
        domain (m₀.platform.driver.registerContents site.context)))
      ((m₀.ran site.context domain).history.filter Moment.isRun) a site.context
      (a.copies.filter (·.direction.copiesOut)) { m₀.ran site.context domain with journal } :=
    hm₀.returning hfit hties hn
  rw [hhistory, List.filter_cons_of_pos hrun, hm₀.setup.runs, ← hcontext] at hreturning
  refine ⟨e.context, mo, ⟨hcontext ▸ hcall, ?_, ?_⟩, ?_⟩
  · rw [hfound, hcontext]
    exact hm₀.get?_registerContents hties
  · rw [hfound, hcontext]
    exact hm₀.nodup_keys_registerContents hties
  · unfold Execution.Ran
    rw [harena, hfound]
    exact hcontext ▸ hreturning

/-! ## Looking for devices -/

/-- Nothing has changed that the contents of resources depend on. -/
structure Machine.Still (m m' : Machine κ ω) : Prop where
  resources : m'.platform.driver.resources = m.platform.driver.resources
  spec : m'.platform.driver.spec = m.platform.driver.spec
  config : m'.platform.config = m.platform.config
  hooks : m'.platform.hooks = m.platform.hooks
  runs : m'.history.filter Moment.isRun = m.history.filter Moment.isRun

namespace Machine.Still

theorem refl : m.Still m :=
  ⟨rfl, rfl, rfl, rfl, rfl⟩

variable (h : m.Still m')

include h

theorem journal {journal : List Event} : m.Still { m' with journal } :=
  { h with }

theorem handled {op : Operation} {verdict : Verdict} {s : Simulator}
    (hrun : op ≠ .runProgram) (hresources : s.resources = m'.platform.driver.resources)
    (hspec : s.spec = m'.platform.driver.spec) : m.Still (m'.handled op verdict s) where
  resources := hresources.trans h.resources
  spec := hspec.trans h.spec
  config := h.config
  hooks := h.hooks
  runs := (Machine.runs_handled (Or.inl hrun)).trans h.runs

theorem unhooked (hooks : m.platform.hooks = []) {kind : Operation → Bool} :
    m'.Unhooked kind := .of_nil (h.hooks.trans hooks)

theorem held?_eq : m'.platform.driver.held? = m.platform.driver.held? := by
  funext id
  rw [Simulator.held?, Simulator.held?, Simulator.bytes?, Simulator.bytes?, h.resources]

theorem direction_eq : m'.direction = m.direction := by
  funext register asked
  rw [Machine.direction, Machine.direction, h.config]

theorem initial_eq : m'.initial = m.initial := by
  funext register binding
  cases binding <;> simp only [Machine.initial, h.held?_eq, h.direction_eq]

theorem written?_eq : m'.written? = m.written? := by
  funext register binding
  cases binding <;> simp only [Machine.written?, h.direction_eq]

theorem outcome_eq : m'.outcome = m.outcome := by
  funext entries out id
  simp only [Machine.outcome, h.held?_eq, h.written?_eq]

end Machine.Still

theorem Machine.still_blind (hooks : m.platform.hooks = []) : Devices.Blind m.Still where
  hooks _ h := h.hooks.trans hooks
  handled m' op verdict s h hop _ hs _ := by
    obtain ⟨_, _, _, _, _, -, rfl⟩ := hs
    refine h.handled (fun hrun => ?_) rfl rfl
    rw [hrun] at hop
    cases hop
  registry _ _ _ h := { h with }
  journal _ _ h := h.journal

/-! ## Whole runs -/

/-- The kernel was applied at this moment and never else, and every resource holds what comes
    of it. -/
structure Computed (m : Machine κ ω) (q : LaunchRequest) (context : Ident .context) (mo : Moment)
    (m' : Machine κ ω) : Prop where
  applied : Applied m q.table q.domain context mo
  once : m'.history.filter Moment.isRun = mo :: m.history.filter Moment.isRun
  remotes : (q.table.entries.filterMap fun e => e.2.remote?.map (·.id)).Nodup
  held : ∀ id, m'.platform.driver.held? id = m.outcome q.table.entries
    (m.platform.driver.spec.program.apply q.domain (mo.found.registerContents context)) id

theorem Launch.run_computes [Keeper ω] [Reentry κ ω] {allowed : κ → Prop} {g : Holdings}
    (h : InOrder allowed g m) (hooks : m.platform.hooks = []) {image : Image}
    {q : LaunchRequest} :
    (run image q).Leads m (fun _ m' => ∃ context mo, Computed m q context mo m')
      (fun _ _ => True) fun _ => True := by
  have h : InOrder (fun _ => False) g m := h.of_no_hooks hooks
  have hcheck : (Devices.check q.device).Leads m
      (fun _ m₁ => m.Still m₁ ∧ InOrder (fun _ => False) g m₁ ∧ m₁.Unhooked Operation.ofLaunch)
      (fun _ _ => True) fun _ => True :=
    ((Devices.check_stands (Machine.still_blind hooks).aside m .refl).and
      (Devices.check_keeps courteous_nobody g m h)).mono
      (fun _ _ hm => ⟨hm.1, hm.2, hm.1.unhooked hooks⟩) (fun _ _ _ => trivial) fun _ _ => trivial
  unfold run
  rw [leads_bind]
  refine (launch_leads_to hcheck).mono (fun e m₂ ⟨m₁, hstill, h₁, hm₂⟩ => ?_)
    (fun _ _ _ => trivial) fun _ hm => hm
  have hbase : m.Still m₁.numbering :=
    ⟨hstill.resources, hstill.spec, hstill.config, hstill.hooks, hstill.runs⟩
  have hremotes := hm₂.1.remotes
  obtain ⟨context, mo, happlied, hran⟩ := hm₂.ran h₁.numbered
  rw [hbase.outcome_eq, hbase.spec, hbase.runs] at hran
  refine (Execution.join_settles hran).imp fun _ m' hm' => ?_
  exact ⟨context, mo, {
    applied := ⟨happlied.call, hbase.initial_eq ▸ happlied.registers, happlied.distinct⟩
    once := hm'.runs
    remotes := hremotes
    held := fun id => hm'.held id not_false }⟩

namespace Computed

variable {q : LaunchRequest} {context : Ident .context} {mo : Moment}

/-- A resource that is written holds the kernel's output for its register. -/
theorem held?_of_written (h : Computed m q context mo m') {register : String} {binding : Binding}
    {r : Remote} (hget : q.table.get? register = some binding)
    (hr : m.written? register binding = some r) :
    m'.platform.driver.held? r.id = (m.platform.driver.spec.program.apply q.domain
      (mo.found.registerContents context)).get? register := by
  rw [q.table.get?_eq] at hget
  rw [h.held, Machine.outcome_of_written h.remotes (Assoc.mem_of_get? hget) hr]

/-- A resource that is not written is as before. -/
theorem held?_of_not_written (h : Computed m q context mo m') {id : Ident .resource}
    (hid : ∀ register binding r, q.table.get? register = some binding →
      m.written? register binding = some r → r.id ≠ id) :
    m'.platform.driver.held? id = m.platform.driver.held? id := by
  rw [h.held, Machine.outcome_of_not_written fun e he r hr => hid e.1 e.2 r ?_ hr]
  rw [q.table.get?_eq, Assoc.get?_of_mem q.table.distinct he]

end Computed

/-! ## Copying instead of using in place -/

/-- The binding with copying both ways in place of using the resource itself. -/
def Binding.copying : Binding → Binding
  | .direct r => .copied r (some .both)
  | binding => binding

def BindingTable.copying (t : BindingTable) : BindingTable where
  entries := t.entries.map fun e => (e.1, e.2.copying)
  distinct := by simpa [Function.comp_def] using t.distinct

def LaunchRequest.copying (q : LaunchRequest) : LaunchRequest :=
  { q with table := q.table.copying }

@[simp] theorem Machine.initial_copying (register : String) (binding : Binding) :
    m.initial register binding.copying = m.initial register binding := by
  cases binding <;> rfl

@[simp] theorem Machine.written?_copying (register : String) (binding : Binding) :
    m.written? register binding.copying = m.written? register binding := by
  cases binding <;> rfl

theorem BindingTable.get?_copying (t : BindingTable) (register : String) :
    t.copying.get? register = (t.get? register).map Binding.copying := by
  rw [get?_eq, get?_eq]
  change Assoc.get? (t.entries.map fun e => (e.1, e.2.copying)) register = _
  induction t.entries with
  | nil => rfl
  | cons e rest ih =>
    by_cases hname : e.1 = register
    · simp [Assoc.get?, hname]
    · simpa [Assoc.get?, hname] using ih

/-- The same output for the registers has the same outcome. -/
theorem Machine.outcome_copying {t : BindingTable} {out out' : Registers}
    (hout : ∀ name, out'.get? name = out.get? name) (id : Ident .resource) :
    m.outcome t.copying.entries out' id = m.outcome t.entries out id := by
  unfold outcome BindingTable.copying
  rw [List.find?_map]
  simp only [Function.comp_def, written?_copying]
  cases t.entries.find? fun e => (m.written? e.1 e.2).map (·.id) = some id with
  | none => rfl
  | some e => exact hout e.1

/-- A run in which every resource is copied leaves the same contents. -/
theorem Computed.held?_copying {q : LaunchRequest} {context context' : Ident .context}
    {mo mo' : Moment} {m'' : Machine κ ω} (h : Computed m q context mo m')
    (h' : Computed m q.copying context' mo' m'') (id : Ident .resource) :
    m''.platform.driver.held? id = m'.platform.driver.held? id := by
  rw [h.held, h'.held]
  refine Machine.outcome_copying (fun name => ?_) id
  refine m.platform.driver.spec.program.extensional q.domain _ _ h'.applied.distinct
    h.applied.distinct (fun name => ?_) name
  rw [h.applied.registers, h'.applied.registers, LaunchRequest.copying, q.table.get?_copying]
  simp [Function.comp_def]

namespace Scenario

/-- What a successful run, a launch that is joined, computes. While no hook waits for a driver
    call, the kernel was applied once, to registers that start with what their bindings say;
    every remote resource that is used in place or copied out holds the output for its register,
    and all other resources hold what they held. Copying every resource both ways instead of
    using it in place leaves the same contents. -/
theorem run_applies_kernel_once [Reentry (List (Step RuntimeStep)) Cast]
    {m m' : RuntimeScene} (hm : Reachable m) (hooks : m.platform.hooks = [])
    {image : Image} {q : LaunchRequest} {summary : Summary}
    (hrun : (Launch.run image q).run m = (.ok (.ok summary), m')) :
    ∃ context mo,
      m'.history.filter Moment.isRun = mo :: m.history.filter Moment.isRun ∧
      mo.accepted? = some (.runProgram context q.domain) ∧
      (∀ register, (mo.found.registerContents context).get? register =
        (q.table.get? register).map (m.initial register)) ∧
      (∀ register binding r, q.table.get? register = some binding →
        m.written? register binding = some r →
        m'.platform.driver.held? r.id = (m.platform.driver.spec.program.apply q.domain
          (mo.found.registerContents context)).get? register) ∧
      (∀ id, (∀ register binding r, q.table.get? register = some binding →
          m.written? register binding = some r → r.id ≠ id) →
        m'.platform.driver.held? id = m.platform.driver.held? id) ∧
      ∀ summary' m'', (Launch.run image q.copying).run m = (.ok (.ok summary'), m'') →
        ∀ id, m''.platform.driver.held? id = m'.platform.driver.held? id := by
  obtain ⟨context, mo, h⟩ := (Launch.run_computes hm.inOrder hooks).of_eq_ok hrun
  refine ⟨context, mo, h.once, h.applied.call, h.applied.registers,
    fun register binding r => h.held?_of_written, fun id => h.held?_of_not_written, ?_⟩
  intro summary' m'' hrun'
  obtain ⟨context', mo', h'⟩ := (Launch.run_computes hm.inOrder hooks).of_eq_ok hrun'
  exact h.held?_copying h'

/-- A driver that pads rows, moves resources that are mapped again, and whose kernel adds one to
    `i0`, byte by byte. -/
def shiftingSpec : Spec where
  pitchAlignment := 4
  relocates := true
  pendingPolls := 1
  kernel := some (.ofActions [.add "i0" "x0" 1, .copy "x0" "o0", .copy "i0" "g[]"])

/-- Three remote resources, two of them written to and one not mapped, and a kernel. -/
def filledResources : List (Step RuntimeStep) :=
  [.own (.device "d" 0), .own (.compile "k" "i0 o0 g[] x0" none),
    .own (.allocRemote "a" "d" ⟨⟨3, 1⟩, ⟨.float32, .one⟩, .plain⟩),
    .own (.allocRemote "b" "d" ⟨⟨2, 1⟩, ⟨.float32, .one⟩, .plain⟩),
    .own (.allocRemote "c" "d" ⟨⟨1, 2⟩, ⟨.float32, .one⟩, .plain⟩),
    .own (.write "a" 0 [7, 0, 0, 0, 255]), .own (.write "b" 4 [9]), .own (.unmap "b")]

/-- Copies `c` out and `a` in, uses `b` in place, and adds through a scratch register. -/
def shiftingRequest : LaunchRequest where
  device := ⟨0, ⟨1⟩, {}, 1⟩
  domain := ⟨0, 0, 4, 1⟩
  table := {
    entries := [("g[]", .copied ⟨0, ⟨5⟩, ⟨1⟩, ⟨1, 2⟩, ⟨.float32, .one⟩, .plain⟩ (some .outOf)),
      ("i0", .copied ⟨0, ⟨3⟩, ⟨1⟩, ⟨3, 1⟩, ⟨.float32, .one⟩, .plain⟩ none),
      ("o0", .direct ⟨0, ⟨4⟩, ⟨1⟩, ⟨2, 1⟩, ⟨.float32, .one⟩, .plain⟩),
      ("x0", .scratch ⟨2, 1⟩ ⟨.float32, .one⟩)]
    distinct := by decide }

def shiftingRun (q : LaunchRequest) : Except Abort (Except Error Summary) × RuntimeScene :=
  (@Launch.run _ _ ⟨fun _ _ => pure ()⟩ ⟨⟨2⟩, 5⟩ q).run
    (after 0 filledResources (opening shiftingSpec {}))

/-- The shifted bytes reach the resource that is used in place, cut to its size, the resource
    that is copied out gets those of the resource that is only copied in, and copying all of
    them leaves the same. -/
theorem shiftingRun_applies_kernel :
    (Reachable (after 0 filledResources (opening shiftingSpec {})) ∧
      (after 0 filledResources (opening shiftingSpec {})).platform.hooks = [] ∧
      (shiftingRun shiftingRequest).1 = .ok (.ok ⟨⟨1⟩, 2, ["g[]", "i0"], ["g[]"]⟩) ∧
      (shiftingRun shiftingRequest.copying).1 =
        .ok (.ok ⟨⟨1⟩, 2, ["g[]", "i0"], ["g[]", "o0"]⟩)) ∧
    (shiftingRun shiftingRequest).2.platform.driver.held? ⟨4⟩ =
      some [8, 0, 0, 0, 0, 1, 0, 0, 0, 0, 0, 0, 0, 0, 0, 0] ∧
    (∃ context mo, (shiftingRun shiftingRequest).2.history.filter Moment.isRun = [mo] ∧
      mo.accepted? = some (.runProgram context shiftingRequest.domain) ∧
      ((mo.found.registerContents context).get? "o0" =
        some [0, 0, 0, 0, 9, 0, 0, 0, 0, 0, 0, 0, 0, 0, 0, 0]) ∧
      (mo.found.registerContents context).get? "x0" = some (Bytes.zeros 8)) ∧
    ∀ id, (shiftingRun shiftingRequest.copying).2.platform.driver.held? id =
      (shiftingRun shiftingRequest).2.platform.driver.held? id := by
  have hm : Reachable (after 0 filledResources (opening shiftingSpec {})) :=
    ⟨_, _, 0, filledResources, rfl, rfl⟩
  have hooks : (after 0 filledResources (opening shiftingSpec {})).platform.hooks = [] := by
    decide +kernel
  have hdone : (shiftingRun shiftingRequest).1 =
      .ok (.ok ⟨⟨1⟩, 2, ["g[]", "i0"], ["g[]"]⟩) := by decide +kernel
  have hcopied : (shiftingRun shiftingRequest.copying).1 =
      .ok (.ok ⟨⟨1⟩, 2, ["g[]", "i0"], ["g[]", "o0"]⟩) := by decide +kernel
  have hrun : shiftingRun shiftingRequest =
      (.ok (.ok ⟨⟨1⟩, 2, ["g[]", "i0"], ["g[]"]⟩), (shiftingRun shiftingRequest).2) := by
    rw [← hdone]
  have hrun' : shiftingRun shiftingRequest.copying =
      (.ok (.ok ⟨⟨1⟩, 2, ["g[]", "i0"], ["g[]", "o0"]⟩),
        (shiftingRun shiftingRequest.copying).2) := by
    rw [← hcopied]
  obtain ⟨context, mo, honce, hcall, hregisters, -, -, hsame⟩ :=
    @run_applies_kernel_once ⟨fun _ _ => pure ()⟩ _ _ hm hooks _ _ _ hrun
  refine ⟨⟨hm, hooks, hdone, hcopied⟩, by decide +kernel, ⟨context, mo, ?_, hcall, ?_, ?_⟩,
    hsame _ _ hrun'⟩
  · rw [honce]
    have hnone : (after 0 filledResources (opening shiftingSpec {})).history.filter
        Moment.isRun = [] := by
      rw [List.filter_eq_nil_iff]
      decide +kernel
    rw [hnone]
  · rw [hregisters]
    decide +kernel
  · rw [hregisters]
    decide +kernel

end Scenario

end StreamCompute
