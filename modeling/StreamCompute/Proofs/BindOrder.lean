/-
  StreamCompute.Proofs.BindOrder

  The order in which registers are bound is of no consequence. A table is sorted
  by register and a register has one entry at most, so that the table is fixed by
  the bindings that were accepted; and a binding is refused exactly if its register
  was bound before. For a launch by handle this means that it is turned down for a
  register that stands in two of its groups, and for nothing else of that kind.
-/
import StreamCompute.Proofs.DeskReports
import StreamCompute.Proofs.Preflight
import StreamCompute.Proofs.Registration

namespace StreamCompute

open Fallible

/-! ## Filling a table -/

namespace BindingTable

def registers (t : BindingTable) : List String :=
  t.entries.map Prod.fst

theorem eq_of_entries : ∀ {t t' : BindingTable}, t.entries = t'.entries → t = t'
  | ⟨_, _⟩, ⟨_, _⟩, rfl => rfl

theorem isSome_get? {t : BindingTable} {register : String} :
    (t.get? register).isSome = true ↔ register ∈ t.registers := by
  simp [get?, registers, List.find?_isSome]

/-- A register that is bound already is refused, any other is put in its place. -/
theorem bind_cases (t : BindingTable) (register : String) (binding : Binding) :
    (register ∈ t.registers ∧ t.bind register binding = .error (.duplicateRegister register)) ∨
      register ∉ t.registers ∧ ∃ t', t.bind register binding = .ok t' ∧
        t'.entries = insertSorted register binding t.entries := by
  unfold bind
  split
  · rename_i h
    exact Or.inl ⟨isSome_get?.mp h, rfl⟩
  · rename_i h
    exact Or.inr ⟨fun hin => h (isSome_get?.mpr hin), _, rfl, rfl⟩

/-- Tries one more binding. With the table go the bindings that it has accepted. -/
def tryBind (p : BindingTable × List (String × Binding)) (e : String × Binding) :
    BindingTable × List (String × Binding) :=
  match p.1.bind e.1 e.2 with
  | .ok t => (t, p.2 ++ [e])
  | .error _ => p

/-- Tries bindings one after another, from an empty table. -/
def tryAll (calls : List (String × Binding)) : BindingTable × List (String × Binding) :=
  calls.foldl tryBind ({}, [])

theorem tryAll_concat (calls : List (String × Binding)) (e : String × Binding) :
    tryAll (calls ++ [e]) = tryBind (tryAll calls) e :=
  List.foldl_concat ..

/-- The table has the accepted bindings, in the order of their registers. -/
structure Filled (p : BindingTable × List (String × Binding)) : Prop where
  sorted : p.1.entries.Pairwise fun e e' => e.1 < e'.1
  perm : p.1.entries.Perm p.2

theorem insertSorted_sorted {register : String} {binding : Binding}
    {entries : List (String × Binding)} (h : entries.Pairwise fun e e' => e.1 < e'.1)
    (hnew : register ∉ entries.map Prod.fst) :
    (insertSorted register binding entries).Pairwise fun e e' => e.1 < e'.1 := by
  induction entries with
  | nil => exact List.pairwise_singleton ..
  | cons e rest ih =>
    obtain ⟨hhead, hrest⟩ := List.pairwise_cons.mp h
    unfold insertSorted
    split
    · rename_i hlt
      refine List.pairwise_cons.mpr ⟨fun e' he' => ?_, h⟩
      rcases List.mem_cons.mp he' with rfl | he'
      · exact hlt
      · exact String.lt_trans hlt (hhead e' he')
    · rename_i hnot
      have hlt : e.1 < register :=
        Std.lt_of_le_of_ne hnot fun heq => hnew (List.mem_map.mpr ⟨e, List.mem_cons_self, heq⟩)
      refine List.pairwise_cons.mpr ⟨fun e' he' => ?_, ih hrest fun hin => hnew (.tail _ hin)⟩
      rcases List.mem_cons.mp ((insertSorted_perm ..).subset he') with rfl | he'
      · exact hlt
      · exact hhead e' he'

theorem Filled.tryBind {p : BindingTable × List (String × Binding)} (h : Filled p)
    (e : String × Binding) : Filled (tryBind p e) := by
  unfold BindingTable.tryBind
  rcases p.1.bind_cases e.1 e.2 with ⟨-, hbind⟩ | ⟨hnew, t, hbind, hentries⟩
  · rw [hbind]
    exact h
  · rw [hbind]
    refine ⟨hentries ▸ insertSorted_sorted h.sorted hnew, ?_⟩
    rw [hentries]
    calc insertSorted e.1 e.2 p.1.entries
      _ |>.Perm (e :: p.1.entries) := insertSorted_perm ..
      _ |>.Perm (e :: p.2) := h.perm.cons e
      _ |>.Perm (p.2 ++ [e]) := (List.perm_append_singleton e p.2).symm

theorem tryAll_filled (calls : List (String × Binding)) : Filled (tryAll calls) :=
  List.foldlRecOn calls tryBind (motive := Filled) ⟨.nil, .refl _⟩ fun _ h e _ => h.tryBind e

/-- The accepted bindings alone decide what the table is. -/
theorem tryAll_eq_of_perm {calls calls' : List (String × Binding)}
    (h : (tryAll calls).2.Perm (tryAll calls').2) : (tryAll calls).1 = (tryAll calls').1 := by
  have hf := tryAll_filled calls
  have hf' := tryAll_filled calls'
  apply eq_of_entries
  exact List.Perm.eq_of_pairwise (fun e e' _ _ hlt hgt => absurd hgt (String.lt_asymm hlt))
    hf.sorted hf'.sorted (hf.perm.trans (h.trans hf'.perm.symm))

theorem mem_registers_tryAll {calls : List (String × Binding)} {register : String} :
    register ∈ (tryAll calls).1.registers ↔ register ∈ (tryAll calls).2.map Prod.fst :=
  ((tryAll_filled calls).perm.map Prod.fst).mem_iff

end BindingTable

/-! ## Launches by handle -/

namespace Desk

variable {κ ρ : Type} {m m₁ : Machine κ (Desk ρ)} {q : StreamRequest} {call : String}

/-- The register is in two groups of the request. -/
def StreamRequest.Repeats (q : StreamRequest) (register : String) : Prop :=
  (register ∈ q.scratch.map Prod.fst ∧ register ∈ q.direct.map Prod.fst) ∨
    (register ∈ q.scratch.map Prod.fst ∨ register ∈ q.direct.map Prod.fst) ∧
      register ∈ q.copied.map Prod.fst

def repeated (call register : String) : DeskError :=
  ⟨call, .runtime (.duplicateRegister register)⟩

theorem bindNext_leads {t : BindingTable} {register : String} {binding : Binding}
    {ok : BindingTable → Machine κ (Desk ρ) → Prop} {err : DeskError → Machine κ (Desk ρ) → Prop}
    {cut : Machine κ (Desk ρ) → Prop}
    (hok : register ∉ t.registers → ∀ t' : BindingTable,
      (∀ r, r ∈ t'.registers ↔ r = register ∨ r ∈ t.registers) → ok t' m)
    (herr : register ∈ t.registers → err (repeated call register) m) :
    (bindNext call t register binding).Leads m ok err cut := by
  unfold bindNext
  rw [leads_mapError, leads_answer]
  rcases t.bind_cases register binding with ⟨hin, hbind⟩ | ⟨hnew, t', hbind, hentries⟩
  · rw [hbind]
    exact herr hin
  · rw [hbind]
    refine hok hnew t' fun r => ?_
    unfold BindingTable.registers
    rw [hentries, ((BindingTable.insertSorted_perm ..).map Prod.fst).mem_iff, List.map_cons,
      List.mem_cons]

/-- A group of registers, each with something to be bound to: it is bound, unless one of them is
    bound already. -/
theorem foldlM_leads {α : Type} {list : List (String × α)}
    {f : BindingTable → String × α → DeskTask κ ρ BindingTable}
    (hf : ∀ t, ∀ e ∈ list, ∃ binding, ∀ ok err cut,
      (bindNext call t e.1 binding).Leads m ok err cut → (f t e).Leads m ok err cut)
    (hdistinct : (list.map Prod.fst).Nodup) (t : BindingTable) :
    (list.foldlM f t).Leads m
      (fun t' m' => m' = m ∧ (∀ r ∈ list.map Prod.fst, r ∉ t.registers) ∧
        ∀ r, r ∈ t'.registers ↔ r ∈ t.registers ∨ r ∈ list.map Prod.fst)
      (fun e m' => m' = m ∧ ∃ r ∈ list.map Prod.fst, r ∈ t.registers ∧ e = repeated call r)
      fun _ => False := by
  induction list generalizing t with
  | nil => exact ⟨rfl, nofun, by simp⟩
  | cons e rest ih =>
    obtain ⟨hnot, hrest⟩ := List.nodup_cons.mp hdistinct
    obtain ⟨binding, hbind⟩ := hf t e List.mem_cons_self
    rw [List.foldlM_cons, leads_bind]
    refine hbind _ _ _ (bindNext_leads (fun hnew t₁ ht₁ => ?_) fun hin => ?_)
    · refine (ih (fun t e he => hf t e (.tail _ he)) hrest t₁).mono ?_ ?_ fun _ h => h
      · rintro t' m' ⟨rfl, hfresh, ht'⟩
        refine ⟨rfl, fun r hr hin => ?_, fun r => ?_⟩
        · rcases List.mem_cons.mp hr with rfl | hr
          · exact hnew hin
          · exact hfresh r hr ((ht₁ r).mpr (Or.inr hin))
        · rw [ht', ht₁, List.map_cons, List.mem_cons]
          tauto
      · rintro err m' ⟨rfl, r, hr, hin, rfl⟩
        refine ⟨rfl, r, .tail _ hr, ?_, rfl⟩
        rcases (ht₁ r).mp hin with rfl | hin
        · exact absurd hr hnot
        · exact hin
    · exact ⟨rfl, e.1, List.mem_cons_self, hin, rfl⟩

/-- What a launch by handle names is there: the image, the device, the formats and the remote
    resources. The second machine is the one that has looked for the device. -/
structure StreamRequest.Valid [Reentry κ (Desk ρ)] (q : StreamRequest) (call : String)
    (m m₁ : Machine κ (Desk ρ)) : Prop where
  named : ∃ serial image device, m.host.installed = some serial ∧
    m.host.images.get? q.image = some image ∧
    (onRuntime serial call (Devices.get q.device)).run (hold q.image m) = (.ok (.ok device), m₁)
  formats : ∀ e ∈ q.scratch, (Format.ofCode? e.2.formatCode).isSome = true
  remotes : ∀ e ∈ q.direct ++ q.copied, (m₁.host.remotes.get? e.2).isSome = true
  scratch : (q.scratch.map Prod.fst).Nodup
  direct : (q.direct.map Prod.fst).Nodup
  copied : (q.copied.map Prod.fst).Nodup

/-- The devices of the platform have been found. -/
def HasDevices (serial : Nat) (m : Machine κ (Desk ρ)) : Prop :=
  ∃ found, (m.focus serial).platform.registry = .ready found

variable [Reentry κ (Desk ρ)]

theorem StreamRequest.Valid.bindings_leads (h : q.Valid call m m₁) :
    (bindings call q).Leads m₁ (fun _ m' => m' = m₁ ∧ ∀ register, ¬ q.Repeats register)
      (fun e m' => m' = m₁ ∧ ∃ register, q.Repeats register ∧ e = repeated call register)
      fun _ => False := by
  -- Every handle and every format of the request is known, so that looking them up cannot fail.
  have hremote : ∀ {list : List (String × Nat)} (kind : Remote → Binding),
      list ⊆ q.direct ++ q.copied → ∀ t, ∀ e ∈ list, ∃ binding, ∀ ok err cut,
        (bindNext call t e.1 binding).Leads m₁ ok err cut →
        (do bindNext call t e.1 (kind (← remote call e.2))).Leads m₁ ok err cut := by
    intro list kind hsub t e he
    obtain ⟨r, hr⟩ := Option.isSome_iff_exists.mp (h.remotes e (hsub he))
    refine ⟨kind r, fun ok err cut hleads => ?_⟩
    unfold remote desk
    rw [leads_bind, leads_bind, leads_bind, leads_get, leads_pure, hr]
    exact hleads
  have hscratch : ∀ t, ∀ e ∈ q.scratch, ∃ binding, ∀ ok err cut,
      (bindNext call t e.1 binding).Leads m₁ ok err cut →
      (do
        let f ← format call e.2.formatCode
        bindNext call t e.1 (.scratch ⟨e.2.width, e.2.height⟩ f)).Leads m₁ ok err cut := by
    intro t e he
    obtain ⟨f, hf⟩ := Option.isSome_iff_exists.mp (h.formats e he)
    refine ⟨.scratch ⟨e.2.width, e.2.height⟩ f, fun ok err cut hleads => ?_⟩
    unfold format
    rw [hf]
    exact hleads
  unfold bindings
  rw [leads_bind]
  refine (foldlM_leads hscratch h.scratch {}).mono ?_ ?_ fun _ h => h
  · rintro t₁ _ ⟨rfl, -, ht₁⟩
    rw [leads_bind]
    refine (foldlM_leads (hremote .direct (List.subset_append_left ..)) h.direct t₁).mono ?_ ?_
      fun _ h => h
    · rintro t₂ _ ⟨rfl, hdirect, ht₂⟩
      refine (foldlM_leads (hremote (.copied · none) (List.subset_append_right ..)) h.copied
        t₂).mono ?_ ?_ fun _ h => h
      · rintro t₃ _ ⟨rfl, hcopied, -⟩
        refine ⟨rfl, fun register hrepeats => ?_⟩
        rcases hrepeats with ⟨hin, hin'⟩ | ⟨hin, hin'⟩
        · exact hdirect register hin' ((ht₁ register).mpr (Or.inr hin))
        · refine hcopied register hin' ((ht₂ register).mpr (hin.imp_left fun hin => ?_))
          exact (ht₁ register).mpr (Or.inr hin)
      · rintro e _ ⟨rfl, r, hr, hin, rfl⟩
        refine ⟨rfl, r, Or.inr ⟨((ht₂ r).mp hin).imp_left fun hin => ?_, hr⟩, rfl⟩
        exact ((ht₁ r).mp hin).resolve_left (List.not_mem_nil)
    · rintro e _ ⟨rfl, r, hr, hin, rfl⟩
      exact ⟨rfl, r, Or.inl ⟨((ht₁ r).mp hin).resolve_left List.not_mem_nil, hr⟩, rfl⟩
  -- The first group is bound in an empty table.
  · rintro e _ ⟨-, r, -, hin, -⟩
    cases hin

omit [Reentry κ (Desk ρ)] in
/-- An operation of the runtime that names no register twice. -/
theorem onRuntime_leads_of_unrepeated {α : Type} {serial : Nat} {task : Task κ (Desk ρ) α}
    (htask : task.Leads (m.focus serial) (fun _ _ => True)
      (fun e _ => ∀ register, e ≠ .duplicateRegister register) fun _ => True) :
    (onRuntime serial call task).Leads m (fun _ _ => True)
      (fun e _ => ∀ register, e ≠ repeated call register) fun _ => True := by
  unfold onRuntime
  rw [leads_mk, Machine.leads_withPlatform, leads_run, leads_mapError]
  refine htask.mono (fun _ _ h => h) (fun e _ he register heq => ?_) fun _ h => h
  cases heq
  exact he register rfl

omit [Reentry κ (Desk ρ)] in
theorem unrepeated_of_accepts {α : Type} {task : Task κ (Desk ρ) α} (h : task.Accepts) :
    task.Leads m (fun _ _ => True) (fun e _ => ∀ register, e ≠ .duplicateRegister register)
      fun _ => True :=
  (h m trivial).mono (fun _ _ h => h) (fun _ _ he _ heq => by cases heq; cases he) fun _ h => h

/-- How a launch ends: it is turned down for a register that is bound twice, before anything but
    the devices was asked for; or there is no such register, and it is not turned down for one. -/
theorem StreamRequest.Valid.launch_leads (h : q.Valid call m m₁)
    (hready : ∀ serial, m.host.installed = some serial → HasDevices serial m₁) :
    (launch call q).Leads m (fun _ _ => ∀ register, ¬ q.Repeats register)
      (fun e m' => (∃ register, q.Repeats register ∧ e = repeated call register ∧
          m' = release q.image m₁) ∨
        (∀ register, ¬ q.Repeats register) ∧ ∀ register, e ≠ repeated call register)
      fun _ => ∀ register, ¬ q.Repeats register := by
  obtain ⟨serial, image, device, hinstalled, himage, hdevice⟩ := h.named
  obtain ⟨found, hready⟩ := hready serial hinstalled
  unfold launch platform desk
  simp only [leads_bind, leads_get, leads_pure, hinstalled, himage, leads_modify, leads_ensuring]
  unfold launchImage
  rw [leads_bind]
  -- Looking for the device is a part of the run that is given.
  have hfound : (onRuntime serial call (Devices.get q.device)).Leads (hold q.image m)
      (fun d m' => d = device ∧ m' = m₁) (fun _ _ => False) fun _ => False := by
    unfold Fallible.Leads
    rw [hdevice]
    exact ⟨rfl, rfl⟩
  refine hfound.mono ?_ (fun _ _ h => h.elim) fun _ h => h.elim
  rintro _ _ ⟨rfl, rfl⟩
  rw [leads_bind]
  refine h.bindings_leads.mono ?_ ?_ fun _ h => h.elim
  · rintro table _ ⟨rfl, hnone⟩
    refine (onRuntime_leads_of_unrepeated ?_).mono (fun _ _ _ => hnone)
      (fun _ _ he => Or.inr ⟨hnone, he⟩) fun _ _ => hnone
    rw [Launch.launch_eq_check, leads_bind, Devices.leads_check_of_ready hready]
    split
    · exact unrepeated_of_accepts Launch.checked_accepts
    · exact fun register hsame => by cases hsame
  · rintro e _ ⟨rfl, register, hrepeats, rfl⟩
    exact Or.inl ⟨register, hrepeats, rfl, rfl⟩

/-- A task turns a request down for a register that is in two groups exactly if there is one, and
    leaves nothing behind but what this machine has. -/
def StreamRequest.RejectsRepeated {α : Type} (q : StreamRequest) (call : String)
    (m left : Machine κ (Desk ρ)) (task : DeskTask κ ρ α) : Prop :=
  ((∃ register m', task.run m = (.ok (.error (repeated call register)), m')) ↔
      ∃ register, q.Repeats register) ∧
    ∀ register m', task.run m = (.ok (.error (repeated call register)), m') →
      q.Repeats register ∧ m' = left

/-- What follows a launch names no register twice. -/
theorem StreamRequest.Valid.rejectsRepeated {α : Type} (h : q.Valid call m m₁)
    (hready : ∀ serial, m.host.installed = some serial → HasDevices serial m₁)
    {rest : Execution → DeskTask κ ρ α}
    (hrest : ∀ e m, (rest e).Leads m (fun _ _ => True)
      (fun e _ => ∀ register, e ≠ repeated call register) fun _ => True) :
    q.RejectsRepeated call m (release q.image m₁) (launch call q >>= rest) := by
  have hleads : (launch call q >>= rest).Leads m (fun _ _ => ∀ register, ¬ q.Repeats register)
      (fun e m' => (∃ register, q.Repeats register ∧ e = repeated call register ∧
          m' = release q.image m₁) ∨
        (∀ register, ¬ q.Repeats register) ∧ ∀ register, e ≠ repeated call register)
      fun _ => ∀ register, ¬ q.Repeats register := by
    rw [leads_bind]
    refine (h.launch_leads hready).imp fun e m' hnone => ?_
    exact (hrest e m').mono (fun _ _ _ => hnone) (fun _ _ he => Or.inr ⟨hnone, he⟩) fun _ _ => hnone
  -- The error names a register, so it says which of the two cases it is.
  have hrejected : ∀ register m',
      (launch call q >>= rest).run m = (.ok (.error (repeated call register)), m') →
      q.Repeats register ∧ m' = release q.image m₁ := by
    intro register m' hrun
    rcases hleads.of_eq_error hrun with ⟨_, hrepeats, heq, hm'⟩ | ⟨-, hne⟩
    · cases heq
      exact ⟨hrepeats, hm'⟩
    · exact absurd rfl (hne register)
  refine ⟨⟨fun ⟨register, m', hrun⟩ => ⟨register, (hrejected register m' hrun).1⟩, ?_⟩, hrejected⟩
  rintro ⟨register, hrepeats⟩
  rcases hleads.run_cases with ⟨_, _, _, hnone⟩ | ⟨_, m', hrun, hends⟩ | ⟨_, _, _, hnone⟩
  · exact absurd hrepeats (hnone register)
  · rcases hends with ⟨register', -, rfl, -⟩ | ⟨hnone, -⟩
    · exact ⟨register', m', hrun⟩
    · exact absurd hrepeats (hnone register)
  · exact absurd hrepeats (hnone register)

/-- Both ways of launching reject registers that are repeated. -/
def StreamRequest.LaunchedUnrepeated (q : StreamRequest) (m m₁ : Machine κ (Desk ρ)) : Prop :=
  (q.Valid "run_stream" m m₁ →
      q.RejectsRepeated "run_stream" m (release q.image m₁) (runStream q)) ∧
    (q.Valid "run_stream_async" m m₁ →
      q.RejectsRepeated "run_stream_async" m (release q.image m₁) (runStreamAsync q))

theorem StreamRequest.LaunchedUnrepeated.of_hasDevices (hready : ∀ call, q.Valid call m m₁ →
      ∀ serial, m.host.installed = some serial → HasDevices serial m₁) :
    q.LaunchedUnrepeated m m₁ := by
  refine ⟨fun h => h.rejectsRepeated (hready _ h) fun e m => ?_,
    fun h => h.rejectsRepeated (hready _ h) fun e m => trivial⟩
  exact onRuntime_leads_of_unrepeated (unrepeated_of_accepts Execution.join_accepts)

/-- Whoever is given a device has found them all. -/
theorem get_finds {ω : Type} [Reentry κ ω] {m : Machine κ ω} {index : Nat} :
    (Devices.get index : Task κ ω Device).Leads m
      (fun _ m' => ∃ found, m'.platform.registry = .ready found) (fun _ _ => True)
      fun _ => True := by
  have hdevices : (Devices.devices : Task κ ω (List Device)).Leads m
      (fun _ m' => ∃ found, m'.platform.registry = .ready found) (fun _ _ => True)
      fun _ => True := by
    unfold Devices.devices
    rw [leads_bind, leads_get]
    cases hregistry : m.platform.registry with
    | ready found => exact ⟨found, hregistry⟩
    | failed e => trivial
    | uninitialized =>
      refine .bind leads_true fun answer m₁ _ => ?_
      cases answer with
      | ok found => exact ⟨found, rfl⟩
      | error e => trivial
  unfold Devices.get
  refine .bind hdevices fun found m₁ h => ?_
  cases found[index]? with
  | none => trivial
  | some d => exact h

/-- At a desk, hooks leave a platform alone that has found its devices. -/
theorem hasDevices {fuel serial installed : Nat} {m m₁ : Scenario.DeskScene} {q : StreamRequest}
    (hm : Scenario.InSession serial m)
    (h : @StreamRequest.Valid _ _ (Scenario.deskHooks fuel) q call m m₁)
    (hinstalled : m.host.installed = some installed) : HasDevices installed m₁ := by
  let := Scenario.deskHooks fuel
  obtain ⟨t, image, device, ht, -, hdevice⟩ := h.named
  cases hinstalled.symm.trans ht
  have hheld : Scenario.InSession serial (hold q.image m) :=
    hm.onTables (Scenario.polite_anything fuel).fit rfl (Nat.le_refl _) rfl fun _ h => h
  have hlasting := Scenario.lasting_true.known serial
  let aside : Scenario.DeskScene → Prop :=
    Kept Scenario.AtDesk Scenario.Anything (fun v => True ∧ ∃ p, v serial = some p) installed
  -- Whatever hooks do while the devices are looked for, the platform stays known and in use.
  have hstands : (Devices.get q.device).Stands aside aside :=
    Devices.get_stands (withstands (Scenario.polite_anything fuel) hlasting
      (fun _ _ => trivial) fun _ _ _ _ _ _ => trivial).aside
  have hget : ∀ n, aside n → (Devices.get q.device).Leads n
      (fun _ => Kept Scenario.AtDesk Scenario.Anything (fun v => (∃ p found,
        v installed = some p ∧ p.registry = .ready found) ∧ ∃ p, v serial = some p) installed)
      (fun _ => aside) aside := by
    intro n hn
    refine ((hstands n hn).and get_finds).mono (fun _ n' ⟨hn', found, hfound⟩ => ?_)
      (fun _ _ h => h.1) fun _ h => h.1
    exact ⟨hn'.seated, trivial, ⟨_, found, Machine.platform?_of_eq hn'.seated.inUse, hfound⟩,
      hn'.platforms.2⟩
  have hkept := (onRuntime_leads (A := fun _ => Scenario.Anything) (B := fun _ v => ∃ p found,
    v installed = some p ∧ p.registry = .ready found)
    (hheld.seated.installed installed ht) hget hheld).of_eq_ok hdevice
  obtain ⟨p, found, hp, hfound⟩ := hkept.platforms
  have hlabelled : m₁.Labelled := fun u q hq => (hkept.seated.parked u q hq).1
  exact ⟨found, hlabelled.platform_focus hp ▸ hfound⟩

end Desk

/-- The order in which registers are bound makes no difference. A binding is refused exactly if its
    register was bound by one that was accepted, and leaves the table as it is; where the same
    bindings were accepted, in whatever order, the tables are the same, so that nothing that is
    launched with one differs from what is launched with the other. A launch by handle is turned
    down for a register that is bound twice exactly if two of its groups have one in common, and
    then it has only looked for its device. -/
theorem binding_order_is_immaterial {κ ρ ω : Type} [Reentry κ ω] [Reentry κ (Desk ρ)] :
    (∀ calls register binding,
      let p := BindingTable.tryAll calls
      let p' := BindingTable.tryAll (calls ++ [(register, binding)])
      (p.1.bind register binding = .error (.duplicateRegister register) ↔
          register ∈ p.2.map Prod.fst) ∧
        (register ∈ p.2.map Prod.fst → p' = p) ∧
        (register ∉ p.2.map Prod.fst → p'.2 = p.2 ++ [(register, binding)])) ∧
    (∀ calls calls', (BindingTable.tryAll calls).2.Perm (BindingTable.tryAll calls').2 →
      (BindingTable.tryAll calls).1 = (BindingTable.tryAll calls').1 ∧
      ∀ image device domain,
        (Launch.launch image ⟨device, domain, (BindingTable.tryAll calls).1⟩ : Task κ ω Execution) =
            Launch.launch image ⟨device, domain, (BindingTable.tryAll calls').1⟩ ∧
          (Launch.run image ⟨device, domain, (BindingTable.tryAll calls).1⟩ : Task κ ω Summary) =
            Launch.run image ⟨device, domain, (BindingTable.tryAll calls').1⟩) ∧
    (∀ (q : Desk.StreamRequest) (m m₁ : Machine κ (Desk ρ)),
      (∀ serial, m.host.installed = some serial → Desk.HasDevices serial m₁) →
        q.LaunchedUnrepeated m m₁) ∧
    ∀ fuel serial (q : Desk.StreamRequest) (m m₁ : Scenario.DeskScene),
      Scenario.InSession serial m →
        @Desk.StreamRequest.LaunchedUnrepeated _ _ (Scenario.deskHooks fuel) q m m₁ := by
  refine ⟨fun calls register binding => ?_, fun calls calls' hperm => ?_,
    fun q m m₁ h => .of_hasDevices fun _ _ => h,
    fun fuel serial q m m₁ hm => @Desk.StreamRequest.LaunchedUnrepeated.of_hasDevices _ _ _ _ _
      (Scenario.deskHooks fuel) fun _ h _ => Desk.hasDevices hm h⟩
  · dsimp only
    rw [← BindingTable.mem_registers_tryAll, BindingTable.tryAll_concat]
    unfold BindingTable.tryBind
    -- A binding is refused if its register is in the table, and otherwise it is in the table from
    -- now on.
    rcases (BindingTable.tryAll calls).1.bind_cases register binding with
      ⟨hin, hbind⟩ | ⟨hnew, t, hbind, -⟩
    · rw [hbind]
      exact ⟨iff_of_true rfl hin, fun _ => rfl, fun hnew => absurd hin hnew⟩
    · rw [hbind]
      exact ⟨iff_of_false nofun hnew, fun hin => absurd hin hnew, fun _ => rfl⟩
  · rw [BindingTable.tryAll_eq_of_perm hperm]
    exact ⟨rfl, fun _ _ _ => ⟨rfl, rfl⟩⟩

/-- A register that is named both in place and as one to be copied. -/
theorem register_of_two_groups_is_turned_down :
    let q : Desk.StreamRequest := ⟨1, 0, ⟨0, 0, 1, 1⟩, [], [("x", 2)], [("x", 2)]⟩
    let remote : Remote := ⟨1, ⟨3⟩, ⟨1⟩, ⟨1, 1⟩, ⟨.float32, .one⟩, .plain⟩
    let m : Machine Empty (Desk Unit) :=
      { parked := [(1, { serial := 1, registry := .ready [⟨0, ⟨1⟩, {}, 1⟩] })]
        host := { images := [(1, ⟨⟨2⟩, 0⟩)], remotes := [(2, remote)], installed := some 1
                  client := () } }
    ∃ register m', (Desk.runStreamAsync q).run m =
      (.ok (.error (Desk.repeated "run_stream_async" register)), m') := by
  intro q remote m
  have hvalid : q.Valid "run_stream_async" m (Desk.hold 1 m) := by
    refine ⟨⟨1, ⟨⟨2⟩, 0⟩, ⟨0, ⟨1⟩, {}, 1⟩, rfl, rfl, rfl⟩, ?_, ?_, ?_, ?_, ?_⟩ <;> decide
  have hready : ∀ serial, m.host.installed = some serial →
      Desk.HasDevices serial (Desk.hold 1 m) := by
    rintro _ ⟨⟩
    exact ⟨[⟨0, ⟨1⟩, {}, 1⟩], rfl⟩
  have hrejects := (binding_order_is_immaterial (ω := Unit)).2.2.1 q m (Desk.hold 1 m) hready
  exact (hrejects.2 hvalid).1.mpr ⟨"x", Or.inr ⟨Or.inr (by decide), by decide⟩⟩

end StreamCompute
