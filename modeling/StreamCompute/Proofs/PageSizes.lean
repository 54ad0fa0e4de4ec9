/-
  StreamCompute.Proofs.PageSizes

  Sizes of huge pages and of mappings. Pages have a power of two of bytes, so
  they divide the range of 64 bits, and a length is rounded up to whole pages
  wherever these still fit. The size of a page is computed from a report of the
  system, and there a number that is too large for its unit cuts the call off.
-/
import StreamCompute.HostMemory.HugePages
import StreamCompute.Proofs.Triple

namespace StreamCompute.HostMemory

open Fallible

/-! ## Rounding -/

/-- A whole number of pages that has room for a length and fits in 64 bits. -/
structure Fits (page len n : Nat) : Prop where
  whole : page ∣ n
  room : len ≤ n
  small : n < UInt64.size

section Rounding

variable {len page m n : Nat}

/-- Rounding goes up, and by less than a page. -/
theorem le_of_roundUp? (h : roundUp? len page = some n) :
    len ≤ n ∧ (page ≠ 0 → n < len + page) := by
  unfold roundUp? at h
  split at h
  · cases h; simp_all
  · rename_i hpage
    split at h
    · cases h
      have hpos : 0 < page := Nat.pos_of_ne_zero hpage
      have hd := Nat.div_add_mod (len + (page - 1)) page
      have hm := Nat.mod_lt (len + (page - 1)) hpos
      rw [Nat.mul_comm] at hd
      constructor
      · omega
      · intro _; omega
    · cases h

theorem fits_of_roundUp? (hpage : page ≠ 0) (h : roundUp? len page = some n) : Fits page len n := by
  refine ⟨?_, (le_of_roundUp? h).1, ?_⟩
  all_goals
    rw [roundUp?, if_neg hpage, Option.ite_none_right_eq_some] at h
    obtain ⟨hsmall, hn⟩ := h
    cases hn
  · exact Nat.dvd_mul_left _ _
  · exact Nat.lt_of_le_of_lt (Nat.div_mul_le_self ..) hsmall

/-- A multiple of the page that is reached by less than a page is the least. -/
theorem le_of_fits (hwhole : page ∣ n) (hlt : n < len + page) (hm : Fits page len m) : n ≤ m := by
  obtain ⟨a, rfl⟩ := hwhole
  obtain ⟨⟨b, rfl⟩, hroom, -⟩ := hm
  have hlt : page * a < page * (b + 1) := by
    rw [Nat.mul_add_one]
    omega
  exact Nat.mul_le_mul_left _ (Nat.le_of_lt_succ (Nat.lt_of_mul_lt_mul_left hlt))

/-- The padded length is below 2 ^ 64 as soon as some whole number of pages is: the pages divide
    2 ^ 64, so the last of them ends there. -/
theorem padded_lt (hpage : page ∣ UInt64.size) (hm : Fits page len m) :
    len + (page - 1) < UInt64.size := by
  obtain ⟨a, ha⟩ := hpage
  obtain ⟨⟨b, rfl⟩, hroom, hsmall⟩ := hm
  rw [ha] at hsmall
  have hend : page * (b + 1) ≤ UInt64.size :=
    ha ▸ Nat.mul_le_mul_left _ (Nat.lt_of_mul_lt_mul_left hsmall)
  rw [Nat.mul_add_one] at hend
  have hpos : 0 < page := Nat.pos_of_ne_zero fun h => by simp [h] at ha
  omega

theorem roundUp?_eq_none_iff (hpage : page ∣ UInt64.size) :
    roundUp? len page = none ↔ ¬ ∃ m, Fits page len m := by
  have hne : page ≠ 0 := by rintro rfl; simp at hpage
  constructor
  · rintro h ⟨m, hm⟩
    rw [roundUp?, if_neg hne, if_pos (padded_lt hpage hm)] at h
    cases h
  · intro h
    cases hround : roundUp? len page with
    | none => rfl
    | some n => exact absurd ⟨n, fits_of_roundUp? hne hround⟩ h

theorem roundUp?_eq_some_iff (hpage : page ∣ UInt64.size) :
    roundUp? len page = some n ↔ Fits page len n ∧ ∀ m, Fits page len m → n ≤ m := by
  have hne : page ≠ 0 := by rintro rfl; simp at hpage
  have hleast : ∀ {n}, roundUp? len page = some n →
      Fits page len n ∧ ∀ m, Fits page len m → n ≤ m := fun h =>
    have hfits := fits_of_roundUp? hne h
    ⟨hfits, fun _ => le_of_fits hfits.whole ((le_of_roundUp? h).2 hne)⟩
  refine ⟨hleast, fun ⟨hfits, hle⟩ => ?_⟩
  cases hround : roundUp? len page with
  | none => exact absurd ⟨n, hfits⟩ ((roundUp?_eq_none_iff hpage).mp hround)
  | some n' =>
    obtain ⟨hfits', hle'⟩ := hleast hround
    rw [Nat.le_antisymm (hle' n hfits) (hle n' hfits')]

end Rounding

/-! ## Mappings -/

namespace System

/-- The mount table is read after so many attempts and `k` more that failed in a way that may have
    passed at the next one. -/
structure Reads (sys : System) (attempts k : Nat) (table : String) : Prop where
  failed : ∀ j, j < k → ∃ e, sys.mounts (attempts + j) = .error e ∧ e.isTransient = true
  read : sys.mounts (attempts + k) = .ok table

/-- The directory is remembered as that of huge pages, or it is found in the mount table. -/
inductive Mounts (sys : System) (s : Host) (mount : String) : Prop
  | remembered (known : s.mount = some mount)
  | listed {k : Nat} {table : String} (unknown : s.mount = none) (tries : k < mountTableTries)
      (reads : sys.Reads 0 k table) (entry : findHugePages? table = some mount)

/-- A file can be created in the directory of huge pages, and has this descriptor. -/
structure Creates (sys : System) (mount : String) (file : Nat) : Prop where
  path : hasNul (fileIn mount) = false
  created : ∃ path, sys.create (fileIn mount) = .ok (file, path)

/-- Every call that a mapping of `n` bytes takes is granted: there is a file for it, which is mapped
    at this length and address. -/
structure Grants (sys : System) (s : Host) (n file address : Nat) : Prop where
  created : ∃ mount, sys.Mounts s mount ∧ sys.Creates mount file
  mapped : sys.map file n = .ok address
  nonzero : address ≠ 0

end System

section Mapping

variable {sys : System} {s : Host} {attempts left k len page : Nat} {table mount : String}

/-- The first attempt has failed, and the others are made one later. -/
theorem System.reads_succ_iff : sys.Reads attempts (k + 1) table ↔
    (∃ e, sys.mounts attempts = .error e ∧ e.isTransient = true) ∧
      sys.Reads (attempts + 1) k table := by
  have hshift : ∀ j, attempts + (j + 1) = attempts + 1 + j := by omega
  constructor
  · intro h
    refine ⟨h.failed 0 (Nat.succ_pos k), fun j hj => ?_, ?_⟩
    · rw [← hshift]
      exact h.failed (j + 1) (Nat.succ_lt_succ hj)
    · rw [← hshift]
      exact h.read
  · rintro ⟨hfirst, h⟩
    refine ⟨fun j hj => ?_, ?_⟩
    · cases j with
      | zero => exact hfirst
      | succ j =>
        rw [hshift]
        exact h.failed j (Nat.lt_of_succ_lt_succ hj)
    · rw [hshift]
      exact h.read

/-- A table that was read was read in time, and only errors that may pass came before. -/
theorem readMounts_leads : (readMounts sys attempts left).Leads s
    (fun table _ => ∃ k ≤ left, sys.Reads attempts k table) (fun _ _ => True) fun _ => True := by
  -- Induction on the tries that are left; every failed one is one more attempt.
  induction left generalizing attempts with
  | zero =>
    unfold readMounts
    split
    · rename_i table hread
      exact ⟨0, Nat.le_refl 0, nofun, hread⟩
    · cases ‹_ = _›
    · trivial
  | succ left ih =>
    unfold readMounts
    split
    · rename_i table hread
      exact ⟨0, Nat.zero_le _, nofun, hread⟩
    · rename_i e rest hfailed hrest
      cases hrest
      split
      · rename_i htransient
        refine ih.imp fun table _ hread => ?_
        obtain ⟨k, hk, hreads⟩ := hread
        exact ⟨k + 1, Nat.succ_le_succ hk,
          System.reads_succ_iff.mpr ⟨⟨e, hfailed, htransient⟩, hreads⟩⟩
      · trivial
    · cases ‹_ = _›

theorem readMounts_reads (hreads : sys.Reads attempts k table) (hk : k ≤ left) :
    (readMounts sys attempts left).Leads s (fun found s' => found = table ∧ s' = s)
      (fun _ _ => False) fun _ => False := by
  induction k generalizing attempts left with
  | zero =>
    unfold readMounts
    rw [show sys.mounts attempts = .ok table from hreads.read]
    exact ⟨rfl, rfl⟩
  | succ k ih =>
    obtain ⟨⟨e, hfailed, htransient⟩, hrest⟩ := System.reads_succ_iff.mp hreads
    obtain ⟨left, rfl⟩ : ∃ n, left = n + 1 := ⟨left - 1, by omega⟩
    unfold readMounts
    simp only [hfailed, htransient, if_true]
    exact ih hrest (Nat.le_of_succ_le_succ hk)

theorem findMount_leads : (findMount sys).Leads s (fun mount _ => sys.Mounts s mount)
    (fun _ _ => True) fun _ => True := by
  unfold findMount
  rw [leads_bind, leads_get]
  split
  · rename_i mount hknown
    exact .remembered hknown
  · rename_i hunknown
    refine .bind readMounts_leads fun table _ hread => ?_
    obtain ⟨k, hk, hreads⟩ := hread
    split
    · trivial
    · rename_i mount hentry
      exact .listed hunknown (Nat.lt_succ_of_le hk) hreads hentry

theorem findMount_finds (h : sys.Mounts s mount) : (findMount sys).Leads s
    (fun found _ => found = mount) (fun _ _ => False) fun _ => False := by
  unfold findMount
  rw [leads_bind, leads_get]
  cases h with
  | remembered hknown =>
    rw [hknown]
    exact rfl
  | listed hunknown htries hreads hentry =>
    rw [hunknown]
    refine .bind (readMounts_reads hreads (Nat.le_pred_of_lt htries)) fun found _ hread => ?_
    obtain ⟨rfl, -⟩ := hread
    rw [hentry]
    exact rfl

namespace HugePages

theorem newFile_leads : (newFile sys mount).Leads s (fun file _ => sys.Creates mount file)
    (fun _ _ => True) fun _ => True := by
  unfold newFile
  by_cases hnul : hasNul (fileIn mount) = true
  · rw [if_pos hnul]
    trivial
  · rw [if_neg hnul]
    dsimp only
    split
    · trivial
    · rename_i file path hcreated
      have hcreates : sys.Creates mount file := ⟨Bool.eq_false_iff.mpr hnul, path, hcreated⟩
      split <;> exact hcreates

theorem newFile_creates {file : Nat} (h : sys.Creates mount file) : (newFile sys mount).Leads s
    (fun found _ => found = file) (fun _ _ => False) fun _ => False := by
  obtain ⟨hnul, path, hcreated⟩ := h
  unfold newFile
  rw [if_neg (Bool.eq_false_iff.mp hnul)]
  dsimp only
  rw [hcreated]
  dsimp only
  split <;> exact rfl

variable (hpage : hugePageSize sys.report = .ok page) (hlen : len ≠ 0)

include hpage

theorem leads_pageSize {ok : Nat → Host → Prop} {err : HostError → Host → Prop}
    {cut : Host → Prop} : (pageSize sys).Leads s ok err cut ↔ ok page s := by
  unfold pageSize
  rw [leads_perform, hpage]
  exact Iff.rfl

include hlen

/-- A mapping that was made is as long as the rounding says, and every call was granted. -/
theorem allocate_leads : (allocate sys len).Leads s
    (fun h _ => h = { size := len, mapped := h.mapped, address := h.address, file := h.file } ∧
      roundUp? len page = some h.mapped ∧ sys.Grants s h.mapped h.file h.address)
    (fun _ _ => True) fun _ => True := by
  unfold allocate
  rw [if_neg hlen]
  refine .bind findMount_leads fun mount s₁ hmount => ?_
  rw [leads_bind, leads_pageSize hpage]
  split
  · trivial
  · rename_i mapped hround
    refine .bind newFile_leads fun file s₂ hfile => ?_
    split
    · trivial
    · trivial
    · rename_i address hzero hmap
      exact ⟨rfl, hround, ⟨mount, hmount, hfile⟩, hmap, hzero⟩

/-- Where every call is granted, a mapping is made. -/
theorem allocate_grants {n file address : Nat} (hround : roundUp? len page = some n)
    (h : sys.Grants s n file address) : (allocate sys len).Leads s
      (fun h _ => h = { size := len, mapped := n, address, file }) (fun _ _ => False)
      fun _ => False := by
  obtain ⟨⟨mount, hmount, hfile⟩, hmap, hzero⟩ := h
  unfold allocate
  rw [if_neg hlen]
  refine .bind (findMount_finds hmount) fun found s₁ hfound => ?_
  rw [leads_bind, leads_pageSize hpage, hround, hfound]
  refine .bind (newFile_creates hfile) fun found s₂ hfound => ?_
  rw [hfound, hmap]
  split
  · cases ‹_ = _›
  · rename_i heq
    cases heq
    exact absurd rfl hzero
  · rename_i heq
    cases heq
    exact rfl

theorem allocate_overflows (hround : roundUp? len page = none) (hmount : sys.Mounts s mount) :
    (allocate sys len).Leads s (fun _ _ => False)
      (fun e _ => e = .allocation len "huge page mapping length overflows") fun _ => False := by
  unfold allocate
  rw [if_neg hlen]
  refine leads_bind.mpr ((findMount_finds hmount).mono (fun _ s₁ _ => ?_)
    (fun _ _ h => h.elim) fun _ h => h)
  rw [leads_bind, leads_pageSize hpage, hround]
  exact rfl

end HugePages

end Mapping

/-- Rounding to whole pages, whose size is a power of two, answers with the least whole number of
    pages that has room for the length, and with nothing exactly if there is none below 2 ^ 64.

    A request for memory is answered with a mapping exactly if the system grants the calls for one
    of that length: there is a mount, a file can be created in it and is mapped at the length that
    was computed. So the mapping has room for what was asked for. Where there is no such length,
    the request is refused. -/
theorem rounding_is_exact (len page : Nat) (hpage : page < UInt64.size)
    (hpower : page.isPowerOfTwo) :
    (∀ n, roundUp? len page = some n ↔ Fits page len n ∧ ∀ m, Fits page len m → n ≤ m) ∧
    (roundUp? len page = none ↔ ¬ ∃ m, Fits page len m) ∧
    (∀ n, roundUp? len page = some n → len ≤ n ∧ n - len < page) ∧
    ∀ (sys : System) (s : Host), hugePageSize sys.report = .ok page → 0 < len →
      (∀ h, (∃ s', (HugePages.allocate sys len).run s = (.ok (.ok h), s')) ↔
        h = { size := len, mapped := h.mapped, address := h.address, file := h.file } ∧
          roundUp? len page = some h.mapped ∧ sys.Grants s h.mapped h.file h.address) ∧
      (∀ h s', (HugePages.allocate sys len).run s = (.ok (.ok h), s') →
        h.size = len ∧ len ≤ h.mapped ∧ page ∣ h.mapped) ∧
      ∀ mount, sys.Mounts s mount → (¬ ∃ m, Fits page len m) → ∃ s',
        (HugePages.allocate sys len).run s =
          (.ok (.error (.allocation len "huge page mapping length overflows")), s') := by
  -- A power of two below the bound divides it, so that adding up overflows only where no multiple
  -- fits.
  have hdvd : page ∣ UInt64.size := by
    obtain ⟨k, rfl⟩ := hpower
    exact Nat.pow_dvd_pow (n := 64) 2
      (Nat.le_of_lt ((Nat.pow_lt_pow_iff_right (a := 2) (by decide)).mp hpage))
  have hpos : 0 < page := Nat.pos_of_dvd_of_pos hdvd (by decide)
  refine ⟨fun _ => roundUp?_eq_some_iff hdvd, roundUp?_eq_none_iff hdvd, fun n h => ?_,
    fun sys s hsize hlen => ⟨fun h => ⟨?_, ?_⟩, fun h s' hrun => ?_, fun mount hmount hnone => ?_⟩⟩
  · have hle := le_of_roundUp? h
    omega
  · rintro ⟨s', hrun⟩
    exact (HugePages.allocate_leads hsize (Nat.ne_of_gt hlen)).of_eq_ok hrun
  · rintro ⟨hh, hround, hgrants⟩
    obtain ⟨_, s', hrun, rfl⟩ :=
      answers_of_leads (HugePages.allocate_grants hsize (Nat.ne_of_gt hlen) hround hgrants)
    exact ⟨s', by rw [hrun, ← hh]⟩
  · obtain ⟨hh, hround, -⟩ := (HugePages.allocate_leads hsize (Nat.ne_of_gt hlen)).of_eq_ok hrun
    have hfits := fits_of_roundUp? (Nat.ne_of_gt hpos) hround
    exact ⟨by rw [hh], hfits.room, hfits.whole⟩
  · have hround := (roundUp?_eq_none_iff hdvd).mpr hnone
    obtain ⟨_, s', hrun, rfl⟩ :=
      run_of_leads_error (HugePages.allocate_overflows hsize (Nat.ne_of_gt hlen) hround hmount)
    exact ⟨s', hrun⟩

/-- The last page that begins below 2 ^ 64 is still had, and is mapped if the system does so. There
    is nothing after it. -/
theorem rounding_reaches_the_top :
    roundUp? (UInt64.size - 4096) 4096 = some (UInt64.size - 4096) ∧
      (¬ ∃ m, Fits 4096 (UInt64.size - 4095) m) ∧
      ∃ s', (HugePages.allocate { report := some "Hugepagesize: 4 kB" } (UInt64.size - 4096)).run
        { mount := some "/huge" } =
          (.ok (.ok ⟨UInt64.size - 4096, UInt64.size - 4096, 4096, 3, []⟩), s') := by
  have hexact := fun len => rounding_is_exact len 4096 (by decide) ⟨12, rfl⟩
  have htop : roundUp? (UInt64.size - 4096) 4096 = some (UInt64.size - 4096) :=
    ((hexact _).1 _).mpr ⟨⟨by decide, by decide, by decide⟩, fun _ hm => hm.room⟩
  refine ⟨htop, (hexact _).2.1.mp (by decide), ?_⟩
  refine (((hexact _).2.2.2 _ _ rfl (by decide)).1 _).mpr ⟨rfl, htop, ?_⟩
  exact ⟨⟨"/huge", .remembered rfl, by decide, _, rfl⟩, rfl, by decide⟩

/-! ## Reports -/

/-- A report states a size by a number and a unit: they come after the label on the first line
    that begins with it. -/
inductive States (report : String) : Nat → Option (List Char) → Prop
  | intro {before after : List (List Char)} {line label digits : List Char}
      {units : List (List Char)} {n : Nat}
      (lines : Text.lines report.toList = before ++ line :: after)
      (first : ∀ other ∈ before, ¬ "Hugepagesize:".toList <+: other)
      (labelled : "Hugepagesize:".toList <+: line)
      (words : Text.words line = label :: digits :: units)
      (number : Text.readUnsigned 10 UInt64.size digits = some n) : States report n units.head?

theorem pageSizeLine?_eq_some_iff {report : String} {line : List Char} :
    pageSizeLine? report = some line ↔ "Hugepagesize:".toList <+: line ∧
      ∃ before after, Text.lines report.toList = before ++ line :: after ∧
        ∀ other ∈ before, ¬ "Hugepagesize:".toList <+: other := by
  unfold pageSizeLine?
  rw [List.find?_eq_some_iff_append]
  simp only [List.isPrefixOf_iff_prefix, Bool.not_eq_true', Bool.eq_false_iff, ne_eq]

theorem States.readPageSize {report : String} {number : Nat} {unit : Option (List Char)}
    (h : States report number unit) :
    readPageSize report = some <$> mul64 number (unitScale unit) := by
  cases h with
  | intro lines first labelled words number =>
    have hline := pageSizeLine?_eq_some_iff.mpr ⟨labelled, _, _, lines, first⟩
    simp only [HostMemory.readPageSize, hline, Option.map_some, words, number]

theorem readPageSize_of_not_states {report : String}
    (h : ¬ ∃ number unit, States report number unit) : readPageSize report = .ok none := by
  unfold readPageSize
  split
  · rename_i digits units heq
    obtain ⟨line, hline, hwords⟩ := Option.map_eq_some_iff.mp heq
    obtain ⟨hlabel, before, after, hlines, hfirst⟩ := pageSizeLine?_eq_some_iff.mp hline
    split
    · rename_i number hnumber
      exact absurd ⟨number, _, States.intro hlines hfirst hlabel hwords hnumber⟩ h
    · rfl
  · rfl

/-- The size of pages that a report states is the exact product of its number and its unit. One
    that is not below 2 ^ 64 cuts the call off; where none is stated, the default counts. -/
theorem page_size_is_exact (report : String) :
    (∀ number unit, States report number unit →
      (number * unitScale unit < UInt64.size →
        readPageSize report = .ok (some (number * unitScale unit)) ∧
          hugePageSize (some report) = .ok (number * unitScale unit)) ∧
      (UInt64.size ≤ number * unitScale unit →
        readPageSize report = .error ⟨"attempt to multiply with overflow"⟩ ∧
          hugePageSize (some report) = .error ⟨"attempt to multiply with overflow"⟩)) ∧
    ((¬ ∃ number unit, States report number unit) →
      readPageSize report = .ok none ∧ hugePageSize (some report) = .ok defaultHugePage) := by
  refine ⟨fun number unit h => ?_, fun h => ?_⟩
  · rw [hugePageSize, h.readPageSize]
    constructor
    · intro hsmall
      rw [mul64, mulBelow, if_pos hsmall]
      exact ⟨rfl, rfl⟩
    · intro hlarge
      rw [mul64, mulBelow, if_neg (Nat.not_lt.mpr hlarge)]
      exact ⟨rfl, rfl⟩
  · rw [hugePageSize, readPageSize_of_not_states h]
    exact ⟨rfl, rfl⟩

theorem reported_page_size_is_read :
    States "A: 1 kB\nHugepagesize: 2048 kB" 2048 (some "kB".toList) ∧
      hugePageSize (some "A: 1 kB\nHugepagesize: 2048 kB") = .ok (2048 * 1024) := by
  have hstates : States "A: 1 kB\nHugepagesize: 2048 kB" 2048 (some "kB".toList) :=
    @States.intro _ ["A: 1 kB".toList] [] "Hugepagesize: 2048 kB".toList "Hugepagesize:".toList
      "2048".toList ["kB".toList] 2048 (by decide) (by simp) ⟨" 2048 kB".toList, by decide⟩
      (by decide) (by decide)
  exact ⟨hstates, (((page_size_is_exact _).1 _ _ hstates).1 (by decide)).2⟩

theorem large_page_size_cuts_off : ¬ ∀ report, ∃ answer, readPageSize report = .ok answer := by
  intro h
  obtain ⟨answer, hanswer⟩ := h "Hugepagesize: 18446744073709551615 kB"
  have hcut : readPageSize "Hugepagesize: 18446744073709551615 kB" =
      .error ⟨"attempt to multiply with overflow"⟩ := by rfl
  rw [hcut] at hanswer
  cases hanswer

end StreamCompute.HostMemory
