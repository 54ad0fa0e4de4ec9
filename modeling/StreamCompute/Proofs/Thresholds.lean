/-
  StreamCompute.Proofs.Thresholds

  Which spans are reported, whatever a process sets while they run. A span is
  given its threshold when it begins; settings that are changed before it ends
  do not reach it. The threshold of the process has the greatest word for none,
  so that word is the one threshold that cannot be set.
-/
import StreamCompute.Data.Assoc
import StreamCompute.Proofs.Triple

namespace StreamCompute.Performance

/-- What a process does about spans. It tells its running spans apart by keys. -/
inductive Mark
  | configure (enabled : Bool) (threshold : Option Nat)
  | begin (key : Nat) (fields : Fields) (own : Option Nat)
  | finish (key : Nat) (micros : Nat)
deriving DecidableEq, Repr

def Mark.key? : Mark → Option Nat
  | configure _ _ => none
  | begin key _ _ => some key
  | finish key _ => some key

/-- The settings of a process and the spans that are running. -/
structure Process where
  settings : Settings := .initial
  running : Assoc Nat Span := []
deriving DecidableEq, Repr

namespace Process

/-- The process after a mark, and what is reported. -/
def next (p : Process) : Mark → Process × Option Event
  | .configure enabled threshold => ({ p with settings := .configured enabled threshold }, none)
  | .begin key fields own =>
    ({ p with running := p.running.set key (start p.settings fields own) }, none)
  | .finish key micros =>
    ({ p with running := p.running.erase key }, (p.running.get? key).bind (·.finish micros))

def after (p : Process) (marks : List Mark) : Process :=
  marks.foldl (fun p mark => (p.next mark).1) p

end Process

/-- The switch and the threshold that were set last. -/
def lastSet : List Mark → Option (Bool × Option Nat)
  | [] => none
  | .configure enabled threshold :: rest => (lastSet rest).or (some (enabled, threshold))
  | _ :: rest => lastSet rest

/-- Whether a span is to be reported that has this threshold and begins after the marks: spans
    are on, as they are at first, and the threshold is reached. -/
def due (marks : List Mark) (threshold : Option Nat) (micros : Nat) : Bool :=
  ((lastSet marks).map Prod.fst).getD true && threshold.all (· ≤ micros)

theorem Process.settings_after (p : Process) (marks : List Mark) :
    (p.after marks).settings =
      ((lastSet marks).map fun last => .configured last.1 last.2).getD p.settings := by
  induction marks generalizing p with
  | nil => rfl
  | cons mark rest ih =>
    rw [after, List.foldl_cons, ← after, ih]
    cases mark with
    | configure enabled threshold => cases h : lastSet rest <;> simp [lastSet, next, h]
    | begin => rfl
    | finish => rfl

theorem Process.get?_next (p : Process) {mark : Mark} {key : Nat} (h : mark.key? ≠ some key) :
    (p.next mark).1.running.get? key = p.running.get? key := by
  cases mark with
  | configure => rfl
  | begin other fields own => exact Assoc.get?_set_of_ne _ _ fun heq => h (congrArg some heq)
  | finish other micros =>
    exact (Assoc.get?_erase ..).trans (if_neg fun heq => h (congrArg some heq))

theorem Process.get?_after (p : Process) {marks : List Mark} {key : Nat}
    (h : ∀ mark ∈ marks, mark.key? ≠ some key) :
    (p.after marks).running.get? key = p.running.get? key := by
  induction marks generalizing p with
  | nil => rfl
  | cons mark rest ih =>
    obtain ⟨hmark, hrest⟩ := List.forall_mem_cons.mp h
    exact (ih _ hrest).trans (p.get?_next hmark)

/-! ## Reports -/

/-- What a process keeps of a threshold that is set for it: the greatest word is none. -/
def kept (threshold : Option Nat) : Option Nat :=
  if threshold = some noThreshold then none else threshold

theorem threshold?_configured (enabled : Bool) (threshold : Option Nat) :
    (Settings.configured enabled threshold).threshold? = kept threshold := by
  cases threshold with
  | none => rfl
  | some word =>
    by_cases h : word = noThreshold <;> simp [Settings.configured, Settings.threshold?, kept, h]

/-- What is reported of a span that is finished when it has taken this many microseconds. -/
def reported (marks : List Mark) (key micros : Nat) : Option Event :=
  ((Process.after {} marks).next (.finish key micros)).2

section Reports

variable {before between : List Mark} {key micros : Nat} {fields : Fields} {own : Option Nat}

theorem reported_eq_finish (hkey : ∀ mark ∈ between, mark.key? ≠ some key) :
    reported (before ++ .begin key fields own :: between) key micros =
      (start (Process.after {} before).settings fields own).finish micros := by
  have hrunning : (Process.after {} (before ++ .begin key fields own :: between)).running.get? key =
      some (start (Process.after {} before).settings fields own) := by
    rw [Process.after, List.foldl_append, List.foldl_cons, ← Process.after, ← Process.after,
      Process.get?_after _ hkey]
    exact Assoc.get?_set_self ..
  show Option.bind _ _ = _
  rw [hrunning, Option.bind_some]

theorem finish_start :
    (start (Process.after {} before).settings fields own).finish micros =
      if due before (own.or (kept ((lastSet before).bind Prod.snd))) micros then
        some (report fields)
      else none := by
  rw [Process.settings_after, due]
  unfold start Span.finish
  cases lastSet before with
  | none => simp [Settings.initial, Settings.threshold?, kept, report]
  | some last =>
    obtain ⟨enabled, threshold⟩ := last
    simp only [Option.map_some, Option.getD_some, Option.bind_some, threshold?_configured]
    cases enabled <;> simp [Settings.configured, report]

end Reports

/-- A span that finishes is reported exactly if it is due by what was set when it began, whatever
    is set meanwhile. Only the greatest threshold of 64 bits counts as none where it is set for
    the whole process. -/
theorem spans_obey_their_threshold (before between : List Mark) (key : Nat) (fields : Fields)
    (own : Option Nat) (micros : Nat) (hkey : ∀ mark ∈ between, mark.key? ≠ some key) :
    reported (before ++ .begin key fields own :: between) key micros =
      (if due before (own.or (kept ((lastSet before).bind Prod.snd))) micros then
        some (report fields)
      else none) ∧
    (own ≠ none ∨ (lastSet before).bind Prod.snd ≠ some noThreshold →
      reported (before ++ .begin key fields own :: between) key micros =
        if due before (own.or ((lastSet before).bind Prod.snd)) micros then some (report fields)
        else none) := by
  rw [reported_eq_finish hkey, finish_start]
  refine ⟨rfl, fun h => ?_⟩
  rcases h with hown | hset
  · obtain ⟨least, rfl⟩ := Option.ne_none_iff_exists'.mp hown
    rfl
  · rw [kept, if_neg hset]

/-- The threshold that was set when a span began decides, not the one that is set when it ends. -/
theorem span_keeps_its_threshold :
    reported [.configure true (some 500), .begin 0 [] none, .configure false none] 0 500 =
        some (report []) ∧
      reported [.configure true (some 500), .begin 0 [] none, .configure false none] 0 499 = none := by
  have hobeys := fun micros => (spans_obey_their_threshold [.configure true (some 500)]
    [.configure false none] 0 [] none micros (by simp [Mark.key?])).2 (.inr (by decide))
  exact ⟨hobeys 500, hobeys 499⟩

theorem greatest_threshold_is_ignored :
    ¬ ∀ before fields own micros, reported (before ++ [.begin 0 fields own]) 0 micros =
      if due before (own.or ((lastSet before).bind Prod.snd)) micros then some (report fields)
      else none := by
  intro h
  have hreport := h [.configure true (some (UInt64.size - 1))] [] none 0
  exact absurd hreport (by decide)

end StreamCompute.Performance
