import CodeSearch.Results.Excerpt

/-!
The numbers of the lines in a window. They follow one another without a gap, from the first to the
last number of the hit's window, also where the window is cut off at a bound of the numbers.
-/
namespace CodeSearch

open Numeric

def RunsFrom : Int → List Line → Prop
  | _, [] => True
  | start, l :: ls => l.number.val = start ∧ RunsFrom (start + 1) ls

namespace RunsFrom

theorem append_iff (start : Int) (xs ys : List Line) :
    RunsFrom start (xs ++ ys) ↔ RunsFrom start xs ∧ RunsFrom (start + xs.length) ys := by
  induction xs generalizing start with
  | nil => simp [RunsFrom]
  | cons l ls ih =>
    have shift : start + 1 + (ls.length : Int) = start + ((l :: ls).length : Int) := by
      simp only [List.length_cons]
      omega
    simp only [List.cons_append, RunsFrom, ih, shift, and_assoc]

theorem bounds {start : Int} {ls : List Line} (runs : RunsFrom start ls) {l : Line}
    (member : l ∈ ls) : start ≤ l.number.val ∧ l.number.val < start + ls.length := by
  induction ls generalizing start with
  | nil => cases member
  | cons first rest ih =>
    simp only [List.length_cons]
    cases List.mem_cons.1 member with
    | inl here =>
      have number := runs.1
      rw [here]
      omega
    | inr later =>
      have further := ih runs.2 later
      omega

theorem exists_number {start k : Int} {ls : List Line} (runs : RunsFrom start ls)
    (low : start ≤ k) (high : k < start + ls.length) : ∃ l ∈ ls, l.number.val = k := by
  induction ls generalizing start with
  | nil =>
    simp only [List.length_nil] at high
    omega
  | cons first rest ih =>
    by_cases here : start = k
    · exact ⟨first, List.mem_cons_self, runs.1.trans here⟩
    · simp only [List.length_cons] at high
      obtain ⟨l, member, number⟩ := ih runs.2 (by omega) (by omega)
      exact ⟨l, List.mem_cons_of_mem first member, number⟩

theorem increasing {start : Int} {ls : List Line} (runs : RunsFrom start ls) :
    ls.Pairwise fun a b => a.number.val < b.number.val := by
  induction ls generalizing start with
  | nil => exact .nil
  | cons first rest ih =>
    refine List.pairwise_cons.2 ⟨?_, ih runs.2⟩
    intro l later
    have low := (bounds runs.2 later).1
    have number := runs.1
    omega

theorem map {start : Int} {ls : List Line} (f : Line → Line)
    (keeps : ∀ l, (f l).number = l.number) (runs : RunsFrom start ls) :
    RunsFrom start (ls.map f) := by
  induction ls generalizing start with
  | nil => exact trivial
  | cons first rest ih =>
    refine ⟨?_, ih runs.2⟩
    rw [keeps]
    exact runs.1

theorem number_of_getLast? {start : Int} {ls : List Line} (runs : RunsFrom start ls) {l : Line}
    (last : ls.getLast? = some l) : start + (ls.length : Int) = l.number.val + 1 := by
  induction ls generalizing start with
  | nil => cases last
  | cons first rest ih =>
    cases rest with
    | nil =>
      have number := runs.1
      simp only [List.getLast?_singleton, Option.some.injEq] at last
      subst last
      simp only [List.length_cons, List.length_nil]
      omega
    | cons second rest =>
      have later := ih runs.2 (by simpa only [List.getLast?_cons_cons] using last)
      simp only [List.length_cons] at later ⊢
      omega

theorem map_number {start : Int} {ls : List Line} (runs : RunsFrom start ls) :
    ls.map (·.number.val) = (List.range ls.length).map fun i : Nat => start + i := by
  induction ls generalizing start with
  | nil => rfl
  | cons l ls ih =>
    rw [List.map_cons, List.length_cons, List.range_succ_eq_map, List.map_cons, List.map_map,
      ih runs.2, runs.1]
    refine List.cons_eq_cons.2 ⟨by omega, List.map_congr_left fun i _ => ?_⟩
    simp only [Function.comp_apply]
    omega

/-- Of lines in a row, those past a bound are again in a row. -/
theorem filter {start : Int} {ls : List Line} (bound : Int) (runs : RunsFrom start ls) :
    RunsFrom (max start (bound + 1)) (ls.filter fun l => bound < l.number.val) := by
  induction ls generalizing start with
  | nil => exact trivial
  | cons first rest ih =>
    have number := runs.1
    have later := ih runs.2
    by_cases past : bound < first.number.val
    · rw [List.filter_cons_of_pos (by simpa using past)]
      have same : max (start + 1) (bound + 1) = max start (bound + 1) + 1 := by omega
      exact ⟨by omega, same ▸ later⟩
    · rw [List.filter_cons_of_neg (by simpa using past)]
      have same : max (start + 1) (bound + 1) = max start (bound + 1) := by omega
      exact same ▸ later

end RunsFrom

namespace Hit

/-- Lines of context, the first of them this far from the hit. -/
def contextFrom (h : Hit) : Int → List String → List Line
  | _, [] => []
  | distance, content :: contents =>
    (h.contextLine? distance content).toList ++ h.contextFrom (distance + 1) contents

theorem filterMap_zipIdx (h : Hit) (offset : Int) (contents : List String) (k : Nat) :
    (contents.zipIdx k).filterMap (fun p => h.contextLine? ((p.2 : Int) + offset) p.1) =
      h.contextFrom (k + offset) contents := by
  induction contents generalizing k with
  | nil => rfl
  | cons content contents ih =>
    have next : ((k + 1 : Nat) : Int) + offset = k + offset + 1 := by omega
    rw [List.zipIdx_cons, List.filterMap_cons, ih, next, contextFrom]
    cases h.contextLine? (k + offset) content <;> rfl

theorem linesBefore_eq (h : Hit) :
    h.linesBefore = h.contextFrom (-h.before.length) h.before := by
  have all := filterMap_zipIdx h (-h.before.length) h.before 0
  simpa only [linesBefore, Int.sub_eq_add_neg, Int.zero_add, Int.natCast_zero] using all

theorem linesAfter_eq (h : Hit) : h.linesAfter = h.contextFrom 1 h.after := by
  have all := filterMap_zipIdx h 1 h.after 0
  simpa only [linesAfter, Int.zero_add, Int.natCast_zero] using all

theorem contextLine?_eq_some {h : Hit} {distance : Int} {content : String} {l : Line} :
    h.contextLine? distance content = some l ↔
      l.number.val = h.number.val + distance ∧ l.content = content ∧ l.isHit = false := by
  obtain ⟨⟨n, low, high⟩, written, isHit⟩ := l
  simp only [contextLine?, Bounded.add?, Bounded.ofInt?]
  split
  · simp only [Option.map_some, Option.some.injEq, Line.mk.injEq, Bounded.mk.injEq]
    constructor <;> rintro ⟨a, b, c⟩ <;> exact ⟨a.symm, b.symm, c.symm⟩
  · rename_i outside
    simp only [Option.map_none, reduceCtorEq, false_iff]
    rintro ⟨rfl, -, -⟩
    exact outside ⟨low, high⟩

theorem mem_contextFrom {h : Hit} {distance : Int} {contents : List String} {l : Line} :
    l ∈ h.contextFrom distance contents ↔
      l.isHit = false ∧ ∃ i : Nat, l.number.val = h.number.val + distance + i ∧
        contents[i]? = some l.content := by
  induction contents generalizing distance with
  | nil => simp [contextFrom]
  | cons content contents ih =>
    simp only [contextFrom, List.mem_append, Option.mem_toList, contextLine?_eq_some, ih]
    constructor
    · rintro (⟨number, written, plain⟩ | ⟨plain, i, number, written⟩)
      · exact ⟨plain, 0, by omega, by simp [written]⟩
      · exact ⟨plain, i + 1, by omega, by simpa using written⟩
    · rintro ⟨plain, i, number, written⟩
      cases i with
      | zero => exact .inl ⟨by omega, by simpa using written.symm, plain⟩
      | succ i => exact .inr ⟨plain, i, by omega, by simpa using written⟩

theorem contextFrom_number {h : Hit} {distance : Int} {contents : List String} {l : Line}
    (member : l ∈ h.contextFrom distance contents) : h.number.val + distance ≤ l.number.val := by
  obtain ⟨-, i, number, -⟩ := mem_contextFrom.1 member
  omega

theorem contextLine?_eq_none {h : Hit} {distance : Int} {content : String}
    (missing : h.contextLine? distance content = none) :
    h.number.val + distance < -9223372036854775808 ∨
      9223372036854775807 < h.number.val + distance := by
  simp only [contextLine?, Bounded.add?, Bounded.ofInt?, Option.map_eq_none_iff] at missing
  split at missing
  · contradiction
  · omega

/-- Lines are left out only where their numbers would be out of bounds. -/
theorem contextFrom_length (h : Hit) (distance : Int) (contents : List String) :
    ((h.contextFrom distance contents).length : Int) =
      max 0 (min 9223372036854775808 (h.number.val + distance + contents.length) -
        max (-9223372036854775808) (h.number.val + distance)) := by
  induction contents generalizing distance with
  | nil =>
    simp only [contextFrom, List.length_nil]
    omega
  | cons content contents ih =>
    have later := ih (distance + 1)
    rw [contextFrom]
    cases found : h.contextLine? distance content with
    | some l =>
      have number := (contextLine?_eq_some.1 found).1
      have low := l.number.low_le
      have high := l.number.le_high
      simp only [Option.toList_some, List.length_append, List.length_cons, List.length_nil]
      omega
    | none =>
      have outside := contextLine?_eq_none found
      simp only [Option.toList_none, List.nil_append, List.length_cons]
      omega

theorem contextFrom_runs (h : Hit) (distance : Int) (contents : List String) :
    RunsFrom (max (-9223372036854775808) (h.number.val + distance))
      (h.contextFrom distance contents) := by
  induction contents generalizing distance with
  | nil => exact trivial
  | cons content contents ih =>
    have later := ih (distance + 1)
    rw [contextFrom]
    cases found : h.contextLine? distance content with
    | some l =>
      have number := (contextLine?_eq_some.1 found).1
      have low := l.number.low_le
      have start : max (-9223372036854775808) (h.number.val + (distance + 1)) =
          max (-9223372036854775808) (h.number.val + distance) + 1 := by omega
      exact ⟨by omega, start ▸ later⟩
    | none =>
      cases contextLine?_eq_none found with
      | inl low =>
        have start : max (-9223372036854775808) (h.number.val + (distance + 1)) =
            max (-9223372036854775808) (h.number.val + distance) := by omega
        exact start ▸ later
      | inr high =>
        -- Past the upper bound no line follows, so the start does not matter.
        have empty : h.contextFrom (distance + 1) contents = [] := by
          rw [List.eq_nil_iff_forall_not_mem]
          intro l member
          have above := contextFrom_number member
          have bound := l.number.le_high
          omega
        rw [empty]
        exact trivial

theorem first_val (h : Hit) :
    h.first.val = max (-9223372036854775808) (h.number.val - h.before.length) := by
  have high := h.number.le_high
  rw [first, Signed64.clamp, Bounded.clamp_val]
  omega

theorem last_val (h : Hit) :
    h.last.val = min 9223372036854775807 (h.number.val + h.after.length) := by
  have low := h.number.low_le
  rw [last, Signed64.clamp, Bounded.clamp_val]
  omega

theorem linesBefore_length (h : Hit) :
    h.first.val + (h.linesBefore.length : Int) = h.number.val := by
  have low := h.number.low_le
  have high := h.number.le_high
  have first := h.first_val
  have length := contextFrom_length h (-h.before.length) h.before
  rw [← linesBefore_eq] at length
  omega

theorem window_runs (h : Hit) : RunsFrom h.first.val h.window := by
  have low := h.number.low_le
  have before := contextFrom_runs h (-h.before.length) h.before
  have after := contextFrom_runs h 1 h.after
  rw [← linesBefore_eq, ← Int.sub_eq_add_neg, ← first_val] at before
  rw [← linesAfter_eq] at after
  refine (RunsFrom.append_iff _ _ _).2 ⟨before, ?_, ?_⟩
  · exact h.linesBefore_length.symm
  · rw [linesBefore_length]
    have start : max (-9223372036854775808) (h.number.val + 1) = h.number.val + 1 := by omega
    exact start ▸ after

theorem window_length (h : Hit) : h.first.val + (h.window.length : Int) = h.last.val + 1 := by
  have low := h.number.low_le
  have high := h.number.le_high
  have last := h.last_val
  have before := h.linesBefore_length
  have after := contextFrom_length h 1 h.after
  rw [← linesAfter_eq] at after
  simp only [window, List.length_append, List.length_cons]
  omega

theorem exists_mem_window {h : Hit} {k : Int} :
    (∃ l ∈ h.window, l.number.val = k) ↔ h.first.val ≤ k ∧ k ≤ h.last.val := by
  have length := h.window_length
  constructor
  · rintro ⟨l, member, rfl⟩
    have bounds := h.window_runs.bounds member
    omega
  · rintro ⟨low, high⟩
    exact h.window_runs.exists_number low (by omega)

theorem line_mem_window (h : Hit) : h.line ∈ h.window :=
  List.mem_append_right _ List.mem_cons_self

theorem mem_window {h : Hit} {l : Line} :
    l ∈ h.window ↔ l ∈ h.linesBefore ∨ l = h.line ∨ l ∈ h.linesAfter := by
  simp only [window, List.mem_append, List.mem_cons]

theorem number_of_mem_window {h : Hit} {l : Line} (member : l ∈ h.window)
    (marked : l.isHit = true) : l.number = h.number := by
  rcases mem_window.1 member with before | rfl | after
  · rw [linesBefore_eq, mem_contextFrom, marked] at before
    cases before.1
  · rfl
  · rw [linesAfter_eq, mem_contextFrom, marked] at after
    cases after.1

end Hit

namespace Excerpt

theorem ofHit_lines (h : Hit) : (ofHit h).lines = h.window := by
  rw [ofHit, Hit.window]
  cases h.linesBefore <;> rfl

def Gapless (e : Excerpt) : Prop := RunsFrom e.first.val e.lines

theorem first_eq_of_runs {e : Excerpt} {start : Int} (runs : RunsFrom start e.lines) :
    e.first.val = start := runs.1

theorem ofHit_first (h : Hit) : (ofHit h).first.val = h.first.val :=
  first_eq_of_runs (by rw [ofHit_lines]; exact h.window_runs)

theorem ofHit_gapless (h : Hit) : (ofHit h).Gapless := by
  rw [Gapless, ofHit_first, ofHit_lines]
  exact h.window_runs

theorem getLast?_lines (e : Excerpt) : e.lines.getLast? = some e.lastLine := by
  simp only [lines, lastLine, List.getLast?_cons]

namespace Gapless

theorem first_le {e : Excerpt} (gapless : e.Gapless) {l : Line} (member : l ∈ e.lines) :
    e.first.val ≤ l.number.val := (gapless.bounds member).1

theorem length_lines {e : Excerpt} (gapless : e.Gapless) :
    e.first.val + (e.lines.length : Int) = e.last.val + 1 :=
  gapless.number_of_getLast? e.getLast?_lines

theorem le_last {e : Excerpt} (gapless : e.Gapless) {l : Line} (member : l ∈ e.lines) :
    l.number.val ≤ e.last.val := by
  have length := gapless.length_lines
  have below := (gapless.bounds member).2
  omega

theorem first_le_last {e : Excerpt} (gapless : e.Gapless) : e.first.val ≤ e.last.val :=
  gapless.le_last List.mem_cons_self

end Gapless

end Excerpt

end CodeSearch
