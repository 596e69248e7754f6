import CodeSearch.Proofs.Results.Covering
import CodeSearch.Results.Strip

/-!
How excerpts are laid out. Hits in any order, with numbers up to the bounds, give strips in which
each line has the place that its number says; no line is ever pushed to a wrong place, and the strips
are the excerpts.
-/
namespace CodeSearch

open Numeric

namespace RunsFrom

theorem place_of_later {start k : Int} (other : k ≠ start) (low : start ≤ k) :
    start + 1 ≤ k ∧ (k - start).toNat = (k - (start + 1)).toNat + 1 := by
  omega

theorem find?_eq_getElem? {start : Int} {ls : List Line} (runs : RunsFrom start ls)
    (number : Signed64) : ls.find? (·.number == number) =
      if start ≤ number.val then ls[(number.val - start).toNat]? else none := by
  induction ls generalizing start with
  | nil => simp
  | cons l ls ih =>
    have here := runs.1
    rw [List.find?_cons, ih runs.2]
    by_cases same : l.number = number
    · rw [← same]
      simp [here]
    · have unlike : (l.number == number) = false := beq_false_of_ne same
      have other : number.val ≠ start := fun equal => same (Bounded.ext (here.trans equal.symm))
      by_cases low : start ≤ number.val
      · obtain ⟨later, place⟩ := place_of_later other low
        simp [unlike, low, later, place]
      · have before : ¬ start + 1 ≤ number.val := by omega
        simp [unlike, low, before]

theorem map_mark {start : Int} {ls : List Line} (runs : RunsFrom start ls) (number : Signed64) :
    ls.map (Excerpt.mark number) =
      if start ≤ number.val then
        ls.modify (number.val - start).toNat fun l => { l with isHit := true }
      else ls := by
  induction ls generalizing start with
  | nil => simp
  | cons l ls ih =>
    have here := runs.1
    rw [List.map_cons, ih runs.2]
    by_cases same : l.number = number
    · have begins : number.val = start := same ▸ here
      have later : ¬ start + 1 ≤ start := by omega
      simp [Excerpt.mark, same, begins, later]
    · have other : number.val ≠ start := fun equal => same (Bounded.ext (here.trans equal.symm))
      by_cases low : start ≤ number.val
      · obtain ⟨later, place⟩ := place_of_later other low
        simp [Excerpt.mark, same, low, later, place]
      · have before : ¬ start + 1 ≤ number.val := by omega
        simp [Excerpt.mark, same, low, before]

/-- Lines in a row come up to a bound first and then past it. -/
theorem filter_append {start : Int} {ls : List Line} (bound : Int) (runs : RunsFrom start ls) :
    ls.filter (fun l => !decide (bound < l.number.val)) ++
      ls.filter (fun l => decide (bound < l.number.val)) = ls := by
  induction ls generalizing start with
  | nil => rfl
  | cons l ls ih =>
    have number := runs.1
    by_cases past : bound < l.number.val
    · have later : ∀ m ∈ ls, bound < m.number.val := by
        intro m member
        have low := (runs.2.bounds member).1
        omega
      have before : ls.filter (fun l => !decide (bound < l.number.val)) = [] := by
        simpa using later
      have after : ls.filter (fun l => decide (bound < l.number.val)) = ls := by
        simpa using later
      simp [past, before, after]
    · simp [past, ih runs.2]

end RunsFrom

namespace Strip

def Placed (s : Strip) : Prop := RunsFrom s.start.val s.lines

theorem finish_val {s : Strip} (nonempty : s.lines ≠ [])
    (fits : s.start.val + s.lines.length ≤ 9223372036854775808) :
    s.finish.val = s.start.val + ((s.lines.length : Int) - 1) := by
  have some := List.length_pos_iff.2 nonempty
  have low := s.start.low_le
  rw [finish, Signed64.clamp, Bounded.clamp_val]
  omega

theorem markAt_of_placed {s : Strip} (placed : s.Placed) (number : Signed64) :
    s.markAt number = { s with lines := s.lines.map (Excerpt.mark number) } := by
  rw [RunsFrom.map_mark placed, markAt, place?]
  split <;> rename_i found
  · split at found
    · rename_i low
      rw [if_pos low, ← Option.some.inj found]
    · cases found
  · split at found
    · cases found
    · rename_i low
      rw [if_neg low]

/-- The next number can be written, so its line fits. -/
theorem push?_of_next {s : Strip} (nonempty : s.lines ≠ []) {l : Line}
    (next : l.number.val = s.start.val + s.lines.length) :
    s.push? l = some { s with lines := s.lines ++ [l] } := by
  have high := l.number.le_high
  have finish := finish_val nonempty (by omega)
  have sum : s.finish.val + 1 = l.number.val := by omega
  rw [push?, Bounded.add?, sum, Bounded.ofInt?_val, if_pos rfl]

/-- The part of a window that the strip has already only brings marks. -/
theorem foldlM_marks {s : Strip} (placed : s.Placed) {reach : Int} {ls : List Line}
    (within : ∀ l ∈ ls, ¬ reach < l.number.val) :
    ls.foldlM (takeLine? reach) s =
      some { s with lines := s.lines.map (Excerpt.markAll (ls.filter (·.isHit))) } := by
  induction ls generalizing s with
  | nil =>
    have same : s.lines.map (Excerpt.markAll []) = s.lines := List.map_id s.lines
    simp [same]
  | cons l ls ih =>
    have known := List.forall_mem_cons.1 within
    rw [List.foldlM_cons, takeLine?, if_neg known.1]
    by_cases marked : l.isHit = true
    · have step : Placed { s with lines := s.lines.map (Excerpt.mark l.number) } :=
        RunsFrom.map _ (Excerpt.mark_number l.number) placed
      rw [if_pos marked, markAt_of_placed placed, List.filter_cons_of_pos marked]
      simp only [Option.bind_eq_bind, Option.bind_some]
      rw [ih step known.2, List.map_map]
      rfl
    · rw [if_neg marked, List.filter_cons_of_neg marked]
      exact ih placed known.2

/-- The part past the end is pushed, and each of its lines fits. -/
theorem foldlM_pushes {s : Strip} (nonempty : s.lines ≠ []) {reach : Int} {ls : List Line}
    (runs : RunsFrom (s.start.val + s.lines.length) ls)
    (past : reach < s.start.val + s.lines.length) :
    ls.foldlM (takeLine? reach) s = some { s with lines := s.lines ++ ls } := by
  induction ls generalizing s with
  | nil => simp
  | cons l ls ih =>
    have number := runs.1
    rw [List.foldlM_cons, takeLine?, if_pos (by omega), push?_of_next nonempty number]
    have length : ((s.lines ++ [l]).length : Int) = s.lines.length + 1 := by simp
    have later : RunsFrom (s.start.val + (s.lines ++ [l]).length) ls := by
      rw [length, ← Int.add_assoc]
      exact runs.2
    have further := @ih { s with lines := s.lines ++ [l] } (by simp) later
      (by simp only [length]; omega)
    simpa using further

theorem line?_eq_find? {s : Strip} (placed : s.Placed) (number : Signed64) :
    s.line? number = s.lines.find? (·.number == number) := by
  rw [RunsFrom.find?_eq_getElem? placed, line?, place?]
  split
  · rw [Option.bind_some]
  · rw [Option.bind_none]

theorem lineAtDistance?_eq {s : Strip} (fits : s.lines.length ≤ 9223372036854775808)
    (number : Signed64) : s.lineAtDistance? number = s.line? number := by
  have high := number.le_high
  have low := s.start.low_le
  have sum : number.val + -s.start.val = number.val - s.start.val := Int.sub_eq_add_neg.symm
  unfold lineAtDistance? line? place? Bounded.add? Bounded.ofInt?
  rw [sum, Option.bind_eq_bind]
  by_cases before : s.start.val ≤ number.val
  · rw [if_pos before, Option.bind_some]
    by_cases room : number.val - s.start.val ≤ 9223372036854775807
    · have positive : 0 ≤ number.val - s.start.val := by omega
      rw [dif_pos ⟨by omega, room⟩, Option.bind_some, if_pos positive]
    -- A distance without room among the signed numbers is past the end.
    · have past : s.lines.length ≤ (number.val - s.start.val).toNat := by omega
      rw [dif_neg fun inside => room inside.2, Option.bind_none, List.getElem?_eq_none past]
  · rw [if_neg before, Option.bind_none]
    split
    · have negative : ¬ 0 ≤ number.val - s.start.val := by omega
      rw [Option.bind_some, if_neg negative]
    · rw [Option.bind_none]

end Strip

namespace Excerpt

theorem strip_finish {e : Excerpt} (gapless : e.Gapless) : e.strip.finish = e.last := by
  have length := gapless.length_lines
  have high := e.last.le_high
  refine Bounded.ext ?_
  rw [Strip.finish_val (List.cons_ne_nil _ _) (by simp only [strip]; omega)]
  simp only [strip]
  omega

theorem strip_line? {e : Excerpt} (gapless : e.Gapless) (number : Signed64) :
    e.strip.line? number = e.line? number :=
  Strip.line?_eq_find? (s := e.strip) gapless number

theorem head?_window (h : Hit) : h.window.head? = some (ofHit h).head := by
  rw [← ofHit_lines]
  rfl

theorem ofLines?_window (h : Hit) : Strip.ofLines? h.window = some (ofHit h).strip := by
  rw [← ofHit_lines]
  rfl

/-- Taking in a window line by line makes the excerpt that takes it in as a whole. -/
theorem strip_merge? {e window : Excerpt} (gapless : e.Gapless) (run : window.Gapless)
    (meets : window.first.val ≤ e.last.val + 1) :
    e.strip.merge? window.lines = some (e.merge window).strip := by
  have length := gapless.length_lines
  let old := window.lines.filter fun l => !decide (e.last.val < l.number.val)
  have parts : old ++ beyond e window = window.lines := run.filter_append e.last.val
  have within : ∀ l ∈ old, ¬ e.last.val < l.number.val := by
    intro l member
    simpa [old] using (List.mem_filter.1 member).2
  have marks : old.filter (·.isHit) = overlap e window := List.filter_filter ..
  let marked : Strip := { e.strip with lines := e.lines.map (markAll (overlap e window)) }
  have marking : old.foldlM (Strip.takeLine? e.last.val) e.strip = some marked := by
    rw [Strip.foldlM_marks (s := e.strip) gapless within, marks]
    rfl
  have next : e.first.val + (marked.lines.length : Int) = e.last.val + 1 := by
    rw [List.length_map]
    exact length
  have runs : RunsFrom (e.first.val + marked.lines.length) (beyond e window) := by
    have start : max window.first.val (e.last.val + 1) = e.first.val + marked.lines.length := by
      omega
    exact start ▸ run.filter e.last.val
  have pushing : (beyond e window).foldlM (Strip.takeLine? e.last.val) marked =
      some { marked with lines := marked.lines ++ beyond e window } :=
    Strip.foldlM_pushes (List.cons_ne_nil _ _) runs (by change e.last.val < e.first.val + _; omega)
  calc e.strip.merge? window.lines
      = (old ++ beyond e window).foldlM (Strip.takeLine? e.last.val) e.strip := by
        rw [Strip.merge?, strip_finish gapless, parts]
    _ = some { marked with lines := marked.lines ++ beyond e window } := by
        rw [List.foldlM_append, marking]
        exact pushing
    _ = some (e.merge window).strip := by
        rw [strip, merge_first, merge_lines]
        rfl

theorem sweep?_strip {current : Excerpt} (gapless : current.Gapless) (hits : List Hit) :
    Strip.sweep? (some current.strip) hits = some ((gather current hits).map strip) := by
  fun_induction gather current hits with
  | case1 current => rfl
  | case2 current h rest window apart ih =>
    have before : Strip.reach (some current.strip) < (ofHit h).head.number.val := by
      rw [Strip.reach, strip_finish gapless]
      exact apart
    rw [Strip.sweep?, head?_window]
    simp only [if_pos before, ofLines?_window]
    rw [ih (ofHit_gapless h)]
    rfl
  | case3 current h rest window meets ih =>
    have inside : ¬ Strip.reach (some current.strip) < (ofHit h).head.number.val := by
      rw [Strip.reach, strip_finish gapless]
      exact meets
    have merged := strip_merge? gapless (ofHit_gapless h) (Int.le_add_one (Int.not_lt.1 meets))
    rw [ofHit_lines] at merged
    rw [Strip.sweep?, head?_window]
    simp only [if_neg inside, merged, Option.bind_some]
    exact ih (merge_ofHit_gapless gapless meets)

theorem sweep?_ofHits (hits : List Hit) :
    Strip.sweep? none hits = some ((ofHits hits).map strip) := by
  cases hits with
  | nil => rfl
  | cons h rest =>
    have opened : Strip.sweep? (Strip.ofLines? h.window) rest =
        some ((gather (ofHit h) rest).map strip) := by
      rw [ofLines?_window]
      exact sweep?_strip (ofHit_gapless h) rest
    rw [Strip.sweep?, head?_window]
    simp only [opened]
    split <;> rfl

structure Sound (hits : List Hit) (e : Excerpt) : Prop where
  nonempty : e.strip.lines ≠ []
  numbered : e.strip.lines.map (·.number.val) =
    (List.range e.size).map fun i : Nat => e.strip.start.val + i
  finish : e.strip.finish = e.last
  /-- The bound of the numbers does not cut the last number off. -/
  exact_finish : e.strip.finish.val = e.strip.start.val + ((e.size : Int) - 1)
  found : ∀ number : Signed64, e.strip.start.val ≤ number.val → number.val ≤ e.strip.finish.val →
    ∃ l ∈ e.lines, l.number = number ∧ e.strip.line? number = some l
  missing : ∀ number : Signed64,
    ¬ (e.strip.start.val ≤ number.val ∧ number.val ≤ e.strip.finish.val) →
    e.strip.line? number = none
  lookups : ∀ number, e.line? number = e.strip.line? number ∧
    (e.size ≤ 9223372036854775808 → e.strip.lineAtDistance? number = e.strip.line? number)
  sourced : ∀ l ∈ e.lines, ∃ h ∈ hits, ∃ w ∈ h.window,
    w.number = l.number ∧ w.content = l.content
  marked : ∀ l ∈ e.lines, l.isHit = true → ∃ h ∈ hits, h.number = l.number

theorem line?_of_numbered {e : Excerpt} (gapless : e.Gapless) {number : Signed64}
    (low : e.first.val ≤ number.val) (high : number.val ≤ e.last.val) :
    ∃ l ∈ e.lines, l.number = number ∧ e.line? number = some l := by
  obtain ⟨l, member, same⟩ := gapless.numbered_iff.2 ⟨low, high⟩
  have number : l.number = number := Bounded.ext same
  exact ⟨l, member, number, number ▸ RunsFrom.find?_number gapless member⟩

theorem line?_eq_none {e : Excerpt} (gapless : e.Gapless) {number : Signed64}
    (outside : ¬ (e.first.val ≤ number.val ∧ number.val ≤ e.last.val)) : e.line? number = none := by
  refine List.find?_eq_none.2 fun l member => ?_
  have low := gapless.first_le member
  have high := gapless.le_last member
  simp only [beq_iff_eq]
  rintro rfl
  exact outside ⟨low, high⟩

theorem ofHits_from_windows {hits : List Hit} {e : Excerpt} (member : e ∈ ofHits hits) :
    e.Sourced (fun number content => ∃ h ∈ hits, ∃ w ∈ h.window,
      w.number = number ∧ w.content = content) (fun number => ∃ h ∈ hits, h.number = number) := by
  refine ofHits_sourced (fun h known l inside => ?_) member
  rw [ofHit_lines] at inside
  exact ⟨⟨h, known, l, inside, rfl, rfl⟩,
    fun marked => ⟨h, known, (Hit.number_of_mem_window inside marked).symm⟩⟩

theorem ofHits_sound {hits : List Hit} {e : Excerpt} (member : e ∈ ofHits hits) :
    Sound hits e := by
  have gapless := ofHits_gapless member
  have finish := strip_finish gapless
  have length := gapless.length_lines
  have source := ofHits_from_windows member
  refine ⟨List.cons_ne_nil _ _, gapless.map_number, finish, ?_, ?_, ?_, ?_, ?_, ?_⟩
  · rw [finish]
    simp only [strip, size]
    omega
  · intro number low high
    rw [finish] at high
    rw [strip_line? gapless]
    exact line?_of_numbered gapless low high
  · intro number outside
    rw [finish] at outside
    rw [strip_line? gapless]
    exact line?_eq_none gapless outside
  · intro number
    have checked := @Strip.lineAtDistance?_eq e.strip
    exact ⟨(strip_line? gapless number).symm, fun fits => checked fits number⟩
  · exact fun l inside => (source l inside).1
  · exact fun l inside => (source l inside).2

/-- Hits in any order: every line that is pushed comes next, so the sweep goes through; its strips
are the excerpts, one after another; and each is sound. -/
theorem ofHits_laid_out (hits : List Hit) :
    Strip.sweep? none hits = some ((ofHits hits).map strip) ∧
    (∀ e ∈ ofHits hits, Sound hits e) ∧
    (ofHits hits).Pairwise fun a b => a.strip.finish.val < b.strip.start.val := by
  refine ⟨sweep?_ofHits hits, fun e member => ofHits_sound member, ?_⟩
  refine (ofHits_apart hits).imp_of_mem fun {a b} memberA _ apart => ?_
  rw [strip_finish (ofHits_gapless memberA)]
  exact apart

end Excerpt

end CodeSearch
