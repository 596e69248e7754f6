import CodeSearch.Proofs.Results.Numbering

/-!
The window of a hit against the lines that the hit has in all. Each line has an exact place, counted
from the hit; the window has the lines whose places are numbers, with these numbers, and they run
from the first to the last number of the hit.
-/
namespace CodeSearch

open Numeric

namespace Hit

/-- The lines of the hit with the numbers they would have if there were no bounds. -/
def places (h : Hit) : List (Int × String) :=
  (h.before ++ h.content :: h.after).mapIdx fun i content =>
    (h.number.val - h.before.length + i, content)

def place (l : Line) : Int × String := (l.number.val, l.content)

def withinBounds (p : Int × String) : Bool :=
  -9223372036854775808 ≤ p.1 && p.1 ≤ 9223372036854775807

theorem withinBounds_number (n : Signed64) (content : String) :
    withinBounds (n.val, content) = true := by
  simp [withinBounds, n.low_le, n.le_high]

theorem contextFrom_places (h : Hit) (distance : Int) (contents : List String) :
    (h.contextFrom distance contents).map place =
      (contents.mapIdx fun i content => (h.number.val + distance + i, content)).filter
        withinBounds := by
  induction contents generalizing distance with
  | nil => rfl
  | cons content contents ih =>
    have shift : (contents.mapIdx fun i content =>
          (h.number.val + distance + ((i + 1 : Nat) : Int), content)) =
        contents.mapIdx fun i content => (h.number.val + (distance + 1) + i, content) := by
      congr 1
      funext i content
      congr 1
      omega
    rw [contextFrom, List.map_append, ih, List.mapIdx_cons, shift]
    cases found : h.contextLine? distance content with
    | some l =>
      obtain ⟨number, written, _⟩ := contextLine?_eq_some.1 found
      have here : place l = (h.number.val + distance + ((0 : Nat) : Int), content) := by
        rw [place, number, written, Int.natCast_zero, Int.add_zero]
      have fits := withinBounds_number l.number l.content
      change withinBounds (place l) = true at fits
      rw [here] at fits
      rw [List.filter_cons_of_pos fits, ← here]
      rfl
    | none =>
      have outside := contextLine?_eq_none found
      have misses : ¬ withinBounds (h.number.val + distance + ((0 : Nat) : Int), content) = true := by
        simp only [withinBounds, Bool.and_eq_true, decide_eq_true_eq]
        omega
      rw [List.filter_cons_of_neg misses]
      rfl

theorem window_places (h : Hit) : h.window.map place = h.places.filter withinBounds := by
  have before : (h.before.mapIdx fun i content => (h.number.val - h.before.length + i, content)) =
      h.before.mapIdx fun i content => (h.number.val + -h.before.length + i, content) := rfl
  have here : (h.number.val - h.before.length + ((0 + h.before.length : Nat) : Int), h.content) =
      place h.line := by
    simp only [place, line, Prod.mk.injEq, and_true]
    omega
  have after : (h.after.mapIdx fun i content =>
        (h.number.val - h.before.length + ((i + 1 + h.before.length : Nat) : Int), content)) =
      h.after.mapIdx fun i content => (h.number.val + 1 + i, content) := by
    congr 1
    funext i content
    congr 1
    omega
  have fits : withinBounds (place h.line) = true := withinBounds_number h.number h.content
  rw [window, linesBefore_eq, linesAfter_eq, List.map_append, List.map_cons, contextFrom_places,
    contextFrom_places, places, List.mapIdx_append, List.mapIdx_cons, before, here, after,
    List.filter_append, List.filter_cons_of_pos fits]

/-- Where no number is too great, the lines that are left out come first. -/
theorem contextFrom_contents_drop {h : Hit} {distance : Int} {contents : List String}
    (high : h.number.val + distance + contents.length ≤ 9223372036854775808) :
    (h.contextFrom distance contents).map (·.content) =
      contents.drop (-9223372036854775808 - (h.number.val + distance)).toNat := by
  induction contents generalizing distance with
  | nil => rw [List.drop_nil]; rfl
  | cons content contents ih =>
    simp only [List.length_cons] at high
    have later := @ih (distance + 1) (by omega)
    rw [contextFrom, List.map_append, later]
    cases found : h.contextLine? distance content with
    | some l =>
      obtain ⟨number, written, _⟩ := contextLine?_eq_some.1 found
      have low := l.number.low_le
      have none : (-9223372036854775808 - (h.number.val + distance)).toNat = 0 := by omega
      have noneLater : (-9223372036854775808 - (h.number.val + (distance + 1))).toNat = 0 := by omega
      rw [none, noneLater, List.drop_zero, List.drop_zero, ← written]
      rfl
    | none =>
      have outside := contextLine?_eq_none found
      have more : (-9223372036854775808 - (h.number.val + distance)).toNat =
          (-9223372036854775808 - (h.number.val + (distance + 1))).toNat + 1 := by omega
      rw [more, List.drop_succ_cons]
      rfl

/-- Where no number is too small, the lines that are left out come last. -/
theorem contextFrom_contents_take {h : Hit} {distance : Int} {contents : List String}
    (low : -9223372036854775808 ≤ h.number.val + distance) :
    (h.contextFrom distance contents).map (·.content) =
      contents.take (9223372036854775808 - (h.number.val + distance)).toNat := by
  induction contents generalizing distance with
  | nil => rw [List.take_nil]; rfl
  | cons content contents ih =>
    have later := @ih (distance + 1) (by omega)
    rw [contextFrom, List.map_append, later]
    cases found : h.contextLine? distance content with
    | some l =>
      obtain ⟨number, written, _⟩ := contextLine?_eq_some.1 found
      have high := l.number.le_high
      have more : (9223372036854775808 - (h.number.val + distance)).toNat =
          (9223372036854775808 - (h.number.val + (distance + 1))).toNat + 1 := by omega
      rw [more, List.take_succ_cons, ← written]
      rfl
    | none =>
      have outside := contextLine?_eq_none found
      have none : (9223372036854775808 - (h.number.val + distance)).toNat = 0 := by omega
      have noneLater : (9223372036854775808 - (h.number.val + (distance + 1))).toNat = 0 := by omega
      rw [none, noneLater]
      rfl

theorem linesBefore_contents (h : Hit) : h.linesBefore.map (·.content) =
    h.before.drop (h.first.val - (h.number.val - h.before.length)).toNat := by
  have high := h.number.le_high
  have first := h.first_val
  have dropped : (h.first.val - (h.number.val - h.before.length)).toNat =
      (-9223372036854775808 - (h.number.val + -h.before.length)).toNat := by omega
  rw [linesBefore_eq, contextFrom_contents_drop (by omega), dropped]

theorem linesAfter_contents (h : Hit) : h.linesAfter.map (·.content) =
    h.after.take (h.last.val - h.number.val).toNat := by
  have low := h.number.low_le
  have last := h.last_val
  rw [linesAfter_eq, contextFrom_contents_take (by omega), List.take_eq_take_iff]
  omega

theorem contextFrom_plain (h : Hit) (distance : Int) (contents : List String) :
    (h.contextFrom distance contents).filter (·.isHit) = [] := by
  refine List.filter_eq_nil_iff.2 fun l member => ?_
  rw [(mem_contextFrom.1 member).1]
  exact Bool.false_ne_true

structure Windowed (h : Hit) (window : List Line) : Prop where
  nonempty : h.first.val ≤ h.last.val
  numbers : window.map (·.number.val) =
    (List.range (h.last.val + 1 - h.first.val).toNat).map fun i : Nat => h.first.val + i
  placed : window.map place = h.places.filter withinBounds
  /-- Lines are left out at the ends only. -/
  contents : window.map (·.content) =
    h.before.drop (h.first.val - (h.number.val - h.before.length)).toNat ++
      h.content :: h.after.take (h.last.val - h.number.val).toNat
  hit : window.filter (·.isHit) = [⟨h.number, h.content, true⟩]

/-- Bounds cut a window off line by line just where they cut its first and its last number off. -/
theorem window_windowed (h : Hit) : h.Windowed h.window := by
  have length := h.window_length
  constructor
  case nonempty =>
    have inside := exists_mem_window.1 ⟨h.line, h.line_mem_window, rfl⟩
    omega
  case numbers =>
    have count : (h.last.val + 1 - h.first.val).toNat = h.window.length := by omega
    rw [count]
    exact h.window_runs.map_number
  case placed => exact h.window_places
  case contents =>
    rw [window, List.map_append, List.map_cons, linesBefore_contents, linesAfter_contents]
    rfl
  case hit =>
    rw [window, List.filter_append, List.filter_cons_of_pos rfl, linesBefore_eq, linesAfter_eq,
      contextFrom_plain, contextFrom_plain]
    rfl

/-- Of three lines before the least number but one, one is left; after the greatest, none. -/
example :
    (Hit.mk "x" (Signed64.clamp (-9223372036854775807)) ["a", "b", "c"] []).window.map place =
        [(-9223372036854775808, "c"), (-9223372036854775807, "x")] ∧
      (Hit.mk "x" (Signed64.clamp 9223372036854775807) [] ["d"]).window.map place =
        [(9223372036854775807, "x")] := by
  decide

end Hit

end CodeSearch
