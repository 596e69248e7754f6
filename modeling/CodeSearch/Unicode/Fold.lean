import CodeSearch.Unicode.Runs
import CodeSearch.Unicode.FoldRuns

/-!
Letters that differ in case only. Each such letter but one folds to the one that stands for them
all, and a set is closed when it holds all letters that fold alike or none of them.
-/
namespace CodeSearch.Unicode

/-- The members of one run with what they fold to. -/
def expandFold (first count step target : Nat) : List (Nat × Nat) :=
  (List.range count).map fun k => (first + k * step, target + k * step)

def foldPairsOf : List Nat → List (Nat × Nat)
  | first :: count :: step :: target :: rest =>
    expandFold first count step target ++ foldPairsOf rest
  | _ => []

/-- Code points that fold, with what they fold to. -/
def foldPairs : List (Nat × Nat) := foldPairsOf (Runs.numbers foldRuns)

namespace CharSet

/-- Adds all that folds like a member. -/
def closeCase (s : CharSet) : CharSet :=
  let down := foldPairs.filterMap fun p => if covers s.ranges p.1 then some (p.2, p.2) else none
  let reached := ofRanges (s.ranges ++ down)
  let up := foldPairs.filterMap fun p =>
    if covers reached.ranges p.2 then some (p.1, p.1) else none
  ofRanges (reached.ranges ++ up)

/-- Adds the other case of each Latin letter of the first 128 characters. -/
def closeAsciiCase (s : CharSet) : CharSet :=
  let lower := s.inter ⟨[(0x61, 0x7a)]⟩
  let upper := s.inter ⟨[(0x41, 0x5a)]⟩
  unionAll [s, ⟨lower.ranges.map fun r => (r.1 - 0x20, r.2 - 0x20)⟩,
    ⟨upper.ranges.map fun r => (r.1 + 0x20, r.2 + 0x20)⟩]

end CharSet

end CodeSearch.Unicode
