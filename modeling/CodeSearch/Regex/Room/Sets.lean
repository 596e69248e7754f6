import CodeSearch.Regex.Room.Memo
import CodeSearch.Regex.Room.Tally
import CodeSearch.Unicode.ByteRanges
import CodeSearch.Unicode.CharSet

/-!
The states that read a member of a set, byte by byte. Forwards the rows of byte ranges make a tree
from their first bytes on, of which equal ends are written once; backwards each row is a chain, and
the chains of rows with the same first bytes end alike.
-/
namespace CodeSearch.Regex

open CodeSearch.Unicode

/-- The states written so far, with those of the set that are remembered. -/
structure Shared where
  tally : Tally
  memo : Memo

namespace Shared

/-- The state with the given links, whose room is `room`, and which is written if it is not
remembered. -/
def state (s : Shared) (links : List Nat) (room : Nat) : Nat × Shared :=
  match s.memo.find? links with
  | some known => (known, s)
  | none => (s.tally.states, ⟨s.tally.add 1 room, s.memo.insert links s.tally.states⟩)

/-- The state at which rows of at most `depth` ranges begin. Where a row is at its end, the state
`target` follows. -/
def tree (target : Nat) : Nat → List ByteRow → Shared → Nat × Shared
  | 0, _, s => (target, s)
  | _ + 1, [] :: _, s => (target, s)
  | depth + 1, rows, s =>
    let groups := rows.splitBy fun a b => a.head? == b.head?
    let (links, s) := groups.foldl (fun (links, s) group =>
      let (next, s) := tree target depth (group.map List.tail) s
      match group with
      | (r :: _) :: _ => (links ++ [r.low, r.high, next], s)
      | _ => (links, s)) ([], s)
    s.state links (Room.ofRange * groups.length)

/-- The states of one row. That of the first byte goes on to `target`, that of each other byte to
the one before, so the beginning of a row is read last. -/
def chain (target : Nat) (s : Shared) (row : ByteRow) : Shared :=
  (row.foldl (fun (next, s) r => Shared.state s [next, r.low, r.high] 0) (target, s)).2

end Shared

def setRows (s : CharSet) : List ByteRow := s.ranges.flatMap fun r => byteRows r.1 r.2

/-- Characters of one byte need one state that reads and one at which it arrives. -/
def measureBytes (s : CharSet) (t : Tally) : Tally := t.add 2 (Room.ofRange * s.ranges.length)

def measureTree (s : CharSet) (t : Tally) : Tally :=
  let target := t.states
  (Shared.tree target 4 (setRows s) ⟨t.add 1 0, { places := 10000 }⟩).2.tally

def measureChains (s : CharSet) (t : Tally) : Tally :=
  let target := t.states + 1
  let rows := setRows s
  let shared := rows.foldl (Shared.chain target) ⟨t.add 2 0, { places := 1000 }⟩
  shared.tally.add 0 (Room.ofLink * rows.length)

def measureSet (d : Direction) (s : CharSet) (t : Tally) : Tally :=
  if s.ranges.all (·.2 < 0x80) then measureBytes s t
  else
    match d with
    | .forwards => measureTree s t
    | .backwards => measureChains s t

end CodeSearch.Regex
