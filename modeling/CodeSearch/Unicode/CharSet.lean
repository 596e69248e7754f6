/-!
Sets of characters as ranges of code points. The ranges of a set rise and do not overlap, so a search
ends at the first range that begins past the character. A range begins and ends with characters but
may run over the surrogates, which are halves of pairs of units and no characters. Two ranges that
only the surrogates part are not joined.
-/
namespace CodeSearch.Unicode

/-- Ranges from a first to a last code point, both taken. -/
structure CharSet where
  ranges : List (Nat × Nat)
deriving DecidableEq, Repr

namespace CharSet

def lastCodePoint : Nat := 0x10ffff

def covers : List (Nat × Nat) → Nat → Bool
  | [], _ => false
  | (low, high) :: rest, n => if n < low then false else n ≤ high || covers rest n

def contains (s : CharSet) (c : Char) : Bool := covers s.ranges c.toNat

/-- Joins the ranges that meet or touch the range `(low, high)` before them. -/
def joinFrom (low high : Nat) : List (Nat × Nat) → List (Nat × Nat)
  | [] => [(low, high)]
  | (low', high') :: rest =>
    if low' ≤ high + 1 then joinFrom low (max high high') rest
    else (low, high) :: joinFrom low' high' rest

def join : List (Nat × Nat) → List (Nat × Nat)
  | [] => []
  | (low, high) :: rest => joinFrom low high rest

def ofRanges (ranges : List (Nat × Nat)) : CharSet :=
  ⟨join (ranges.mergeSort fun a b => a.1 ≤ b.1)⟩

def empty : CharSet := ⟨[]⟩

def isEmpty (s : CharSet) : Bool := s.ranges.isEmpty

def singleton (c : Char) : CharSet := ⟨[(c.toNat, c.toNat)]⟩

def surrogates : CharSet := ⟨[(0xd800, 0xdfff)]⟩

def between (low high : Char) : CharSet := ⟨[(low.toNat, high.toNat)]⟩

def all : CharSet := ⟨[(0, lastCodePoint)]⟩

def ascii : CharSet := ⟨[(0, 0x7f)]⟩

def union (s t : CharSet) : CharSet := ofRanges (s.ranges ++ t.ranges)

/-- The character after a character. -/
def next (n : Nat) : Nat := if n = 0xd7ff then 0xe000 else n + 1

/-- The character before a character. -/
def previous (n : Nat) : Nat := if n = 0xe000 then 0xd7ff else n - 1

/-- What lies between ranges, the first of which ends at `high`, and behind them. Between ranges that
only the surrogates part lies nothing, and the two characters at which they part are taken. -/
def gapsAfter (high : Nat) : List (Nat × Nat) → List (Nat × Nat)
  | [] => if high < lastCodePoint then [(next high, lastCodePoint)] else []
  | (low, high') :: rest =>
    (min (next high) (previous low), max (next high) (previous low)) :: gapsAfter high' rest

/-- What a set leaves out. A set whose ranges part at the surrogates has its last character before
them and its first behind them in common with its complement. -/
def complement (s : CharSet) : CharSet :=
  match s.ranges with
  | [] => all
  | (low, high) :: rest => ⟨(if 0 < low then [(0, previous low)] else []) ++ gapsAfter high rest⟩

def interRanges : List (Nat × Nat) → List (Nat × Nat) → List (Nat × Nat)
  | [], _ => []
  | _, [] => []
  | a :: as, b :: bs =>
    let rest := if a.2 < b.2 then interRanges as (b :: bs) else interRanges (a :: as) bs
    if max a.1 b.1 ≤ min a.2 b.2 then (max a.1 b.1, min a.2 b.2) :: rest else rest
termination_by as bs => as.length + bs.length

def inter (s t : CharSet) : CharSet := ⟨interRanges s.ranges t.ranges⟩

def diffRanges : List (Nat × Nat) → List (Nat × Nat) → List (Nat × Nat)
  | [], _ => []
  | as, [] => as
  | a :: as, b :: bs =>
    if b.2 < a.1 then diffRanges (a :: as) bs
    else if a.2 < b.1 then a :: diffRanges as (b :: bs)
    else
      let front := if a.1 < b.1 then [(a.1, previous b.1)] else []
      if b.2 < a.2 then front ++ diffRanges ((next b.2, a.2) :: as) bs
      else front ++ diffRanges as (b :: bs)
termination_by as bs => as.length + bs.length

def diff (s t : CharSet) : CharSet := ⟨diffRanges s.ranges t.ranges⟩

/-- What exactly one of the two sets has. -/
def apart (s t : CharSet) : CharSet := (s.union t).diff (s.inter t)

def unionAll (sets : List CharSet) : CharSet := ofRanges (sets.flatMap (·.ranges))

end CharSet

end CodeSearch.Unicode
