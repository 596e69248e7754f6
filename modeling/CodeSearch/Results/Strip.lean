import CodeSearch.Results.Excerpt

/-!
Strips: excerpts as they are laid out in memory. A strip keeps the number it starts at; all other
numbers follow from the places of its lines. It takes in one line at a time, and only the line that
comes next, so the sweep that lays out the hits of a file gives nothing if a line ever misses its
place.
-/
namespace CodeSearch

open Numeric

structure Strip where
  start : Signed64
  lines : List Line
deriving DecidableEq

namespace Strip

def ofLines? : List Line → Option Strip
  | [] => none
  | l :: ls => some ⟨l.number, l :: ls⟩

def finish (s : Strip) : Signed64 := Signed64.clamp (s.start.val + ((s.lines.length : Int) - 1))

/-- The place of a number, unless it comes before the start. It may be past the end. -/
def place? (s : Strip) (number : Signed64) : Option Nat :=
  if s.start.val ≤ number.val then some (number.val - s.start.val).toNat else none

def line? (s : Strip) (number : Signed64) : Option Line :=
  (s.place? number).bind fun i => s.lines[i]?

/-- The same with the distance from the start as a signed number, which may have no room for it. -/
def lineAtDistance? (s : Strip) (number : Signed64) : Option Line := do
  let distance ← number.add? (-s.start.val)
  if 0 ≤ distance.val then s.lines[distance.val.toNat]? else none

/-- Adds the line that bears the next number; no other line fits. -/
def push? (s : Strip) (l : Line) : Option Strip :=
  if s.finish.add? 1 = some l.number then some { s with lines := s.lines ++ [l] } else none

/-- Marks the line of this number as a hit, if there is one. -/
def markAt (s : Strip) (number : Signed64) : Strip :=
  match s.place? number with
  | some i => { s with lines := s.lines.modify i fun l => { l with isHit := true } }
  | none => s

/-- Takes in a line of a window that came when the strip went up to `reach`. -/
def takeLine? (reach : Int) (s : Strip) (l : Line) : Option Strip :=
  if reach < l.number.val then s.push? l
  else if l.isHit then some (s.markAt l.number)
  else some s

def merge? (s : Strip) (window : List Line) : Option Strip :=
  window.foldlM (takeLine? s.finish.val) s

/-- The last number of the strip that may still grow, if there is one. -/
def reach (current : Option Strip) : Int :=
  match current with
  | some s => s.finish.val
  | none => -1

def sweep? (current : Option Strip) : List Hit → Option (List Strip)
  | [] => some current.toList
  | h :: rest =>
    match h.window.head? with
    | none => sweep? current rest
    | some first =>
      if reach current < first.number.val then
        (sweep? (ofLines? h.window) rest).map (current.toList ++ ·)
      else
        match current with
        | some s => (s.merge? h.window).bind fun merged => sweep? (some merged) rest
        | none => sweep? (ofLines? h.window) rest

end Strip

def Excerpt.strip (e : Excerpt) : Strip := ⟨e.first, e.lines⟩

end CodeSearch
