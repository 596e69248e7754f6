import CodeSearch.Results.Hit
import CodeSearch.Trace

/-!
Excerpts of a file: runs of numbered lines around its hits. Windows that share a line become one
excerpt, in which each line stands once and is a hit if any window says so.
-/
namespace CodeSearch

open Numeric

/-- An excerpt has a line at least. -/
structure Excerpt where
  head : Line
  tail : List Line := []
deriving DecidableEq

namespace Excerpt

def lines (e : Excerpt) : List Line := e.head :: e.tail

/-- The number of the first line. -/
def first (e : Excerpt) : Signed64 := e.head.number

def lastLine (e : Excerpt) : Line := e.tail.getLast?.getD e.head

/-- The number of the last line. -/
def last (e : Excerpt) : Signed64 := e.lastLine.number

def size (e : Excerpt) : Nat := e.lines.length

/-- The line of a given number. -/
def line? (e : Excerpt) (number : Signed64) : Option Line :=
  e.lines.find? (·.number == number)

/-- The window of a hit. -/
def ofHit (h : Hit) : Excerpt :=
  match h.linesBefore with
  | [] => ⟨h.line, h.linesAfter⟩
  | l :: rest => ⟨l, rest ++ h.line :: h.linesAfter⟩

/-- Marks the line of this number as a hit. -/
def mark (number : Signed64) (l : Line) : Line :=
  if l.number = number then { l with isHit := true } else l

/-- Takes in a window that begins no later than the excerpt ends: lines past the end are added, and
a hit before it is marked. -/
def merge (e window : Excerpt) : Excerpt :=
  let isNew (l : Line) : Bool := e.last.val < l.number.val
  let hits := window.lines.filter fun l => l.isHit && !isNew l
  let marked (l : Line) : Line := hits.foldl (fun l h => mark h.number l) l
  ⟨marked e.head, e.tail.map marked ++ window.lines.filter isNew⟩

/-- The excerpts of the hits that follow, `current` being the one that may still grow. -/
def gather (current : Excerpt) : List Hit → List Excerpt
  | [] => [current]
  | h :: rest =>
    let window := ofHit h
    if current.last.val < window.first.val then current :: gather window rest
    else gather (current.merge window) rest

/-- The excerpts of the hits of one file, which come in the order of their numbers. -/
def ofHits : List Hit → List Excerpt
  | [] => []
  | h :: rest => gather (ofHit h) rest

def event (hits : List Hit) : Trace.Event :=
  ⟨.trace, "coalesced match windows",
    [("matches", .number hits.length), ("blocks", .number (ofHits hits).length)]⟩

end Excerpt

end CodeSearch
