import CodeSearch.Json.Shape
import CodeSearch.Json.Printer

/-!
Hits as the server reports them: a line that the pattern matches, with the lines around it. Numbered,
these lines are the window of the hit.
-/
namespace CodeSearch

open Numeric

/-- A numbered line of a file, and whether the pattern was found in it. -/
structure Line where
  number : Signed64
  content : String
  isHit : Bool
deriving DecidableEq

structure Hit where
  content : String
  number : Signed64
  before : List String := []
  after : List String := []
deriving DecidableEq

structure FileHits where
  filename : String
  hits : List Hit := []
deriving DecidableEq

namespace Line

def toJson (l : Line) : Json :=
  .ofFields [("Number", .ofInt l.number.val), ("Content", .ofString l.content),
    ("Match", .bool l.isHit)]

open Json in
def ofJson? (j : Json) : Option Line := do
  match ← record? ["Number", "Content", "Match"] j with
  | [number, content, isHit] =>
    return ⟨← required? asBounded? number, ← required? asString? content,
      ← required? asBool? isHit⟩
  | _ => none

end Line

namespace Hit

/-- The number of the first line of the window. -/
def first (h : Hit) : Signed64 := Signed64.clamp (h.number.val - h.before.length)

/-- The number of the last line of the window. -/
def last (h : Hit) : Signed64 := Signed64.clamp (h.number.val + h.after.length)

/-- A line of the context, which counts only if its number can be written. -/
def contextLine? (h : Hit) (distance : Int) (content : String) : Option Line :=
  (h.number.add? distance).map fun number => ⟨number, content, false⟩

def linesBefore (h : Hit) : List Line :=
  h.before.zipIdx.filterMap fun p => h.contextLine? ((p.2 : Int) - h.before.length) p.1

def line (h : Hit) : Line := ⟨h.number, h.content, true⟩

def linesAfter (h : Hit) : List Line :=
  h.after.zipIdx.filterMap fun p => h.contextLine? ((p.2 : Int) + 1) p.1

def window (h : Hit) : List Line := h.linesBefore ++ h.line :: h.linesAfter

def withContext (h : Hit) (before after : List String) : Hit :=
  { h with before := before, after := after }

def toJson (h : Hit) : Json :=
  .ofFields [("Line", .ofString h.content), ("LineNumber", .ofInt h.number.val),
    ("Before", .arr (h.before.map .ofString)), ("After", .arr (h.after.map .ofString))]

open Json in
/-- The server writes `null` where there is no context. -/
def ofJson? (j : Json) : Option Hit := do
  match ← record? ["Line", "LineNumber", "Before", "After"] j with
  | [content, number, before, after] =>
    return ⟨← required? asString? content, ← required? asBounded? number,
      ← optional? (asListOrNull? asString?) [] before,
      ← optional? (asListOrNull? asString?) [] after⟩
  | _ => none

end Hit

namespace FileHits

def toJson (f : FileHits) : Json :=
  .ofFields [("Filename", .ofString f.filename), ("Matches", .arr (f.hits.map Hit.toJson))]

open Json in
def ofJson? (j : Json) : Option FileHits := do
  match ← record? ["Filename", "Matches"] j with
  | [filename, hits] =>
    return ⟨← required? asString? filename, ← optional? (asListOrNull? Hit.ofJson?) [] hits⟩
  | _ => none

end FileHits

end CodeSearch
