import CodeSearch.Pattern
import CodeSearch.Results.Hit
import CodeSearch.Text.Html

/-!
Lines cut into spans, those that a pattern matches being emphasized. After a match the pattern is
looked for in the rest of the line as if it were a line of its own; a match of nothing ends the
search. As HTML, emphasized spans are elements and all text is escaped.
-/
namespace CodeSearch

open Regex Text

structure Span where
  text : List Char
  emphasized : Bool
deriving DecidableEq, Repr

namespace Span

def plain (text : List Char) : Span := ⟨text, false⟩

def emphasis (text : List Char) : Span := ⟨text, true⟩

/-- The spans of the rest of a line; `started` tells that there are spans before it. -/
def scan (p : Pattern) (started : Bool) (rest : List Char) : List Span :=
  match found : p.find rest with
  | some o =>
    if nonempty : o.matched ≠ [] then
      have : o.after.length < rest.length := by
        have parts := search_append found
        have := List.length_pos_iff.2 nonempty
        rw [← parts]
        simp only [List.length_append]
        omega
      let before := if o.before.isEmpty then [] else [plain o.before]
      before ++ emphasis o.matched :: scan p true o.after
    else if rest.isEmpty && started then [] else [plain rest]
  | none => if rest.isEmpty && started then [] else [plain rest]
termination_by rest.length

/-- The spans of a line. A line that is no hit is one plain span. -/
def ofLine (p : Pattern) (l : Line) : List Span :=
  if l.isHit then scan p false l.content.toList else [plain l.content.toList]

def html (s : Span) : List Char :=
  if s.emphasized then "<em>".toList ++ Html.escapeChars s.text ++ "</em>".toList
  else Html.escapeChars s.text

def htmlOf (spans : List Span) : String := String.ofList (spans.flatMap html)

end Span

/-- A line as HTML. -/
def Line.html (p : Pattern) (l : Line) : String := Span.htmlOf (Span.ofLine p l)

end CodeSearch
