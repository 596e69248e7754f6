import CodeSearch.Dialogue.Board
import CodeSearch.Numeric.Binary64
import CodeSearch.Numeric.Grouped
import CodeSearch.Query.Selection

/-!
What a page keeps besides its dialogue: a catalog for pages without a search, and the pattern that
was compiled last, since the lines of a page are all searched for the same one.
-/
namespace CodeSearch

open Numeric

/-- A compiled pattern with what it was compiled from. -/
structure LastPattern where
  source : String
  ignoreCase : Bool
  pattern : Pattern

structure Page where
  catalog : Catalog := .empty
  last : Option LastPattern := none
  dialogue : Dialogue := {}
  board : Board := {}

namespace Page

/-- The pattern that was compiled last if it is asked for again, else a new one. -/
def pattern (wording : Pattern.Wording) (last : Option LastPattern) (source : String)
    (ignoreCase : Bool) : Except Failure Pattern × Option LastPattern :=
  let kept := last.bind fun l =>
    if l.source = source ∧ l.ignoreCase = ignoreCase then some l.pattern else none
  match kept with
  | some p => (.ok p, last)
  | none =>
    match Pattern.compile wording source { ignoreCase := ignoreCase } with
    | .ok p => (.ok p, some ⟨source, ignoreCase, p⟩)
    | .error f => (.error f, last)

/-- Numbers on a page are binary fractions; only their whole part is shown. -/
def shownNumber (n : Json.Number) : String :=
  Grouped.write (Signed64.clamp (Binary64.ofNumber n).truncate).val

def lineNumber (n : Json.Number) : Signed64 := Signed64.clamp (Binary64.ofNumber n).truncate

def milliseconds (n : Json.Number) : Signed64 := Signed64.clamp (Binary64.ofNumber n).round

end Page

end CodeSearch
