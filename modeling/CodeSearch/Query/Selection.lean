import CodeSearch.Pattern
import CodeSearch.Query.Url

/-!
Searching for what is selected in a line. The selected text takes the place of the pattern in the
address of the page, quoted so that it is searched as it stands.
-/
namespace CodeSearch.Selection

open Text

/-- What the pattern of an address is made of. -/
def inValue (c : Char) : Bool := c != '&' && c != '$'

/-- Replaces the value of the first `q` that has one. -/
def replaceValue (value : List Char) : List Char → List Char
  | [] => []
  | mark :: cs =>
    match mark == '?' || mark == '&', cs with
    | true, 'q' :: '=' :: c :: rest =>
      if inValue c then mark :: 'q' :: '=' :: (value ++ rest.dropWhile inValue)
      else mark :: replaceValue value cs
    | _, _ => mark :: replaceValue value cs

def isLineEnd (c : Char) : Bool := c == '\r' || c == '\n'

/-- The address that searches for the selection. There is none for a blank selection or one of
several lines, and an address without a pattern stays as it is. -/
def address? (page selected : String) : Option String :=
  let cs := trimChars selected.toList
  if cs.isEmpty || cs.any isLineEnd then none
  else
    let value := Percent.encodeChars (cs.flatMap Pattern.quoteChar)
    some (String.ofList (replaceValue value page.toList))

end CodeSearch.Selection
