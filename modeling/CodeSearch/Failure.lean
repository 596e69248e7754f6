/-!
What may go wrong in a search.
-/
namespace CodeSearch

inductive Failure where
  /-- The server refused the search and says why. -/
  | rejected (message : String)
  | unknownRepo (name : String)
  | noSearch
  /-- A text is no pattern; what compiles patterns says why. -/
  | badPattern (text : String)
  | badJson
deriving DecidableEq, Repr

namespace Failure

def serverError : String := "The server broke down"

/-- The text of a failure; none for a reply that cannot be read, of which no details are told. -/
def message? : Failure → Option String
  | rejected message => some ("search failed: " ++ message)
  | unknownRepo name => some ("unknown repository: " ++ name)
  | noSearch => some "no search in progress"
  | badPattern text => some text
  | badJson => none

/-- What the reader of the page is told. -/
def shown : Failure → String
  | rejected message => message
  | other => other.message?.getD serverError

end Failure

end CodeSearch
