/-!
Cutting texts: at the first occurrence of a text, at every separator, at the last one, and at the
end.
-/
namespace CodeSearch.Text

/-- What stands before and after the first occurrence of `mark`. -/
def cut? (mark : List Char) : List Char → Option (List Char × List Char)
  | [] => if mark.isEmpty then some ([], []) else none
  | c :: cs =>
    if mark.isPrefixOf (c :: cs) then some ([], (c :: cs).drop mark.length)
    else (cut? mark cs).map fun p => (c :: p.1, p.2)

def consFirst (c : Char) : List (List Char) → List (List Char)
  | [] => [[c]]
  | piece :: pieces => (c :: piece) :: pieces

/-- The pieces between the separators, one more than there are separators. -/
def splitAt (separator : Char) : List Char → List (List Char)
  | [] => [[]]
  | c :: cs =>
    if c = separator then [] :: splitAt separator cs else consFirst c (splitAt separator cs)

/-- What stands before and after the last separator. -/
def cutLast? (separator : Char) (cs : List Char) : Option (List Char × List Char) :=
  match cs.reverse.dropWhile (· != separator) with
  | [] => none
  | _ :: before => some (before.reverse, (cs.reverse.takeWhile (· != separator)).reverse)

/-- What is left when `ending` is taken off the end. -/
def dropEnding? (ending cs : List Char) : Option (List Char) :=
  if ending.isSuffixOf cs then some (cs.take (cs.length - ending.length)) else none

def dropEnding (ending cs : List Char) : List Char := (dropEnding? ending cs).getD cs

end CodeSearch.Text
