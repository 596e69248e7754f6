import CodeSearch.Numeric.Decimal

/-!
Numbers with a comma between groups of three digits, counted from the right.
-/
namespace CodeSearch.Numeric.Grouped

/-- A comma stands before a digit when the digits from it on fill whole groups. -/
def separate : List Char → List Char
  | [] => []
  | c :: cs => c :: (if !cs.isEmpty && cs.length % 3 == 0 then ',' :: separate cs else separate cs)

def writeChars (n : Int) : List Char :=
  let digits := separate (Decimal.write n.natAbs)
  if n < 0 then '-' :: digits else digits

def write (n : Int) : String := String.ofList (writeChars n)

end CodeSearch.Numeric.Grouped
