import CodeSearch.Unicode.Runs
import CodeSearch.Unicode.AgeRuns

/-!
Characters by age: those that were there in a version of Unicode, whichever version brought them.
-/
namespace CodeSearch.Unicode.Age

/-- The ways to write a version in comparison form, with the dot or with a letter instead. -/
def isWritten (version form : String) : Bool :=
  form == version || form.toList == 'v' :: version.toList.filter (· != '.')

/-- All that the versions up to the named one brought. -/
def named? (form : String) : Option CharSet :=
  if ageRuns.any (isWritten ·.1 form) then
    let before := ageRuns.takeWhile fun v => !isWritten v.1 form
    let own := ageRuns.filter fun v => isWritten v.1 form
    some (CharSet.unionAll ((before ++ own).map fun v => Runs.charSet v.2))
  else none

end CodeSearch.Unicode.Age
