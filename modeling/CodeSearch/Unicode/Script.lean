import CodeSearch.Unicode.Runs
import CodeSearch.Unicode.Script.RunsAK
import CodeSearch.Unicode.Script.RunsLZ

/-!
Scripts by name. `own` holds the characters that belong to one script, `extended` also those that
several scripts share.
-/
namespace CodeSearch.Unicode.Script

def named? (name : String) : Option Runs := (runsAK ++ runsLZ).find? (·.names.contains name)

def Runs.ownSet (s : Runs) : CharSet := Unicode.Runs.charSet s.own

def Runs.extendedSet (s : Runs) : CharSet :=
  (s.ownSet.union (Unicode.Runs.charSet s.added)).diff (Unicode.Runs.charSet s.removed)

end CodeSearch.Unicode.Script
