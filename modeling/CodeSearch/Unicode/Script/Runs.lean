/-!
How one script is written down: its names in comparison form, the code points that are of this
script alone, and how the set of those that are used with it differs.
-/
namespace CodeSearch.Unicode.Script

structure Runs where
  names : List String
  own : List String
  added : List String
  removed : List String

end CodeSearch.Unicode.Script
