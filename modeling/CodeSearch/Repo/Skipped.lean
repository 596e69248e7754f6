import CodeSearch.Repo.Link

/-!
Files that the server did not index, and why.
-/
namespace CodeSearch

structure SkippedFile where
  filename : String
  reason : String
deriving DecidableEq, Repr

structure SkippedRow where
  filename : String
  reason : String
  url : String
deriving DecidableEq, Repr

namespace SkippedFile

def toJson (f : SkippedFile) : Json :=
  .ofFields [("Filename", .ofString f.filename), ("Reason", .ofString f.reason)]

open Json in
def ofJson? (j : Json) : Option SkippedFile := do
  match ← record? ["Filename", "Reason"] j with
  | [filename, reason] => return ⟨← required? asString? filename, ← required? asString? reason⟩
  | _ => none

/-- The list that a text of JSON writes; `null` is the empty one. -/
def parseList (text : String) : Except Failure (List SkippedFile) :=
  match (Json.parse? text).bind (Json.asListOrNull? ofJson?) with
  | some files => .ok files
  | none => .error .badJson

/-- The file with a link to it. -/
def row (r : Repo) (rev : String) (f : SkippedFile) : SkippedRow :=
  ⟨f.filename, f.reason, r.link f.filename none rev⟩

end SkippedFile

def SkippedRow.toJson (r : SkippedRow) : Json :=
  .ofFields [("filename", .ofString r.filename), ("reason", .ofString r.reason),
    ("url", .ofString r.url)]

end CodeSearch
