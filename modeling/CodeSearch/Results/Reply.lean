import CodeSearch.Failure
import CodeSearch.Json.Reader
import CodeSearch.Results.Hit

/-!
Replies of the server to a request, and the hits of each repository as the page keeps them: the
repository with most files first, and by name among those with as many.
-/
namespace CodeSearch

open Numeric

/-- What the reply says of one repository. -/
structure RepoReply where
  revision : String := ""
  files : List FileHits := []
  /-- How many files have a hit, whether they are sent or not. -/
  total : Unsigned64 := default
deriving DecidableEq

structure ServerStats where
  filesOpened : Signed64
  /-- Milliseconds. -/
  duration : Signed64
deriving DecidableEq

structure Reply where
  /-- A repository may be named without anything being said of it. -/
  results : NameMap (Option RepoReply) := .empty
  stats : Option ServerStats := none
  error : Option String := none

/-- The hits of one repository, as far as they are loaded. -/
structure RepoHits where
  repo : String
  revision : String
  files : List FileHits
  total : Unsigned64
deriving DecidableEq

namespace RepoReply

def toJson (r : RepoReply) : Json :=
  .ofFields [("Revision", .ofString r.revision), ("Matches", .arr (r.files.map FileHits.toJson)),
    ("FilesWithMatch", .ofInt r.total.val)]

open Json in
def ofJson? (j : Json) : Option RepoReply := do
  match ← record? ["Revision", "Matches", "FilesWithMatch"] j with
  | [revision, files, total] =>
    return ⟨← optional? asString? "" revision,
      ← optional? (asListOrNull? FileHits.ofJson?) [] files,
      ← optional? asBounded? default total⟩
  | _ => none

end RepoReply

namespace ServerStats

def toJson (s : ServerStats) : Json :=
  .ofFields [("FilesOpened", .ofInt s.filesOpened.val), ("Duration", .ofInt s.duration.val)]

open Json in
def ofJson? (j : Json) : Option ServerStats := do
  match ← record? ["FilesOpened", "Duration"] j with
  | [filesOpened, duration] =>
    return ⟨← required? asBounded? filesOpened, ← required? asBounded? duration⟩
  | _ => none

end ServerStats

namespace RepoHits

def ofReply (repo : String) (r : RepoReply) : RepoHits := ⟨repo, r.revision, r.files, r.total⟩

/-- How many files are not loaded. -/
def remaining (r : RepoHits) : Nat := r.total.toNat - r.files.length

def hasMore (r : RepoHits) : Bool := 0 < r.remaining

/-- More files come first, and of as many the smaller name. -/
def ranksBefore (a b : RepoHits) : Bool :=
  b.files.length < a.files.length || a.files.length == b.files.length && a.repo ≤ b.repo

/-- The repositories of which something is said, in the order of their ranks. -/
def ranked (entries : List (String × Option RepoReply)) : List RepoHits :=
  (entries.filterMap fun e => e.2.map (ofReply e.1)).mergeSort ranksBefore

def toJson (r : RepoHits) : Json :=
  .ofFields [("Repo", .ofString r.repo), ("Rev", .ofString r.revision),
    ("Matches", .arr (r.files.map FileHits.toJson)), ("FilesWithMatch", .ofInt r.total.val)]

end RepoHits

namespace Reply

def toJson (r : Reply) : Json :=
  .ofFields [("Results", .ofFields (r.results.entries.map fun e =>
      (e.1, .ofOption (e.2.map RepoReply.toJson)))),
    ("Stats", .ofOption (r.stats.map ServerStats.toJson)),
    ("Error", .ofOption (r.error.map .ofString))]

open Json in
def ofJson? (j : Json) : Option Reply := do
  match ← record? ["Results", "Stats", "Error"] j with
  | [results, stats, error] =>
    return ⟨← optional? (asMap? (asOption? RepoReply.ofJson?)) .empty results,
      ← optional? (asOption? ServerStats.ofJson?) none stats,
      ← optional? (asOption? asString?) none error⟩
  | _ => none

/-- The reply that a text of JSON writes, unless it says that the search is refused. -/
def parse (text : String) : Except Failure Reply :=
  match (Json.parse? text).bind ofJson? with
  | none => .error .badJson
  | some r =>
    match r.error with
    | some message => .error (.rejected message)
    | none => .ok r

def ranked (r : Reply) : List RepoHits := RepoHits.ranked r.results.entries

end Reply

end CodeSearch
