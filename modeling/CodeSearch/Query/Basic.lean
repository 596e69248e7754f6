import CodeSearch.Json.Shape
import CodeSearch.Text.Blank
import CodeSearch.Text.Cut

/-!
The query that a search page shows: the pattern, whether case counts, a filter for file names, and
the repositories to search. A request is what is sent to the server for it.
-/
namespace CodeSearch

open Text

structure Query where
  text : String := ""
  caseFlag : String := "nope"
  files : String := ""
  repos : String := "*"
deriving DecidableEq, Repr, Inhabited

structure Request where
  text : String
  caseFlag : String
  files : String
  repos : String
  stats : String
  /-- Which files of each repository to send: where to start, a colon, and how many. -/
  range : String
deriving DecidableEq, Repr

def yes : String := "fosho"

def no : String := "nope"

/-- Whether a flag is set: three words count as yes, in capital or small letters. -/
def isYes (flag : String) : Bool :=
  let small := flag.toList.map Char.toLower
  small == yes.toList || small == ['t', 'r', 'u', 'e'] || small == ['1']

namespace Query

def ignoresCase (q : Query) : Bool := isYes q.caseFlag

/-- Sets the field that a key names, if it names one. -/
def set? (q : Query) (key value : String) : Option Query :=
  if key = "q" then some { q with text := value }
  else if key = "i" then some { q with caseFlag := value }
  else if key = "files" then some { q with files := value }
  else if key = "repos" then some { q with repos := value }
  else none

/-- The repositories that are named; none if nothing is chosen. -/
def repoList (q : Query) : List String :=
  if q.repos.isEmpty then [] else (splitAt ',' q.repos.toList).map String.ofList

def trimmed (q : Query) : Query := { q with text := trim q.text }

/-- The first files of every repository that is chosen, and of all if none is. -/
def request (q : Query) : Request where
  text := q.text
  caseFlag := q.caseFlag
  files := q.files
  repos := if q.repos.isEmpty then "*" else q.repos
  stats := yes
  range := ":20"

def toJson (q : Query) : Json :=
  .ofFields [("q", .ofString q.text), ("i", .ofString q.caseFlag), ("files", .ofString q.files),
    ("repos", .ofString q.repos)]

open Json in
def ofJson? (j : Json) : Option Query := do
  let standard : Query := {}
  match ← record? ["q", "i", "files", "repos"] j with
  | [text, caseFlag, files, repos] =>
    return {
      text := ← optional? asString? standard.text text
      caseFlag := ← optional? asString? standard.caseFlag caseFlag
      files := ← optional? asString? standard.files files
      repos := ← optional? asString? standard.repos repos }
  | _ => none

end Query

namespace Request

/-- The same request for one repository and other files of it. -/
def forRepo (r : Request) (repo range : String) : Request := { r with repos := repo, range := range }

/-- The keys and values that are sent, in order. -/
def pairs (r : Request) : List (String × String) :=
  [("q", r.text), ("i", r.caseFlag), ("files", r.files), ("repos", r.repos), ("stats", r.stats),
    ("rng", r.range)]

def toJson (r : Request) : Json := .ofFields (r.pairs.map fun p => (p.1, .ofString p.2))

end Request

end CodeSearch
