import CodeSearch.Repo.Basic
import CodeSearch.Repo.CloneUrl
import CodeSearch.Numeric.Bounded
import CodeSearch.Text.Template

/-!
Links to files and lines in the browser of a repository. All that a template may name is worked out
first; then the template is filled in.
-/
namespace CodeSearch

open Text Numeric

/-- What a template may name. -/
structure LinkParts where
  url : String
  path : String
  rev : String
  anchor : String
  filename : String
  host : String
  port : String
  project : String
  repo : String
deriving DecidableEq, Repr

namespace LinkParts

/-- The last part of a path. -/
def fileName (path : List Char) : List Char :=
  match cutLast? '/' path with
  | some (_, name) => name
  | none => path

/-- What is added to a link for a line. There is no line 0. -/
def lineAnchor (template filename : String) : Option Signed64 → String
  | none => ""
  | some line =>
    if line.val = 0 then ""
    else Template.fill template
      [("line", String.ofList (Decimal.writeInt line.val)), ("filename", filename)]

/-- The first part of a path and the others; a single part is no project. -/
def projectAndRepo (path : List Char) : List Char × List Char := (cut? ['/'] path).getD ([], path)

def wikiEnding : List Char := ".wiki".toList

/-- A wiki has pages without `.md` and no lines. -/
def ofRepo (r : Repo) (path : String) (line : Option Signed64) (rev : String) : LinkParts :=
  let clone := dropEnding ".git".toList r.url.toList
  let filename := String.ofList (fileName path.toList)
  let (clone, path, anchor) :=
    match dropEnding? wikiEnding clone with
    | some start =>
      (start ++ "/wiki".toList, String.ofList (dropEnding ".md".toList path.toList), "")
    | none => (clone, path, lineAnchor r.links.anchor filename line)
  let url := CloneUrl.toWeb clone
  let (host, port, project, repo) :=
    match CloneUrl.web? url with
    | some w => (w.host, w.port, projectAndRepo w.path)
    | none => ([], [], [], [])
  { url := String.ofList url, path := path, rev := rev, anchor := anchor, filename := filename,
    host := String.ofList host, port := String.ofList port, project := String.ofList project,
    repo := String.ofList repo }

/-- Names and values in the order in which they are filled in. -/
def values (p : LinkParts) : List (String × String) :=
  [("url", p.url), ("path", p.path), ("rev", p.rev), ("anchor", p.anchor),
    ("filename", p.filename), ("hostname", p.host), ("port", p.port), ("project", p.project),
    ("repo", p.repo)]

def toJson (p : LinkParts) : Json := .ofFields (p.values.map fun v => (v.1, .ofString v.2))

end LinkParts

/-- The link to a file, or to one of its lines. -/
def Repo.link (r : Repo) (path : String) (line : Option Signed64) (rev : String) : String :=
  Template.fill r.links.base (LinkParts.ofRepo r path line rev).values

def Catalog.link (c : Catalog) (name path : String) (line : Option Signed64) (rev : String) :
    Except Failure String :=
  match c.get? name with
  | some r => .ok (r.link path line rev)
  | none => .error (.unknownRepo name)

end CodeSearch
