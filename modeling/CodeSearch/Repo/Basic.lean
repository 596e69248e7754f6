import CodeSearch.Failure
import CodeSearch.Json.Reader
import CodeSearch.Json.Printer
import CodeSearch.Json.Shape
import CodeSearch.Text.Cut
import CodeSearch.Trace

/-!
Repositories as the server describes them, and the catalog of all that it indexes.
-/
namespace CodeSearch

open Text

/-- How the address of a file or a line in the browser of a repository is made. -/
structure LinkTemplate where
  base : String := "\x7burl\x7d/blob/master/\x7bpath\x7d\x7banchor\x7d"
  anchor : String := "#L\x7bline\x7d"
deriving DecidableEq, Repr, Inhabited

structure Repo where
  url : String
  links : LinkTemplate := {}
deriving DecidableEq, Repr

abbrev Catalog := NameMap Repo

namespace LinkTemplate

def toJson (t : LinkTemplate) : Json :=
  .ofFields [("base-url", .ofString t.base), ("anchor", .ofString t.anchor)]

open Json in
def ofJson? (j : Json) : Option LinkTemplate := do
  let standard : LinkTemplate := {}
  match ← record? ["base-url", "anchor"] j with
  | [base, anchor] =>
    return ⟨← optional? asString? standard.base base, ← optional? asString? standard.anchor anchor⟩
  | _ => none

end LinkTemplate

namespace Repo

def toJson (r : Repo) : Json :=
  .ofFields [("url", .ofString r.url), ("url-pattern", r.links.toJson)]

open Json in
/-- Fields that say more than the address and its templates are passed over. -/
def ofJson? (j : Json) : Option Repo := do
  match ← record? ["url", "url-pattern"] j with
  | [url, links] =>
    return ⟨← required? asString? url, ← optional? LinkTemplate.ofJson? {} links⟩
  | _ => none

/-- A name to show: the last two parts of the address, the last one if there is no other. -/
def shownName? (r : Repo) : Option String := do
  let (before, last) ← cutLast? '/' r.url.toList
  let last := String.ofList (dropEnding ".git".toList last)
  match cutLast? '/' before with
  | some (_, project) => return String.ofList project ++ " / " ++ last
  | none => return last

end Repo

namespace Catalog

def toJson (c : Catalog) : Json := .ofFields (c.entries.map fun e => (e.1, e.2.toJson))

def ofJson? (j : Json) : Option Catalog := Json.asMap? Repo.ofJson? j

/-- The catalog that a text of JSON lists. -/
def parse (text : String) : Except Failure Catalog :=
  match (Json.parse? text).bind ofJson? with
  | some c => .ok c
  | none => .error .badJson

def loadedEvent (c : Catalog) : Trace.Event :=
  ⟨.debug, "loaded repositories", [("repos", .number c.size)]⟩

/-- The known ones among some names, each once, in the order given. -/
def known (c : Catalog) (names : List String) : List String :=
  (names.filter c.contains).eraseDups

def selectsAll (c : Catalog) (names : List String) : Bool := (c.known names).length == c.size

/-- A name to show for the repository of that name, which is the name itself where the catalog does
not give a better one. -/
def shownName (c : Catalog) (name : String) : String :=
  ((c.get? name).bind Repo.shownName?).getD name

end Catalog

end CodeSearch
