import CodeSearch.Query.Basic
import CodeSearch.Repo.Basic

/-!
The form in which a search bar submits a query. Texts are trimmed, the flag is one of two words, and
of the repositories only those of the catalog are kept; all of them together are written as none.
-/
namespace CodeSearch

open Text

def Query.normalized (q : Query) (c : Catalog) : Query :=
  let chosen := c.known q.repoList
  { text := trim q.text
    caseFlag := if q.ignoresCase then yes else no
    files := trim q.files
    repos := if chosen.length = c.size then "" else ",".intercalate chosen }

end CodeSearch
