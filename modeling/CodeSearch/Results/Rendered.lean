import CodeSearch.Repo.Link
import CodeSearch.Results.Excerpt
import CodeSearch.Results.Span

/-!
Files with hits as a page shows them: excerpts whose lines are HTML and link to the browser of the
repository.
-/
namespace CodeSearch

open Numeric

structure RenderedLine where
  number : Signed64
  isHit : Bool
  html : String
  url : String
deriving DecidableEq

structure RenderedFile where
  filename : String
  url : String
  blocks : List (List RenderedLine)
deriving DecidableEq

namespace RenderedLine

def ofLine (r : Repo) (rev filename : String) (p : Pattern) (l : Line) : RenderedLine :=
  ⟨l.number, l.isHit, l.html p, r.link filename (some l.number) rev⟩

def toJson (l : RenderedLine) : Json :=
  .ofFields [("number", .ofInt l.number.val), ("isMatch", .bool l.isHit),
    ("html", .ofString l.html), ("url", .ofString l.url)]

end RenderedLine

namespace RenderedFile

def ofHits (r : Repo) (rev : String) (p : Pattern) (f : FileHits) : RenderedFile where
  filename := f.filename
  url := r.link f.filename none rev
  blocks := (Excerpt.ofHits f.hits).map fun e =>
    e.lines.map (RenderedLine.ofLine r rev f.filename p)

def toJson (f : RenderedFile) : Json :=
  .ofFields [("filename", .ofString f.filename), ("url", .ofString f.url),
    ("blocks", .arr (f.blocks.map fun lines =>
      .ofFields [("lines", .arr (lines.map RenderedLine.toJson))]))]

end RenderedFile

end CodeSearch
