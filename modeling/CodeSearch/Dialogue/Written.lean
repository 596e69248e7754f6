import CodeSearch.Dialogue.Board

/-!
How notices and the state of a dialogue are written as JSON.
-/
namespace CodeSearch

def SearchStats.toJson (s : SearchStats) : Json :=
  .ofFields [("Server", .ofInt s.server.val), ("Total", .ofInt s.total.val),
    ("Files", .ofInt s.files.val)]

namespace Notice

def resultsJson (results : List RepoHits) : Json := .arr (results.map RepoHits.toJson)

def toJson : Notice → Json
  | willSearch q => q.toJson
  | didSearch results stats =>
    .ofFields [("results", resultsJson results),
      ("stats", .ofOption (stats.map SearchStats.toJson))]
  | willLoadMore b => b.toJson
  | didLoadMore repo results =>
    .ofFields [("repo", .ofString repo), ("results", resultsJson results)]
  | didError message => .ofString message
  | didLoadRepos c => c.toJson

end Notice

namespace Dialogue

/-- The results in short: names, revisions and numbers of files. -/
def stateJson (d : Dialogue) : Json :=
  .ofFields [("repos", .ofNat d.catalog.size),
    ("pattern", .ofOption (d.pattern.map fun p => .ofString p.source)),
    ("stats", .ofOption (d.stats.map SearchStats.toJson)),
    ("results", .arr (d.results.map fun r => .arr [.ofString r.repo, .ofString r.revision,
      .ofNat r.files.length, .ofInt r.total.val, .ofNat r.remaining]))]

end Dialogue

end CodeSearch
