import CodeSearch.Query.Url
import CodeSearch.Results.Batch
import CodeSearch.Results.Rendered

/-!
The dialogue of a search page with the server. It sends nothing itself: each exchange is opened by a
step that gives the request to send, and closed by a step that takes the text of the reply. A step
gives its answer, the dialogue as it is afterwards, and in order what the listeners are told and
what is written down.
-/
namespace CodeSearch

open Numeric

/-- How long a search took, in milliseconds, and how many files it opened. -/
structure SearchStats where
  server : Signed64
  total : Signed64
  files : Signed64
deriving DecidableEq

structure Dialogue where
  catalog : Catalog := .empty
  request : Option Request := none
  /-- What lines are searched for, from the same query as the request. -/
  pattern : Option Pattern := none
  results : List RepoHits := []
  /-- Where each repository stands among the results. -/
  index : List (String × Nat) := []
  stats : Option SearchStats := none

/-- What the listeners are told. -/
inductive Notice where
  | willSearch (q : Query)
  | didSearch (results : List RepoHits) (stats : Option SearchStats)
  | willLoadMore (b : Batch)
  | didLoadMore (repo : String) (results : List RepoHits)
  | didError (message : String)
  | didLoadRepos (c : Catalog)

structure Step (α : Type) where
  answer : Except Failure α
  next : Dialogue
  notices : List Notice := []
  log : List Trace.Event := []

namespace Dialogue

def failedEvent (message : String) : Trace.Event :=
  ⟨.debug, "search failed", [("message", .text message)]⟩

/-- Tells of a failure that the page saw. -/
def fail (d : Dialogue) (message : String) : Step Unit :=
  ⟨.ok (), d, [.didError message], [failedEvent message]⟩

/-- A step that fails leaves the dialogue as it is and tells of the failure. -/
def reportFailure {α : Type} (d : Dialogue) (f : Failure) : Step α :=
  ⟨.error f, d, [.didError f.shown], [failedEvent f.shown]⟩

def setRepos (d : Dialogue) (c : Catalog) : Step Unit :=
  ⟨.ok (), { d with catalog := c }, [.didLoadRepos c], []⟩

/-- Takes the catalog that the server sent. -/
def loadRepos (d : Dialogue) (text : String) : Step Unit :=
  match Catalog.parse text with
  | .ok c =>
    let set := d.setRepos c
    { set with log := c.loadedEvent :: set.log }
  | .error f => d.reportFailure f

/-- The dialogue with new results. -/
def install (d : Dialogue) (results : List RepoHits) (stats : Option SearchStats) : Dialogue :=
  { d with
    results := results
    index := results.zipIdx.map fun p => (p.1.repo, p.2)
    stats := stats }

def patternOf (wording : Pattern.Wording) (q : Query) : Except Failure Pattern :=
  Pattern.compile wording (Text.trim q.text) { ignoreCase := q.ignoresCase }

/-- Opens a search. A blank query clears the results and sends nothing; one that is no pattern
leaves the search before it as it was. -/
def openSearch (wording : Pattern.Wording) (d : Dialogue) (q : Query) : Step (Option Request) :=
  let q := q.trimmed
  if q.text.isEmpty then
    { answer := .ok none
      next := { d with request := none, pattern := none }.install [] none
      notices := [.willSearch q, .didSearch [] none]
      log := [⟨.debug, "empty query; clearing results", []⟩] }
  else
    match patternOf wording q with
    | .error f =>
      let failed := d.reportFailure f
      { failed with notices := .willSearch q :: failed.notices }
    | .ok p =>
      let r := q.request
      { answer := .ok (some r)
        next := { d with request := some r, pattern := some p }
        notices := [.willSearch q]
        log := [⟨.debug, "search started", [("q", .text r.text), ("repos", .text r.repos)]⟩] }

/-- Closes a search with the reply and the milliseconds that it took. -/
def closeSearch (d : Dialogue) (text : String) (elapsed : Signed64) : Step Unit :=
  match Reply.parse text with
  | .error f => d.reportFailure f
  | .ok reply =>
    let stats := reply.stats.map fun s => ⟨s.duration, elapsed, s.filesOpened⟩
    let results := reply.ranked
    { answer := .ok ()
      next := d.install results stats
      notices := [.didSearch results stats]
      log := [⟨.debug, "search completed",
        [("repos", .number results.length), ("elapsed_ms", .number elapsed.val)]⟩] }

/-- The hits of one repository. -/
def result? (d : Dialogue) (repo : String) : Option RepoHits :=
  (d.index.lookup repo).bind fun k => d.results[k]?

/-- Opens the loading of more files of a repository. -/
def openLoad (d : Dialogue) (repo : String) : Step Request :=
  match d.request with
  | none => ⟨.error .noSearch, d, [], []⟩
  | some r =>
    match d.result? repo with
    | none => ⟨.error (.unknownRepo repo), d, [], []⟩
    | some hits =>
      let b := Batch.next hits
      let r := r.forRepo repo b.range
      { answer := .ok r
        next := d
        notices := [.willLoadMore b]
        log := [⟨.debug, "loading more", [("repo", .text repo), ("rng", .text r.range)]⟩] }

def addFiles (files : List FileHits) (r : RepoHits) : RepoHits :=
  { r with files := r.files ++ files }

/-- The files that a reply holds for a repository, and where it stands among the results. -/
def moreFiles? (d : Dialogue) (repo : String) (reply : Reply) : Option (List FileHits × Nat) := do
  let more ← (reply.results.get? repo).join
  return (more.files, ← d.index.lookup repo)

/-- Closes the loading: the files are added to those that are there. -/
def closeLoad (d : Dialogue) (repo text : String) : Step Unit :=
  match Reply.parse text with
  | .error f => d.reportFailure f
  | .ok reply =>
    match d.moreFiles? repo reply with
    | none => d.reportFailure (.unknownRepo repo)
    | some (files, k) =>
      let results := d.results.modify k (addFiles files)
      { answer := .ok ()
        next := { d with results := results }
        notices := [.didLoadMore repo results] }

/-- A file of a repository as it is shown. -/
def renderFile (d : Dialogue) (repo : String) (f : FileHits) : Except Failure RenderedFile :=
  match d.pattern with
  | none => .error .noSearch
  | some p =>
    match d.catalog.get? repo with
    | none => .error (.unknownRepo repo)
    | some r => .ok (RenderedFile.ofHits r (((d.result? repo).map (·.revision)).getD "") p f)

/-- All files of a repository that are loaded. -/
def renderRepo (d : Dialogue) (repo : String) : Except Failure (List RenderedFile) :=
  match d.result? repo with
  | none => .error (.unknownRepo repo)
  | some hits => hits.files.mapM (d.renderFile repo)

/-- What is written down when files are rendered. -/
def renderEvents (files : List FileHits) : List Trace.Event :=
  files.map fun f => Excerpt.event f.hits

def renderFileStep (d : Dialogue) (repo : String) (f : FileHits) : Step RenderedFile :=
  let answer := d.renderFile repo f
  ⟨answer, d, [], if answer.toOption.isSome then renderEvents [f] else []⟩

def renderRepoStep (d : Dialogue) (repo : String) : Step (List RenderedFile) :=
  let answer := d.renderRepo repo
  let files := ((d.result? repo).map (·.files)).getD []
  ⟨answer, d, [], if answer.toOption.isSome then renderEvents files else []⟩

end Dialogue

end CodeSearch
