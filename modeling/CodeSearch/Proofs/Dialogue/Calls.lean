import CodeSearch.Dialogue.Basic

/-!
What a page may ask of a dialogue, and what becomes of the dialogue. Each call changes it in one of
few ways, so that an invariant has to be checked for these only.
-/
namespace CodeSearch

open Numeric

/-- The calls that open or close an exchange with the server. -/
inductive Exchange where
  | loadRepos (text : String)
  | openSearch (q : Query)
  | closeSearch (text : String) (elapsed : Signed64)
  | openLoad (repo : String)
  | closeLoad (repo text : String)

def Exchange.Answer : Exchange → Type
  | loadRepos _ => Unit
  | openSearch _ => Option Request
  | closeSearch _ _ => Unit
  | openLoad _ => Request
  | closeLoad _ _ => Unit

inductive Call where
  | exchange (e : Exchange)
  | setRepos (c : Catalog)
  | fail (message : String)
  | renderFile (repo : String) (f : FileHits)
  | renderRepo (repo : String)

namespace Dialogue

def perform (wording : Pattern.Wording) (d : Dialogue) : (e : Exchange) → Step e.Answer
  | .loadRepos text => d.loadRepos text
  | .openSearch q => d.openSearch wording q
  | .closeSearch text elapsed => d.closeSearch text elapsed
  | .openLoad repo => d.openLoad repo
  | .closeLoad repo text => d.closeLoad repo text

def after (wording : Pattern.Wording) (d : Dialogue) : Call → Dialogue
  | .exchange e => (d.perform wording e).next
  | .setRepos c => (d.setRepos c).next
  | .fail message => (d.fail message).next
  | .renderFile repo f => (d.renderFileStep repo f).next
  | .renderRepo repo => (d.renderRepoStep repo).next

inductive Reachable (wording : Pattern.Wording) : Dialogue → Prop where
  | start : Reachable wording {}
  | call {d : Dialogue} (c : Call) : Reachable wording d → Reachable wording (d.after wording c)

inductive Change (d : Dialogue) : Dialogue → Prop where
  | none : Change d d
  | catalog (c : Catalog) : Change d { d with catalog := c }
  | cleared : Change d ({ d with request := .none, pattern := .none }.install [] .none)
  | opened (q : Query) (p : Pattern) (asked : q.trimmed.text.isEmpty = false)
      (compiled : Pattern.compile? (Text.trim q.trimmed.text) { ignoreCase := q.ignoresCase } =
        some p) :
      Change d { d with request := some q.trimmed.request, pattern := some p }
  | closed (reply : Reply) (stats : Option SearchStats) : Change d (d.install reply.ranked stats)
  | grown (repo : String) (k : Nat) (files : List FileHits) (stands : d.index.lookup repo = some k) :
      Change d { d with results := d.results.modify k (addFiles files) }

variable {wording : Pattern.Wording}

theorem loadRepos_change (d : Dialogue) (text : String) : Change d (d.loadRepos text).next := by
  unfold loadRepos
  split
  · exact .catalog _
  · exact .none

theorem openSearch_change (wording : Pattern.Wording) (d : Dialogue) (q : Query) :
    Change d (d.openSearch wording q).next := by
  unfold openSearch
  dsimp only
  split
  · exact .cleared
  · rename_i asked
    split
    · exact .none
    · rename_i p compiled
      exact .opened q p (Bool.eq_false_iff.2 asked) (Pattern.compile_eq_ok.1 compiled)

theorem closeSearch_change (d : Dialogue) (text : String) (elapsed : Signed64) :
    Change d (d.closeSearch text elapsed).next := by
  unfold closeSearch
  split
  · exact .none
  · exact .closed _ _

theorem openSearch_eq_ok {d : Dialogue} {q : Query} {r : Request} :
    (d.openSearch wording q).answer = .ok (some r) ↔
      ∃ p, q.trimmed.text.isEmpty = false ∧ patternOf wording q.trimmed = .ok p ∧
        r = q.trimmed.request := by
  unfold openSearch
  dsimp only
  constructor
  · intro answer
    split at answer
    · cases answer
    · rename_i asked
      split at answer
      · cases answer
      · rename_i p compiled
        cases answer
        exact ⟨p, Bool.eq_false_iff.2 asked, compiled, rfl⟩
  · rintro ⟨p, asked, compiled, rfl⟩
    rw [asked, compiled]
    rfl

theorem openLoad_next (d : Dialogue) (repo : String) : (d.openLoad repo).next = d := by
  unfold openLoad
  split
  · rfl
  · split <;> rfl

theorem openLoad_change (d : Dialogue) (repo : String) : Change d (d.openLoad repo).next := by
  rw [openLoad_next]
  exact .none

theorem openLoad_eq_ok {d : Dialogue} {repo : String} {narrow : Request} :
    (d.openLoad repo).answer = .ok narrow ↔
      ∃ r h, d.request = some r ∧ d.result? repo = some h ∧
        narrow = r.forRepo repo (Batch.next h).range := by
  unfold openLoad
  cases active : d.request with
  | none => simp
  | some r =>
    cases found : d.result? repo with
    | none => simp
    | some h => simp [eq_comm]

theorem moreFiles?_eq_some {d : Dialogue} {repo : String} {reply : Reply} {files : List FileHits}
    {k : Nat} : d.moreFiles? repo reply = some (files, k) ↔
      (∃ more, reply.results.get? repo = some (some more) ∧ more.files = files) ∧
        d.index.lookup repo = some k := by
  simp only [moreFiles?, Option.bind_eq_bind, Option.bind_eq_some_iff, Option.join_eq_some_iff]
  constructor
  · rintro ⟨more, sent, place, stands, answer⟩
    cases answer
    exact ⟨⟨more, sent, rfl⟩, stands⟩
  · rintro ⟨⟨more, sent, rfl⟩, stands⟩
    exact ⟨more, sent, k, stands, rfl⟩

theorem closeLoad_change (d : Dialogue) (repo text : String) :
    Change d (d.closeLoad repo text).next := by
  unfold closeLoad
  split
  · exact .none
  · split
    · exact .none
    · rename_i files k found
      exact .grown repo k files (moreFiles?_eq_some.1 found).2

theorem after_change (d : Dialogue) (c : Call) : Change d (d.after wording c) := by
  cases c with
  | exchange e =>
    cases e with
    | loadRepos text => exact d.loadRepos_change text
    | openSearch q => exact d.openSearch_change wording q
    | closeSearch text elapsed => exact d.closeSearch_change text elapsed
    | openLoad repo => exact d.openLoad_change repo
    | closeLoad repo text => exact d.closeLoad_change repo text
  | setRepos c => exact .catalog c
  | fail message => exact .none
  | renderFile repo f => exact .none
  | renderRepo repo => exact .none

theorem Reachable.invariant {P : Dialogue → Prop} (start : P {})
    (kept : ∀ d d', P d → Change d d' → P d') {d : Dialogue} (reached : Reachable wording d) :
    P d := by
  induction reached with
  | start => exact start
  | call c _ ih => exact kept _ _ ih (after_change _ c)

end Dialogue

end CodeSearch
