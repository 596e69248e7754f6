import CodeSearch.Proofs.Dialogue.Calls
import CodeSearch.Proofs.Text.Trimming

/-!
The search that is active. Its request and the pattern for its lines are of one query, whatever was
called before: both are there or none, and the pattern is what the text of the request compiles to.
-/
namespace CodeSearch

open Text

structure Request.Carries (r : Request) (p : Pattern) : Prop where
  text : r.text ≠ ""
  trimmed : Trimmed r.text.toList
  repos : r.repos ≠ ""
  compiled : Pattern.compile? r.text { ignoreCase := isYes r.caseFlag } = some p

structure Request.Narrows (narrow r : Request) (repo : String) : Prop where
  text : narrow.text = r.text
  caseFlag : narrow.caseFlag = r.caseFlag
  files : narrow.files = r.files
  stats : narrow.stats = r.stats
  repos : narrow.repos = repo

namespace Dialogue

/-- Request and pattern are both absent, or both present and of one search. -/
def Aligned (d : Dialogue) : Prop :=
  d.request = none ∧ d.pattern = none ∨
    ∃ r p, d.request = some r ∧ d.pattern = some p ∧ r.Carries p

theorem ne_empty {s : String} (nonempty : s.isEmpty = false) : s ≠ "" := by
  rintro rfl
  cases nonempty

theorem request_carries {q : Query} {p : Pattern} (asked : q.trimmed.text.isEmpty = false)
    (compiled : Pattern.compile? (trim q.trimmed.text) { ignoreCase := q.ignoresCase } = some p) :
    q.trimmed.request.Carries p where
  text := ne_empty asked
  trimmed := trim_trimmed q.text
  repos := by
    unfold Query.request
    dsimp only
    split
    · decide
    · rename_i named
      exact ne_empty (Bool.eq_false_iff.2 named)
  compiled := by
    have same : trim q.trimmed.text = q.trimmed.request.text := trim_trim q.text
    rw [← same]
    exact compiled

theorem Change.aligned {d d' : Dialogue} (aligned : d.Aligned) (change : Change d d') :
    d'.Aligned := by
  cases change with
  | none => exact aligned
  | catalog c => exact aligned
  | cleared => exact .inl ⟨rfl, rfl⟩
  | opened q p asked compiled => exact .inr ⟨_, p, rfl, rfl, request_carries asked compiled⟩
  | closed reply stats => exact aligned
  | grown repo k files stands => exact aligned

theorem openLoad_narrows {d : Dialogue} {repo : String} {narrow : Request}
    (answer : (d.openLoad repo).answer = .ok narrow) :
    ∃ r, d.request = some r ∧ narrow.Narrows r repo := by
  obtain ⟨r, _, active, _, rfl⟩ := openLoad_eq_ok.1 answer
  exact ⟨r, active, rfl, rfl, rfl, rfl, rfl⟩

/-- In every dialogue that calls can lead to, request and pattern are of one search, and so are the
requests for more files. -/
theorem reachable_search_aligned {wording : Pattern.Wording} {d : Dialogue}
    (reached : Reachable wording d) :
    d.Aligned ∧ ∀ repo narrow, (d.openLoad repo).answer = .ok narrow →
      ∃ r, d.request = some r ∧ narrow.Narrows r repo :=
  ⟨reached.invariant (.inl ⟨rfl, rfl⟩) fun _ _ => Change.aligned,
    fun _ _ => openLoad_narrows⟩

/-- A query with blanks around it, then one that is no pattern, and a reply that comes late. -/
theorem reachable_search_aligned_late :
    let wording : Pattern.Wording := fun source _ =>
      "regex parse error:\n    " ++ source ++ "\n    ^\nerror: unclosed group"
    ∃ d : Dialogue, Reachable wording d ∧ d.request = some ((⟨"a b", "nope", "", ""⟩ : Query).request) ∧
      d.Aligned ∧ ∀ repo narrow, (d.openLoad repo).answer = .ok narrow →
        ∃ r, d.request = some r ∧ narrow.Narrows r repo := by
  intro wording
  have first := (@Reachable.start wording).call
    (.exchange (.openSearch ⟨" a b\n", "nope", "", ""⟩))
  have second := first.call (.exchange (.openSearch ⟨"(", "nope", "", "*"⟩))
  have third := second.call (.exchange (.closeSearch "\x7b\x7d" default))
  refine ⟨_, third, ?_, reachable_search_aligned third⟩
  decide +kernel

end Dialogue

end CodeSearch
