import CodeSearch.Proofs.Dialogue.Calls
import CodeSearch.Proofs.Text.Trimming

/-!
Exchanges that fail. The dialogue stays as it was, and the listeners are told of the failure once;
only the opening of a load fails in silence. Of an exchange that succeeds no failure is told.
-/
namespace CodeSearch

open Text

/-- The text by which a failure is explained: what the server gives as its reason, one sentence for
a reply that cannot be read, and its own text for any other failure. -/
def Failure.Explained (message : String) : Failure → Prop
  | rejected reason => message = reason
  | unknownRepo name => message = "unknown repository: " ++ name
  | noSearch => message = "no search in progress"
  | badPattern text => message = text
  | badJson => message = "The server broke down"

theorem Failure.shown_explained (f : Failure) : f.Explained f.shown := by
  cases f <;> rfl

/-- All that the listeners are told when an exchange fails. A search is turned down for its pattern
only, in the words for the text that was to be compiled. -/
def Exchange.ToldOf (wording : Pattern.Wording) (f : Failure) : Exchange → List Notice → Prop
  | openSearch q, notices =>
    let text := wording (trim q.text) { ignoreCase := q.ignoresCase }
    f = .badPattern text ∧ notices = [.willSearch q.trimmed, .didError text]
  | openLoad _, notices => notices = []
  | _, notices => ∃ message, f.Explained message ∧ notices = [.didError message]

/-- An exchange either fails as a whole or succeeds without telling of a failure. -/
def Step.Atomic (wording : Pattern.Wording) (d : Dialogue) (e : Exchange) (s : Step e.Answer) :
    Prop :=
  match s.answer with
  | .error f => s.next = d ∧ e.ToldOf wording f s.notices
  | .ok _ => ∀ message, .didError message ∉ s.notices

theorem Notice.didError_not_mem_singleton {n : Notice} (other : ∀ message, .didError message ≠ n)
    (message : String) : .didError message ∉ [n] := by
  intro told
  exact other message (List.mem_singleton.1 told)

namespace Dialogue

variable {wording : Pattern.Wording}

theorem loadRepos_atomic (d : Dialogue) (text : String) :
    Step.Atomic wording d (.loadRepos text) (d.loadRepos text) := by
  unfold loadRepos
  split
  · exact Notice.didError_not_mem_singleton nofun
  · rename_i f _
    exact ⟨rfl, f.shown, f.shown_explained, rfl⟩

theorem patternOf_eq_error {q : Query} {f : Failure}
    (refused : patternOf wording q.trimmed = .error f) :
    f = .badPattern (wording (trim q.text) { ignoreCase := q.ignoresCase }) := by
  have same : trim q.trimmed.text = trim q.text := trim_trim q.text
  rw [patternOf, same] at refused
  exact (Pattern.compile_eq_error.1 refused).2

theorem openSearch_atomic (d : Dialogue) (q : Query) :
    Step.Atomic wording d (.openSearch q) (d.openSearch wording q) := by
  unfold openSearch
  dsimp only
  split
  · intro message told
    cases List.mem_cons.1 told with
    | inl first => cases first
    | inr later => cases List.mem_singleton.1 later
  · split
    · rename_i f refused
      cases patternOf_eq_error refused
      exact ⟨rfl, rfl, rfl⟩
    · exact Notice.didError_not_mem_singleton nofun

theorem closeSearch_atomic (d : Dialogue) (text : String) (elapsed : Numeric.Signed64) :
    Step.Atomic wording d (.closeSearch text elapsed) (d.closeSearch text elapsed) := by
  unfold closeSearch
  split
  · rename_i f _
    exact ⟨rfl, f.shown, f.shown_explained, rfl⟩
  · exact Notice.didError_not_mem_singleton nofun

theorem openLoad_atomic (d : Dialogue) (repo : String) :
    Step.Atomic wording d (.openLoad repo) (d.openLoad repo) := by
  unfold openLoad
  split
  · exact ⟨rfl, rfl⟩
  · split
    · exact ⟨rfl, rfl⟩
    · exact Notice.didError_not_mem_singleton nofun

theorem closeLoad_atomic (d : Dialogue) (repo text : String) :
    Step.Atomic wording d (.closeLoad repo text) (d.closeLoad repo text) := by
  unfold closeLoad
  split
  · rename_i f _
    exact ⟨rfl, f.shown, f.shown_explained, rfl⟩
  · split
    · exact ⟨rfl, _, Failure.shown_explained _, rfl⟩
    · exact Notice.didError_not_mem_singleton nofun

/-- Every exchange is atomic, whatever the dialogue, the texts that it is given and the words in
which patterns are turned down. -/
theorem perform_atomic (wording : Pattern.Wording) (d : Dialogue) (e : Exchange) :
    Step.Atomic wording d e (d.perform wording e) := by
  cases e with
  | loadRepos text => exact d.loadRepos_atomic text
  | openSearch q => exact d.openSearch_atomic q
  | closeSearch text elapsed => exact d.closeSearch_atomic text elapsed
  | openLoad repo => exact d.openLoad_atomic repo
  | closeLoad repo text => exact d.closeLoad_atomic repo text

end Dialogue

end CodeSearch
