import CodeSearch.Proofs.Dialogue.Standings
import CodeSearch.Proofs.Results.Ranges

/-!
A server that holds some files of each repository, and what it answers. After a search the results
are the first files that it holds, and how many there are in all is known.
-/
namespace CodeSearch

open Numeric

variable {held : String → List FileHits}

/-- What a server that holds these files says of a repository, asked for a range. -/
structure RepoReply.Sends (e : RepoReply) (all : List FileHits) (range : String) : Prop where
  files : e.files = FileRange.pick range all
  total : e.total.val = all.length

def RepoReply.sent (all : List FileHits) (range : String) : RepoReply :=
  ⟨"", FileRange.pick range all, Unsigned64.clamp all.length⟩

theorem RepoReply.sent_sends {all : List FileHits} (small : all.length < 18446744073709551616) (range : String) :
    (sent all range).Sends all range where
  files := rfl
  total := by
    rw [sent, Unsigned64.clamp, Bounded.clamp_val]
    omega

/-- A text that answers a search: of the repositories of which it says something, what is held. -/
def Request.Found (held : String → List FileHits) (r : Request) (text : String) : Prop :=
  ∃ reply, Reply.parse text = .ok reply ∧
    ∀ repo e, reply.results.get? repo = some (some e) → e.Sends (held repo) r.range

def Request.Continued (held : String → List FileHits) (r : Request) (text : String) : Prop :=
  ∃ reply e, Reply.parse text = .ok reply ∧ reply.results.get? r.repos = some (some e) ∧
    e.Sends (held r.repos) r.range

/-- What is read from a text that was printed depends on the characters alone. -/
theorem Json.parse?_print (j : Json) :
    parse? j.print = (Token.ofText? j.write).bind ofTokens? := by
  rw [parse?, print, String.toList_ofList, Option.bind_eq_bind]

theorem Reply.parse_of_entries {text : String} {entries : List (String × Option RepoReply)}
    (read : (Reply.parse text).toOption.map (·.results.entries) = some entries) :
    ∃ reply, Reply.parse text = .ok reply ∧ reply.results.entries = entries := by
  cases parsed : Reply.parse text with
  | error f =>
    rw [parsed] at read
    cases read
  | ok reply =>
    rw [parsed] at read
    exact ⟨reply, rfl, Option.some.inj read⟩

namespace Dialogue

structure Begun (held : String → List FileHits) (d : Dialogue) : Prop where
  active : ∃ r, d.request = some r
  indexed : d.Indexed
  first : ∀ h ∈ d.results, h.files = (held h.repo).take 20
  total : ∀ h ∈ d.results, h.total.val = (held h.repo).length

inductive Searched (wording : Pattern.Wording) (held : String → List FileHits) :
    Dialogue → Prop where
  | closed {d : Dialogue} {q : Query} {r : Request} {text : String} {elapsed : Signed64}
      (asked : (d.openSearch wording q).answer = .ok (some r)) (found : r.Found held text) :
      Searched wording held ((d.openSearch wording q).next.closeSearch text elapsed).next

variable {wording : Pattern.Wording}

theorem openSearch_asked {d : Dialogue} {q : Query} {r : Request}
    (asked : (d.openSearch wording q).answer = .ok (some r)) :
    (d.openSearch wording q).next.request = some r ∧ r.range = ":20" := by
  obtain ⟨p, text, compiled, rfl⟩ := openSearch_eq_ok.1 asked
  refine ⟨?_, rfl⟩
  unfold openSearch
  dsimp only
  rw [text, compiled]
  rfl

theorem install_request (d : Dialogue) (results : List RepoHits) (stats : Option SearchStats) :
    (d.install results stats).request = d.request := rfl

theorem closeSearch_next {reply : Reply} {text : String} (parsed : Reply.parse text = .ok reply)
    (d : Dialogue) (elapsed : Signed64) :
    ∃ stats, (d.closeSearch text elapsed).next = d.install reply.ranked stats := by
  unfold closeSearch
  rw [parsed]
  exact ⟨_, rfl⟩

theorem Searched.begun {d : Dialogue} (searched : Searched wording held d) : d.Begun held := by
  cases searched with
  | @closed d q r text elapsed asked found =>
    obtain ⟨active, range⟩ := openSearch_asked asked
    obtain ⟨reply, parsed, sent⟩ := found
    obtain ⟨stats, next⟩ := closeSearch_next parsed (d.openSearch wording q).next elapsed
    have said : ∀ h ∈ reply.ranked, h.files = (held h.repo).take 20 ∧
        h.total.val = (held h.repo).length := by
      intro h member
      obtain ⟨e, entry, same⟩ := RepoHits.mem_ranked.1 member
      have sends := sent h.repo e (NameMap.get?_eq_some_iff.2 entry)
      have files : h.files = e.files := congrArg RepoHits.files same
      have total : h.total = e.total := congrArg RepoHits.total same
      rw [files, sends.files, range, FileRange.pick_first, total]
      exact ⟨rfl, sends.total⟩
    rw [next]
    exact {
      active := ⟨r, (install_request _ _ _).trans active⟩
      indexed := install_indexed stats (RepoHits.ranked_distinct reply.results.names_nodup)
      first := fun h member => (said h member).1
      total := fun h member => (said h member).2 }

end Dialogue

end CodeSearch
