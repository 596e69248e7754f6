import CodeSearch.Proofs.Dialogue.Serving
import Mathlib.Logic.Function.Basic

/-!
Loading in rounds. A round asks for more files of one repository and takes the answer; rounds of
different repositories may overlap. The results are always the first files that the server holds,
and the rounds decide only how many.
-/
namespace CodeSearch

open Numeric Function

variable {held : String → List FileHits}

namespace RepoHits

def upTo (held : String → List FileHits) (count : Nat) (h : RepoHits) : RepoHits :=
  { h with files := (held h.repo).take count }

theorem upTo_length (held : String → List FileHits) (count : Nat) (h : RepoHits) :
    (h.upTo held count).files.length = min count (held h.repo).length :=
  List.length_take

theorem upTo_remaining {h : RepoHits} (total : h.total.val = (held h.repo).length) (count : Nat) :
    (h.upTo held count).remaining = (held h.repo).length - count := by
  have known : (h.upTo held count).total.toNat = (held h.repo).length := Bounded.toNat_of_val total
  rw [remaining, upTo_length, known]
  omega

theorem upTo_hasMore {h : RepoHits} (total : h.total.val = (held h.repo).length) (count : Nat) :
    (h.upTo held count).hasMore = true ↔ count < (held h.repo).length := by
  rw [hasMore, decide_eq_true_iff, upTo_remaining total]
  omega

def following (held : String → List FileHits) (h : RepoHits) : List FileHits :=
  ((held h.repo).drop h.files.length).take Batch.limit

theorem following_length {h : RepoHits} (total : h.total.val = (held h.repo).length) :
    (h.following held).length = min Batch.limit h.remaining := by
  rw [following, List.length_take, List.length_drop, remaining,
    Bounded.toNat_of_val total]

theorem upTo_following (count : Nat) (h : RepoHits) :
    (h.upTo held count).following held = ((held h.repo).drop count).take Batch.limit := by
  have rest : (held h.repo).drop (h.upTo held count).files.length = (held h.repo).drop count := by
    rw [upTo_length, ← List.drop_eq_drop_min]
  exact congrArg (List.take Batch.limit) rest

theorem upTo_addFiles (count : Nat) (h : RepoHits) :
    Dialogue.addFiles ((h.upTo held count).following held) (h.upTo held count) =
      h.upTo held (count + Batch.limit) := by
  rw [upTo_following, upTo, upTo, List.take_add]
  rfl

end RepoHits

namespace Dialogue

/-- The dialogue after some rounds of each repository. -/
def advanced (held : String → List FileHits) (rounds : String → Nat) (d : Dialogue) : Dialogue :=
  { d with results := d.results.map fun h => h.upTo held (20 + Batch.limit * rounds h.repo) }

theorem Begun.advanced_zero {d : Dialogue} (begun : d.Begun held) :
    d.advanced held (fun _ => 0) = d := by
  have same : (d.results.map fun h => h.upTo held (20 + Batch.limit * 0)) = d.results := by
    refine (List.map_congr_left fun h member => ?_).trans (List.map_id _)
    rw [RepoHits.upTo, Nat.mul_zero, Nat.add_zero, ← begun.first h member]
    rfl
  rw [advanced, same]

theorem Begun.advanced_indexed {d : Dialogue} (begun : d.Begun held) (rounds : String → Nat) :
    (d.advanced held rounds).Indexed :=
  begun.indexed.renewed fun _ => rfl

theorem Begun.of_mem_advanced {d : Dialogue} (begun : d.Begun held) {rounds : String → Nat}
    {h : RepoHits} (member : h ∈ (d.advanced held rounds).results) :
    h.total.val = (held h.repo).length ∧
      h = h.upTo held (20 + Batch.limit * rounds h.repo) := by
  obtain ⟨first, stood, rfl⟩ := List.mem_map.1 member
  exact ⟨begun.total first stood, rfl⟩

def continued (held : String → List FileHits) (repo : String) (d : Dialogue) : Dialogue :=
  { d with results := d.results.map fun h =>
      if h.repo = repo then addFiles (h.following held) h else h }

theorem advanced_continued (rounds : String → Nat) (repo : String) (d : Dialogue) :
    (d.advanced held rounds).continued held repo =
      d.advanced held (update rounds repo (rounds repo + 1)) := by
  have each : ∀ h : RepoHits,
      (if h.repo = repo then
        addFiles ((h.upTo held (20 + Batch.limit * rounds h.repo)).following held)
          (h.upTo held (20 + Batch.limit * rounds h.repo))
      else h.upTo held (20 + Batch.limit * rounds h.repo)) =
        h.upTo held (20 + Batch.limit * update rounds repo (rounds repo + 1) h.repo) := by
    intro h
    rw [update_apply, RepoHits.upTo_addFiles]
    split
    · rename_i here
      rw [here, Nat.mul_succ, Nat.add_assoc]
    · rfl
  rw [continued, advanced, advanced, List.map_map, ← funext each]
  rfl

theorem closeLoad_answered {d : Dialogue} {repo text : String} {h : RepoHits} {r : Request}
    (indexed : d.Indexed) (found : d.result? repo = some h)
    (total : h.total.val = (held repo).length) (small : h.files.length < 18446744073709551616)
    (named : r.repos = repo) (range : r.range = (Batch.next h).range)
    (answered : r.Continued held text) :
    (d.closeLoad repo text).answer = .ok () ∧
      (d.closeLoad repo text).next = d.continued held repo := by
  obtain ⟨reply, e, parsed, sent, sends⟩ := answered
  obtain ⟨member, same⟩ := indexed.result?_eq_some_iff.1 found
  obtain ⟨k, place⟩ := List.getElem?_of_mem member
  have stands : d.index.lookup repo = some k := by
    rw [indexed.lookup_eq_some_iff, place, ← same]
    rfl
  have files : e.files = h.following held := by
    rw [sends.files, named, range, FileRange.pick_next total small, RepoHits.following, same]
  have more : d.moreFiles? repo reply = some (h.following held, k) :=
    moreFiles?_eq_some.2 ⟨⟨e, named ▸ sent, files⟩, stands⟩
  have grown : d.results.modify k (addFiles (h.following held)) = d.results.map fun other =>
      if other.repo = repo then addFiles (other.following held) other else other := by
    rw [indexed.modify stands]
    refine List.map_congr_left fun other there => ?_
    split
    · rename_i here
      have again := indexed.result?_eq_some_iff.2 ⟨there, here⟩
      rw [Option.some.inj (again.symm.trans found)]
    · rfl
  unfold closeLoad
  rw [parsed]
  dsimp only
  rw [more, continued, ← grown]
  exact ⟨rfl, rfl⟩

end Dialogue

structure Loading where
  dialogue : Dialogue
  /-- The request that is out for a repository; there is one at most. -/
  pending : String → Option Request := fun _ => none
  /-- How many rounds of a repository are over. -/
  rounds : String → Nat := fun _ => 0

namespace Loading

inductive Moves (held : String → List FileHits) (s : Loading) : Loading → Prop where
  | opened {repo : String} {r : Request} (idle : s.pending repo = none)
      (asked : (s.dialogue.openLoad repo).answer = .ok r) :
      Moves held s { s with
        dialogue := (s.dialogue.openLoad repo).next
        pending := update s.pending repo (some r) }
  | closed {repo text : String} {r : Request} (out : s.pending repo = some r)
      (answered : r.Continued held text) :
      Moves held s {
        dialogue := (s.dialogue.closeLoad repo text).next
        pending := update s.pending repo none
        rounds := update s.rounds repo (s.rounds repo + 1) }

inductive Run (held : String → List FileHits) (searched : Dialogue) : Loading → Prop where
  | start : Run held searched { dialogue := searched }
  | move {s s' : Loading} (run : Run held searched s) (moves : Moves held s s') :
      Run held searched s'

/-- The files are those of the rounds that are over, and each request that is out is for the next
files as they stand. -/
structure Kept (held : String → List FileHits) (searched : Dialogue) (s : Loading) : Prop where
  dialogue : s.dialogue = searched.advanced held s.rounds
  pending : ∀ repo r, s.pending repo = some r → ∃ h, s.dialogue.result? repo = some h ∧
    r.repos = repo ∧ r.range = (Batch.next h).range

variable {d : Dialogue} {s s' : Loading}

theorem Kept.entry (begun : d.Begun held) (kept : Kept held d s) {h : RepoHits}
    (member : h ∈ s.dialogue.results) : h.total.val = (held h.repo).length ∧
      h = h.upTo held (20 + Batch.limit * s.rounds h.repo) :=
  begun.of_mem_advanced (kept.dialogue ▸ member)

theorem Kept.indexed (begun : d.Begun held) (kept : Kept held d s) : s.dialogue.Indexed :=
  kept.dialogue ▸ begun.advanced_indexed s.rounds

theorem Kept.closes (begun : d.Begun held) (kept : Kept held d s) {repo text : String}
    {r : Request} (out : s.pending repo = some r) (answered : r.Continued held text) :
    (s.dialogue.closeLoad repo text).answer = .ok () ∧
      (s.dialogue.closeLoad repo text).next = s.dialogue.continued held repo := by
  obtain ⟨h, found, named, range⟩ := kept.pending repo r out
  have indexed := kept.indexed begun
  obtain ⟨member, same⟩ := indexed.result?_eq_some_iff.1 found
  obtain ⟨total, loaded⟩ := kept.entry begun member
  have small : h.files.length < 18446744073709551616 := by
    have length := RepoHits.upTo_length held (20 + Batch.limit * s.rounds h.repo) h
    rw [← loaded] at length
    have high := h.total.le_high
    omega
  exact Dialogue.closeLoad_answered indexed found (same ▸ total) small named range answered

theorem Kept.opened (kept : Kept held d s) {repo : String} {r : Request}
    (asked : (s.dialogue.openLoad repo).answer = .ok r) :
    Kept held d { s with
      dialogue := (s.dialogue.openLoad repo).next
      pending := update s.pending repo (some r) } := by
  rw [Dialogue.openLoad_next]
  refine ⟨kept.dialogue, fun other narrow out => ?_⟩
  dsimp only at out ⊢
  rw [update_apply] at out
  split at out
  · rename_i here
    cases here
    cases out
    obtain ⟨_, h, _, found, rfl⟩ := Dialogue.openLoad_eq_ok.1 asked
    exact ⟨h, found, rfl, rfl⟩
  · exact kept.pending other narrow out

theorem Kept.closed (begun : d.Begun held) (kept : Kept held d s) {repo text : String}
    {r : Request} (out : s.pending repo = some r) (answered : r.Continued held text) :
    Kept held d {
      dialogue := (s.dialogue.closeLoad repo text).next
      pending := update s.pending repo none
      rounds := update s.rounds repo (s.rounds repo + 1) } := by
  have next := (kept.closes begun out answered).2
  have dialogue : (s.dialogue.closeLoad repo text).next =
      d.advanced held (update s.rounds repo (s.rounds repo + 1)) := by
    rw [next, kept.dialogue, Dialogue.advanced_continued]
  refine ⟨dialogue, fun other narrow outThere => ?_⟩
  dsimp only at outThere ⊢
  rw [update_apply] at outThere
  split at outThere
  · cases outThere
  · rename_i elsewhere
    obtain ⟨h, found, named, range⟩ := kept.pending other narrow outThere
    have after : (s.dialogue.closeLoad repo text).next.Indexed :=
      dialogue ▸ begun.advanced_indexed _
    obtain ⟨member, same⟩ := (kept.indexed begun).result?_eq_some_iff.1 found
    -- The entry of another repository is not touched, so its request still fits it.
    refine ⟨h, after.result?_eq_some_iff.2 ⟨?_, same⟩, named, range⟩
    rw [next]
    refine List.mem_map.2 ⟨h, member, ?_⟩
    rw [if_neg (same ▸ elsewhere)]

theorem Moves.kept (begun : d.Begun held) (kept : Kept held d s) (moves : Moves held s s') :
    Kept held d s' := by
  cases moves with
  | opened idle asked => exact kept.opened asked
  | closed out answered => exact kept.closed begun out answered

theorem Run.kept (begun : d.Begun held) (run : Run held d s) : Kept held d s := by
  -- Induction on the moves so far; before the first one no request is out.
  induction run with
  | start => exact ⟨begun.advanced_zero.symm, fun _ _ out => by cases out⟩
  | move _ moves ih => exact moves.kept begun ih

/-- What rounds come to: files are added as they stand on the server, none is lost or comes twice,
and nothing else is changed. -/
structure Exact (held : String → List FileHits) (searched : Dialogue) (s : Loading) : Prop where
  dialogue : s.dialogue = searched.advanced held s.rounds
  loaded : ∀ h ∈ s.dialogue.results, h.files <+: held h.repo
  more : ∀ h ∈ s.dialogue.results, h.hasMore = true ↔
    20 + Batch.limit * s.rounds h.repo < (held h.repo).length
  complete : ∀ h ∈ s.dialogue.results, (held h.repo).length ≤ 20 + Batch.limit * s.rounds h.repo →
    h.files = held h.repo ∧ h.hasMore = false
  opens : ∀ h ∈ s.dialogue.results, ∃ r, s.dialogue.request = some r ∧
    (s.dialogue.openLoad h.repo).answer = .ok (r.forRepo h.repo (Batch.next h).range) ∧
    (s.dialogue.openLoad h.repo).next = s.dialogue
  asked : ∀ repo r, s.pending repo = some r → ∃ h ∈ s.dialogue.results, h.repo = repo ∧
    r.repos = repo ∧ r.range = (Batch.next h).range
  closes : ∀ repo r text, s.pending repo = some r → r.Continued held text →
    (s.dialogue.closeLoad repo text).answer = .ok () ∧
      (s.dialogue.closeLoad repo text).next = s.dialogue.continued held repo
  adds : ∀ h ∈ s.dialogue.results, (h.following held).length = min Batch.limit h.remaining

/-- After any rounds, in any order, the results are exactly what these rounds have to bring. -/
theorem run_exact {wording : Pattern.Wording} (searched : d.Searched wording held)
    (run : Run held d s) : Exact held d s := by
  have begun := searched.begun
  have kept := run.kept begun
  have indexed := kept.indexed begun
  have files : ∀ h ∈ s.dialogue.results,
      h.files = (held h.repo).take (20 + Batch.limit * s.rounds h.repo) :=
    fun h member => congrArg RepoHits.files (kept.entry begun member).2
  have more : ∀ h ∈ s.dialogue.results, h.hasMore = true ↔
      20 + Batch.limit * s.rounds h.repo < (held h.repo).length := by
    intro h member
    obtain ⟨total, loaded⟩ := kept.entry begun member
    have left := RepoHits.upTo_hasMore total (20 + Batch.limit * s.rounds h.repo)
    rw [← loaded] at left
    exact left
  constructor
  case dialogue => exact kept.dialogue
  case loaded => exact fun h member => files h member ▸ List.take_prefix _ _
  case more => exact more
  case complete =>
    intro h member enough
    refine ⟨(files h member).trans (List.take_of_length_le enough), Bool.eq_false_iff.2 ?_⟩
    intro left
    exact Nat.not_lt_of_le enough ((more h member).1 left)
  case opens =>
    intro h member
    obtain ⟨r, active⟩ := begun.active
    have stays : s.dialogue.request = some r := kept.dialogue ▸ active
    have found := indexed.result?_eq_some_iff.2 ⟨member, rfl⟩
    have answer := Dialogue.openLoad_eq_ok.2 ⟨r, h, stays, found, rfl⟩
    exact ⟨r, stays, answer, Dialogue.openLoad_next _ _⟩
  case asked =>
    intro repo r out
    obtain ⟨h, found, named, range⟩ := kept.pending repo r out
    obtain ⟨member, same⟩ := indexed.result?_eq_some_iff.1 found
    exact ⟨h, member, same, named, range⟩
  case closes => exact fun repo r text out answered => kept.closes begun out answered
  case adds => exact fun h member => RepoHits.following_length (kept.entry begun member).1

def sample : List FileHits := (List.range 21).map fun n => ⟨toString n, []⟩

theorem sample_read (asked : List String × String)
    (one : asked ∈ [(["a", "b"], ":20"), (["a"], "20:"), (["b"], "20:")]) :
    ∃ text reply, Reply.parse text = .ok reply ∧
      reply.results.entries = asked.1.map fun repo => (repo, some (.sent sample asked.2)) := by
  let reply : Reply := { results := .ofList (asked.1.map fun repo =>
    (repo, some (.sent sample asked.2))) }
  refine ⟨reply.toJson.print, Reply.parse_of_entries ?_⟩
  rw [Reply.parse, Json.parse?_print]
  revert asked
  decide +kernel

theorem sample_continued {r : Request} {repo : String} (named : repo ∈ ["a", "b"])
    (repos : r.repos = repo) (range : r.range = "20:") :
    ∃ text, r.Continued (fun _ => sample) text := by
  have one : ∀ repo ∈ ["a", "b"],
      ([repo], "20:") ∈ [(["a", "b"], ":20"), (["a"], "20:"), (["b"], "20:")] := by decide
  obtain ⟨text, reply, parsed, entries⟩ := sample_read ([repo], "20:") (one repo named)
  refine ⟨text, reply, .sent sample "20:", parsed, ?_, ?_⟩
  · rw [repos, NameMap.get?_eq_some_iff, entries]
    exact List.mem_singleton_self _
  · rw [range]
    exact RepoReply.sent_sends (by decide) "20:"

theorem sample_searched (wording : Pattern.Wording) :
    ∃ d : Dialogue, d.Searched wording (fun _ => sample) ∧
    ∀ repo ∈ ["a", "b"], .ofReply repo (.sent sample ":20") ∈ d.results := by
  obtain ⟨p, compiled⟩ : ∃ p, Pattern.compile? "x" {} = some p :=
    Option.isSome_iff_exists.1 (by decide +kernel)
  have asked : (({} : Dialogue).openSearch wording ⟨"x", no, "", ""⟩).answer = .ok (some _) :=
    Dialogue.openSearch_eq_ok.2 ⟨p, by decide, Pattern.compile_eq_ok.2 compiled, rfl⟩
  obtain ⟨text, reply, parsed, entries⟩ := sample_read (["a", "b"], ":20") (by decide)
  have found : (⟨"x", no, "", ""⟩ : Query).trimmed.request.Found (fun _ => sample) text := by
    refine ⟨reply, parsed, fun repo e said => ?_⟩
    rw [NameMap.get?_eq_some_iff, entries] at said
    obtain ⟨_, _, same⟩ := List.mem_map.1 said
    cases same
    exact RepoReply.sent_sends (by decide) ":20"
  refine ⟨_, @Dialogue.Searched.closed _ _ _ _ _ _ default asked found, fun repo named => ?_⟩
  obtain ⟨stats, next⟩ := Dialogue.closeSearch_next parsed
    (({} : Dialogue).openSearch wording ⟨"x", no, "", ""⟩).next default
  rw [next]
  refine RepoHits.mem_ranked.2 ⟨_, ?_, rfl⟩
  rw [entries]
  exact List.mem_map.2 ⟨repo, named, rfl⟩

/-- A round of each of two repositories, one within the other. -/
theorem run_exact_overlapping :
    ∃ (d : Dialogue) (s : Loading), d.Searched (fun source _ => source) (fun _ => sample) ∧
      (∃ h ∈ d.results, h.repo = "a" ∧ h.hasMore = true) ∧ Run (fun _ => sample) d s ∧
      s.rounds "a" = 1 ∧ s.rounds "b" = 1 ∧ Exact (fun _ => sample) d s := by
  obtain ⟨d, searched, members⟩ := sample_searched fun source _ => source
  have range : ∀ repo ∈ ["a", "b"],
      (Batch.next (.ofReply repo (.sent sample ":20"))).range = "20:" := by decide +kernel
  have asks : ∀ repo ∈ ["a", "b"], ∃ r, (d.openLoad repo).answer = .ok r ∧
      r.repos = repo ∧ r.range = "20:" := by
    intro repo named
    obtain ⟨r, _, answer, _⟩ := (run_exact searched .start).opens _ (members repo named)
    exact ⟨_, answer, rfl, range repo named⟩
  obtain ⟨rA, askA, reposA, rangeA⟩ := asks "a" (by decide)
  obtain ⟨rB, askB, reposB, rangeB⟩ := asks "b" (by decide)
  obtain ⟨textA, answersA⟩ := sample_continued (by decide) reposA rangeA
  obtain ⟨textB, answersB⟩ := sample_continued (by decide) reposB rangeB
  have again : ((d.openLoad "a").next.openLoad "b").answer = .ok rB := by
    rw [Dialogue.openLoad_next]
    exact askB
  have first : Run (fun _ => sample) d _ := .move .start (.opened rfl askA)
  have second := first.move (.opened rfl again)
  have third := second.move (@Moves.closed _ _ "b" _ _ rfl answersB)
  have fourth := third.move (@Moves.closed _ _ "a" _ _ rfl answersA)
  exact ⟨d, _, searched, ⟨_, members "a" (by decide), rfl, by decide +kernel⟩, fourth, rfl, rfl,
    run_exact searched fourth⟩

end Loading

end CodeSearch
