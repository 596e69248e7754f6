import CodeSearch.Proofs.Dialogue.Calls
import CodeSearch.Proofs.Results.Ranking

/-!
Where the repositories stand among the results. Each stands there once, and the index says where,
whatever was called before; so what is changed under a name is changed for this repository alone.
-/
namespace CodeSearch

namespace Dialogue

structure Indexed (d : Dialogue) : Prop where
  distinct : (d.results.map (·.repo)).Nodup
  index : d.index = (d.results.map (·.repo)).zipIdx

theorem Indexed.lookup_eq_some_iff {d : Dialogue} (indexed : d.Indexed) {repo : String} {k : Nat} :
    d.index.lookup repo = some k ↔ (d.results[k]?).map (·.repo) = some repo := by
  have distinct : ((d.results.map (·.repo)).zipIdx.map (·.1)).Nodup := by
    rw [List.zipIdx_map_fst]
    exact indexed.distinct
  rw [indexed.index, NameMap.lookup_eq_some_iff distinct, List.mk_mem_zipIdx_iff_getElem?,
    List.getElem?_map]

theorem Indexed.result?_eq_some_iff {d : Dialogue} (indexed : d.Indexed) {repo : String}
    {h : RepoHits} : d.result? repo = some h ↔ h ∈ d.results ∧ h.repo = repo := by
  simp only [result?, Option.bind_eq_some_iff, indexed.lookup_eq_some_iff]
  constructor
  · rintro ⟨k, named, found⟩
    rw [found] at named
    exact ⟨List.mem_of_getElem? found, Option.some.inj named⟩
  · rintro ⟨member, rfl⟩
    obtain ⟨k, found⟩ := List.getElem?_of_mem member
    exact ⟨k, by rw [found]; rfl, found⟩

theorem Indexed.modify {d : Dialogue} (indexed : d.Indexed) {repo : String} {k : Nat}
    (stands : d.index.lookup repo = some k) (f : RepoHits → RepoHits) :
    d.results.modify k f = d.results.map fun h => if h.repo = repo then f h else h := by
  have named := indexed.lookup_eq_some_iff.1 stands
  apply List.ext_getElem?
  intro i
  rw [List.getElem?_modify, List.getElem?_map]
  cases found : d.results[i]? with
  | none => rfl
  | some h =>
    have here : k = i ↔ h.repo = repo := by
      constructor
      · rintro rfl
        rw [found] at named
        exact Option.some.inj named
      · intro same
        have other : d.index.lookup repo = some i := by
          rw [indexed.lookup_eq_some_iff, found, ← same]
          rfl
        exact Option.some.inj (stands.symm.trans other)
    simp [here]

theorem install_indexed {d : Dialogue} {results : List RepoHits} (stats : Option SearchStats)
    (distinct : (results.map (·.repo)).Nodup) : (d.install results stats).Indexed where
  distinct := distinct
  index := List.zipIdx_map.symm

theorem Indexed.renewed {d : Dialogue} (indexed : d.Indexed) {f : RepoHits → RepoHits}
    (named : ∀ h, (f h).repo = h.repo) : { d with results := d.results.map f }.Indexed := by
  have names : (d.results.map f).map (·.repo) = d.results.map (·.repo) := by
    rw [List.map_map]
    exact List.map_congr_left fun h _ => named h
  exact ⟨names ▸ indexed.distinct, names ▸ indexed.index⟩

theorem Change.indexed {d d' : Dialogue} (indexed : d.Indexed) (change : Change d d') :
    d'.Indexed := by
  cases change with
  | none => exact indexed
  | catalog c => exact ⟨indexed.distinct, indexed.index⟩
  | cleared => exact install_indexed .none List.nodup_nil
  | opened q p asked compiled => exact ⟨indexed.distinct, indexed.index⟩
  | closed reply stats =>
    exact install_indexed stats (RepoHits.ranked_distinct reply.results.names_nodup)
  | grown repo k files stands =>
    rw [indexed.modify stands]
    refine indexed.renewed fun h => ?_
    split <;> rfl

theorem Reachable.indexed {wording : Pattern.Wording} {d : Dialogue}
    (reached : Reachable wording d) : d.Indexed :=
  reached.invariant ⟨List.nodup_nil, rfl⟩ fun _ _ => Change.indexed

theorem Indexed.lookup_inside {d : Dialogue} (indexed : d.Indexed) {repo : String} {k : Nat}
    (stands : d.index.lookup repo = some k) :
    ∃ inside : k < d.results.length, (d.results[k]).repo = repo := by
  obtain ⟨h, found, named⟩ := Option.map_eq_some_iff.1 (indexed.lookup_eq_some_iff.1 stands)
  obtain ⟨inside, same⟩ := List.getElem?_eq_some_iff.1 found
  exact ⟨inside, same ▸ named⟩

theorem Indexed.result?_eq_none_iff {d : Dialogue} (indexed : d.Indexed) {repo : String} :
    d.result? repo = none ↔ ∀ h ∈ d.results, h.repo ≠ repo := by
  rw [Option.eq_none_iff_forall_ne_some]
  constructor
  · intro missing h member named
    exact missing h (indexed.result?_eq_some_iff.2 ⟨member, named⟩)
  · intro others h found
    obtain ⟨member, named⟩ := indexed.result?_eq_some_iff.1 found
    exact others h member named

theorem closeLoad_grows {d : Dialogue} {repo text : String}
    (answer : (d.closeLoad repo text).answer = .ok ()) :
    ∃ reply more k, Reply.parse text = .ok reply ∧
      reply.results.get? repo = some (some more) ∧ d.index.lookup repo = some k ∧
      (d.closeLoad repo text).next =
        { d with results := d.results.modify k (addFiles more.files) } := by
  unfold closeLoad at answer ⊢
  cases parsed : Reply.parse text with
  | error f =>
    rw [parsed] at answer
    cases answer
  | ok reply =>
    cases found : d.moreFiles? repo reply with
    | none =>
      rw [parsed] at answer
      simp only [found] at answer
      cases answer
    | some place =>
      obtain ⟨files, k⟩ := place
      obtain ⟨⟨more, sent, rfl⟩, stands⟩ := moreFiles?_eq_some.1 found
      refine ⟨reply, more, k, rfl, sent, stands, ?_⟩
      simp only [found]

/-- Each repository is found at the one place where it stands, no other is found, and the files of
a reply that is for it are added at this place. -/
structure IndexExact (d : Dialogue) : Prop where
  distinct : (d.results.map (·.repo)).Nodup
  names : d.index.map (·.1) = d.results.map (·.repo)
  places : ∀ repo k, d.index.lookup repo = some k ↔ ∃ h, d.results[k]? = some h ∧ h.repo = repo
  found : ∀ repo h, d.result? repo = some h ↔ h ∈ d.results ∧ h.repo = repo
  missing : ∀ repo, d.result? repo = none ↔ ∀ h ∈ d.results, h.repo ≠ repo
  grows : ∀ repo text, (d.closeLoad repo text).answer = .ok () →
    ∃ reply more k, ∃ inside : k < d.results.length, Reply.parse text = .ok reply ∧
      reply.results.get? repo = some (some more) ∧ (d.results[k]).repo = repo ∧
      (d.closeLoad repo text).next =
        { d with results := d.results.modify k (addFiles more.files) }

/-- In every dialogue that calls can lead to, the index says of each repository where it stands. -/
theorem reachable_index_exact {wording : Pattern.Wording} {d : Dialogue}
    (reached : Reachable wording d) : d.IndexExact := by
  have indexed := reached.indexed
  constructor
  case distinct => exact indexed.distinct
  case names => rw [indexed.index, List.zipIdx_map_fst]
  case places =>
    intro repo k
    rw [indexed.lookup_eq_some_iff, Option.map_eq_some_iff]
  case found => exact fun repo h => indexed.result?_eq_some_iff
  case missing => exact fun repo => indexed.result?_eq_none_iff
  case grows =>
    intro repo text answer
    obtain ⟨reply, more, k, parsed, sent, stands, next⟩ := closeLoad_grows answer
    obtain ⟨inside, named⟩ := indexed.lookup_inside stands
    exact ⟨reply, more, k, inside, parsed, sent, named, next⟩

/-- A reply with a name that stands twice and one of which nothing is said, then more files. -/
theorem reachable_index_exact_repeated :
    ∃ d : Dialogue, Reachable (fun source _ => source) d ∧
      (d.results.map fun h => (h.repo, h.revision, h.files.length)) = [("b", "x", 1)] ∧
      d.IndexExact := by
  have first := (@Reachable.start fun source _ => source).call (.exchange (.closeSearch
    "\x7b\"Results\":\x7b\"b\":\x7b\x7d,\"a\":null,\"b\":\x7b\"Revision\":\"x\"\x7d\x7d\x7d" default))
  have second := first.call (.exchange (.closeLoad "b"
    "\x7b\"Results\":\x7b\"b\":\x7b\"Matches\":[\x7b\"Filename\":\"f\"\x7d]\x7d\x7d\x7d"))
  refine ⟨_, second, ?_, reachable_index_exact second⟩
  decide +kernel

end Dialogue

end CodeSearch
