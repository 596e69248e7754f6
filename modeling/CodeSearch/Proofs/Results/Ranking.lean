import CodeSearch.Proofs.NameMap
import CodeSearch.Proofs.Text.ByteOrder
import CodeSearch.Results.Reply

/-!
The order of repositories on a page. It is a strict order on those that a reply speaks of, as no two
have one name; so the list is the same in whatever order the reply is gone through.
-/
namespace CodeSearch

open Text

namespace RepoHits

theorem mem_ranked {entries : List (String × Option RepoReply)} {h : RepoHits} :
    h ∈ ranked entries ↔ ∃ r, (h.repo, some r) ∈ entries ∧ h = ofReply h.repo r := by
  simp only [ranked, List.mem_mergeSort, List.mem_filterMap, Option.map_eq_some_iff]
  constructor
  · rintro ⟨⟨name, said⟩, member, r, rfl, rfl⟩
    exact ⟨r, member, rfl⟩
  · rintro ⟨r, member, same⟩
    exact ⟨_, member, r, rfl, same.symm⟩

theorem ranked_distinct {entries : List (String × Option RepoReply)}
    (distinct : (entries.map (·.1)).Nodup) : ((ranked entries).map (·.repo)).Nodup := by
  refine (((List.mergeSort_perm _ ranksBefore).map _).nodup_iff).2 ?_
  refine List.pairwise_map.2 (List.pairwise_filterMap.2 ?_)
  refine (List.pairwise_map.1 distinct).imp ?_
  rintro ⟨a, saidA⟩ ⟨b, saidB⟩ different _ ofA _ ofB same
  obtain ⟨_, rfl, rfl⟩ := Option.map_eq_some_iff.1 ofA
  obtain ⟨_, rfl, rfl⟩ := Option.map_eq_some_iff.1 ofB
  exact different same

theorem ranked_perm {first second : List (String × Option RepoReply)}
    (same : first.Perm second) : (ranked first).Perm (ranked second) := by
  have said := same.filterMap fun e => e.2.map (ofReply e.1)
  exact (List.mergeSort_perm _ _).trans (said.trans (List.mergeSort_perm _ _).symm)

theorem ranksBefore_iff {a b : RepoHits} : a.ranksBefore b = true ↔
    b.files.length < a.files.length ∨ a.files.length = b.files.length ∧ a.repo ≤ b.repo := by
  simp [ranksBefore]

theorem ranksBefore_trans (a b c : RepoHits) (ab : a.ranksBefore b = true)
    (bc : b.ranksBefore c = true) : a.ranksBefore c = true := by
  rw [ranksBefore_iff] at *
  rcases ab with more | ⟨even, names⟩
  · omega
  · rcases bc with more | ⟨even', names'⟩
    · omega
    · exact .inr ⟨even.trans even', String.le_trans names names'⟩

theorem ranksBefore_total (a b : RepoHits) :
    (a.ranksBefore b || b.ranksBefore a) = true := by
  rw [Bool.or_eq_true, ranksBefore_iff, ranksBefore_iff]
  rcases Nat.lt_trichotomy a.files.length b.files.length with less | even | more
  · exact .inr (.inl less)
  · exact (String.le_total a.repo b.repo).imp (.inr ⟨even, ·⟩) (.inr ⟨even.symm, ·⟩)
  · exact .inl (.inl more)

/-- More files come first, and of as many the name with the smaller bytes. -/
def Precedes (a b : RepoHits) : Prop :=
  b.files.length < a.files.length ∨
    a.files.length = b.files.length ∧ encode a.repo.toList < encode b.repo.toList

theorem Precedes.asymm {a b : RepoHits} (ab : a.Precedes b) : ¬ b.Precedes a := by
  intro ba
  rcases ab with more | ⟨even, names⟩
  · rcases ba with less | ⟨even, -⟩ <;> omega
  · rcases ba with less | ⟨-, names'⟩
    · omega
    · exact List.lt_asymm names names'

theorem precedes_of_ranksBefore {a b : RepoHits} (ranks : a.ranksBefore b = true)
    (different : a.repo ≠ b.repo) : a.Precedes b := by
  refine (ranksBefore_iff.1 ranks).imp_right ?_
  rintro ⟨even, names⟩
  refine ⟨even, encode_lt_encode_iff.2 (String.lt_iff.1 ?_)⟩
  exact Decidable.byContradiction fun notLess =>
    different (String.le_antisymm names (String.not_lt.1 notLess))

theorem ranked_ordered {entries : List (String × Option RepoReply)}
    (distinct : (entries.map (·.1)).Nodup) : (ranked entries).Pairwise Precedes := by
  have ranks := List.pairwise_mergeSort ranksBefore_trans ranksBefore_total
    (entries.filterMap fun e => e.2.map (ofReply e.1))
  exact ranks.imp₂ (fun _ _ => precedes_of_ranksBefore)
    (List.pairwise_map.1 (ranked_distinct distinct))

end RepoHits

namespace Reply

/-- Each repository of which the reply says something stands once, with what is said of it, in the
order of ranks; of no other is there anything. -/
structure RanksAs (r : Reply) (hits : List RepoHits) : Prop where
  members : ∀ h, h ∈ hits ↔ ∃ said, r.results.get? h.repo = some (some said) ∧
    h.revision = said.revision ∧ h.files = said.files ∧ h.total = said.total
  once : (hits.map (·.repo)).Nodup
  ordered : hits.Pairwise RepoHits.Precedes

/-- The list is the same in whatever orders the reply is gone through. -/
theorem ranked_any_order (r : Reply) {first second : List (String × Option RepoReply)}
    (one : first.Perm r.results.entries) (other : second.Perm r.results.entries) :
    RepoHits.ranked first = RepoHits.ranked second ∧ r.RanksAs (RepoHits.ranked first) := by
  have distinct : ∀ {entries : List (String × Option RepoReply)},
      entries.Perm r.results.entries → (entries.map (·.1)).Nodup :=
    fun same => (same.map _).nodup_iff.2 r.results.names_nodup
  constructor
  · refine List.Perm.eq_of_pairwise ?_ (RepoHits.ranked_ordered (distinct one))
      (RepoHits.ranked_ordered (distinct other)) (RepoHits.ranked_perm (one.trans other.symm))
    intro a b _ _ ab ba
    exact absurd ba ab.asymm
  · constructor
    case once => exact RepoHits.ranked_distinct (distinct one)
    case ordered => exact RepoHits.ranked_ordered (distinct one)
    case members =>
      intro h
      simp only [RepoHits.mem_ranked, NameMap.get?_eq_some_iff, one.mem_iff]
      constructor
      · rintro ⟨said, member, same⟩
        exact ⟨said, member, congrArg RepoHits.revision same, congrArg RepoHits.files same,
          congrArg RepoHits.total same⟩
      · rintro ⟨said, member, revision, files, total⟩
        refine ⟨said, member, ?_⟩
        cases h
        simp only at revision files total
        rw [revision, files, total]
        rfl

/-- Names with as many files, one of them not in ASCII, and one of which nothing is said. -/
theorem ranked_any_order_ties :
    let files (n : Nat) : List FileHits := List.replicate n ⟨"f", []⟩
    let entries : List (String × Option RepoReply) :=
      [("é", some ⟨"1", files 1, default⟩), ("z", some ⟨"2", files 1, default⟩), ("a", none),
        ("k", some ⟨"3", files 2, default⟩)]
    let r : Reply := { results := .ofList entries }
    entries.Perm r.results.entries ∧ entries ≠ r.results.entries ∧
      (RepoHits.ranked entries).map (·.repo) = ["k", "z", "é"] ∧
      RepoHits.ranked entries = r.ranked ∧ r.RanksAs (RepoHits.ranked entries) := by
  intro files entries r
  have same : entries.Perm r.results.entries := by decide +kernel
  have places : (RepoHits.ranked entries).map (·.repo) = ["k", "z", "é"] := by
    simp [RepoHits.ranked, entries, files, RepoHits.ofReply, List.mergeSort,
      List.MergeSort.Internal.splitInTwo, RepoHits.ranksBefore]
  exact ⟨same, by decide +kernel, places, ranked_any_order r same (List.Perm.refl _)⟩

end Reply

end CodeSearch
