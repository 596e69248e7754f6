import CodeSearch.Proofs.NameMap
import CodeSearch.Proofs.Query.Fields
import CodeSearch.Proofs.Text.Splitting
import CodeSearch.Proofs.Text.Trimming
import CodeSearch.Query.Normal
import Mathlib.Data.List.Perm.Subperm

/-!
The form in which queries are submitted. A query in this form stays as it is when it is submitted
again. Its repositories are those of the catalog that were chosen, each once and in the order of the
choice, and none if that is all of them or none of them.
-/
namespace CodeSearch

open Text

structure Firsts (names : List String) (wanted : String → Prop) (found : List String) : Prop where
  mem_iff : ∀ name, name ∈ found ↔ wanted name ∧ name ∈ names
  ordered : found.Pairwise fun a b => names.idxOf a < names.idxOf b

namespace Firsts

variable {names found : List String} {wanted : String → Prop}

theorem nodup (firsts : Firsts names wanted found) : found.Nodup := by
  apply firsts.ordered.imp
  rintro a _ less rfl
  exact Nat.lt_irrefl _ less

theorem idxOf_lt_of_filter {p : String → Bool} {a b : String} (ha : p a = true) (hb : p b = true)
    {names : List String} (less : (names.filter p).idxOf a < (names.filter p).idxOf b) :
    names.idxOf a < names.idxOf b := by
  induction names with
  | nil => simp at less
  | cons name names ih =>
    by_cases kept : p name = true
    · rw [List.filter_cons_of_pos kept] at less
      by_cases isB : name = b
      · simp [isB] at less
      · by_cases isA : name = a
        · simp [isA, List.idxOf_cons_ne, isA ▸ isB]
        · simp only [List.idxOf_cons_ne _ isA, List.idxOf_cons_ne _ isB] at less ⊢
          have := ih (by omega)
          omega
    · rw [List.filter_cons_of_neg kept] at less
      have notA : name ≠ a := fun same => kept (same ▸ ha)
      have notB : name ≠ b := fun same => kept (same ▸ hb)
      rw [List.idxOf_cons_ne _ notA, List.idxOf_cons_ne _ notB]
      exact Nat.succ_lt_succ (ih less)

theorem eraseDups_ordered (names : List String) :
    names.eraseDups.Pairwise fun a b => names.idxOf a < names.idxOf b := by
  cases names with
  | nil => simp
  | cons first rest =>
    have other : ∀ name ∈ (rest.filter fun name => !name == first).eraseDups, first ≠ name := by
      rintro name member rfl
      simp at member
    rw [List.eraseDups_cons, List.pairwise_cons]
    constructor
    · intro name member
      simp [List.idxOf_cons_ne _ (other name member)]
    · have later := eraseDups_ordered (rest.filter fun name => !name == first)
      apply later.imp_of_mem
      intro a b ha hb less
      rw [List.idxOf_cons_ne _ (other a ha), List.idxOf_cons_ne _ (other b hb)]
      apply Nat.succ_lt_succ
      apply idxOf_lt_of_filter _ _ less
      · simpa using (other a ha).symm
      · simpa using (other b hb).symm
termination_by names.length
decreasing_by
  have fewer := List.length_filter_le (fun name => !name == first) rest
  simp only [List.length_cons]
  omega

theorem eraseDups (names : List String) : Firsts names (fun _ => True) names.eraseDups where
  mem_iff name := by simp
  ordered := eraseDups_ordered names

theorem eraseDups_of_nodup (distinct : names.Nodup) : names.eraseDups = names := by
  induction names with
  | nil => rfl
  | cons first rest ih =>
    rw [List.nodup_cons] at distinct
    have all : rest.filter (fun name => !name == first) = rest := by
      apply List.filter_eq_self.2
      intro name member
      have different : name ≠ first := fun same => distinct.1 (same ▸ member)
      simpa using different
    rw [List.eraseDups_cons, all, ih distinct.2]

end Firsts

namespace Catalog

theorem known_firsts (c : Catalog) (names : List String) :
    Firsts names (· ∈ c.names) (c.known names) where
  mem_iff name := by simp [known, NameMap.contains_iff, and_comm]
  ordered := by
    have kept := Firsts.eraseDups (names.filter c.contains)
    apply kept.ordered.imp_of_mem
    intro a b ha hb less
    have here := List.mem_filter.1 ((kept.mem_iff a).1 ha).2
    have there := List.mem_filter.1 ((kept.mem_iff b).1 hb).2
    exact Firsts.idxOf_lt_of_filter here.2 there.2 less

theorem known_subset (c : Catalog) (names : List String) : c.known names ⊆ c.names :=
  fun name member => (((c.known_firsts names).mem_iff name).1 member).1

/-- Of distinct names in the catalog, as many as it has are all of them. -/
theorem length_known_iff (c : Catalog) (names : List String) :
    (c.known names).length = c.size ↔ ∀ name ∈ c.names, name ∈ names := by
  have distinct := (c.known_firsts names).nodup
  have size : c.names.length = c.size := List.length_map _
  constructor
  · intro full name member
    have few := distinct.subperm (c.known_subset names)
    have all : (c.known names).Perm c.names := few.perm_of_length_le (by omega)
    exact (((c.known_firsts names).mem_iff name).1 (all.mem_iff.2 member)).2
  · intro every
    have all : (c.known names).Perm c.names := by
      apply (List.perm_ext_iff_of_nodup distinct c.names_nodup).2
      intro name
      rw [(c.known_firsts names).mem_iff]
      exact ⟨And.left, fun member => ⟨member, every name member⟩⟩
    rw [all.length_eq, size]

theorem selectsAll_iff (c : Catalog) (names : List String) :
    c.selectsAll names = true ↔ ∀ name ∈ c.names, name ∈ names := by
  rw [selectsAll, beq_iff_eq, length_known_iff]

theorem known_eq_nil_iff (c : Catalog) (names : List String) :
    c.known names = [] ↔ ∀ name ∈ c.names, name ∉ names := by
  simp [List.eq_nil_iff_forall_not_mem, (c.known_firsts names).mem_iff]

theorem known_known (c : Catalog) (names : List String) :
    c.known (c.known names) = c.known names := by
  have all : (c.known names).filter c.contains = c.known names := by
    apply List.filter_eq_self.2
    intro name member
    exact NameMap.contains_iff.2 (c.known_subset names member)
  rw [known, all, Firsts.eraseDups_of_nodup (c.known_firsts names).nodup]

end Catalog

namespace Query

/-- What stays of the choice: nothing if it is the whole catalog. -/
def chosen (q : Query) (c : Catalog) : List String :=
  if c.selectsAll q.repoList then [] else c.known q.repoList

theorem comma_not_mem_repoList {q : Query} {name : String} (member : name ∈ q.repoList) :
    ',' ∉ name.toList := by
  unfold repoList at member
  split at member
  · cases member
  · obtain ⟨piece, cut, rfl⟩ := List.mem_map.1 member
    rw [String.toList_ofList]
    exact not_mem_of_mem_splitAt cut

theorem comma_not_mem_chosen {q : Query} {c : Catalog} {name : String}
    (member : name ∈ q.chosen c) : ',' ∉ name.toList := by
  unfold chosen at member
  split at member
  · cases member
  · exact comma_not_mem_repoList (((c.known_firsts q.repoList).mem_iff name).1 member).2

theorem splitAt_joined {names : List String} (nonempty : names ≠ [])
    (plain : ∀ name ∈ names, ',' ∉ name.toList) :
    (splitAt ',' (",".intercalate names).toList).map String.ofList = names := by
  have pieces : ∀ piece ∈ names.map String.toList, ',' ∉ piece := by
    simpa using plain
  have joined : (",".intercalate names).toList = [','].intercalate (names.map String.toList) :=
    String.toList_intercalate
  have some : names.map String.toList ≠ [] := by simpa using nonempty
  rw [joined, splitAt_intercalate some pieces]
  simp

theorem isYes_word (b : Bool) : isYes (if b then yes else no) = b := by
  cases b <;> decide

theorem normalized_caseFlag (q : Query) (c : Catalog) :
    (q.normalized c).caseFlag = if q.ignoresCase then yes else no := rfl

theorem normalized_repos (q : Query) (c : Catalog) :
    (q.normalized c).repos = ",".intercalate (q.chosen c) := by
  unfold chosen Catalog.selectsAll normalized
  by_cases full : (c.known q.repoList).length = c.size <;> simp [full]

theorem repoList_of_empty {q : Query} (empty : q.repos = "") : q.repoList = [] := by
  simp [repoList, empty]

/-- Joined names are told apart again, as none of them has a comma. -/
theorem repoList_normalized {q : Query} {c : Catalog} (nonempty : (q.normalized c).repos ≠ "") :
    (q.normalized c).repoList = q.chosen c := by
  have some : q.chosen c ≠ [] := by
    intro none
    rw [normalized_repos, none, String.intercalate_nil] at nonempty
    exact nonempty rfl
  rw [repoList, if_neg (by simpa using nonempty), normalized_repos,
    splitAt_joined some fun name => comma_not_mem_chosen]

theorem chosen_of_repoList {q other : Query} {c : Catalog} (same : other.repoList = q.chosen c) :
    other.chosen c = q.chosen c := by
  have empty : c.known [] = [] := rfl
  by_cases full : c.selectsAll q.repoList = true
  · have none : q.chosen c = [] := if_pos full
    rw [none] at same ⊢
    simp [chosen, same, empty]
  · have rest : q.chosen c = c.known q.repoList := if_neg full
    have still : c.selectsAll (c.known q.repoList) = false := by
      rw [Catalog.selectsAll, c.known_known]
      simpa [Catalog.selectsAll] using full
    rw [rest] at same ⊢
    rw [chosen, same, still, c.known_known]
    rfl

theorem normalized_normalized (q : Query) (c : Catalog) :
    (q.normalized c).normalized c = q.normalized c := by
  have repos : ((q.normalized c).normalized c).repos = (q.normalized c).repos := by
    rw [normalized_repos (q.normalized c), normalized_repos q]
    by_cases empty : (q.normalized c).repos = ""
    · have none : (q.normalized c).chosen c = [] := by
        rw [chosen, repoList_of_empty empty]
        cases c.selectsAll [] <;> rfl
      rw [none, ← normalized_repos, empty, String.intercalate_nil]
    · rw [chosen_of_repoList (repoList_normalized empty)]
  have flag : ((q.normalized c).normalized c).caseFlag = (q.normalized c).caseFlag := by
    have read : (q.normalized c).ignoresCase = q.ignoresCase := isYes_word q.ignoresCase
    rw [normalized_caseFlag, read, normalized_caseFlag]
  have text : ((q.normalized c).normalized c).text = (q.normalized c).text := trim_trim q.text
  have files : ((q.normalized c).normalized c).files = (q.normalized c).files := trim_trim q.files
  apply Field.ext
  intro f
  cases f with
  | text => exact text
  | caseFlag => exact flag
  | files => exact files
  | repos => exact repos

theorem repoList_normalized_eq {c : Catalog} (named : "" ∉ c.names) (q : Query) :
    (q.normalized c).repoList = q.chosen c := by
  by_cases empty : (q.normalized c).repos = ""
  · rw [repoList_of_empty empty]
    apply Eq.symm
    apply Decidable.byContradiction
    intro some
    have joined := splitAt_joined some fun name => comma_not_mem_chosen
    rw [← normalized_repos, empty] at joined
    have only : "" ∈ q.chosen c := by simp [← joined, splitAt]
    unfold chosen at only
    split at only
    · cases only
    · exact named (c.known_subset _ only)
  · exact repoList_normalized empty

/-- Submitting a query twice is submitting it once. What is submitted names the chosen repositories
of the catalog in the order of the choice, and none where all or none of them are chosen; whether all
are chosen is told rightly for any list of names. -/
theorem normalized_canonical (c : Catalog) :
    (∀ q : Query, (q.normalized c).normalized c = q.normalized c) ∧
    ("" ∉ c.names → ∀ q : Query,
      ((∀ name ∈ c.names, name ∉ q.repoList) ∨ (∀ name ∈ c.names, name ∈ q.repoList) →
        (q.normalized c).repoList = []) ∧
      (¬ ((∀ name ∈ c.names, name ∉ q.repoList) ∨ ∀ name ∈ c.names, name ∈ q.repoList) →
        Firsts q.repoList (· ∈ c.names) (q.normalized c).repoList ∧
          (q.normalized c).repoList.Nodup)) ∧
    ∀ names : List String, c.selectsAll names = true ↔ ∀ name ∈ c.names, name ∈ names := by
  refine ⟨fun q => q.normalized_normalized c, ?_, c.selectsAll_iff⟩
  intro named q
  rw [repoList_normalized_eq named]
  constructor
  · intro extreme
    cases extreme with
    | inl none =>
      rw [chosen, (c.known_eq_nil_iff q.repoList).2 none]
      cases c.selectsAll q.repoList <;> rfl
    | inr all => exact if_pos ((c.selectsAll_iff q.repoList).2 all)
  · intro between
    have part : ¬ c.selectsAll q.repoList = true := fun full =>
      between (.inr ((c.selectsAll_iff q.repoList).1 full))
    have firsts := c.known_firsts q.repoList
    rw [chosen, if_neg part]
    exact ⟨firsts, firsts.nodup⟩

/-- Two of three repositories, one of them twice, with a name that the catalog does not have. -/
theorem normalized_canonical_repeated :
    let c : Catalog := ⟨[("a", ⟨"https://h/o/a", {}⟩), ("b", ⟨"https://h/o/b", {}⟩),
      ("c", ⟨"https://h/o/c", {}⟩)], by decide⟩
    let q : Query := { repos := "c,z,,a,c" }
    "" ∉ c.names ∧
      ¬ ((∀ name ∈ c.names, name ∉ q.repoList) ∨ ∀ name ∈ c.names, name ∈ q.repoList) ∧
      Firsts q.repoList (· ∈ c.names) (q.normalized c).repoList ∧
      (q.normalized c).repoList = ["c", "a"] := by
  intro c q
  have named : "" ∉ c.names := by decide
  have between : ¬ ((∀ name ∈ c.names, name ∉ q.repoList) ∨
      ∀ name ∈ c.names, name ∈ q.repoList) := by decide
  have canonical := (normalized_canonical c).2.1 named q
  exact ⟨named, between, (canonical.2 between).1, by decide +kernel⟩

end Query

end CodeSearch
