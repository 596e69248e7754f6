import CodeSearch.Text.Cut

/-!
Texts cut at a mark, at a separator or at an ending. A run without the separator stays whole, so
cutting undoes joining.
-/
namespace CodeSearch.Text

theorem cut?_eq_none {mark cs : List Char} (absent : ¬ mark <:+: cs) : cut? mark cs = none := by
  induction cs with
  | nil =>
    refine if_neg ?_
    intro empty
    rw [List.isEmpty_iff.1 empty] at absent
    exact absent List.nil_infix
  | cons c cs ih =>
    rw [List.infix_cons_iff, not_or] at absent
    have other : ¬ mark.isPrefixOf (c :: cs) = true := mt List.isPrefixOf_iff_prefix.1 absent.1
    rw [cut?, if_neg other, ih absent.2]
    rfl

theorem cut?_at {c : Char} {xs : List Char} (absent : c ∉ xs) (ys : List Char) :
    cut? [c] (xs ++ c :: ys) = some (xs, ys) := by
  induction xs with
  | nil => simp [cut?]
  | cons x xs ih =>
    have other : c ≠ x := List.ne_of_not_mem_cons absent
    have later := ih (List.not_mem_of_not_mem_cons absent)
    simp [cut?, other, later]

theorem dropEnding_of_not_suffix {ending cs : List Char} (other : ¬ ending <:+ cs) :
    dropEnding ending cs = cs := by
  simp [dropEnding, dropEnding?, List.isSuffixOf_iff_suffix, other]

theorem dropEnding_append (ending cs : List Char) : dropEnding ending (cs ++ ending) = cs := by
  simp [dropEnding, dropEnding?, List.isSuffixOf_iff_suffix]

/-- What stands before a separator begins with a run that has none. -/
theorem append_separator_inj {α : Type} {separator : α} {run rest before after : List α}
    (absent : separator ∉ run) (same : run ++ rest = before ++ separator :: after) :
    ∃ more, before = run ++ more ∧ rest = more ++ separator :: after := by
  obtain ⟨more, left, right⟩ | ⟨more, left, right⟩ := List.append_eq_append_iff.1 same
  · exact ⟨more, left, right⟩
  · cases more with
    | nil => exact ⟨[], by rw [left, List.append_nil, List.append_nil], right.symm⟩
    | cons c more =>
      have here : c = separator := (List.cons.inj right).1.symm
      refine absurd ?_ absent
      rw [left, here]
      exact List.mem_append_right _ List.mem_cons_self

theorem append_separator_cancel {α : Type} {separator : α} {run rest before after : List α}
    (absent : separator ∉ run) (absentBefore : separator ∉ before)
    (same : run ++ separator :: rest = before ++ separator :: after) :
    run = before ∧ rest = after := by
  obtain ⟨more, left, right⟩ := append_separator_inj absent same
  cases more with
  | nil => exact ⟨by rw [left, List.append_nil], (List.cons.inj right).2⟩
  | cons c more =>
    refine absurd ?_ absentBefore
    rw [left, (List.cons.inj right).1]
    exact List.mem_append_right _ List.mem_cons_self

variable {separator : Char}

theorem splitAt_ne_nil (separator : Char) (cs : List Char) : splitAt separator cs ≠ [] := by
  cases cs with
  | nil => exact List.cons_ne_nil _ _
  | cons c cs =>
    unfold splitAt
    split
    · exact List.cons_ne_nil _ _
    · cases splitAt separator cs with
      | nil => exact List.cons_ne_nil _ _
      | cons piece pieces => exact List.cons_ne_nil _ _

theorem splitAt_exists_cons (separator : Char) (cs : List Char) :
    ∃ first others, splitAt separator cs = first :: others :=
  List.exists_cons_of_ne_nil (splitAt_ne_nil separator cs)

theorem splitAt_cons_of_ne {c : Char} (other : c ≠ separator) (cs : List Char) :
    splitAt separator (c :: cs) = consFirst c (splitAt separator cs) := by
  rw [splitAt, if_neg other]

theorem splitAt_cons_self (separator : Char) (cs : List Char) :
    splitAt separator (separator :: cs) = [] :: splitAt separator cs := by
  rw [splitAt, if_pos rfl]

theorem splitAt_run_append {run rest first : List Char} {others : List (List Char)}
    (absent : separator ∉ run) (cut : splitAt separator rest = first :: others) :
    splitAt separator (run ++ rest) = (run ++ first) :: others := by
  induction run with
  | nil => exact cut
  | cons c cs ih =>
    have other : c ≠ separator := (List.ne_of_not_mem_cons absent).symm
    rw [List.cons_append, splitAt_cons_of_ne other, ih (List.not_mem_of_not_mem_cons absent)]
    rfl

theorem splitAt_run {run : List Char} (absent : separator ∉ run) :
    splitAt separator run = [run] := by
  have whole := splitAt_run_append absent (rfl : splitAt separator [] = [[]])
  rwa [List.append_nil] at whole

theorem splitAt_run_separator {run : List Char} (absent : separator ∉ run) (rest : List Char) :
    splitAt separator (run ++ separator :: rest) = run :: splitAt separator rest := by
  have cut := splitAt_run_append absent (splitAt_cons_self separator rest)
  rwa [List.append_nil] at cut

theorem intercalate_cons {α : Type} (separator : α) (first : List α) (others : List (List α)) :
    [separator].intercalate (first :: others) = first ++ others.flatMap (separator :: ·) := by
  induction others generalizing first with
  | nil => simp
  | cons other others ih => simp [List.intercalate_cons_cons, ih]

theorem not_mem_intercalate {α : Type} {c separator : α} {pieces : List (List α)}
    (other : c ≠ separator) (absent : ∀ piece ∈ pieces, c ∉ piece) :
    c ∉ [separator].intercalate pieces := by
  cases pieces with
  | nil => simp
  | cons first others =>
    have later : ∀ piece ∈ others, c ∉ piece := fun piece member =>
      absent piece (List.mem_cons_of_mem first member)
    simpa [intercalate_cons, other] using And.intro (absent first List.mem_cons_self) later

theorem splitAt_intercalate {pieces : List (List Char)} (nonempty : pieces ≠ [])
    (absent : ∀ piece ∈ pieces, separator ∉ piece) :
    splitAt separator ([separator].intercalate pieces) = pieces := by
  cases pieces with
  | nil => exact absurd rfl nonempty
  | cons first others =>
    rw [intercalate_cons]
    induction others generalizing first with
    | nil => simpa using splitAt_run (absent first List.mem_cons_self)
    | cons other others ih =>
      rw [List.flatMap_cons, List.cons_append,
        splitAt_run_separator (absent first List.mem_cons_self),
        ih other (List.cons_ne_nil _ _) fun piece member =>
          absent piece (List.mem_cons_of_mem first member)]

/-- What the first piece is, and that the others are those of the text after the separator. -/
theorem splitAt_eq_cons {cs first : List Char} {others : List (List Char)}
    (cut : splitAt separator cs = first :: others) :
    separator ∉ first ∧ (cs = first ∧ others = [] ∨
      ∃ rest, cs = first ++ separator :: rest ∧ splitAt separator rest = others) := by
  induction cs generalizing first with
  | nil =>
    obtain ⟨rfl, rfl⟩ := List.cons.inj cut
    exact ⟨List.not_mem_nil, .inl ⟨rfl, rfl⟩⟩
  | cons c cs ih =>
    by_cases here : c = separator
    · rw [here, splitAt_cons_self] at cut
      obtain ⟨rfl, rfl⟩ := List.cons.inj cut
      exact ⟨List.not_mem_nil, .inr ⟨cs, by rw [here]; rfl, rfl⟩⟩
    · rw [splitAt_cons_of_ne here] at cut
      obtain ⟨piece, more, pieces⟩ := splitAt_exists_cons separator cs
      rw [pieces] at cut
      obtain ⟨rfl, rfl⟩ := List.cons.inj cut
      obtain ⟨absent, parts⟩ := ih pieces
      refine ⟨List.not_mem_cons_of_ne_of_not_mem (Ne.symm here) absent, ?_⟩
      rcases parts with ⟨rfl, none⟩ | ⟨rest, rfl, later⟩
      · exact .inl ⟨rfl, none⟩
      · exact .inr ⟨rest, rfl, later⟩

theorem splitAt_append_separator (xs ys : List Char) :
    splitAt separator (xs ++ separator :: ys) = splitAt separator xs ++ splitAt separator ys := by
  induction xs with
  | nil => rw [List.nil_append, splitAt_cons_self, splitAt, List.singleton_append]
  | cons c cs ih =>
    by_cases here : c = separator
    · rw [here, List.cons_append, splitAt_cons_self, splitAt_cons_self, ih, List.cons_append]
    · obtain ⟨piece, more, pieces⟩ := splitAt_exists_cons separator cs
      rw [List.cons_append, splitAt_cons_of_ne here, splitAt_cons_of_ne here, ih, pieces]
      rfl

theorem not_mem_of_mem_splitAt {cs piece : List Char} (member : piece ∈ splitAt separator cs) :
    separator ∉ piece := by
  obtain ⟨first, others, pieces⟩ := splitAt_exists_cons separator cs
  obtain ⟨absent, parts⟩ := splitAt_eq_cons pieces
  rw [pieces] at member
  cases List.mem_cons.1 member with
  | inl same => exact same ▸ absent
  | inr later =>
    rcases parts with ⟨-, rfl⟩ | ⟨rest, rfl, rfl⟩
    · cases later
    · exact not_mem_of_mem_splitAt later
termination_by cs.length

theorem intercalate_splitAt (separator : Char) (cs : List Char) :
    [separator].intercalate (splitAt separator cs) = cs := by
  obtain ⟨first, others, pieces⟩ := splitAt_exists_cons separator cs
  rw [pieces]
  rcases (splitAt_eq_cons pieces).2 with ⟨rfl, rfl⟩ | ⟨rest, rfl, rfl⟩
  · exact List.intercalate_singleton
  · obtain ⟨second, more, later⟩ := splitAt_exists_cons separator rest
    rw [later, List.intercalate_cons_cons, ← later, intercalate_splitAt separator rest,
      List.append_assoc, List.singleton_append]
termination_by cs.length

theorem infix_of_mem_splitAt {cs piece : List Char} (member : piece ∈ splitAt separator cs) :
    piece <:+: cs := by
  obtain ⟨first, others, pieces⟩ := splitAt_exists_cons separator cs
  rw [pieces] at member
  rcases (splitAt_eq_cons pieces).2 with ⟨rfl, rfl⟩ | ⟨rest, rfl, rfl⟩
  · exact List.mem_singleton.1 member ▸ List.infix_rfl
  · cases List.mem_cons.1 member with
    | inl same => exact same ▸ (List.prefix_append first _).isInfix
    | inr later =>
      have tail : rest <:+: first ++ separator :: rest :=
        ((List.suffix_cons separator rest).trans (List.suffix_append first _)).isInfix
      exact (infix_of_mem_splitAt later).trans tail
termination_by cs.length

/-- Two pieces stand on both sides of the only separator. -/
theorem splitAt_eq_pair {cs left right : List Char} : splitAt separator cs = [left, right] ↔
    cs = left ++ separator :: right ∧ separator ∉ left ∧ separator ∉ right := by
  constructor
  · intro cut
    obtain ⟨absentLeft, ⟨-, none⟩ | ⟨rest, rfl, last⟩⟩ := splitAt_eq_cons cut
    · cases none
    · obtain ⟨absentRight, ⟨rfl, -⟩ | ⟨_, -, more⟩⟩ := splitAt_eq_cons last
      · exact ⟨rfl, absentLeft, absentRight⟩
      · exact absurd more (splitAt_ne_nil _ _)
  · rintro ⟨rfl, absentLeft, absentRight⟩
    rw [splitAt_run_separator absentLeft, splitAt_run absentRight]

end CodeSearch.Text
