import CodeSearch.Proofs.NameMap
import CodeSearch.Proofs.Text.Filling

/-!
Templates in which a name may stand more than once. Each variable fills the first of its holes, and
the others stay open. As long as no value opens a brace, filling in one variable after another is the
same as going through the template once, so the order of the variables does not matter.
-/
namespace CodeSearch.Text.Template

def put (name value : String) : List Piece → List Piece
  | [] => []
  | piece :: pieces =>
    if piece = .hole name then .literal value :: pieces else piece :: put name value pieces

/-- The value that a hole takes which stands after these pieces: none after a hole of its name. -/
def firstValue? (values : List (String × String)) (earlier : List Piece) (name : String) :
    Option String :=
  if .hole name ∈ earlier then none else values.lookup name

def Piece.shownAfter (values : List (String × String)) (earlier : List Piece) : Piece → List Char
  | .literal text => text.toList
  | .hole name => ((firstValue? values earlier name).map String.toList).getD
      (placeholder name.toList)

/-- The pieces that stand after `earlier` with all values put in at once. -/
def shownOnce (values : List (String × String)) (earlier : List Piece) : List Piece → List Char
  | [] => []
  | piece :: pieces =>
    piece.shownAfter values earlier ++ shownOnce values (earlier ++ [piece]) pieces

theorem put_of_not_mem {name : String} {pieces : List Piece} (absent : .hole name ∉ pieces)
    (value : String) : put name value pieces = pieces := by
  induction pieces with
  | nil => rfl
  | cons piece pieces ih =>
    have other : piece ≠ .hole name := (List.ne_of_not_mem_cons absent).symm
    rw [put, if_neg other, ih (List.not_mem_of_not_mem_cons absent)]

theorem put_append {name : String} {left : List Piece} (absent : .hole name ∉ left)
    (value : String) (right : List Piece) :
    put name value (left ++ .hole name :: right) = left ++ .literal value :: right := by
  induction left with
  | nil => simp [put]
  | cons piece left ih =>
    have other : piece ≠ .hole name := (List.ne_of_not_mem_cons absent).symm
    rw [List.cons_append, put, if_neg other, ih (List.not_mem_of_not_mem_cons absent)]
    rfl

theorem mem_put {name value : String} {piece : Piece} {pieces : List Piece}
    (member : piece ∈ put name value pieces) : piece = .literal value ∨ piece ∈ pieces := by
  induction pieces with
  | nil => cases member
  | cons first pieces ih =>
    unfold put at member
    split at member
    · cases member with
      | head => exact .inl rfl
      | tail _ later => exact .inr (List.mem_cons_of_mem first later)
    · cases member with
      | head => exact .inr List.mem_cons_self
      | tail _ later => exact (ih later).imp_right (List.mem_cons_of_mem first)

namespace Bare

theorem put {pieces : List Piece} (bare : Bare pieces) {value : String}
    (plain : '\x7b' ∉ value.toList) (name : String) : Bare (put name value pieces) where
  unopened piece member := by
    cases mem_put member with
    | inl here => exact here ▸ plain
    | inr old => exact bare.unopened piece old
  unclosed other member := by
    cases mem_put member with
    | inl here => cases here
    | inr old => exact bare.unclosed other old

/-- One variable in the text is one variable in the template. -/
theorem fillOne_written {pieces : List Piece} (bare : Bare pieces) {name : String}
    (unopened : '\x7b' ∉ name.toList) (unclosed : '\x7d' ∉ name.toList) (value : String) :
    fillOne (written pieces) name.toList value.toList = written (Template.put name value pieces) := by
  by_cases named : .hole name ∈ pieces
  · obtain ⟨left, right, rfl, first⟩ := List.eq_append_cons_of_mem named
    have part : Bare left := bare.of_sublist (List.sublist_append_left _ _)
    have absent : ¬ placeholder name.toList <:+: shown [] left :=
      part.not_infix_shown unclosed first (by simp)
    have opens : (Piece.hole name).shown [] = placeholder name.toList := rfl
    have shows : (Piece.literal value).shown [] = value.toList := rfl
    rw [put_append first, written, written, shown_append, shown_cons, opens,
      fillOne_placeholder unopened absent, shown_append, shown_cons, shows, List.append_assoc]
  · have absent : ¬ placeholder name.toList <:+: written pieces :=
      bare.not_infix_shown unclosed named (by simp)
    rw [fillOne_of_absent absent, put_of_not_mem named]

/-- So the text that is filled in stays one of a template, whose braces are those around names. -/
theorem fillChars_written {pieces : List Piece} (bare : Bare pieces)
    {values : List (String × String)}
    (names : ∀ v ∈ values, '\x7b' ∉ v.1.toList ∧ '\x7d' ∉ v.1.toList)
    (plain : ∀ v ∈ values, '\x7b' ∉ v.2.toList) :
    fillChars (written pieces) (values.map fun v => (v.1.toList, v.2.toList)) =
      written (values.foldl (fun pieces v => Template.put v.1 v.2 pieces) pieces) := by
  induction values generalizing pieces with
  | nil => rfl
  | cons v later ih =>
    rw [List.forall_mem_cons] at names plain
    have step := bare.fillOne_written names.1.1 names.1.2 v.2
    rw [List.map_cons, fillChars, List.foldl_cons, step, List.foldl_cons]
    exact ih (bare.put plain.1 v.1) names.2 plain.2

end Bare

theorem firstValue?_concat (values : List (String × String)) (earlier : List Piece)
    (piece : Piece) (name : String) :
    firstValue? values (earlier ++ [piece]) name =
      if piece = .hole name then none else firstValue? values earlier name := by
  by_cases here : piece = .hole name
  · simp [firstValue?, here]
  · simp [firstValue?, here, eq_comm]

/-- What is shown depends only on which values the names still have. -/
theorem shownOnce_congr {values others : List (String × String)} {earlier before : List Piece}
    (same : ∀ name, firstValue? values earlier name = firstValue? others before name)
    (pieces : List Piece) : shownOnce values earlier pieces = shownOnce others before pieces := by
  induction pieces generalizing earlier before with
  | nil => rfl
  | cons piece pieces ih =>
    have next : ∀ name, firstValue? values (earlier ++ [piece]) name =
        firstValue? others (before ++ [piece]) name := by
      intro name
      rw [firstValue?_concat, firstValue?_concat, same]
    have here : piece.shownAfter values earlier = piece.shownAfter others before := by
      cases piece with
      | literal text => rfl
      | hole name => rw [Piece.shownAfter, Piece.shownAfter, same]
    rw [shownOnce, shownOnce, here, ih next]

theorem shownOnce_nil (earlier pieces : List Piece) :
    shownOnce [] earlier pieces = written pieces := by
  induction pieces generalizing earlier with
  | nil => rfl
  | cons piece pieces ih =>
    have here : piece.shownAfter [] earlier = piece.shown [] := by
      cases piece <;> simp [Piece.shownAfter, Piece.shown, firstValue?]
    rw [shownOnce, here, ih, written, written, shown_cons]

/-- A value put into its hole is shown as if it came in with the others. -/
theorem shownOnce_put {name value : String} {earlier : List Piece} (first : .hole name ∉ earlier)
    {later : List (String × String)} (missing : later.lookup name = none) (pieces : List Piece) :
    shownOnce later earlier (put name value pieces) =
      shownOnce ((name, value) :: later) earlier pieces := by
  induction pieces generalizing earlier with
  | nil => rfl
  | cons piece pieces ih =>
    by_cases here : piece = .hole name
    · subst here
      have shows : (Piece.hole name).shownAfter ((name, value) :: later) earlier = value.toList := by
        simp [Piece.shownAfter, firstValue?, first]
      -- Behind its hole neither list has a value for the name, and for others they agree.
      have spent : ∀ other, firstValue? later (earlier ++ [.literal value]) other =
          firstValue? ((name, value) :: later) (earlier ++ [.hole name]) other := by
        intro other
        rw [firstValue?_concat, firstValue?_concat, if_neg (by simp)]
        by_cases same : other = name
        · simp [same, firstValue?, missing]
        · simp [Ne.symm same, firstValue?, List.lookup_cons, beq_false_of_ne same]
      rw [put, if_pos rfl, shownOnce, shownOnce, shows, shownOnce_congr spent]
      rfl
    · have still : .hole name ∉ earlier ++ [piece] := by simpa [first] using Ne.symm here
      have shows : piece.shownAfter later earlier =
          piece.shownAfter ((name, value) :: later) earlier := by
        cases piece with
        | literal text => rfl
        | hole other =>
          have different : other ≠ name := fun same => here (congrArg Piece.hole same)
          simp [Piece.shownAfter, firstValue?, List.lookup_cons, beq_false_of_ne different]
      rw [put, if_neg here, shownOnce, shownOnce, ih still, shows]

theorem written_foldl_put {values : List (String × String)}
    (distinct : (values.map Prod.fst).Nodup) (pieces : List Piece) :
    written (values.foldl (fun pieces v => put v.1 v.2 pieces) pieces) =
      shownOnce values [] pieces := by
  induction values generalizing pieces with
  | nil => exact (shownOnce_nil [] pieces).symm
  | cons v later ih =>
    rw [List.map_cons, List.nodup_cons] at distinct
    have missing : later.lookup v.1 = none := by
      rw [List.lookup_eq_none_iff]
      intro u member
      exact bne_iff_ne.2 fun same => distinct.1 (same ▸ List.mem_map_of_mem member)
    rw [List.foldl_cons, ih distinct.2, shownOnce_put List.not_mem_nil missing]

theorem lookup_perm {values others : List (String × String)} (perm : others.Perm values)
    (distinct : (values.map Prod.fst).Nodup) (name : String) :
    others.lookup name = values.lookup name := by
  have distinct' : (others.map Prod.fst).Nodup := (perm.map Prod.fst).nodup_iff.2 distinct
  apply Option.ext
  intro value
  rw [NameMap.lookup_eq_some_iff distinct', NameMap.lookup_eq_some_iff distinct, perm.mem_iff]

/-- Filling in one variable after another puts each value into the first hole of its name and leaves
all else as the template has it, whatever the order of the variables. -/
theorem fill_once {template : String} {pieces : List Piece} {values : List (String × String)}
    (text : template.toList = written pieces) (bare : Bare pieces)
    (distinct : (values.map Prod.fst).Nodup)
    (names : ∀ v ∈ values, '\x7b' ∉ v.1.toList ∧ '\x7d' ∉ v.1.toList)
    (plain : ∀ v ∈ values, '\x7b' ∉ v.2.toList) :
    (fill template values).toList = shownOnce values [] pieces ∧
      ∀ others : List (String × String), others.Perm values →
        fill template others = fill template values := by
  have filled : ∀ others : List (String × String), others.Perm values →
      (fill template others).toList = shownOnce values [] pieces := by
    intro others perm
    have named := fun v member => names v (perm.mem_iff.1 member)
    have plain' := fun v member => plain v (perm.mem_iff.1 member)
    have same : ∀ name, firstValue? others [] name = firstValue? values [] name := by
      intro name
      simp [firstValue?, lookup_perm perm distinct]
    rw [fill, String.toList_ofList, text, bare.fillChars_written named plain',
      written_foldl_put ((perm.map Prod.fst).nodup_iff.2 distinct), shownOnce_congr same]
  constructor
  · exact filled values (List.Perm.refl values)
  · intro others perm
    apply String.toList_inj.1
    rw [filled others perm, filled values (List.Perm.refl values)]

/-- A name of two holes, one that nothing fills, and a value with a name in it. -/
theorem fill_once_repeated :
    let template := "\x7ba\x7d/\x7bb\x7d?\x7ba\x7d=\x7bc\x7d"
    let pieces : List Piece := [.hole "a", .literal "/", .hole "b", .literal "?", .hole "a",
      .literal "=", .hole "c"]
    let values := [("b", "a"), ("a", "b")]
    template.toList = written pieces ∧ Bare pieces ∧ (values.map Prod.fst).Nodup ∧
      (fill template values).toList = "b/a?\x7ba\x7d=\x7bc\x7d".toList ∧
      fill template [("a", "b"), ("b", "a")] = fill template values := by
  intro template pieces values
  have text : template.toList = written pieces := by decide
  have bare : Bare pieces := by
    constructor
    · decide
    · intro name member
      simp [pieces] at member
      rcases member with rfl | rfl | rfl | rfl <;> decide
  have distinct : (values.map Prod.fst).Nodup := by decide
  have once := fill_once text bare distinct (by decide) (by decide)
  refine ⟨text, bare, distinct, once.1.trans (by decide), once.2 _ ?_⟩
  exact List.Perm.swap _ _ _

end CodeSearch.Text.Template
