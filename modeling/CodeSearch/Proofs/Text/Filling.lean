import CodeSearch.Text.Template
import CodeSearch.Proofs.Text.Splitting
import Mathlib.Data.List.Basic
import Mathlib.Data.List.TakeWhile

/-!
Templates as literal texts and holes. A variable takes the first place where its name stands in
braces, and that is its own hole unless what stands before the hole by then spells the name in
braces too. Only a value with a brace in it can do that.
-/
namespace CodeSearch.Text

namespace Template

/-- A name in braces does not begin where no brace opens. -/
theorem infix_of_infix_append {name run rest : List Char} (unopened : '\x7b' ∉ run)
    (spelled : placeholder name <:+: run ++ rest) : placeholder name <:+: rest := by
  induction run with
  | nil => exact spelled
  | cons c run ih =>
    have other : '\x7b' ≠ c := List.ne_of_not_mem_cons unopened
    rcases List.infix_cons_iff.1 spelled with here | later
    · exact absurd (List.cons_prefix_cons.1 here).1 other
    · exact ih (List.not_mem_of_not_mem_cons unopened) later

/-- Nor where another name stands in braces. -/
theorem infix_of_infix_placeholder {name other rest : List Char} (unopened : '\x7b' ∉ other)
    (unclosed : '\x7d' ∉ name) (closed : '\x7d' ∉ other) (different : name ≠ other)
    (spelled : placeholder name <:+: placeholder other ++ rest) : placeholder name <:+: rest := by
  rcases List.infix_cons_iff.1 spelled with here | later
  · obtain ⟨more, same⟩ := (List.cons_prefix_cons.1 here).2
    have ends : name ++ '\x7d' :: more = other ++ '\x7d' :: rest := by simpa using same
    exact absurd (append_separator_cancel unclosed closed ends).1 different
  · have unopened : '\x7b' ∉ other ++ ['\x7d'] := by
      rw [List.mem_append, not_or]
      exact ⟨unopened, by decide⟩
    exact infix_of_infix_append unopened later

/-- A name in braces does not overlap its next occurrence. -/
theorem not_prefix_before {name run : List Char} {c : Char} (unopened : '\x7b' ∉ name)
    (absent : ¬ placeholder name <:+: c :: run) (rest : List Char) :
    ¬ placeholder name <+: c :: run ++ (placeholder name ++ rest) := by
  rintro ⟨more, same⟩
  obtain ⟨left, inside, -⟩ | ⟨right, across, next⟩ := List.append_eq_append_iff.1 same
  · exact absent ⟨[], left, by rw [List.nil_append, inside]⟩
  · cases right with
    | nil =>
      rw [List.append_nil] at across
      exact absent (across ▸ List.infix_rfl)
    | cons d right =>
      have opens : d = '\x7b' := (List.cons.inj next).1.symm
      have later : name ++ ['\x7d'] = run ++ d :: right := (List.cons.inj across).2
      have member : '\x7b' ∈ name ++ ['\x7d'] := by
        rw [later, opens]
        exact List.mem_append_right _ List.mem_cons_self
      rcases List.mem_append.1 member with inName | inEnd
      · exact unopened inName
      · exact absurd inEnd (by decide)

theorem cut?_placeholder {name run : List Char} (unopened : '\x7b' ∉ name)
    (absent : ¬ placeholder name <:+: run) (rest : List Char) :
    cut? (placeholder name) (run ++ (placeholder name ++ rest)) = some (run, rest) := by
  induction run with
  | nil =>
    have here : (placeholder name).isPrefixOf (placeholder name ++ rest) = true :=
      List.isPrefixOf_iff_prefix.2 (List.prefix_append _ _)
    have taken : cut? (placeholder name) (placeholder name ++ rest) =
        some ([], (placeholder name ++ rest).drop (placeholder name).length) := if_pos here
    rw [List.nil_append, taken, List.drop_left]
  | cons c run ih =>
    have other := mt List.isPrefixOf_iff_prefix.1 (not_prefix_before unopened absent rest)
    rw [List.infix_cons_iff, not_or] at absent
    rw [List.cons_append] at other ⊢
    rw [cut?, if_neg other, ih absent.2]
    rfl

theorem fillOne_placeholder {name run : List Char} (unopened : '\x7b' ∉ name)
    (absent : ¬ placeholder name <:+: run) (rest value : List Char) :
    fillOne (run ++ (placeholder name ++ rest)) name value = run ++ value ++ rest := by
  rw [fillOne, cut?_placeholder unopened absent]

theorem fillOne_of_absent {name text : List Char} (absent : ¬ placeholder name <:+: text)
    (value : List Char) : fillOne text name value = text := by
  rw [fillOne, cut?_eq_none absent]

inductive Piece where
  | literal (text : String)
  | hole (name : String)
deriving DecidableEq, Repr

namespace Piece

def text : Piece → String
  | literal text => text
  | hole name => name

def name? : Piece → Option String
  | literal _ => none
  | hole name => some name

def shown (values : List (String × String)) : Piece → List Char
  | literal text => text.toList
  | hole name => ((values.lookup name).map String.toList).getD (placeholder name.toList)

theorem shown_missing {values : List (String × String)} {name : String}
    (missing : values.lookup name = none) :
    (hole name).shown values = placeholder name.toList := by
  rw [shown, missing]
  rfl

theorem shown_last {earlier : List (String × String)} {v : String × String}
    (missing : earlier.lookup v.1 = none) :
    (hole v.1).shown (earlier ++ [v]) = v.2.toList := by
  rw [shown, List.lookup_append, missing, Option.none_or, List.lookup_cons, beq_self_eq_true]
  rfl

/-- A value is shown at the holes of its name only. -/
theorem shown_other {v : String × String} {piece : Piece} (other : piece ≠ .hole v.1)
    (earlier : List (String × String)) : piece.shown (earlier ++ [v]) = piece.shown earlier := by
  cases piece with
  | literal text => rfl
  | hole name =>
    have different : name ≠ v.1 := fun same => other (congrArg hole same)
    have missing : [v].lookup name = none := by
      rw [List.lookup_cons, beq_false_of_ne different]
      rfl
    rw [shown, shown, List.lookup_append, missing, Option.or_none]

end Piece

def shown (values : List (String × String)) (pieces : List Piece) : List Char :=
  pieces.flatMap (Piece.shown values)

def written (pieces : List Piece) : List Char := shown [] pieces

/-- No piece opens a brace, and no name closes one. -/
structure Bare (pieces : List Piece) : Prop where
  unopened : ∀ piece ∈ pieces, '\x7b' ∉ piece.text.toList
  unclosed : ∀ name, .hole name ∈ pieces → '\x7d' ∉ name.toList

structure WellFormed (pieces : List Piece) : Prop where
  unopened : ∀ piece ∈ pieces, '\x7b' ∉ piece.text.toList
  unclosed : ∀ piece ∈ pieces, '\x7d' ∉ piece.text.toList
  single : (pieces.filterMap Piece.name?).Nodup

/-- The pieces before the hole of a name, which are all where it has none. -/
def before (name : String) (pieces : List Piece) : List Piece :=
  pieces.takeWhile (· ≠ .hole name)

/-- When the turn of a variable comes, nothing before its hole spells its name in braces. -/
def Undisturbed (pieces : List Piece) (earlier : List (String × String)) :
    List (String × String) → Prop
  | [] => True
  | v :: later =>
    ¬ placeholder v.1.toList <:+: shown earlier (before v.1 pieces) ∧
      Undisturbed pieces (earlier ++ [v]) later

instance decidableUndisturbed (pieces : List Piece) : ∀ earlier values,
    Decidable (Undisturbed pieces earlier values)
  | _, [] => inferInstanceAs (Decidable True)
  | earlier, v :: later =>
    have := decidableUndisturbed pieces (earlier ++ [v]) later
    inferInstanceAs (Decidable (_ ∧ _))

theorem shown_append (values : List (String × String)) (left right : List Piece) :
    shown values (left ++ right) = shown values left ++ shown values right :=
  List.flatMap_append

theorem shown_cons (values : List (String × String)) (piece : Piece) (pieces : List Piece) :
    shown values (piece :: pieces) = piece.shown values ++ shown values pieces :=
  List.flatMap_cons

theorem shown_of_not_mem {v : String × String} {pieces : List Piece} (absent : .hole v.1 ∉ pieces)
    (earlier : List (String × String)) : shown (earlier ++ [v]) pieces = shown earlier pieces := by
  refine List.flatMap_congr ?_
  intro piece member
  refine Piece.shown_other ?_ earlier
  rintro rfl
  exact absent member

theorem not_mem_before (name : String) (pieces : List Piece) :
    .hole name ∉ before name pieces := by
  intro member
  unfold before at member
  have other := List.mem_takeWhile_imp member
  exact of_decide_eq_true other rfl

theorem before_append {name : String} {left : List Piece} (absent : .hole name ∉ left)
    (right : List Piece) : before name (left ++ .hole name :: right) = left := by
  have all : ∀ piece ∈ left, decide (piece ≠ .hole name) = true := by
    intro piece member
    refine decide_eq_true ?_
    rintro rfl
    exact absent member
  unfold before
  rw [List.takeWhile_append_of_pos all, List.takeWhile_cons_of_neg (by simp), List.append_nil]

theorem before_of_not_mem {name : String} {pieces : List Piece} (absent : .hole name ∉ pieces) :
    before name pieces = pieces := by
  refine List.takeWhile_eq_self_iff.2 ?_
  intro piece member
  refine decide_eq_true ?_
  rintro rfl
  exact absent member

namespace Bare

theorem of_sublist {part pieces : List Piece} (bare : Bare pieces) (within : part.Sublist pieces) :
    Bare part where
  unopened piece member := bare.unopened piece (within.subset member)
  unclosed name member := bare.unclosed name (within.subset member)

/-- Pieces without a hole of a name do not spell it in braces, if no value opens one. -/
theorem not_infix_shown {pieces : List Piece} (bare : Bare pieces) {name : String}
    (closed : '\x7d' ∉ name.toList) (absent : .hole name ∉ pieces)
    {values : List (String × String)} (plain : ∀ v ∈ values, '\x7b' ∉ v.2.toList) :
    ¬ placeholder name.toList <:+: shown values pieces := by
  induction pieces with
  | nil =>
    intro spelled
    cases List.infix_nil.1 spelled
  | cons piece pieces ih =>
    intro spelled
    rw [shown_cons] at spelled
    refine ih (bare.of_sublist (List.sublist_cons_self piece pieces))
      (List.not_mem_of_not_mem_cons absent) ?_
    have unopened := bare.unopened piece List.mem_cons_self
    cases piece with
    | literal text => exact infix_of_infix_append unopened spelled
    | hole other =>
      cases found : values.lookup other with
      | none =>
        rw [Piece.shown_missing found] at spelled
        have different : name.toList ≠ other.toList := by
          intro same
          refine absent ?_
          rw [String.toList_inj.1 same]
          exact List.mem_cons_self
        exact infix_of_infix_placeholder unopened closed
          (bare.unclosed _ List.mem_cons_self) different spelled
      | some value =>
        obtain ⟨front, back, rfl, -⟩ := List.lookup_eq_some_iff.1 found
        rw [Piece.shown, found] at spelled
        refine infix_of_infix_append (plain (other, value) ?_) spelled
        exact List.mem_append_right front List.mem_cons_self

end Bare

namespace WellFormed

theorem bare {pieces : List Piece} (good : WellFormed pieces) : Bare pieces where
  unopened := good.unopened
  unclosed _ member := good.unclosed _ member

theorem of_sublist {part pieces : List Piece} (good : WellFormed pieces)
    (within : part.Sublist pieces) :
    WellFormed part where
  unopened piece member := good.unopened piece (within.subset member)
  unclosed piece member := good.unclosed piece (within.subset member)
  single := (within.filterMap Piece.name?).nodup good.single

theorem not_mem_after {name : String} {left right : List Piece}
    (good : WellFormed (left ++ .hole name :: right)) : .hole name ∉ right := by
  intro member
  have single := good.single
  rw [List.filterMap_append, List.nodup_append] at single
  have again : name ∈ right.filterMap Piece.name? := List.mem_filterMap.2 ⟨_, member, rfl⟩
  exact (List.nodup_cons.1 single.2.1).1 again

/-- One variable put in: its hole shows its value, and all else stays. -/
theorem fillOne_shown {pieces : List Piece} (good : WellFormed pieces)
    {earlier : List (String × String)} {v : String × String} (unopened : '\x7b' ∉ v.1.toList)
    (missing : earlier.lookup v.1 = none)
    (absent : ¬ placeholder v.1.toList <:+: shown earlier (before v.1 pieces)) :
    fillOne (shown earlier pieces) v.1.toList v.2.toList = shown (earlier ++ [v]) pieces := by
  by_cases named : .hole v.1 ∈ pieces
  · obtain ⟨left, right, rfl, first⟩ := List.eq_append_cons_of_mem named
    rw [before_append first] at absent
    calc fillOne (shown earlier (left ++ .hole v.1 :: right)) v.1.toList v.2.toList
        = shown earlier left ++ v.2.toList ++ shown earlier right := by
          rw [shown_append, shown_cons, Piece.shown_missing missing,
            fillOne_placeholder unopened absent]
      _ = shown (earlier ++ [v]) (left ++ .hole v.1 :: right) := by
          rw [shown_append, shown_cons, Piece.shown_last missing, shown_of_not_mem first,
            shown_of_not_mem good.not_mem_after, List.append_assoc]
  · rw [before_of_not_mem named] at absent
    rw [fillOne_of_absent absent, shown_of_not_mem named]

/-- All variables put in, one after another. -/
theorem fillChars_shown {pieces : List Piece} (good : WellFormed pieces)
    {earlier values : List (String × String)} (unopened : ∀ v ∈ values, '\x7b' ∉ v.1.toList)
    (distinct : ((earlier ++ values).map Prod.fst).Nodup)
    (undisturbed : Undisturbed pieces earlier values) :
    fillChars (shown earlier pieces) (values.map fun v => (v.1.toList, v.2.toList)) =
      shown (earlier ++ values) pieces := by
  induction values generalizing earlier with
  | nil => rw [List.append_nil]; rfl
  | cons v later ih =>
    obtain ⟨absent, rest⟩ := undisturbed
    have missing : earlier.lookup v.1 = none := by
      refine List.lookup_eq_none_iff.2 ?_
      intro u member
      refine bne_iff_ne.2 ?_
      rw [List.map_append, List.nodup_append] at distinct
      exact (distinct.2.2 _ (List.mem_map_of_mem member) _ List.mem_cons_self).symm
    have step := good.fillOne_shown (unopened v List.mem_cons_self) missing absent
    rw [List.append_cons] at distinct ⊢
    rw [List.map_cons, fillChars, List.foldl_cons, step]
    exact ih (fun u member => unopened u (List.mem_cons_of_mem v member)) distinct rest

/-- Values that open no brace disturb nothing. -/
theorem undisturbed {pieces : List Piece} (good : WellFormed pieces)
    {earlier values : List (String × String)} (closed : ∀ v ∈ values, '\x7d' ∉ v.1.toList)
    (plain : ∀ v ∈ earlier ++ values, '\x7b' ∉ v.2.toList) :
    Undisturbed pieces earlier values := by
  induction values generalizing earlier with
  | nil => trivial
  | cons v later ih =>
    constructor
    · have part : WellFormed (before v.1 pieces) := good.of_sublist (List.takeWhile_sublist _)
      refine part.bare.not_infix_shown (closed v List.mem_cons_self) (not_mem_before v.1 pieces) ?_
      exact fun u member => plain u (List.mem_append_left _ member)
    · refine ih (fun u member => closed u (List.mem_cons_of_mem v member)) ?_
      rwa [← List.append_cons]

end WellFormed

end Template

end CodeSearch.Text
