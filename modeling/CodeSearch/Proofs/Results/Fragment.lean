import CodeSearch.Proofs.Results.Markup
import CodeSearch.Proofs.Text.Splitting

/-!
The HTML of a line as a fragment that a page can take in: runs of escaped text and elements of
emphasis around such runs. The spans of the line can be read back from it.
-/
namespace CodeSearch

namespace Text.Html

def entities : List (List Char) :=
  ["&amp;".toList, "&lt;".toList, "&gt;".toList, "&quot;".toList, "&#39;".toList]

structure Escaped (run : List Char) : Prop where
  plain : ∀ c ∈ run, c ≠ '<' ∧ c ≠ '>' ∧ c ≠ '"' ∧ c ≠ '\''
  entity : ∀ before after, run = before ++ '&' :: after → ∃ e ∈ entities, e <+: '&' :: after

inductive Fragment : List Char → Prop where
  | nil : Fragment []
  | run {run rest : List Char} (escaped : Escaped run) (more : Fragment rest) :
      Fragment (run ++ rest)
  | emphasis {run rest : List Char} (escaped : Escaped run) (nonempty : run ≠ [])
      (more : Fragment rest) :
      Fragment ("<em>".toList ++ run ++ "</em>".toList ++ rest)

theorem Escaped.nil : Escaped [] where
  plain := fun _ member => by cases member
  entity := by
    intro before after empty
    cases before <;> cases empty

theorem Escaped.append {xs ys : List Char} (first : Escaped xs) (second : Escaped ys) :
    Escaped (xs ++ ys) where
  plain := by
    intro c member
    cases List.mem_append.1 member with
    | inl here => exact first.plain c here
    | inr here => exact second.plain c here
  entity := by
    intro before after whole
    obtain ⟨more, -, right⟩ | ⟨more, left, right⟩ := List.append_eq_append_iff.1 whole
    · exact second.entity more after right
    · cases more with
      | nil => exact second.entity [] after right.symm
      | cons c more =>
        -- The ampersand stands in the first run, and so does its entity.
        obtain ⟨rfl, rfl⟩ := List.cons.inj right
        obtain ⟨e, listed, begins⟩ := first.entity before more left
        exact ⟨e, listed, begins.trans (List.prefix_append _ _)⟩

theorem Escaped.of_entity {tail : List Char} (listed : '&' :: tail ∈ entities)
    (plain : ('&' :: tail).all fun c => c ≠ '<' ∧ c ≠ '>' ∧ c ≠ '"' ∧ c ≠ '\'')
    (once : '&' ∉ tail) : Escaped ('&' :: tail) where
  plain := fun c member => of_decide_eq_true (List.all_eq_true.1 plain c member)
  entity := by
    intro before after whole
    cases before with
    | nil => exact ⟨_, listed, whole ▸ List.prefix_rfl⟩
    | cons c before =>
      refine absurd ?_ once
      rw [(List.cons.inj whole).2]
      exact List.mem_append_right _ List.mem_cons_self

theorem escapeChar_escaped (c : Char) : Escaped (escapeChar c) := by
  unfold escapeChar
  split
  · exact .of_entity (by decide) (by decide) (by decide)
  · exact .of_entity (by decide) (by decide) (by decide)
  · exact .of_entity (by decide) (by decide) (by decide)
  · exact .of_entity (by decide) (by decide) (by decide)
  · exact .of_entity (by decide) (by decide) (by decide)
  · rename_i amp less greater double single
    constructor
    · intro d member
      cases List.mem_singleton.1 member
      exact ⟨less, greater, double, single⟩
    · intro before after whole
      have member : '&' ∈ [c] := whole ▸ List.mem_append_right _ List.mem_cons_self
      exact absurd (List.mem_singleton.1 member).symm amp

theorem escapeChars_escaped (cs : List Char) : Escaped (escapeChars cs) := by
  induction cs with
  | nil => exact .nil
  | cons c cs ih => exact (escapeChar_escaped c).append ih

theorem escapeChars_ne_nil {cs : List Char} (nonempty : cs ≠ []) : escapeChars cs ≠ [] := by
  intro empty
  have back := decodeChars_escapeChars cs
  rw [empty] at back
  exact nonempty back.symm

theorem Escaped.no_tag {run : List Char} (escaped : Escaped run) : '<' ∉ run :=
  fun member => (escaped.plain '<' member).1 rfl

/-- A closing tag is no beginning of an opening one. -/
theorem closing_append_inj {rest before after : List Char}
    (same : "</em>".toList ++ rest = before ++ ("<em>".toList ++ after)) :
    ∃ more, before = "</em>".toList ++ more ∧ rest = more ++ ("<em>".toList ++ after) := by
  cases before with
  | nil =>
    have slash := (List.cons.inj (List.cons.inj same).2).1
    exact absurd slash (by decide)
  | cons c before =>
    obtain ⟨rfl, later⟩ := List.cons.inj same
    have bare : '<' ∉ "/em>".toList := by decide
    obtain ⟨more, rfl, right⟩ := append_separator_inj bare later
    exact ⟨more, rfl, right⟩

/-- Elements of emphasis do not stand in one another: one is closed before the next is opened. -/
theorem Fragment.flat {html : List Char} (fragment : Fragment html) :
    ∀ before between after, html = before ++ ("<em>".toList ++ (between ++ ("<em>".toList ++ after))) →
      "</em>".toList <:+: between := by
  induction fragment with
  | nil =>
    intro before between after twice
    cases before <;> cases twice
  | @run run rest escaped more ih =>
    intro before between after twice
    obtain ⟨before, -, right⟩ := append_separator_inj escaped.no_tag twice
    exact ih before between after right
  | @emphasis run rest escaped nonempty more ih =>
    intro before between after twice
    simp only [List.append_assoc] at twice
    cases before with
    | nil =>
      -- The element that is opened first is the one of this step, so it is closed after its run.
      have inner : run ++ ("</em>".toList ++ rest) = between ++ ("<em>".toList ++ after) :=
        List.append_cancel_left twice
      obtain ⟨before, rfl, right⟩ := append_separator_inj escaped.no_tag inner
      obtain ⟨before, rfl, -⟩ := closing_append_inj right
      exact ⟨run, before, List.append_assoc _ _ _⟩
    | cons c before =>
      have later : ("em>".toList ++ run) ++ ("</em>".toList ++ rest) =
          before ++ ("<em>".toList ++ (between ++ ("<em>".toList ++ after))) :=
        (List.append_assoc _ _ _).trans (List.cons.inj twice).2
      have bare : '<' ∉ "em>".toList ++ run := by
        rw [List.mem_append, not_or]
        exact ⟨by decide, escaped.no_tag⟩
      obtain ⟨before, -, right⟩ := append_separator_inj bare later
      obtain ⟨before, -, right⟩ := closing_append_inj right
      exact ih before between after right

end Text.Html

open Text

namespace Span

/-- Spans that their HTML tells apart: none is empty, and no plain one follows a plain one. -/
def Apart : List Span → Prop
  | [] => True
  | s :: rest =>
    s.text ≠ [] ∧ (∀ next ∈ rest.head?, s.emphasized = true ∨ next.emphasized = true) ∧ Apart rest

/-- The span that stands after a tag, given the tag without its `<` and all up to the next one. -/
def ofPiece? : List Char → Option Span
  | 'e' :: 'm' :: '>' :: run => some (emphasis (Html.decodeChars run))
  | '/' :: 'e' :: 'm' :: '>' :: run =>
    if run.isEmpty then none else some (plain (Html.decodeChars run))
  | _ => none

/-- Reads the spans back. The text before the first tag is read as if it followed a closing one. -/
def ofHtml (html : String) : List Span :=
  if html.isEmpty then [plain []]
  else (splitAt '<' ("/em>".toList ++ html.toList)).filterMap ofPiece?

theorem apart_plain {cs : List Char} (nonempty : cs ≠ []) : Apart [plain cs] := by
  refine ⟨nonempty, ?_, trivial⟩
  intro next none
  cases none

theorem ended_of_nil {started : Bool} {rest : List Char} (there : started = true ∨ rest ≠ [])
    (none : rest = []) : (rest.isEmpty && started) = true := by
  cases there with
  | inl begun =>
    rw [none, begun]
    rfl
  | inr nonempty => exact absurd none nonempty

theorem scan_apart (p : Pattern) (started : Bool) (rest : List Char)
    (there : started = true ∨ rest ≠ []) : Apart (scan p started rest) := by
  fun_induction scan p started rest with
  | case1 started rest o found nonempty shorter before ih =>
    have matched : Apart (emphasis o.matched :: scan p true o.after) :=
      ⟨nonempty, fun _ _ => .inl rfl, ih (.inl rfl)⟩
    by_cases first : o.before = []
    · have bare : before = [] := dif_pos (List.isEmpty_iff.2 first)
      rw [bare]
      exact matched
    · have one : before = [plain o.before] := dif_neg (mt List.isEmpty_iff.1 first)
      rw [one]
      refine ⟨first, ?_, matched⟩
      intro next head
      cases head
      exact .inr rfl
  | case2 started rest o found empty ended => trivial
  | case3 started rest o found empty going =>
    exact apart_plain fun none => going (ended_of_nil there none)
  | case4 started rest found ended => trivial
  | case5 started rest found going =>
    exact apart_plain fun none => going (ended_of_nil there none)

theorem scan_nil (p : Pattern) : scan p false [] = [plain []] := by
  rw [scan]
  split
  · rename_i o found
    have parts : o.before ++ o.matched ++ o.after = [] := Regex.search_append found
    have nothing : o.matched = [] := by
      simp only [List.append_eq_nil_iff] at parts
      exact parts.1.2
    rw [dif_neg (not_not_intro nothing)]
    rfl
  · rfl

theorem ofLine_apart (p : Pattern) {l : Line} (some : l.content.toList ≠ []) :
    Apart (ofLine p l) := by
  unfold ofLine
  split
  · exact scan_apart p false _ (.inr some)
  · exact apart_plain some

theorem ofLine_nil (p : Pattern) {l : Line} (empty : l.content.toList = []) :
    ofLine p l = [plain []] := by
  rw [ofLine, empty, scan_nil, ite_self]

theorem toList_htmlOf (spans : List Span) : (htmlOf spans).toList = spans.flatMap html :=
  String.toList_ofList

theorem flatMap_html_fragment {spans : List Span} (apart : Apart spans) :
    Html.Fragment (spans.flatMap html) := by
  induction spans with
  | nil => exact .nil
  | cons s rest ih =>
    obtain ⟨text, emphasized⟩ := s
    obtain ⟨nonempty, -, apart⟩ := apart
    have escaped := Html.escapeChars_escaped text
    cases emphasized with
    | true => exact .emphasis escaped (Html.escapeChars_ne_nil nonempty) (ih apart)
    | false => exact .run escaped (ih apart)

theorem ofPiece?_opening (run : List Char) :
    ofPiece? ("em>".toList ++ run) = some (emphasis (Html.decodeChars run)) := rfl

theorem ofPiece?_closing {run : List Char} (nonempty : run ≠ []) :
    ofPiece? ("/em>".toList ++ run) = some (plain (Html.decodeChars run)) :=
  if_neg (mt List.isEmpty_iff.1 nonempty)

theorem splitAt_flatMap_html {spans : List Span} (led : ∀ s ∈ spans.head?, s.emphasized = true) :
    ∃ pieces, splitAt '<' (spans.flatMap html) = [] :: pieces := by
  cases spans with
  | nil => exact ⟨[], rfl⟩
  | cons s rest =>
    have opened : s.html = '<' :: ("em>".toList ++ Html.escapeChars s.text ++ "</em>".toList) :=
      if_pos (led s rfl)
    rw [List.flatMap_cons, opened, List.cons_append, splitAt_cons_self]
    exact ⟨_, rfl⟩

theorem filterMap_ofPiece? {spans : List Span} (apart : Apart spans) :
    (splitAt '<' ("/em>".toList ++ spans.flatMap html)).filterMap ofPiece? = spans := by
  induction spans with
  | nil => rfl
  | cons s rest ih =>
    obtain ⟨text, emphasized⟩ := s
    obtain ⟨nonempty, alternate, apart⟩ := apart
    have tag : '<' ∉ "/em>".toList := by decide
    have escaped := Html.not_mem_escapeChars text
    have back := Html.decodeChars_escapeChars text
    cases emphasized with
    | true =>
      have run : '<' ∉ "em>".toList ++ Html.escapeChars text := by
        rw [List.mem_append, not_or]
        exact ⟨by decide, escaped⟩
      have shape : "/em>".toList ++ (⟨text, true⟩ :: rest).flatMap html = "/em>".toList ++
          '<' :: ("em>".toList ++ Html.escapeChars text ++
            '<' :: ("/em>".toList ++ rest.flatMap html)) := by
        simp [html]
      rw [shape, splitAt_run_separator tag, splitAt_run_separator run, List.filterMap_cons_none rfl,
        List.filterMap_cons_some (ofPiece?_opening _), ih apart, back]
      rfl
    | false =>
      -- The run ends where an element or the line ends, and there the rest of the line is read.
      have led : ∀ next ∈ rest.head?, next.emphasized = true := by
        intro next head
        exact (alternate next head).resolve_left Bool.false_ne_true
      obtain ⟨pieces, cut⟩ := splitAt_flatMap_html led
      have later := ih apart
      rw [splitAt_run_append tag cut, List.append_nil, List.filterMap_cons_none rfl] at later
      have run : '<' ∉ "/em>".toList ++ Html.escapeChars text := by
        rw [List.mem_append, not_or]
        exact ⟨tag, escaped⟩
      have shape : "/em>".toList ++ (⟨text, false⟩ :: rest).flatMap html =
          ("/em>".toList ++ Html.escapeChars text) ++ rest.flatMap html := by
        simp [html]
      rw [shape, splitAt_run_append run cut, List.append_nil,
        List.filterMap_cons_some (ofPiece?_closing (Html.escapeChars_ne_nil nonempty)), later, back]
      rfl

end Span

namespace Line

/-- The spans are told by the HTML alone. -/
theorem ofHtml_html (p : Pattern) (l : Line) : Span.ofHtml (l.html p) = Span.ofLine p l := by
  by_cases empty : l.content.toList = []
  · have spans := Span.ofLine_nil p empty
    rw [html, spans]
    rfl
  · have shown := l.shownText_html p
    have some : (l.html p).isEmpty = false := by
      rw [Bool.eq_false_iff]
      intro none
      rw [String.isEmpty_iff.1 none, Html.shownText, String.toList_empty] at shown
      rw [← shown, String.toList_ofList] at empty
      exact empty rfl
    rw [Span.ofHtml, some, if_neg Bool.false_ne_true, html, Span.toList_htmlOf]
    exact Span.filterMap_ofPiece? (Span.ofLine_apart p empty)

theorem html_fragment (p : Pattern) (l : Line) : Html.Fragment (l.html p).toList := by
  rw [html, Span.toList_htmlOf]
  by_cases empty : l.content.toList = []
  · rw [Span.ofLine_nil p empty]
    exact .nil
  · exact Span.flatMap_html_fragment (Span.ofLine_apart p empty)

/-- What a page may count on when it takes in the HTML of a line. -/
structure Presented (p : Pattern) (l : Line) : Prop where
  fragment : Html.Fragment (l.html p).toList
  flat : ∀ before between after, (l.html p).toList =
    before ++ ("<em>".toList ++ (between ++ ("<em>".toList ++ after))) → "</em>".toList <:+: between
  shown : Html.shownText (l.html p) = l.content
  spans : Span.ofHtml (l.html p) = Span.ofLine p l

/-- The HTML of a line is safe and loses nothing, so two lines with the same HTML have the same
spans. -/
theorem html_presents (p : Pattern) (l : Line) :
    l.Presented p ∧ ∀ q m, l.html p = m.html q → Span.ofLine p l = Span.ofLine q m := by
  have fragment := l.html_fragment p
  refine ⟨⟨fragment, fragment.flat, l.shownText_html p, l.ofHtml_html p⟩, ?_⟩
  intro q m same
  rw [← l.ofHtml_html p, ← m.ofHtml_html q, same]

end Line

end CodeSearch
