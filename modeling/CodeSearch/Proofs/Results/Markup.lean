import CodeSearch.Results.Span

/-!
Reading the HTML of a line back. Without its tags the HTML of a line is its escaped text, and the
five entities decode to what was escaped; so nothing of the line gets lost and nothing is added.
-/
namespace CodeSearch

namespace Text.Html

def withoutTags : List Char → List Char
  | '<' :: 'e' :: 'm' :: '>' :: cs => withoutTags cs
  | '<' :: '/' :: 'e' :: 'm' :: '>' :: cs => withoutTags cs
  | c :: cs => c :: withoutTags cs
  | [] => []

/-- The text with its five entities decoded. An ampersand that begins none stays. -/
def decodeChars : List Char → List Char
  | '&' :: 'a' :: 'm' :: 'p' :: ';' :: cs => '&' :: decodeChars cs
  | '&' :: 'l' :: 't' :: ';' :: cs => '<' :: decodeChars cs
  | '&' :: 'g' :: 't' :: ';' :: cs => '>' :: decodeChars cs
  | '&' :: 'q' :: 'u' :: 'o' :: 't' :: ';' :: cs => '"' :: decodeChars cs
  | '&' :: '#' :: '3' :: '9' :: ';' :: cs => '\'' :: decodeChars cs
  | c :: cs => c :: decodeChars cs
  | [] => []

def shownText (html : String) : String := String.ofList (decodeChars (withoutTags html.toList))

theorem withoutTags_cons {c : Char} (plain : c ≠ '<') (cs : List Char) :
    withoutTags (c :: cs) = c :: withoutTags cs := by
  simp [withoutTags, plain]

theorem decodeChars_cons {c : Char} (plain : c ≠ '&') (cs : List Char) :
    decodeChars (c :: cs) = c :: decodeChars cs := by
  simp [decodeChars, plain]

theorem withoutTags_append {xs : List Char} (plain : '<' ∉ xs) (ys : List Char) :
    withoutTags (xs ++ ys) = xs ++ withoutTags ys := by
  induction xs with
  | nil => rfl
  | cons c cs ih =>
    have here := List.ne_of_not_mem_cons plain
    rw [List.cons_append, withoutTags_cons here.symm, ih (List.not_mem_of_not_mem_cons plain)]
    rfl

theorem not_mem_escapeChar (c : Char) : '<' ∉ escapeChar c := by
  unfold escapeChar
  split
  · decide
  · decide
  · decide
  · decide
  · decide
  · rename_i less _ _ _
    exact fun member => less (List.mem_singleton.1 member).symm

theorem not_mem_escapeChars (cs : List Char) : '<' ∉ escapeChars cs := by
  intro member
  obtain ⟨c, -, inside⟩ := List.mem_flatMap.1 member
  exact not_mem_escapeChar c inside

theorem decodeChars_escapeChar (c : Char) (cs : List Char) :
    decodeChars (escapeChar c ++ cs) = c :: decodeChars cs := by
  unfold escapeChar
  split
  · rfl
  · rfl
  · rfl
  · rfl
  · rfl
  · rename_i amp _ _ _ _
    exact decodeChars_cons amp cs

theorem decodeChars_escapeChars (cs : List Char) : decodeChars (escapeChars cs) = cs := by
  induction cs with
  | nil => rfl
  | cons c cs ih =>
    have step : escapeChars (c :: cs) = escapeChar c ++ escapeChars cs := rfl
    rw [step, decodeChars_escapeChar, ih]

theorem escapeChars_append (xs ys : List Char) :
    escapeChars (xs ++ ys) = escapeChars xs ++ escapeChars ys := List.flatMap_append

end Text.Html

open Text

namespace Span

theorem withoutTags_html (s : Span) (rest : List Char) :
    Html.withoutTags (s.html ++ rest) = Html.escapeChars s.text ++ Html.withoutTags rest := by
  have escaped := Html.not_mem_escapeChars s.text
  unfold html
  split
  · have opened : ∀ cs, Html.withoutTags ("<em>".toList ++ cs) = Html.withoutTags cs := fun _ => rfl
    have closed : ∀ cs, Html.withoutTags ("</em>".toList ++ cs) = Html.withoutTags cs := fun _ => rfl
    rw [List.append_assoc, List.append_assoc, opened, Html.withoutTags_append escaped, closed]
  · exact Html.withoutTags_append escaped rest

theorem withoutTags_flatMap_html (spans : List Span) :
    Html.withoutTags (spans.flatMap html) = Html.escapeChars (spans.flatMap text) := by
  induction spans with
  | nil => rfl
  | cons s spans ih =>
    rw [List.flatMap_cons, List.flatMap_cons, withoutTags_html, ih, Html.escapeChars_append]

theorem shownText_htmlOf (spans : List Span) :
    Html.shownText (htmlOf spans) = String.ofList (spans.flatMap text) := by
  rw [Html.shownText, htmlOf, String.toList_ofList, withoutTags_flatMap_html,
    Html.decodeChars_escapeChars]

theorem before_text (cs : List Char) : (if cs.isEmpty then [] else [plain cs]).flatMap text = cs := by
  cases cs with
  | nil => rfl
  | cons c cs => exact List.append_nil (c :: cs)

theorem eq_nil_of_ended {started : Bool} {rest : List Char}
    (ended : (rest.isEmpty && started) = true) : rest = [] := by
  simp only [Bool.and_eq_true, List.isEmpty_iff] at ended
  exact ended.1

theorem scan_text (p : Pattern) (started : Bool) (rest : List Char) :
    (scan p started rest).flatMap text = rest := by
  fun_induction scan p started rest with
  | case1 started rest o found nonempty shorter before ih =>
    have first : before.flatMap text = o.before := before_text o.before
    have parts : o.before ++ o.matched ++ o.after = rest := Regex.search_append found
    rw [List.flatMap_append, List.flatMap_cons, first, ih, ← parts, List.append_assoc]
    rfl
  | case2 started rest o found empty ended => exact (eq_nil_of_ended ended).symm
  | case3 started rest o found empty going => exact List.append_nil rest
  | case4 started rest found ended => exact (eq_nil_of_ended ended).symm
  | case5 started rest found going => exact List.append_nil rest

theorem ofLine_text (p : Pattern) (l : Line) : (ofLine p l).flatMap text = l.content.toList := by
  unfold ofLine
  split
  · exact scan_text p false l.content.toList
  · exact List.append_nil l.content.toList

end Span

namespace Line

theorem shownText_html (p : Pattern) (l : Line) : Html.shownText (l.html p) = l.content := by
  rw [html, Span.shownText_htmlOf, Span.ofLine_text, String.ofList_toList]

theorem not_mem_html {p : Pattern} {l : Line} (plain : l.isHit = false) :
    '<' ∉ (l.html p).toList := by
  have escaped : (l.html p).toList = Html.escapeChars l.content.toList := by
    rw [html, Span.htmlOf, Span.ofLine, plain, String.toList_ofList]
    exact List.append_nil _
  rw [escaped]
  exact Html.not_mem_escapeChars l.content.toList

end Line

end CodeSearch
