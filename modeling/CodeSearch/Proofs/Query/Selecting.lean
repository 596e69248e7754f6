import CodeSearch.Dialogue.Basic
import CodeSearch.Proofs.Query.History
import CodeSearch.Proofs.Regex.Quoting
import CodeSearch.Proofs.Text.Trimming
import CodeSearch.Query.Selection

/-!
Searching for what is selected on a page that shows a query. The encoded text of the query has none
of the characters at which a value ends, so it is replaced as a whole; nothing before it can be
taken for it, and nothing after it is looked at, whatever the repositories are.
-/
namespace CodeSearch

open Text

namespace Pattern

/-- Quoting puts no blank at either end, as the last character stays last. -/
theorem quote_trimmed {text : String} (trimmed : Trimmed text.toList) :
    Trimmed (quote text).toList := by
  rw [toList_quote]
  constructor
  · cases chars : text.toList with
    | nil => simp
    | cons c cs =>
      have bare : isBlank c = false := trimmed.1 c (by rw [chars]; rfl)
      obtain ⟨quoted, -⟩ | ⟨quoted, -⟩ := quoteChar_eq c
      · simpa [quoted] using bare
      · simp [quoted]
        decide
  · rcases List.eq_nil_or_concat text.toList with none | ⟨cs, c, chars⟩
    · simp [none]
    · have bare : isBlank c = false := trimmed.2 c (by simp [chars])
      obtain ⟨quoted, -⟩ | ⟨quoted, -⟩ := quoteChar_eq c <;> simpa [chars, quoted] using bare

theorem quote_ne_nil {text : String} (nonempty : text ≠ "") : (quote text).toList ≠ [] := by
  rw [toList_quote]
  cases chars : text.toList with
  | nil => exact absurd (String.toList_eq_nil_iff.1 chars) nonempty
  | cons c cs => obtain ⟨quoted, -⟩ | ⟨quoted, -⟩ := quoteChar_eq c <;> simp [quoted]

/-- A quoted text begins with no character that has a meaning in patterns, but for a backslash. -/
theorem quote_head {text : String} {c : Char} (first : (quote text).toList.head? = some c)
    (meant : c ∈ Regex.metaChars) : c = '\\' := by
  rw [toList_quote] at first
  cases chars : text.toList with
  | nil => simp [chars] at first
  | cons d ds =>
    rw [chars] at first
    obtain ⟨quoted, other⟩ | ⟨quoted, -⟩ := quoteChar_eq d
    · simp [quoted] at first
      exact absurd (first ▸ meant) other
    · simp [quoted] at first
      exact first.symm

end Pattern

/-- The query that searches for a selection in the place of another text. -/
def Query.selecting (q : Query) (selected : String) : Query :=
  { q with text := Pattern.quote (trim selected) }

namespace Selection

theorem replaceValue_cons {value cs : List Char} {mark : Char}
    (other : mark = '?' ∨ mark = '&' → ∀ c rest, cs = 'q' :: '=' :: c :: rest → inValue c = false) :
    replaceValue value (mark :: cs) = mark :: replaceValue value cs := by
  rw [replaceValue.eq_def]
  dsimp only
  split
  · rename_i c rest marked
    have ended := other (by simpa using marked) c rest rfl
    rw [if_neg (by rw [ended]; decide)]
  · rfl

theorem replaceValue_at_mark {value : List Char} {mark c : Char} (marked : mark = '?' ∨ mark = '&')
    (inside : inValue c = true) (rest : List Char) :
    replaceValue value (mark :: 'q' :: '=' :: c :: rest) =
      mark :: 'q' :: '=' :: (value ++ rest.dropWhile inValue) := by
  have here : (mark == '?' || mark == '&') = true := by simpa using marked
  simp only [replaceValue, here, inside, if_true]

theorem replaceValue_unmarked {value run : List Char} (first : '?' ∉ run) (later : '&' ∉ run)
    (rest : List Char) :
    replaceValue value (run ++ rest) = run ++ replaceValue value rest := by
  induction run with
  | nil => rfl
  | cons c cs ih =>
    have plain : ¬ (c = '?' ∨ c = '&') := by
      rintro (rfl | rfl)
      · exact first List.mem_cons_self
      · exact later List.mem_cons_self
    rw [List.cons_append, replaceValue_cons fun marked => absurd marked plain,
      ih (List.not_mem_of_not_mem_cons first) (List.not_mem_of_not_mem_cons later)]
    rfl

/-- A value that ends only where the next pair begins is replaced as a whole. -/
theorem replaceValue_whole {value old : List Char} {mark : Char} (marked : mark = '?' ∨ mark = '&')
    (nonempty : old ≠ []) (inside : ∀ c ∈ old, inValue c = true) (rest : List Char) :
    replaceValue value (mark :: 'q' :: '=' :: (old ++ '&' :: rest)) =
      mark :: 'q' :: '=' :: (value ++ '&' :: rest) := by
  cases old with
  | nil => exact absurd rfl nonempty
  | cons c cs =>
    have ended : (cs ++ '&' :: rest).dropWhile inValue = '&' :: rest := by
      rw [List.dropWhile_append_of_pos fun d member => inside d (List.mem_cons_of_mem c member)]
      rfl
    rw [List.cons_append, replaceValue_at_mark marked (inside c List.mem_cons_self), ended]

theorem forall_inValue_iff {value : List Char} :
    (∀ c ∈ value, inValue c = true) ↔ '&' ∉ value ∧ '$' ∉ value := by
  constructor
  · intro inside
    exact ⟨fun member => absurd (inside '&' member) (by decide),
      fun member => absurd (inside '$' member) (by decide)⟩
  · rintro ⟨whole, plain⟩ c member
    have amp : c ≠ '&' := fun same => whole (same ▸ member)
    have dollar : c ≠ '$' := fun same => plain (same ▸ member)
    simp [inValue, amp, dollar]

theorem inValue_of_encoded (cs : List Char) : ∀ c ∈ Percent.encodeChars cs, inValue c = true :=
  forall_inValue_iff.2 ⟨Percent.not_mem_encodeChars (by decide) cs,
    Percent.not_mem_encodeChars (by decide) cs⟩

/-- Where the text of a query stands in its address, and that nothing else depends on it. -/
theorem address_text (q : Query) : ∃ rest, ∀ text : String,
    ({ q with text := text } : Query).address.toList =
      '?' :: 'q' :: '=' :: (Percent.encodeChars text.toList ++ '&' :: rest) := by
  refine ⟨("i".toList ++ '=' :: Percent.encodeChars q.caseFlag.toList) ++
    '&' :: (("files".toList ++ '=' :: Percent.encodeChars q.files.toList) ++
      '&' :: ("repos=".toList ++ q.repos.toList)), fun text => ?_⟩
  rw [Query.toList_address]
  rfl

/-- A selection that can be searched for: not blank, and on one line. -/
structure Selectable (selected : String) : Prop where
  nonempty : trim selected ≠ ""
  oneLine : '\r' ∉ (trim selected).toList ∧ '\n' ∉ (trim selected).toList

theorem selectable_iff {selected : String} : Selectable selected ↔
    ((trimChars selected.toList).isEmpty || (trimChars selected.toList).any isLineEnd) = false := by
  have empty : trim selected = "" ↔ trimChars selected.toList = [] := by
    rw [← toList_trim, String.toList_eq_nil_iff]
  constructor
  · rintro ⟨nonempty, oneLine⟩
    rw [Bool.or_eq_false_iff, List.isEmpty_eq_false_iff, List.any_eq_false]
    refine ⟨fun none => nonempty (empty.2 none), fun c member ended => ?_⟩
    rw [toList_trim] at oneLine
    simp only [isLineEnd, Bool.or_eq_true, beq_iff_eq] at ended
    rcases ended with rfl | rfl
    · exact oneLine.1 member
    · exact oneLine.2 member
  · intro good
    rw [Bool.or_eq_false_iff, List.isEmpty_eq_false_iff, List.any_eq_false] at good
    constructor
    case nonempty => exact fun none => good.1 (empty.1 none)
    case oneLine =>
      rw [toList_trim]
      exact ⟨fun member => good.2 _ member rfl, fun member => good.2 _ member rfl⟩

theorem address?_of_selectable {selected : String} (good : Selectable selected) (page : String) :
    address? page selected = some (String.ofList (replaceValue
      (Percent.encodeChars (Pattern.quote (trim selected)).toList) page.toList)) := by
  rw [Pattern.toList_quote, toList_trim]
  unfold address?
  dsimp only
  rw [selectable_iff.1 good]
  rfl

theorem address?_of_not_selectable {selected : String} (bad : ¬ Selectable selected)
    (page : String) : address? page selected = none := by
  rw [selectable_iff, Bool.not_eq_false] at bad
  unfold address?
  dsimp only
  rw [bad]
  rfl

theorem address?_eq_some_iff {selected page address : String} :
    address? page selected = some address ↔ Selectable selected ∧
      address.toList = replaceValue
        (Percent.encodeChars (Pattern.quote (trim selected)).toList) page.toList := by
  by_cases good : Selectable selected
  · rw [address?_of_selectable good, Option.some.injEq, ← String.toList_inj, String.toList_ofList]
    constructor
    · exact fun same => ⟨good, same.symm⟩
    · exact fun same => same.2.symm
  · rw [address?_of_not_selectable good]
    constructor
    · intro none
      cases none
    · exact fun same => absurd same.1 good

theorem address?_page {selected place : String} (good : Selectable selected) {q : Query}
    (first : '?' ∉ place.toList) (later : '&' ∉ place.toList) (asked : q.text ≠ "") :
    address? (place ++ q.address) selected = some (place ++ (q.selecting selected).address) := by
  obtain ⟨rest, written⟩ := address_text q
  have old : Percent.encodeChars q.text.toList ≠ [] :=
    Percent.encodeChars_ne_nil fun none => asked (String.toList_eq_nil_iff.1 none)
  refine address?_eq_some_iff.2 ⟨good, ?_⟩
  rw [String.toList_append, String.toList_append, replaceValue_unmarked first later, written q.text,
    replaceValue_whole (.inl rfl) old (inValue_of_encoded _)]
  exact congrArg _ (written _)

/-- On a page that shows a query, the address for a selection is that of the query which searches
for it, and no step of a search trims this query again. A selection that is blank or of several
lines has no address, whatever the page. -/
theorem address?_selecting (selected : String) :
    (Selectable selected → ∀ (place : String) (q : Query), '?' ∉ place.toList →
      '&' ∉ place.toList → q.text ≠ "" →
        address? (place ++ q.address) selected = some (place ++ (q.selecting selected).address) ∧
        (q.selecting selected).trimmed = q.selecting selected ∧
        ∀ wording, Dialogue.patternOf wording (q.selecting selected) =
          Pattern.compile wording (q.selecting selected).text { ignoreCase := q.ignoresCase }) ∧
    (¬ Selectable selected → ∀ page, address? page selected = none) := by
  constructor
  · intro good place q first later asked
    have kept : trim (q.selecting selected).text = (q.selecting selected).text :=
      trim_of_trimmed (Pattern.quote_trimmed (trim_trimmed selected))
    refine ⟨address?_page good first later asked, ?_, ?_⟩
    · rw [Query.trimmed, kept]
    · intro wording
      have flag : (q.selecting selected).ignoresCase = q.ignoresCase := by
        simp only [Query.ignoresCase, Query.selecting]
      rw [Dialogue.patternOf, kept, flag]
  · exact address?_of_not_selectable

/-- Repositories that look like another pair with a text, and a selection that is quoted. -/
theorem address?_selecting_raw :
    let q : Query := ⟨"old & x", "nope", "", "a,b&q=1?q=2$"⟩
    Selectable "  a.b(c)\n" ∧ '?' ∉ "https://h/".toList ∧ '&' ∉ "https://h/".toList ∧
      q.text ≠ "" ∧ ¬ Selectable "one\ntwo" ∧
      address? ("https://h/" ++ q.address) "  a.b(c)\n" =
        some "https://h/?q=a%5C.b%5C%28c%5C%29&i=nope&files=&repos=a,b&q=1?q=2$" ∧
      address? ("https://h/" ++ q.address) "one\ntwo" = none := by
  intro q
  have good : Selectable "  a.b(c)\n" := ⟨by decide +kernel, by decide +kernel⟩
  have bad : ¬ Selectable "one\ntwo" := fun lines => lines.oneLine.2 (by decide +kernel)
  have found := ((address?_selecting "  a.b(c)\n").1 good "https://h/" q (by decide) (by decide)
    (by decide)).1
  exact ⟨good, by decide, by decide, by decide, bad, found.trans (by decide +kernel),
    (address?_selecting "one\ntwo").2 bad _⟩

end Selection

end CodeSearch
