import CodeSearch.Proofs.Query.Selecting
import Mathlib.Data.List.TakeWhile

/-!
Following the address for a selection. On a page whose address has one pair with a text, it leads to
the same query with the selection in the place of this text, unless a dollar sign is in it: then the
value is taken to end there, and the rest of it stays.
-/
namespace CodeSearch

open Text

namespace Selection

/-- A value that does not end the pair that it is in. -/
structure Enclosed (value : List Char) : Prop where
  whole : '&' ∉ value
  single : '=' ∉ value
  inside : '#' ∉ value

structure Setting where
  key : String
  value : List Char
  known : key ∈ ["i", "files", "repos"]
  enclosed : Enclosed value

def Setting.chars (s : Setting) : List Char := s.key.toList ++ '=' :: s.value

theorem Setting.plain (s : Setting) : s.key.toList.head? ≠ some 'q' ∧ '?' ∉ s.key.toList ∧
    '&' ∉ s.key.toList ∧ '#' ∉ s.key.toList ∧ '=' ∉ s.key.toList ∧ '%' ∉ s.key.toList := by
  have keys : ∀ key ∈ ["i", "files", "repos"], key.toList.head? ≠ some 'q' ∧ '?' ∉ key.toList ∧
      '&' ∉ key.toList ∧ '#' ∉ key.toList ∧ '=' ∉ key.toList ∧ '%' ∉ key.toList := by decide
  exact keys s.key s.known

/-- The address of a page: a place, and pairs of which just one is a text. -/
structure PageAddress where
  place : List Char
  before : List Setting
  value : List Char
  after : List Setting
  bare : '?' ∉ place ∧ '&' ∉ place ∧ '#' ∉ place
  nonempty : value ≠ []
  enclosed : Enclosed value

/-- The query of an address goes from its first question mark to a number sign. -/
def queryPart (address : String) : String :=
  String.ofList ((address.toList.dropWhile (· != '?')).takeWhile (· != '#'))

namespace PageAddress

def pieces (a : PageAddress) (value : List Char) : List (List Char) :=
  a.before.map Setting.chars ++ ('q' :: '=' :: value) :: a.after.map Setting.chars

def withValue (a : PageAddress) (value : List Char) : List Char :=
  a.place ++ '?' :: ['&'].intercalate (a.pieces value)

def text (a : PageAddress) : String := String.ofList (a.withValue a.value)

end PageAddress

/-! What is replaced. -/

theorem replaceValue_unpaired {value run rest : List Char} (single : '=' ∉ run)
    (next : ∀ c ∈ rest.head?, c = '&') :
    replaceValue value (run ++ rest) = run ++ replaceValue value rest := by
  induction run with
  | nil => rfl
  | cons mark cs ih =>
    have none : ∀ c after, cs ++ rest ≠ 'q' :: '=' :: c :: after := by
      intro c after same
      -- The equals sign would be in the run or begin the rest, or else a `q` begins the rest.
      match cs with
      | [] => exact absurd (next 'q' (congrArg List.head? same)) (by decide)
      | [q] => exact absurd (next '=' (congrArg List.head? (List.cons.inj same).2)) (by decide)
      | q :: e :: more =>
        have sign : e = '=' := (List.cons.inj (List.cons.inj same).2).1
        simp [sign] at single
    rw [List.cons_append, replaceValue_cons fun _ c after same => absurd same (none c after),
      ih (List.not_mem_of_not_mem_cons single)]
    rfl

theorem replaceValue_setting {value rest : List Char} {mark : Char} (s : Setting)
    (next : ∀ c ∈ rest.head?, c = '&') :
    replaceValue value (mark :: (s.chars ++ rest)) = mark :: (s.chars ++ replaceValue value rest) := by
  obtain ⟨other, first, later, -⟩ := s.plain
  have notText : ∀ c after, s.chars ++ rest ≠ 'q' :: '=' :: c :: after := by
    intro c after same
    have head := congrArg List.head? same
    cases named : s.key.toList with
    | nil => simp [Setting.chars, named] at head
    | cons d ds => simp_all [Setting.chars]
  have parts : s.chars ++ rest = (s.key.toList ++ ['=']) ++ (s.value ++ rest) := by
    simp [Setting.chars]
  rw [replaceValue_cons fun _ c after same => absurd same (notText c after), parts,
    replaceValue_unmarked (by simp [first]) (by simp [later]),
    replaceValue_unpaired s.enclosed.single next]
  simp [Setting.chars]

theorem head?_flatMap_cons (settings : List Setting) :
    ∀ c ∈ (settings.flatMap fun s => '&' :: s.chars).head?, c = '&' := by
  intro c first
  cases settings with
  | nil => cases first
  | cons s settings => exact (Option.some.inj first).symm

theorem replaceValue_after (new : List Char) (settings : List Setting) :
    replaceValue new (settings.flatMap fun s => '&' :: s.chars) =
      settings.flatMap fun s => '&' :: s.chars := by
  induction settings with
  | nil => rfl
  | cons s settings ih =>
    rw [List.flatMap_cons, List.cons_append,
      replaceValue_setting s (head?_flatMap_cons settings), ih]

theorem dropWhile_inValue_append {old rest : List Char} (next : ∀ c ∈ rest.head?, c = '&') :
    (old ++ rest).dropWhile inValue = old.dropWhile inValue ++ rest := by
  have ended : rest.dropWhile inValue = rest := by
    cases rest with
    | nil => rfl
    | cons c cs =>
      rw [next c rfl]
      rfl
  rw [List.dropWhile_append]
  split
  · rename_i empty
    rw [ended, List.isEmpty_iff.1 empty]
    rfl
  · rfl

/-- What a value becomes: nothing is replaced if it begins with a dollar sign. -/
def replaced (new old : List Char) : List Char :=
  if old.takeWhile inValue = [] then old else new ++ old.dropWhile inValue

theorem replaceValue_text {new value : List Char} {mark : Char} (marked : mark = '?' ∨ mark = '&')
    (nonempty : value ≠ []) (single : '=' ∉ value) (settings : List Setting) :
    replaceValue new (mark :: 'q' :: '=' :: (value ++ settings.flatMap fun s => '&' :: s.chars)) =
      mark :: 'q' :: '=' :: (replaced new value ++ settings.flatMap fun s => '&' :: s.chars) := by
  have next := head?_flatMap_cons settings
  cases value with
  | nil => exact absurd rfl nonempty
  | cons c cs =>
    by_cases inside : inValue c = true
    · rw [List.cons_append, replaceValue_at_mark marked inside, dropWhile_inValue_append next]
      simp [replaced, inside]
    · have ended : ∀ d after, 'q' :: '=' :: ((c :: cs) ++ settings.flatMap fun s => '&' :: s.chars) =
          'q' :: '=' :: d :: after → inValue d = false := by
        intro d after same
        have first : c = d := (List.cons.inj (List.cons.inj (List.cons.inj same).2).2).1
        exact Bool.eq_false_iff.2 (first ▸ inside)
      have key : replaceValue new (['q', '='] ++ ((c :: cs) ++
          settings.flatMap fun s => '&' :: s.chars)) =
          ['q', '='] ++ ((c :: cs) ++ settings.flatMap fun s => '&' :: s.chars) := by
        rw [replaceValue_unmarked (by decide) (by decide), replaceValue_unpaired single next,
          replaceValue_after]
      rw [replaceValue_cons fun _ => ended]
      simpa [replaced, inside] using key

theorem replaceValue_joined {new value : List Char} {mark : Char} (marked : mark = '?' ∨ mark = '&')
    (nonempty : value ≠ []) (single : '=' ∉ value) (before after : List Setting) :
    replaceValue new (mark :: ['&'].intercalate
        (before.map Setting.chars ++ ('q' :: '=' :: value) :: after.map Setting.chars)) =
      mark :: ['&'].intercalate (before.map Setting.chars ++
        ('q' :: '=' :: replaced new value) :: after.map Setting.chars) := by
  induction before generalizing mark with
  | nil =>
    simp only [List.map_nil, List.nil_append, intercalate_cons, List.flatMap_map]
    exact replaceValue_text marked nonempty single after
  | cons s before ih =>
    have joined : ∀ value : List Char, ['&'].intercalate ((s :: before).map Setting.chars ++
        ('q' :: '=' :: value) :: after.map Setting.chars) =
        s.chars ++ '&' :: ['&'].intercalate (before.map Setting.chars ++
          ('q' :: '=' :: value) :: after.map Setting.chars) := by
      intro value
      cases before with
      | nil => simp [intercalate_cons]
      | cons t before => simp [intercalate_cons]
    rw [joined, joined, replaceValue_setting s (by simp), ih (.inr rfl)]

theorem PageAddress.replaceValue_withValue (a : PageAddress) (new : List Char) :
    replaceValue new (a.withValue a.value) = a.withValue (replaced new a.value) := by
  rw [withValue, replaceValue_unmarked a.bare.1 a.bare.2.1,
    pieces, replaceValue_joined (.inl rfl) a.nonempty a.enclosed.single]
  rfl

/-! What is read. -/

theorem Setting.not_mem_chars {c : Char} (s : Setting) (separator : c = '&' ∨ c = '#') :
    c ∉ s.chars := by
  obtain ⟨-, -, amp, sign, -⟩ := s.plain
  rcases separator with rfl | rfl
  · simp [Setting.chars, amp, s.enclosed.whole]
  · simp [Setting.chars, sign, s.enclosed.inside]

theorem PageAddress.not_mem_pieces {c : Char} (a : PageAddress) {value : List Char}
    (separator : c = '&' ∨ c = '#') (absent : c ∉ value) : ∀ piece ∈ a.pieces value, c ∉ piece := by
  intro piece member
  simp only [pieces, List.mem_append, List.mem_cons, List.mem_map] at member
  rcases member with ⟨s, -, rfl⟩ | rfl | ⟨s, -, rfl⟩
  · exact s.not_mem_chars separator
  · rcases separator with rfl | rfl <;> simp [absent]
  · exact s.not_mem_chars separator

theorem forall_bne_of_not_mem {d : Char} {cs : List Char} (absent : d ∉ cs) :
    ∀ c ∈ cs, (c != d) = true :=
  fun _ member => bne_iff_ne.2 fun same => absent (same ▸ member)

theorem queryPart_withValue (a : PageAddress) {value : List Char} (inside : '#' ∉ value) :
    queryPart (String.ofList (a.withValue value)) =
      String.ofList ('?' :: ['&'].intercalate (a.pieces value)) := by
  have rest : '#' ∉ '?' :: ['&'].intercalate (a.pieces value) := by
    refine List.not_mem_cons_of_ne_of_not_mem (by decide) ?_
    exact not_mem_intercalate (by decide) (a.not_mem_pieces (.inr rfl) inside)
  rw [queryPart, String.toList_ofList, PageAddress.withValue,
    List.dropWhile_append_of_pos (forall_bne_of_not_mem a.bare.1),
    List.dropWhile_cons_of_neg (by decide),
    List.takeWhile_eq_self_iff.2 (forall_bne_of_not_mem rest)]

theorem Setting.ofPiece_ne_text (s : Setting) (value : String) :
    UrlPair.ofPiece s.chars ≠ .pair "q" value := by
  intro read
  obtain ⟨other, -, -, -, single, plain⟩ := s.plain
  obtain ⟨left, right, cut, absent, -, readKey, -⟩ := UrlPair.ofPiece_eq_pair.1 read
  obtain ⟨rfl, -⟩ := append_separator_cancel single absent cut
  rw [Percent.decodeChars?_of_unescaped (Percent.unescaped_of_not_mem plain)] at readKey
  exact other (congrArg List.head? (Option.some.inj readKey))

/-- The text that a value writes; if it writes none, the text stays blank. -/
def readText (value : List Char) : String :=
  ((Percent.decodeChars? (value.map UrlPair.plusToBlank)).map String.ofList).getD ""

theorem take_ofPiece_text {value : List Char} (single : '=' ∉ value) {q : Query} (blank : q.text = "") :
    q.take (UrlPair.ofPiece ('q' :: '=' :: value)) = { q with text := readText value } := by
  have cut : splitAt '=' ('q' :: '=' :: value) = [['q'], value] :=
    splitAt_eq_pair.2 ⟨rfl, by decide, single⟩
  have key : Percent.decodeChars? ['q'] = some ['q'] :=
    Percent.decodeChars?_of_unescaped (Percent.unescaped_of_not_mem (by decide))
  unfold UrlPair.ofPiece readText
  simp only [cut, key]
  cases Percent.decodeChars? (value.map UrlPair.plusToBlank) with
  | none => simp [Query.take, ← blank]
  | some read => rfl

def PageAddress.rest (a : PageAddress) : Query :=
  ((a.before ++ a.after).map fun s => UrlPair.ofPiece s.chars).foldl Query.take {}

theorem ofAddress_withValue (a : PageAddress) {value : List Char} (enclosed : Enclosed value) :
    Query.ofAddress (queryPart (String.ofList (a.withValue value))) =
      { a.rest with text := readText value } := by
  have others : ∀ settings : List Setting, ∀ p ∈ settings.map fun s => UrlPair.ofPiece s.chars,
      Query.Field.text.Foreign p := by
    intro settings p member
    obtain ⟨s, -, rfl⟩ := List.mem_map.1 member
    exact s.ofPiece_ne_text
  have cut : splitAt '&' (['&'].intercalate (a.pieces value)) = a.pieces value :=
    splitAt_intercalate (by simp [PageAddress.pieces]) (a.not_mem_pieces (.inl rfl) enclosed.whole)
  have pairs : UrlPair.ofAddress (String.ofList ('?' :: ['&'].intercalate (a.pieces value))) =
      (a.before.map fun s => UrlPair.ofPiece s.chars) ++
        UrlPair.ofPiece ('q' :: '=' :: value) :: a.after.map fun s => UrlPair.ofPiece s.chars := by
    rw [UrlPair.ofAddress, String.toList_ofList, List.head?_cons, if_pos rfl, List.tail_cons, cut]
    simp [PageAddress.pieces, Function.comp_def]
  have blank : ((a.before.map fun s => UrlPair.ofPiece s.chars).foldl Query.take {}).text = "" :=
    Query.Field.get_foldl_foreign (others a.before) {}
  have later : ∀ q : Query, (a.after.map fun s => UrlPair.ofPiece s.chars).foldl Query.take
      { q with text := readText value } =
        { (a.after.map fun s => UrlPair.ofPiece s.chars).foldl Query.take q with
          text := readText value } :=
    Query.Field.foldl_take_put (others a.after) (readText value)
  rw [queryPart_withValue a enclosed.inside, Query.ofAddress, pairs, List.foldl_append,
    List.foldl_cons, take_ofPiece_text enclosed.single blank, later, PageAddress.rest,
    List.map_append, List.foldl_append]

/-! Both sides together. -/

theorem replaced_whole {new value : List Char} (nonempty : value ≠ [])
    (inside : ∀ c ∈ value, inValue c = true) : replaced new value = new := by
  have kept : value.takeWhile inValue = value := List.takeWhile_eq_self_iff.2 inside
  have gone : value.dropWhile inValue = [] := List.dropWhile_eq_nil_iff.2 inside
  rw [replaced, kept, if_neg nonempty, gone, List.append_nil]

/-- What a dollar sign leaves, and that it stands at the front if nothing is replaced. -/
theorem replaced_dollar (new : List Char) {value : List Char} (whole : '&' ∉ value)
    (dollar : '$' ∈ value) : ∃ left, replaced new value = '$' :: left ∨
      replaced new value = new ++ '$' :: left := by
  cases left : value.dropWhile inValue with
  | nil =>
    have inside := List.dropWhile_eq_nil_iff.1 left
    exact absurd dollar (forall_inValue_iff.1 inside).2
  | cons c cs =>
    have ended : inValue c = false := by
      have first := List.head?_dropWhile_not inValue value
      rwa [left] at first
    have sign : c = '$' := by
      have amp : c ≠ '&' := by
        rintro rfl
        exact whole ((List.dropWhile_sublist _).mem (left ▸ List.mem_cons_self))
      simpa [inValue, amp] using ended
    refine ⟨cs, ?_⟩
    by_cases front : value.takeWhile inValue = []
    · left
      rw [replaced, if_pos front, ← List.takeWhile_append_dropWhile (p := inValue) (l := value),
        front, left, sign]
      rfl
    · right
      rw [replaced, if_neg front, left, sign]

theorem replaced_enclosed {new value : List Char} (good : Enclosed new) (old : Enclosed value) :
    Enclosed (replaced new value) := by
  have kept : ∀ c, c ∉ new → c ∉ value → c ∉ replaced new value := by
    intro c absent absent' member
    unfold replaced at member
    split at member
    · exact absent' member
    · cases List.mem_append.1 member with
      | inl here => exact absent here
      | inr here => exact absent' ((List.dropWhile_sublist _).mem here)
  exact ⟨kept _ good.whole old.whole, kept _ good.single old.single, kept _ good.inside old.inside⟩

theorem encodeChars_enclosed (cs : List Char) : Enclosed (Percent.encodeChars cs) where
  whole := Percent.not_mem_encodeChars (by decide) cs
  single := Percent.not_mem_encodeChars (by decide) cs
  inside := Percent.not_mem_encodeChars (by decide) cs

theorem readText_encodeChars (cs : List Char) :
    readText (Percent.encodeChars cs) = String.ofList cs := by
  rw [readText, UrlPair.plusToBlank_of_not_mem (Percent.not_mem_encodeChars (by decide) cs),
    Percent.decodeChars?_encodeChars]
  rfl

/-- A value with a dollar sign in it does not become one that reads as the selection. -/
theorem readText_replaced_dollar {quoted value : List Char} (nonempty : quoted ≠ [])
    (first : quoted.head? ≠ some '$') (whole : '&' ∉ value) (dollar : '$' ∈ value) :
    readText (replaced (Percent.encodeChars quoted) value) ≠ String.ofList quoted := by
  intro same
  have sign : UrlPair.plusToBlank '$' = '$' := by decide
  have narrow : ∀ cs, encode ('$' :: cs) = 36 :: encode cs := fun cs => rfl
  unfold readText at same
  cases read : Percent.decodeChars?
      ((replaced (Percent.encodeChars quoted) value).map UrlPair.plusToBlank) with
  | none =>
    rw [read] at same
    exact nonempty (String.ofList_injective same.symm)
  | some cs =>
    rw [read] at same
    have here : cs = quoted := String.ofList_injective same
    have bytes := encode_of_decode? (here ▸ read)
    obtain ⟨left, front | behind⟩ := replaced_dollar (Percent.encodeChars quoted) whole dollar
    · rw [front, List.map_cons, sign, narrow, Percent.decodeBytes_cons (by decide)] at bytes
      obtain ⟨cs, rfl, -⟩ := encode_eq_cons (by decide) bytes
      exact first rfl
    · rw [behind, List.map_append, List.map_cons, sign, UrlPair.plusToBlank_of_not_mem
        (Percent.not_mem_encodeChars (by decide) quoted), encode_append,
        Percent.decodeBytes_encodeChars_append, narrow, Percent.decodeBytes_cons (by decide)] at bytes
      have size := congrArg List.length bytes
      simp at size

/-- The address for a selection leads to the query of the page with the selection in the place of
its text exactly if there is no dollar sign in this text as the address has it. -/
theorem address?_follows_iff (a : PageAddress) {selected address : String}
    (found : address? a.text selected = some address) :
    Query.ofAddress (queryPart address) = (Query.ofAddress (queryPart a.text)).selecting selected ↔
      '$' ∉ a.value := by
  obtain ⟨good, written⟩ := address?_eq_some_iff.1 found
  let quoted := (Pattern.quote (trim selected)).toList
  have same : address = String.ofList (a.withValue (replaced (Percent.encodeChars quoted) a.value)) := by
    rw [← a.replaceValue_withValue, ← String.toList_inj, written, PageAddress.text,
      String.toList_ofList, String.toList_ofList]
  have enclosed := replaced_enclosed (encodeChars_enclosed quoted) a.enclosed
  have text : String.ofList quoted = Pattern.quote (trim selected) := String.ofList_toList
  rw [same, ofAddress_withValue a enclosed, PageAddress.text, ofAddress_withValue a a.enclosed,
    Query.selecting, ← text]
  constructor
  · intro leads dollar
    have first : quoted.head? ≠ some '$' := fun first =>
      absurd (Pattern.quote_head first (by decide)) (by decide)
    exact readText_replaced_dollar (Pattern.quote_ne_nil good.nonempty) first a.enclosed.whole dollar
      (congrArg Query.text leads)
  · intro plain
    rw [replaced_whole a.nonempty (forall_inValue_iff.2 ⟨a.enclosed.whole, plain⟩),
      readText_encodeChars]

/-- A text that is not written as the page would write it, between other pairs. -/
theorem address?_follows_unencoded :
    let a : PageAddress := {
      place := "https://h/".toList
      before := [⟨"i", "fosho".toList, by decide, ⟨by decide, by decide, by decide⟩⟩]
      value := "a b?c+%C3%A9".toList
      after := [⟨"repos", "x%2Cy".toList, by decide, ⟨by decide, by decide, by decide⟩⟩]
      bare := by decide
      nonempty := by decide
      enclosed := ⟨by decide, by decide, by decide⟩ }
    address? a.text " f(x) " = some "https://h/?i=fosho&q=f%5C%28x%5C%29&repos=x%2Cy" ∧
      '$' ∉ a.value ∧ Query.ofAddress (queryPart a.text) = ⟨"a b?c é", "fosho", "", "x,y"⟩ ∧
      Query.ofAddress (queryPart "https://h/?i=fosho&q=f%5C%28x%5C%29&repos=x%2Cy") =
        (Query.ofAddress (queryPart a.text)).selecting " f(x) " := by
  intro a
  have found : address? a.text " f(x) " =
      some "https://h/?i=fosho&q=f%5C%28x%5C%29&repos=x%2Cy" := by decide +kernel
  have plain : '$' ∉ a.value := by decide
  exact ⟨found, plain, by decide +kernel, (address?_follows_iff a found).2 plain⟩

/-- What follows a dollar sign stays behind the selection and is searched for with it. -/
theorem address?_keeps_dollar :
    let a : PageAddress := {
      place := "https://h/".toList
      before := []
      value := "a$b".toList
      after := [⟨"i", "nope".toList, by decide, ⟨by decide, by decide, by decide⟩⟩]
      bare := by decide
      nonempty := by decide
      enclosed := ⟨by decide, by decide, by decide⟩ }
    a.text = "https://h/?q=a$b&i=nope" ∧
      address? a.text "foo" = some "https://h/?q=foo$b&i=nope" ∧
      (Query.ofAddress (queryPart a.text)).selecting "foo" = ⟨"foo", "nope", "", "*"⟩ ∧
      Query.ofAddress (queryPart "https://h/?q=foo$b&i=nope") = ⟨"foo$b", "nope", "", "*"⟩ ∧
      Query.ofAddress (queryPart "https://h/?q=foo$b&i=nope") ≠
        (Query.ofAddress (queryPart a.text)).selecting "foo" := by
  decide +kernel

end Selection

end CodeSearch
