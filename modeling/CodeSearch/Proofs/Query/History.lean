import CodeSearch.Proofs.Query.Fields
import CodeSearch.Proofs.Text.PercentCoding

/-!
Queries in the history of a page. The address of a query writes three of its fields in encoded form
and the repositories as they are; it reads as the same query exactly if they read as themselves.
-/
namespace CodeSearch

open Text

/-- A text that stands for itself where an address holds a value. -/
structure Verbatim (cs : List Char) : Prop where
  whole : '&' ∉ cs
  single : '=' ∉ cs
  closed : '+' ∉ cs
  unescaped : Percent.Unescaped cs

namespace UrlPair

theorem ofPiece_eq_pair {piece : List Char} {key value : String} : ofPiece piece = .pair key value ↔
    ∃ left right, piece = left ++ '=' :: right ∧ '=' ∉ left ∧ '=' ∉ right ∧
      Percent.decodeChars? left = some key.toList ∧
      Percent.decodeChars? (right.map plusToBlank) = some value.toList := by
  unfold ofPiece
  constructor
  · intro good
    split at good
    · rename_i left right cut
      split at good
      · rename_i k v readKey readValue
        cases good
        obtain ⟨whole, absentLeft, absentRight⟩ := splitAt_eq_pair.1 cut
        refine ⟨left, right, whole, absentLeft, absentRight, ?_, ?_⟩
        · rw [readKey, String.toList_ofList]
        · rw [readValue, String.toList_ofList]
      · cases good
    · cases good
  · rintro ⟨left, right, whole, absentLeft, absentRight, readKey, readValue⟩
    rw [splitAt_eq_pair.2 ⟨whole, absentLeft, absentRight⟩]
    simp only [readKey, readValue, String.ofList_toList]

theorem plusToBlank_of_not_mem {cs : List Char} (plain : '+' ∉ cs) : cs.map plusToBlank = cs := by
  refine (List.map_congr_left ?_).trans (List.map_id cs)
  intro c member
  refine if_neg ?_
  rintro rfl
  exact plain member

theorem not_mem_map_plusToBlank (cs : List Char) : '+' ∉ cs.map plusToBlank := by
  intro member
  obtain ⟨c, -, plus⟩ := List.mem_map.1 member
  unfold plusToBlank at plus
  split at plus
  · cases plus
  · rename_i other
    exact other plus

theorem length_encode_plusToBlank (cs : List Char) :
    (encode (cs.map plusToBlank)).length = (encode cs).length := by
  induction cs with
  | nil => rfl
  | cons c cs ih =>
    have size : (plusToBlank c).utf8Size = c.utf8Size := by
      unfold plusToBlank
      split
      · rename_i plus
        rw [plus]
        rfl
      · rfl
    rw [List.map_cons, length_encode_cons, length_encode_cons, size, ih]

/-- A key with an encoded value. -/
theorem ofPiece_encoded {key : String} (bare : '=' ∉ key.toList)
    (signless : '%' ∉ key.toList) (value : String) :
    ofPiece (key.toList ++ '=' :: Percent.encodeChars value.toList) = .pair key value := by
  refine ofPiece_eq_pair.2 ⟨_, _, rfl, bare, Percent.not_mem_encodeChars (by decide) _,
    Percent.decodeChars?_of_unescaped (Percent.unescaped_of_not_mem signless), ?_⟩
  rw [plusToBlank_of_not_mem (Percent.not_mem_encodeChars (by decide) _),
    Percent.decodeChars?_encodeChars]

/-- A key with a value that is written as it is. -/
theorem ofPiece_verbatim {key : String} (bare : '=' ∉ key.toList)
    (signless : '%' ∉ key.toList) {value : String} (verbatim : Verbatim value.toList) :
    ofPiece (key.toList ++ '=' :: value.toList) = .pair key value := by
  refine ofPiece_eq_pair.2 ⟨_, _, rfl, bare, verbatim.single,
    Percent.decodeChars?_of_unescaped (Percent.unescaped_of_not_mem signless), ?_⟩
  rw [plusToBlank_of_not_mem verbatim.closed, Percent.decodeChars?_of_unescaped verbatim.unescaped]

theorem length_first_lt {repos first : List Char} {others : List (List Char)}
    (pieces : splitAt '&' repos = first :: others) (more : others ≠ []) :
    (encode first).length < (encode repos).length := by
  rcases (splitAt_eq_cons pieces).2 with ⟨-, none⟩ | ⟨rest, rfl, -⟩
  · exact absurd none more
  · have size := Char.utf8Size_pos '&'
    rw [length_encode_append, length_encode_cons]
    omega

theorem length_other_lt {repos first piece : List Char} {others : List (List Char)}
    (pieces : splitAt '&' repos = first :: others) (later : piece ∈ others) :
    (encode piece).length < (encode repos).length := by
  rcases (splitAt_eq_cons pieces).2 with ⟨-, rfl⟩ | ⟨rest, rfl, rfl⟩
  · cases later
  · have inside := length_encode_le (infix_of_mem_splitAt later)
    have size := Char.utf8Size_pos '&'
    rw [length_encode_append, length_encode_cons]
    omega

theorem verbatim_of_decodeChars? {cs : List Char} (whole : '&' ∉ cs) (single : '=' ∉ cs)
    (read : Percent.decodeChars? (cs.map plusToBlank) = some cs) : Verbatim cs := by
  have kept := Percent.unescaped_of_decodeChars? read
    (Nat.le_of_eq (length_encode_plusToBlank cs))
  have closed : '+' ∉ cs := by
    rw [kept.2]
    exact not_mem_map_plusToBlank cs
  rw [plusToBlank_of_not_mem closed] at kept
  exact ⟨whole, single, closed, kept.1⟩

end UrlPair

namespace Query

/-- The repositories are those of the start, or the value of a pair. -/
theorem foldl_take_repos (pairs : List UrlPair) (q : Query) :
    (pairs.foldl take q).repos = q.repos ∨
      ∃ value, .pair "repos" value ∈ pairs ∧ (pairs.foldl take q).repos = value := by
  rcases Field.foreign_or_last .repos pairs with none | ⟨before, value, after, rfl, none⟩
  · exact .inl (Field.get_foldl_foreign none q)
  · exact .inr ⟨value, List.mem_append_right _ List.mem_cons_self, Field.get_foldl_last none q⟩

theorem toList_address (q : Query) : q.address.toList =
    '?' :: (("q".toList ++ '=' :: Percent.encodeChars q.text.toList) ++
      '&' :: (("i".toList ++ '=' :: Percent.encodeChars q.caseFlag.toList) ++
        '&' :: (("files".toList ++ '=' :: Percent.encodeChars q.files.toList) ++
          '&' :: ("repos=".toList ++ q.repos.toList)))) := by
  have encoded : ∀ s, (Percent.encode s).toList = Percent.encodeChars s.toList :=
    fun _ => String.toList_ofList
  simp only [address, String.toList_append, encoded]
  simp

theorem amp_not_mem {key : String} (bare : '&' ∉ key.toList) (value : String) :
    '&' ∉ key.toList ++ '=' :: Percent.encodeChars value.toList := by
  rw [List.mem_append, not_or, List.mem_cons, not_or]
  exact ⟨bare, by decide, Percent.not_mem_encodeChars (by decide) _⟩

/-- The pieces of an address: three fields, and what the repositories are cut into. -/
theorem ofAddress_address (q : Query) : ofAddress q.address =
    ((splitAt '&' ("repos=".toList ++ q.repos.toList)).map UrlPair.ofPiece).foldl take
      { q with repos := "*" } := by
  unfold ofAddress UrlPair.ofAddress
  rw [toList_address]
  simp only [List.head?_cons, if_true, List.tail_cons]
  rw [splitAt_run_separator (amp_not_mem (by decide) q.text),
    splitAt_run_separator (amp_not_mem (by decide) q.caseFlag),
    splitAt_run_separator (amp_not_mem (by decide) q.files), List.map_cons, List.map_cons,
    List.map_cons, UrlPair.ofPiece_encoded (by decide) (by decide),
    UrlPair.ofPiece_encoded (by decide) (by decide),
    UrlPair.ofPiece_encoded (by decide) (by decide)]
  rfl

/-- Only the first piece can give the repositories back, as any other is too short. -/
theorem verbatim_of_pair {repos : List Char} {value : String}
    (member : .pair "repos" value ∈ (splitAt '&' ("repos=".toList ++ repos)).map UrlPair.ofPiece)
    (same : value.toList = repos) : Verbatim repos := by
  obtain ⟨piece, cut, good⟩ := List.mem_map.1 member
  obtain ⟨left, right, rfl, absentLeft, absentRight, readKey, readValue⟩ :=
    UrlPair.ofPiece_eq_pair.1 good
  rw [same] at readValue
  -- Decoding adds no byte, so the value was cut from a text that is no shorter.
  have long := Percent.length_of_decodeChars? readValue
  rw [UrlPair.length_encode_plusToBlank] at long
  cases pieces : splitAt '&' repos with
  | nil => exact absurd pieces (splitAt_ne_nil _ _)
  | cons first others =>
    have bare : '&' ∉ "repos=".toList := by decide
    rw [splitAt_run_append bare pieces] at cut
    cases List.mem_cons.1 cut with
    | inl here =>
      have key : '=' ∉ "repos".toList := by decide
      have split : "repos".toList ++ '=' :: first = left ++ '=' :: right := here.symm
      obtain ⟨-, rfl⟩ := append_separator_cancel key absentLeft split
      obtain ⟨whole, ⟨rfl, -⟩ | ⟨rest, -, others⟩⟩ := splitAt_eq_cons pieces
      · exact UrlPair.verbatim_of_decodeChars? whole absentRight readValue
      · have shorter := UrlPair.length_first_lt pieces (others ▸ splitAt_ne_nil _ _)
        omega
    | inr later =>
      have shorter := UrlPair.length_other_lt pieces later
      rw [length_encode_append, length_encode_cons] at shorter
      omega

/-- An address reads as the query it was written from exactly if the repositories read as
themselves. -/
theorem ofAddress_address_iff (q : Query) :
    ofAddress q.address = q ↔ Verbatim q.repos.toList := by
  rw [ofAddress_address]
  constructor
  · intro same
    have repos := congrArg Query.repos same
    rcases foldl_take_repos ((splitAt '&' ("repos=".toList ++ q.repos.toList)).map UrlPair.ofPiece)
      { q with repos := "*" } with start | ⟨value, member, last⟩
    · have star : q.repos = "*" := repos.symm.trans start
      rw [star]
      exact ⟨by decide, by decide, by decide, Percent.unescaped_of_not_mem (by decide)⟩
    · exact verbatim_of_pair member (congrArg String.toList (last.symm.trans repos))
  · intro verbatim
    have whole : '&' ∉ "repos=".toList ++ q.repos.toList := by
      rw [List.mem_append, not_or]
      exact ⟨by decide, verbatim.whole⟩
    have pair := @UrlPair.ofPiece_verbatim "repos" (by decide) (by decide) q.repos verbatim
    have written : "repos=".toList ++ q.repos.toList =
        "repos".toList ++ '=' :: q.repos.toList := rfl
    rw [splitAt_run whole, List.map_singleton, written, pair]
    rfl

end Query

end CodeSearch
