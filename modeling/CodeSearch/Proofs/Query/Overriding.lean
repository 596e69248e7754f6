import CodeSearch.Proofs.Query.History

/-!
Addresses that anyone may have written. Between the ampersands of an address there may be anything;
each field of the query it reads as has the value of the last good pair for it, and whatever is no
good pair counts for nothing. So an address that goes on after an ampersand is read in two turns.
-/
namespace CodeSearch

open Text

namespace Query

def withoutMark : List Char → List Char
  | '?' :: cs => cs
  | cs => cs

def pieces (address : String) : List (List Char) := splitAt '&' (withoutMark address.toList)

def Writes (f : Field) (piece : List Char) (value : String) : Prop :=
  ∃ left right, piece = left ++ '=' :: right ∧ '=' ∉ left ∧ '=' ∉ right ∧
    Percent.decodeChars? left = some f.key.toList ∧
    Percent.decodeChars? (right.map UrlPair.plusToBlank) = some value.toList

structure CutInto (cs : List Char) (pieces : List (List Char)) : Prop where
  nonempty : pieces ≠ []
  whole : ∀ piece ∈ pieces, '&' ∉ piece
  joined : ['&'].intercalate pieces = cs

/-- The field has the value of the last of the pieces that writes it, and keeps the one that it
had if none does. -/
structure LastWins (f : Field) (pieces : List (List Char)) (standard read : Query) : Prop where
  last : ∀ before piece after value, pieces = before ++ piece :: after → Writes f piece value →
    (∀ later ∈ after, ∀ other, ¬ Writes f later other) → f.get read = value
  kept : (∀ piece ∈ pieces, ∀ value, ¬ Writes f piece value) → f.get read = f.get standard

theorem writes_iff {f : Field} {piece : List Char} {value : String} :
    Writes f piece value ↔ UrlPair.ofPiece piece = .pair f.key value :=
  UrlPair.ofPiece_eq_pair.symm

theorem foreign_iff {f : Field} {piece : List Char} :
    f.Foreign (UrlPair.ofPiece piece) ↔ ∀ value, ¬ Writes f piece value :=
  forall_congr' fun _ => not_congr writes_iff.symm

theorem cutInto_iff {cs : List Char} {pieces : List (List Char)} :
    CutInto cs pieces ↔ splitAt '&' cs = pieces := by
  constructor
  · rintro ⟨nonempty, whole, rfl⟩
    exact splitAt_intercalate nonempty whole
  · rintro rfl
    exact ⟨splitAt_ne_nil '&' cs, fun _ => not_mem_of_mem_splitAt, intercalate_splitAt '&' cs⟩

def readPieces (pieces : List (List Char)) (standard : Query) : Query :=
  (pieces.map UrlPair.ofPiece).foldl take standard

theorem withoutMark_eq (cs : List Char) :
    withoutMark cs = if cs.head? = some '?' then cs.tail else cs := by
  cases cs with
  | nil => rfl
  | cons c cs =>
    by_cases mark : c = '?'
    · rw [mark]
      simp [withoutMark]
    · simp [withoutMark, mark]

theorem withoutMark_of_head {cs : List Char} (bare : cs.head? ≠ some '?') : withoutMark cs = cs := by
  rw [withoutMark_eq, if_neg bare]

theorem ofAddress_eq_readPieces (address : String) (standard : Query) :
    ofAddress address standard = readPieces (pieces address) standard := by
  rw [pieces, withoutMark_eq]
  rfl

theorem readPieces_lastWins (f : Field) (pieces : List (List Char)) (standard : Query) :
    LastWins f pieces standard (readPieces pieces standard) := by
  have foreign : ∀ others : List (List Char), (∀ piece ∈ others, ∀ value, ¬ Writes f piece value) →
      ∀ p ∈ others.map UrlPair.ofPiece, f.Foreign p := by
    intro others none p member
    obtain ⟨piece, known, rfl⟩ := List.mem_map.1 member
    exact foreign_iff.2 (none piece known)
  constructor
  · rintro before piece after value rfl writes none
    rw [readPieces, List.map_append, List.map_cons, writes_iff.1 writes]
    exact Field.get_foldl_last (foreign after none) standard
  · intro none
    exact Field.get_foldl_foreign (foreign pieces none) standard

theorem readPieces_append (pieces more : List (List Char)) (standard : Query) :
    readPieces (pieces ++ more) standard = readPieces more (readPieces pieces standard) := by
  rw [readPieces, List.map_append, List.foldl_append]
  rfl

theorem readPieces_cons_unknown {piece : List Char} (unknown : ∀ f value, ¬ Writes f piece value)
    (pieces : List (List Char)) (standard : Query) :
    readPieces (piece :: pieces) standard = readPieces pieces standard := by
  have foreign : ∀ f : Field, f.Foreign (UrlPair.ofPiece piece) :=
    fun f => foreign_iff.2 (unknown f)
  rw [readPieces, List.map_cons, List.foldl_cons, Field.take_of_foreign foreign]
  rfl

theorem pieces_append {address more : String} (bare : more.toList.head? ≠ some '?') :
    pieces (address ++ "&" ++ more) = pieces address ++ pieces more := by
  have parts : (address ++ "&" ++ more).toList = address.toList ++ '&' :: more.toList := by
    simp
  have mark : withoutMark (address.toList ++ '&' :: more.toList) =
      withoutMark address.toList ++ '&' :: more.toList := by
    cases address.toList with
    | nil => rfl
    | cons c cs => by_cases mark : c = '?' <;> simp [withoutMark_eq, mark]
  rw [pieces, parts, mark, splitAt_append_separator, pieces, pieces, withoutMark_of_head bare]

/-- Any address, read over any query: the last good pair for a field wins, what is no good pair could
as well be missing, and what follows an ampersand is read over what stands before it. -/
theorem ofAddress_last_wins (address : String) (standard : Query) :
    (∀ cut, CutInto (withoutMark address.toList) cut ↔ cut = pieces address) ∧
    (∀ f : Field, LastWins f (pieces address) standard (ofAddress address standard)) ∧
    (∀ before piece after other, pieces address = before ++ piece :: after →
      (∀ f value, ¬ Writes f piece value) → pieces other = before ++ after →
      ofAddress other standard = ofAddress address standard) ∧
    ∀ more : String, more.toList.head? ≠ some '?' →
      ofAddress (address ++ "&" ++ more) standard = ofAddress more (ofAddress address standard) := by
  refine ⟨?_, ?_, ?_, ?_⟩
  · intro cut
    rw [cutInto_iff, eq_comm, pieces]
  · intro f
    rw [ofAddress_eq_readPieces]
    exact readPieces_lastWins f (pieces address) standard
  · intro before piece after other cut unknown without
    rw [ofAddress_eq_readPieces, ofAddress_eq_readPieces, without, cut, readPieces_append,
      readPieces_append, readPieces_cons_unknown unknown]
  · intro more bare
    rw [ofAddress_eq_readPieces, pieces_append bare, readPieces_append, ← ofAddress_eq_readPieces,
      ← ofAddress_eq_readPieces]

end Query

end CodeSearch
