import CodeSearch.Pattern
import CodeSearch.Proofs.Text.Encoding

/-!
Matches as ranges of bytes. What comes first among the characters of a text also does among its
bytes.
-/
namespace CodeSearch

open Regex

/-- One list begins in another for the first time after `start` of its members. -/
def FirstAt {α : Type} (part whole : List α) (start : Nat) : Prop :=
  part <+: whole.drop start ∧ ∀ n < start, ¬ part <+: whole.drop n

theorem FirstAt.unique {α : Type} {part whole : List α} {m n : Nat} (hm : FirstAt part whole m)
    (hn : FirstAt part whole n) : m = n := by
  rcases Nat.lt_trichotomy m n with less | same | more
  · exact absurd hm.1 (hn.2 m less)
  · exact same
  · exact absurd hn.1 (hm.2 n more)

namespace Text

/-- What begins first among the characters also does among the bytes. -/
theorem firstAt_encode {t before rest : List Char}
    (first : FirstAt t (before ++ rest) before.length) :
    FirstAt (encode t) (encode (before ++ rest)) (encode before).length := by
  obtain ⟨begins, earliest⟩ := first
  rw [List.drop_left] at begins
  constructor
  · obtain ⟨after, rfl⟩ := begins
    rw [encode_append, List.drop_left, encode_append]
    exact List.prefix_append _ _
  · intro n less inside
    have filled : t ≠ [] := by
      rintro rfl
      cases before with
      | nil => cases less
      | cons c before => exact earliest 0 (Nat.zero_lt_succ _) (List.nil_prefix)
    obtain ⟨sooner, other, split, length, begins⟩ := encode_prefix_drop filled inside
    have shorter : sooner.length < before.length := by
      apply Nat.lt_of_not_le
      intro long
      have within : before <+: sooner := List.prefix_of_prefix_length_le
        (List.prefix_append before rest) (split ▸ List.prefix_append sooner other) long
      have size := length_encode_le within.isInfix
      omega
    refine earliest sooner.length shorter ?_
    rwa [split, List.drop_left]

end Text

namespace Pattern

theorem length_encode (cs : List Char) : (Text.encode cs).length = byteLength cs := by
  induction cs with
  | nil => rfl
  | cons c cs ih => rw [Text.length_encode_cons, ih, byteLength, byteLength, List.foldr_cons]

theorem findRange_of_find {p : Pattern} {text : List Char} {o : Occurrence}
    (found : p.find text = some o) : p.findRange (String.ofList text) =
      some (byteLength o.before, byteLength o.before + byteLength o.matched) := by
  rw [findRange, String.toList_ofList, found]
  rfl

theorem slice_encode (before matched after : List Char) :
    ((Text.encode (before ++ matched ++ after)).take (byteLength before + byteLength matched)).drop
      (byteLength before) = Text.encode matched := by
  have stop : (Text.encode before ++ Text.encode matched).length =
      byteLength before + byteLength matched := by
    rw [List.length_append, length_encode, length_encode]
  rw [Text.encode_append, Text.encode_append, ← stop, List.take_left', ← length_encode,
    List.drop_left]
  rfl

end Pattern

end CodeSearch
