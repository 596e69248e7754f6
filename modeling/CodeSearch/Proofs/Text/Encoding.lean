import CodeSearch.Proofs.Text.Splitting
import CodeSearch.Text.Encoded

/-!
Texts and their bytes. A text is read back from its bytes, and no other bytes read as this text; an
ASCII character is one byte, and the bytes of all others lie above these. Among the bytes of a text
those of another begin only where a character begins.
-/
namespace CodeSearch.Text

theorem mk_encode (cs : List Char) : ByteArray.mk (encode cs).toArray = cs.utf8Encode :=
  ByteArray.ext List.data_toByteArray.symm

theorem decode?_encode (cs : List Char) : decode? (encode cs) = some cs := by
  rw [decode?, mk_encode, List.utf8Decode?_utf8Encode]
  rfl

theorem encode_of_decode? {bytes : List UInt8} {cs : List Char} (read : decode? bytes = some cs) :
    encode cs = bytes := by
  obtain ⟨decoded, found, rfl⟩ := Option.map_eq_some_iff.1 read
  have valid : (ByteArray.mk bytes.toArray).utf8Decode?.isSome := by
    rw [found]
    rfl
  have back := @ByteArray.utf8Encode_get_utf8Decode? (ByteArray.mk bytes.toArray) valid
  simp only [found, Option.get_some, ← mk_encode] at back
  exact congrArg (fun b => b.data.toList) back

theorem encode_inj {xs ys : List Char} (same : encode xs = encode ys) : xs = ys := by
  have read := decode?_encode xs
  rw [same, decode?_encode] at read
  exact (Option.some.inj read).symm

theorem encode_cons (c : Char) (cs : List Char) :
    encode (c :: cs) = String.utf8EncodeChar c ++ encode cs := rfl

theorem encode_append (xs ys : List Char) : encode (xs ++ ys) = encode xs ++ encode ys :=
  List.flatMap_append

theorem length_encode_cons (c : Char) (cs : List Char) :
    (encode (c :: cs)).length = c.utf8Size + (encode cs).length := by
  rw [encode_cons, List.length_append, String.length_utf8EncodeChar]

theorem length_encode_append (xs ys : List Char) :
    (encode (xs ++ ys)).length = (encode xs).length + (encode ys).length := by
  rw [encode_append, List.length_append]

theorem length_encode_le {xs ys : List Char} (inside : xs <:+: ys) :
    (encode xs).length ≤ (encode ys).length := by
  obtain ⟨before, after, rfl⟩ := inside
  rw [length_encode_append, length_encode_append]
  omega

theorem utf8EncodeChar_narrow {c : Char} (narrow : c.toNat < 128) :
    String.utf8EncodeChar c = [UInt8.ofNat c.toNat] :=
  if_pos (Nat.le_of_lt_succ narrow)

theorem utf8EncodeChar_wide {c : Char} (wide : 128 ≤ c.toNat) :
    ∀ b ∈ String.utf8EncodeChar c, 128 ≤ b.toNat := by
  have above : ¬ c.val.toNat ≤ 0x7f := Nat.not_le_of_lt wide
  unfold String.utf8EncodeChar
  dsimp only
  rw [if_neg above]
  intro b member
  have size : ∀ n, 128 ≤ n % 256 → 128 ≤ (UInt8.ofNat n).toNat := by
    intro n large
    rwa [UInt8.toNat_ofNat']
  split at member
  · simp only [List.mem_cons, List.not_mem_nil, or_false] at member
    rcases member with rfl | rfl <;> exact size _ (by omega)
  · split at member
    · simp only [List.mem_cons, List.not_mem_nil, or_false] at member
      rcases member with rfl | rfl | rfl <;> exact size _ (by omega)
    · simp only [List.mem_cons, List.not_mem_nil, or_false] at member
      rcases member with rfl | rfl | rfl | rfl <;> exact size _ (by omega)

/-- A byte below 128 is a character of its own. -/
theorem encode_eq_append {cs : List Char} {before after : List UInt8} {a : UInt8}
    (narrow : a.toNat < 128) (whole : encode cs = before ++ a :: after) :
    ∃ xs ys, cs = xs ++ Char.ofNat a.toNat :: ys ∧ encode xs = before ∧ encode ys = after := by
  induction cs generalizing before with
  | nil => exact absurd whole.symm (List.append_ne_nil_of_right_ne_nil _ (List.cons_ne_nil _ _))
  | cons c cs ih =>
    rw [encode_cons] at whole
    by_cases small : c.toNat < 128
    · rw [utf8EncodeChar_narrow small] at whole
      cases before with
      | nil =>
        obtain ⟨rfl, rfl⟩ := List.cons.inj whole
        have size : (UInt8.ofNat c.toNat).toNat = c.toNat := by
          rw [UInt8.toNat_ofNat']
          omega
        exact ⟨[], cs, by rw [size, Char.ofNat_toNat]; rfl, rfl, rfl⟩
      | cons b before =>
        obtain ⟨rfl, later⟩ := List.cons.inj whole
        obtain ⟨xs, ys, rfl, rfl, rfl⟩ := ih later
        exact ⟨c :: xs, ys, rfl, by rw [encode_cons, utf8EncodeChar_narrow small]; rfl, rfl⟩
    · have other : a ∉ String.utf8EncodeChar c := fun member =>
        Nat.not_lt_of_le (utf8EncodeChar_wide (Nat.le_of_not_lt small) a member) narrow
      obtain ⟨more, rfl, later⟩ := append_separator_inj other whole
      obtain ⟨xs, ys, rfl, rfl, rfl⟩ := ih later
      exact ⟨c :: xs, ys, rfl, rfl, rfl⟩

theorem encode_eq_cons {cs : List Char} {a : UInt8} {after : List UInt8}
    (narrow : a.toNat < 128) (whole : encode cs = a :: after) :
    ∃ ys, cs = Char.ofNat a.toNat :: ys ∧ encode ys = after := by
  have split : encode cs = [] ++ a :: after := whole
  obtain ⟨xs, ys, rfl, none, rfl⟩ := encode_eq_append narrow split
  have empty : xs = [] := encode_inj none
  exact ⟨ys, by rw [empty]; rfl, rfl⟩

theorem encode_prefix {xs ys : List Char} (begins : encode xs <+: encode ys) : xs <+: ys := by
  obtain ⟨rest, whole⟩ := begins
  apply List.isPrefix_of_utf8Encode_append_eq_utf8Encode (ByteArray.mk rest.toArray)
  rw [← mk_encode, ← mk_encode, ← whole]
  exact ByteArray.ext (by simp)

theorem firstByte_of_encode {t : List Char} {bytes : List UInt8} (filled : t ≠ [])
    (begins : encode t <+: bytes) : ∃ b, bytes[0]? = some b ∧ b.IsUTF8FirstByte := by
  cases t with
  | nil => exact absurd rfl filled
  | cons c t =>
    obtain ⟨rest, rfl⟩ := begins
    have size : 0 < (String.utf8EncodeChar c).length := by
      rw [String.length_utf8EncodeChar]
      exact c.utf8Size_pos
    refine ⟨(String.utf8EncodeChar c)[0], ?_, UInt8.isUTF8FirstByte_getElem_utf8EncodeChar.2 rfl⟩
    rw [encode_cons, List.append_assoc, List.getElem?_append_left size,
      List.getElem?_eq_getElem size]

/-- The bytes of a text begin only where a character begins. -/
theorem encode_prefix_drop {t cs : List Char} (filled : t ≠ []) {n : Nat}
    (begins : encode t <+: (encode cs).drop n) :
    ∃ before rest, cs = before ++ rest ∧ (encode before).length = n ∧ t <+: rest := by
  induction cs generalizing n with
  | nil =>
    have none : t <+: [] := encode_prefix (by simpa [encode] using begins)
    exact absurd (List.prefix_nil.1 none) filled
  | cons c cs ih =>
    have size := String.length_utf8EncodeChar c
    rcases Nat.eq_zero_or_pos n with rfl | positive
    · exact ⟨[], c :: cs, rfl, rfl, encode_prefix begins⟩
    rw [encode_cons] at begins
    by_cases inside : n < (String.utf8EncodeChar c).length
    · obtain ⟨b, first, starts⟩ := firstByte_of_encode filled begins
      rw [List.getElem?_drop, Nat.add_zero, List.getElem?_append_left inside,
        List.getElem?_eq_getElem inside] at first
      rw [← Option.some.inj first, UInt8.isUTF8FirstByte_getElem_utf8EncodeChar] at starts
      omega
    · rw [List.drop_append, List.drop_eq_nil_of_le (Nat.le_of_not_lt inside),
        List.nil_append] at begins
      obtain ⟨before, rest, rfl, length, begins⟩ := ih begins
      exact ⟨c :: before, rest, rfl, by rw [length_encode_cons]; omega, begins⟩

end CodeSearch.Text
