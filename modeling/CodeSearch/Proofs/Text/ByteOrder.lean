import CodeSearch.Proofs.Text.Encoding

/-!
The order of texts. Texts compare by their characters as their bytes in UTF-8 do: of two characters
the smaller has the smaller bytes, whatever follows.
-/
namespace CodeSearch.Text

theorem byte_cons_lt {a b : Nat} (fits : a < 256) (fits' : b < 256) {xs ys : List UInt8} :
    UInt8.ofNat a :: xs < UInt8.ofNat b :: ys ↔ a < b ∨ a = b ∧ xs < ys := by
  rw [List.cons_lt_cons_iff, UInt8.lt_iff_toNat_lt, ← UInt8.toNat_inj, UInt8.toNat_ofNat',
    UInt8.toNat_ofNat', Nat.mod_eq_of_lt fits, Nat.mod_eq_of_lt fits']

theorem utf8EncodeChar_append_lt {c d : Char} (less : c < d) (xs ys : List UInt8) :
    String.utf8EncodeChar c ++ xs < String.utf8EncodeChar d ++ ys := by
  have values : c.val.toNat < d.val.toNat := less
  have small : d.val.toNat < 1114112 := by
    rcases d.valid with low | high
    · exact Nat.lt_trans low (by decide)
    · exact high.2
  unfold String.utf8EncodeChar
  dsimp only
  generalize c.val.toNat = m at values
  generalize d.val.toNat = n at values small
  -- The digits to base 64, as `omega` does not relate quotients by different numbers.
  have second : ∀ k : Nat, k / 4096 = k / 64 / 64 := fun k => by omega
  have third : ∀ k : Nat, k / 262144 = k / 64 / 64 / 64 := fun k => by omega
  simp only [second, third]
  repeat' split
  -- Of fewer bytes the first is smaller; of as many, the first digit that differs decides.
  all_goals
    simp (disch := omega) only [List.cons_append, List.nil_append, byte_cons_lt]
    omega

theorem encode_lt_of_lt {xs ys : List Char} (less : xs < ys) : encode xs < encode ys := by
  induction less with
  | nil =>
    rename_i c cs
    cases bytes : encode (c :: cs) with
    | nil =>
      have size := length_encode_cons c cs
      have positive := Char.utf8Size_pos c
      simp only [bytes, List.length_nil] at size
      omega
    | cons b bs => exact List.nil_lt_cons b bs
  | rel first => exact utf8EncodeChar_append_lt first _ _
  | cons rest ih => exact List.append_left_lt ih

theorem encode_lt_encode_iff {xs ys : List Char} : encode xs < encode ys ↔ xs < ys := by
  constructor
  · intro bytes
    apply Decidable.byContradiction
    intro notLess
    rcases List.le_iff_lt_or_eq.1 (List.not_lt.1 notLess) with greater | rfl
    · exact List.lt_asymm bytes (encode_lt_of_lt greater)
    · exact List.lt_irrefl _ bytes
  · exact encode_lt_of_lt

end CodeSearch.Text
