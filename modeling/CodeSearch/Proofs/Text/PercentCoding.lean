import CodeSearch.Numeric.Hexadecimal
import CodeSearch.Proofs.Text.Encoding
import CodeSearch.Text.Percent

/-!
Percent encoding, written and read. What is written reads back, and holds no character that an
address gives a meaning; a text reads as itself exactly if no percent sign in it begins an escape.
-/
namespace CodeSearch.Text.Percent

open Numeric

theorem decodeBytes_cons {a : UInt8} (other : a ≠ 37) (rest : List UInt8) :
    decodeBytes (a :: rest) = a :: decodeBytes rest := by
  match rest with
  | [] => rfl
  | [_] => rfl
  | _ :: _ :: _ => rw [decodeBytes, if_neg other]

theorem decodeBytes_escape {high low b : UInt8} (written : byte? high low = some b)
    (rest : List UInt8) : decodeBytes (37 :: high :: low :: rest) = b :: decodeBytes rest := by
  rw [decodeBytes, if_pos rfl, written]

@[elab_as_elim]
theorem of_all_bytes {motive : UInt8 → Prop} (b : UInt8)
    (all : ∀ n : Fin 256, motive (UInt8.ofNat n)) : motive b := by
  have here := all ⟨b.toNat, b.toNat_lt⟩
  rwa [UInt8.ofNat_toNat] at here

theorem encode_encodeByte (b : UInt8) : Text.encode (encodeByte b) = [b] ∧ b ≠ 37 ∨
    Text.encode (encodeByte b) =
      [37, UInt8.ofNat (digit (b.toNat / 16)).toNat, UInt8.ofNat (digit (b.toNat % 16)).toNat] ∧
    byte? (UInt8.ofNat (digit (b.toNat / 16)).toNat) (UInt8.ofNat (digit (b.toNat % 16)).toNat) =
      some b := by
  refine of_all_bytes b ?_
  decide +kernel

theorem decodeBytes_encodeByte (b : UInt8) (rest : List UInt8) :
    decodeBytes (Text.encode (encodeByte b) ++ rest) = b :: decodeBytes rest := by
  obtain ⟨bytes, other⟩ | ⟨bytes, written⟩ := encode_encodeByte b
  · rw [bytes]
    exact decodeBytes_cons other rest
  · rw [bytes]
    exact decodeBytes_escape written rest

theorem decodeBytes_encodeChars_append (cs : List Char) (rest : List UInt8) :
    decodeBytes (Text.encode (encodeChars cs) ++ rest) = Text.encode cs ++ decodeBytes rest := by
  unfold encodeChars
  induction Text.encode cs with
  | nil => rfl
  | cons b bytes ih =>
    rw [List.flatMap_cons, Text.encode_append, List.append_assoc, decodeBytes_encodeByte, ih]
    rfl

theorem decodeChars?_encodeChars (cs : List Char) : decodeChars? (encodeChars cs) = some cs := by
  have bytes := decodeBytes_encodeChars_append cs []
  rw [List.append_nil, decodeBytes, List.append_nil] at bytes
  rw [decodeChars?, bytes, Text.decode?_encode]

theorem encodeChars_ne_nil {cs : List Char} (nonempty : cs ≠ []) : encodeChars cs ≠ [] := by
  intro none
  have read := decodeChars?_encodeChars cs
  rw [none] at read
  exact nonempty (Option.some.inj read).symm

def isWritten (c : Char) : Bool := c.isAlphanum || ['-', '_', '.', '~', '%'].contains c

theorem encodeByte_written (b : UInt8) : (encodeByte b).all isWritten = true := by
  refine of_all_bytes b ?_
  decide +kernel

theorem not_mem_encodeChars {c : Char} (unwritten : isWritten c = false) (cs : List Char) :
    c ∉ encodeChars cs := by
  intro member
  obtain ⟨b, -, here⟩ := List.mem_flatMap.1 member
  rw [List.all_eq_true.1 (encodeByte_written b) c here] at unwritten
  cases unwritten

/-- No percent sign is followed by two digits. -/
def Unescaped (cs : List Char) : Prop :=
  ∀ before high low after, cs = before ++ '%' :: high :: low :: after →
    ¬ ((Hexadecimal.digit? high).isSome = true ∧ (Hexadecimal.digit? low).isSome = true)

theorem unescaped_of_not_mem {cs : List Char} (signless : '%' ∉ cs) : Unescaped cs := by
  intro before high low after whole
  refine absurd ?_ signless
  rw [whole]
  exact List.mem_append_right _ List.mem_cons_self

def Bare (bytes : List UInt8) : Prop :=
  ∀ before high low after, bytes = before ++ 37 :: high :: low :: after → byte? high low = none

theorem Bare.tail {a : UInt8} {rest : List UInt8} (bare : Bare (a :: rest)) : Bare rest := by
  intro before high low after whole
  exact bare (a :: before) high low after (congrArg (a :: ·) whole)

theorem Bare.cons {a : UInt8} {rest : List UInt8}
    (first : ∀ high low after, a = 37 → rest = high :: low :: after → byte? high low = none)
    (bare : Bare rest) : Bare (a :: rest) := by
  intro before high low after whole
  cases before with
  | nil =>
    obtain ⟨sign, later⟩ := List.cons.inj whole
    exact first high low after sign later
  | cons b before => exact bare before high low after (List.cons.inj whole).2

theorem bare_of_short {bytes : List UInt8} (short : bytes.length < 3) : Bare bytes := by
  intro before high low after whole
  rw [whole] at short
  simp only [List.length_append, List.length_cons] at short
  omega

theorem decodeBytes_length_le (bytes : List UInt8) :
    (decodeBytes bytes).length ≤ bytes.length := by
  fun_induction decodeBytes bytes with
  | case1 => exact Nat.le_refl _
  | case2 b => exact Nat.le_refl _
  | case3 a b => exact Nat.le_refl _
  | case4 a high low rest b written ih =>
    simp only [List.length_cons]
    omega
  | case5 a high low rest none ih => exact Nat.succ_le_succ ih

theorem decodeBytes_of_bare {bytes : List UInt8} (bare : Bare bytes) :
    decodeBytes bytes = bytes := by
  fun_induction decodeBytes bytes with
  | case1 => rfl
  | case2 b => rfl
  | case3 a b => rfl
  | case4 a high low rest b written ih =>
    split at written
    · rename_i sign
      rw [bare [] high low rest (by rw [sign]; rfl)] at written
      cases written
    · cases written
  | case5 a high low rest none ih => rw [ih bare.tail]

theorem bare_of_length {bytes : List UInt8} (same : (decodeBytes bytes).length = bytes.length) :
    Bare bytes := by
  fun_induction decodeBytes bytes with
  | case1 => exact bare_of_short (by decide)
  | case2 b => exact bare_of_short (Nat.lt_of_succ_lt_succ (by decide : 2 < 4))
  | case3 a b => exact bare_of_short (Nat.lt_succ_self 2)
  | case4 a high low rest b written ih =>
    have shorter := decodeBytes_length_le rest
    simp only [List.length_cons] at same
    omega
  | case5 a high low rest none ih =>
    refine .cons ?_ (ih (Nat.succ.inj same))
    intro h l after sign later
    obtain ⟨rfl, rfl, rfl⟩ := later
    rwa [if_pos sign] at none

theorem digit?_ofNat (b : UInt8) :
    (Hexadecimal.digit? (Char.ofNat b.toNat)).isSome = (digitValue? b).isSome := by
  refine of_all_bytes b ?_
  decide +kernel

theorem digitValue?_ofNat {c : Char} (narrow : c.toNat < 128) :
    (digitValue? (UInt8.ofNat c.toNat)).isSome = (Hexadecimal.digit? c).isSome := by
  have size : (UInt8.ofNat c.toNat).toNat = c.toNat := by
    rw [UInt8.toNat_ofNat']
    omega
  rw [← digit?_ofNat, size, Char.ofNat_toNat]

theorem narrow_of_digit {c : Char} (digit : (Hexadecimal.digit? c).isSome = true) :
    c.toNat < 128 := by
  have below : ∀ d : Char, d.toNat < 128 → c ≤ d → c.toNat < 128 := by
    intro d narrow le
    have order : c.toNat ≤ d.toNat := le
    omega
  unfold Hexadecimal.digit? at digit
  split at digit
  · rename_i range
    exact below '9' (by decide) range.2
  · split at digit
    · rename_i range
      exact below 'f' (by decide) range.2
    · split at digit
      · rename_i range
        exact below 'F' (by decide) range.2
      · cases digit

theorem narrow_of_digitValue (b : UInt8) : (digitValue? b).isSome = true → b.toNat < 128 := by
  refine of_all_bytes b ?_
  decide +kernel

theorem byte?_isSome (high low : UInt8) :
    (byte? high low).isSome = ((digitValue? high).isSome && (digitValue? low).isSome) := by
  unfold byte?
  cases digitValue? high with
  | none => rfl
  | some h => cases digitValue? low <;> rfl

/-- Escapes are the same in the bytes of a text as in its characters. -/
theorem bare_encode_iff {cs : List Char} : Bare (Text.encode cs) ↔ Unescaped cs := by
  constructor
  · rintro bare before high low after rfl ⟨first, second⟩
    have narrowHigh := narrow_of_digit first
    have narrowLow := narrow_of_digit second
    have bytes : Text.encode (before ++ '%' :: high :: low :: after) = Text.encode before ++
        37 :: UInt8.ofNat high.toNat :: UInt8.ofNat low.toNat :: Text.encode after := by
      rw [Text.encode_append, Text.encode_cons, Text.encode_cons, Text.encode_cons,
        Text.utf8EncodeChar_narrow narrowHigh, Text.utf8EncodeChar_narrow narrowLow]
      rfl
    have none := bare _ _ _ _ bytes
    have some := byte?_isSome (UInt8.ofNat high.toNat) (UInt8.ofNat low.toNat)
    rw [none, digitValue?_ofNat narrowHigh, digitValue?_ofNat narrowLow, first, second] at some
    cases some
  · intro unescaped before high low after whole
    cases written : byte? high low with
    | none => rfl
    | some b =>
      have digits := byte?_isSome high low
      rw [written, eq_comm, Option.isSome_some, Bool.and_eq_true] at digits
      have narrowHigh := narrow_of_digitValue _ digits.1
      have narrowLow := narrow_of_digitValue _ digits.2
      obtain ⟨xs, _, rfl, -, afterSign⟩ := Text.encode_eq_append (by decide) whole
      obtain ⟨_, rfl, afterHigh⟩ := Text.encode_eq_cons narrowHigh afterSign
      obtain ⟨ys, rfl, -⟩ := Text.encode_eq_cons narrowLow afterHigh
      refine absurd ?_ (unescaped xs _ _ ys rfl)
      rw [digit?_ofNat, digit?_ofNat]
      exact digits

/-- A text that reads as one of as many bytes reads as itself. -/
theorem unescaped_of_decodeChars? {cs read : List Char} (decoded : decodeChars? cs = some read)
    (long : (Text.encode cs).length ≤ (Text.encode read).length) : Unescaped cs ∧ read = cs := by
  have bytes : Text.encode read = decodeBytes (Text.encode cs) := Text.encode_of_decode? decoded
  have bare : Bare (Text.encode cs) := by
    refine bare_of_length (Nat.le_antisymm (decodeBytes_length_le _) ?_)
    rwa [bytes] at long
  rw [decodeBytes_of_bare bare] at bytes
  exact ⟨bare_encode_iff.1 bare, Text.encode_inj bytes⟩

theorem decodeChars?_of_unescaped {cs : List Char} (unescaped : Unescaped cs) :
    decodeChars? cs = some cs := by
  rw [decodeChars?, decodeBytes_of_bare (bare_encode_iff.2 unescaped), Text.decode?_encode]

theorem length_of_decodeChars? {cs read : List Char} (decoded : decodeChars? cs = some read) :
    (Text.encode read).length ≤ (Text.encode cs).length := by
  rw [Text.encode_of_decode? decoded]
  exact decodeBytes_length_le _

end CodeSearch.Text.Percent
