import CodeSearch.Json.Printer
import CodeSearch.Json.Token

/-!
Strings of JSON. What is written between the quotes of a text goes through the scanner whole and
stands for the characters of the text.
-/
namespace CodeSearch.Json

inductive Escape (c : Char) : List Char → Prop where
  | named (letter : Char) (other : letter ≠ 'u') (means : namedChar? letter = some c) :
      Escape c ['\\', letter]
  | coded (high low : Char) (plainHigh : high ≠ '"' ∧ high ≠ '\\')
      (plainLow : low ≠ '"' ∧ low ≠ '\\')
      (means : unit? '0' '0' high low = some c.toNat) : Escape c ['\\', 'u', '0', '0', high, low]
  | plain (quote : c ≠ '"') (backslash : c ≠ '\\') (printed : 0x20 ≤ c.toNat) : Escape c [c]

theorem writeHexDigit_plain : ∀ d : Fin 16, writeHexDigit d ≠ '"' ∧ writeHexDigit d ≠ '\\' := by
  decide

theorem unit?_writeHexDigit : ∀ d : Fin 32,
    unit? '0' '0' (writeHexDigit (d.val / 16)) (writeHexDigit (d.val % 16)) = some d.val := by
  decide

theorem escapeChar_escape (c : Char) : Escape c (escapeChar c) := by
  unfold escapeChar
  split
  case h_1 => exact .named '"' (by decide) rfl
  case h_2 => exact .named '\\' (by decide) rfl
  case h_3 => exact .named 'n' (by decide) rfl
  case h_4 => exact .named 'r' (by decide) rfl
  case h_5 => exact .named 't' (by decide) rfl
  case h_6 => exact .named 'b' (by decide) rfl
  case h_7 => exact .named 'f' (by decide) rfl
  case h_8 quote backslash _ _ _ _ _ =>
    split
    case isTrue control =>
      have plainHigh := writeHexDigit_plain ⟨c.toNat / 16, by omega⟩
      have plainLow := writeHexDigit_plain ⟨c.toNat % 16, by omega⟩
      exact .coded _ _ plainHigh plainLow (unit?_writeHexDigit ⟨c.toNat, control⟩)
    case isFalse printed => exact .plain quote backslash (Nat.not_lt.1 printed)

theorem scan_escape {c : Char} {written : List Char} (escape : Escape c written) (raw : List Char)
    (done : List Token) (rest : List Char) :
    Token.scanFrom (.inText raw false) done (written ++ rest) =
      Token.scanFrom (.inText (written.reverse ++ raw) false) done rest := by
  cases escape with
  | named letter other means => simp [Token.scanFrom, Token.step?]
  | coded high low plainHigh plainLow means =>
    simp [Token.scanFrom, Token.step?, plainHigh, plainLow]
  | plain quote backslash printed => simp [Token.scanFrom, Token.step?, quote, backslash]

theorem unitsFrom_escape {c : Char} {written : List Char} (escape : Escape c written)
    (done : List Nat) (rest : List Char) :
    unitsFrom done (written ++ rest) = unitsFrom (c.toNat :: done) rest := by
  cases escape with
  | named letter other means =>
    rw [List.cons_append, List.cons_append, List.nil_append, unitsFrom.eq_3, means]
    rintro _ _ _ _ _ rfl
    exact absurd rfl other
  | coded high low plainHigh plainLow means => simp [unitsFrom, means]
  | plain quote backslash printed =>
    have visible : ¬ c.toNat < 0x20 := Nat.not_lt.2 printed
    simp [unitsFrom, backslash, visible]

/-- What stands between the quotes. -/
def raw : Option String → List Char
  | some s => s.toList.flatMap escapeChar
  | none => ['\\', 'u', 'd', '8', '0', '0']

theorem writeString_eq (text : Option String) : writeString text = '"' :: (raw text ++ ['"']) := by
  cases text <;> rfl

theorem scan_writeString (text : Option String) (done : List Token) (rest : List Char) :
    Token.scanFrom .between done (writeString text ++ rest) =
      Token.scanFrom .between (.text (raw text) :: done) rest := by
  have content : ∀ before, Token.scanFrom (.inText before false) done (raw text ++ '"' :: rest) =
      Token.scanFrom (.inText ((raw text).reverse ++ before) false) done ('"' :: rest) := by
    intro before
    cases text with
    | none => simp [raw, Token.scanFrom, Token.step?]
    | some s =>
      rw [raw]
      generalize s.toList = cs
      induction cs generalizing before with
      | nil => rfl
      | cons c cs ih =>
        rw [List.flatMap_cons, List.append_assoc, scan_escape (escapeChar_escape c), ih]
        simp
  rw [writeString_eq]
  simp [Token.scanFrom, Token.step?, Token.start?, Token.isBlank, Token.isSign, content]

theorem unitsFrom_flatMap (cs : List Char) (done : List Nat) :
    unitsFrom done (cs.flatMap escapeChar) = some ((cs.map Char.toNat).reverse ++ done) := by
  induction cs generalizing done with
  | nil => rfl
  | cons c cs ih =>
    rw [List.flatMap_cons, unitsFrom_escape (escapeChar_escape c), ih]
    simp

theorem not_surrogate (c : Char) : ¬ (0xd800 ≤ c.toNat ∧ c.toNat ≤ 0xdfff) := by
  rcases c.valid with low | ⟨high, _⟩
  · intro between
    exact absurd low (Nat.not_lt.2 between.1)
  · intro between
    exact absurd high (Nat.not_lt.2 between.2)

theorem joinUnits_toNat (cs done : List Char) :
    joinUnits done (cs.map Char.toNat) = some (cs.reverse ++ done) := by
  induction cs generalizing done with
  | nil => rfl
  | cons c cs ih =>
    have whole := not_surrogate c
    cases cs with
    | nil =>
      rw [List.map_singleton, joinUnits, if_neg whole, Char.ofNat_toNat]
      rfl
    | cons d ds =>
      have apart : ¬ (0xdc00 ≤ c.toNat ∧ c.toNat ≤ 0xdfff ∧ 0xd800 ≤ d.toNat ∧ d.toNat ≤ 0xdbff) := by
        omega
      rw [List.map_cons] at ih ⊢
      rw [List.map_cons, joinUnits, if_neg apart, if_neg whole, ih, Char.ofNat_toNat]
      simp

theorem unescape?_raw (text : Option String) : unescape? (raw text) = some text := by
  cases text with
  | none => rfl
  | some s =>
    rw [raw, unescape?, unitsFrom_flatMap, List.append_nil, ← List.map_reverse, Option.map_some,
      joinUnits_toNat]
    simp

end CodeSearch.Json
