import CodeSearch.Json.Reader
import CodeSearch.Proofs.Json.Escaping
import CodeSearch.Proofs.Numeric.Decimal
import CodeSearch.Proofs.Text.Splitting

/-!
A value that is printed reads back. Its characters make tokens as soon as a sign or the end of the
text comes after them, and these tokens read as the value wherever one may stand.
-/
namespace CodeSearch.Json

open Numeric

def Number.Standard (n : Number) : Prop := n.isInteger = true → n.exponent = 0

inductive Standard : Json → Prop where
  | null : Standard .null
  | bool (b : Bool) : Standard (.bool b)
  | num {n : Number} (standard : n.Standard) : Standard (.num n)
  | str (text : Option String) : Standard (.str text)
  | arr {items : List Json} (all : ∀ j ∈ items, Standard j) : Standard (.arr items)
  | obj {fields : List (Option String × Json)} (all : ∀ f ∈ fields, Standard f.2) :
    Standard (.obj fields)

@[simp]
theorem standard_ofString (s : String) : Standard (.ofString s) := .str s

@[simp]
theorem standard_ofInt (n : Int) : Standard (.ofInt n) := .num fun _ => rfl

@[simp]
theorem standard_arr {items : List Json} : Standard (.arr items) ↔ ∀ j ∈ items, Standard j := by
  constructor
  · rintro ⟨⟩
    assumption
  · exact .arr

@[simp]
theorem standard_ofFields {fields : List (String × Json)} :
    Standard (.ofFields fields) ↔ ∀ f ∈ fields, Standard f.2 := by
  constructor
  · rintro (_ | _ | _ | _ | _ | all) f member
    exact all _ (List.mem_map_of_mem (f := fun f => (some f.1, f.2)) member)
  · intro all
    exact .obj (List.forall_mem_map.2 all)

@[simp]
theorem standard_ofOption {α : Type} {toJson : α → Json} {x : Option α} :
    Standard (.ofOption (x.map toJson)) ↔ ∀ a ∈ x, Standard (toJson a) := by
  cases x with
  | none => simp [ofOption, Standard.null]
  | some a => simp [ofOption]

namespace Number

theorem readExponent?_write (n : Nat) : readExponent? (Decimal.write n) = some (n : Int) := by
  obtain ⟨first, others, written, digit⟩ := Decimal.exists_first n
  have read := Decimal.read?_write n
  rw [written] at read ⊢
  rw [readExponent?.eq_3, read]
  · rfl
  · rintro _ ⟨⟩
    cases digit
  · rintro _ ⟨⟩
    cases digit

theorem readExponent?_writeInt (n : Int) : readExponent? (Decimal.writeInt n) = some n := by
  rw [Decimal.writeInt]
  split
  case isTrue negative =>
    have magnitude : -(n.natAbs : Int) = n := by omega
    rw [readExponent?.eq_1, Decimal.read?_write]
    exact congrArg some magnitude
  case isFalse natural =>
    have magnitude : (n.natAbs : Int) = n := by omega
    rw [readExponent?_write, magnitude]

theorem read?_digits (negative : Bool) (n : Nat) (tail : List Char)
    (stops : ∀ c ∈ tail.head?, c.isDigit = false) :
    read? ((if negative then '-' :: Decimal.write n else Decimal.write n) ++ tail) =
      readTail? negative (Decimal.write n) tail := by
  have digits : ∀ c ∈ Decimal.write n, c.isDigit = true := fun c => Decimal.isDigit_of_mem_write
  have taken : (Decimal.write n ++ tail).takeWhile Char.isDigit = Decimal.write n := by
    rw [List.takeWhile_append_of_pos digits]
    cases tail with
    | nil => simp
    | cons c tail => simp [stops c rfl]
  have dropped : (Decimal.write n ++ tail).dropWhile Char.isDigit = tail := by
    rw [List.dropWhile_append_of_pos digits]
    cases tail with
    | nil => rfl
    | cons c tail => simp [stops c rfl]
  have unpadded : ¬ (1 < (Decimal.write n).length ∧ (Decimal.write n).head? = some '0') := by
    rw [Decimal.head?_write]
    rintro ⟨long, rfl⟩
    exact absurd long (by decide)
  have nonempty : (Decimal.write n).isEmpty = false :=
    List.isEmpty_eq_false_iff.2 (Decimal.write_ne_nil n)
  cases negative with
  | true => simp [read?, taken, dropped, nonempty, unpadded]
  | false =>
    have unsigned : ((Decimal.write n ++ tail).head? == some '-') = false := by
      obtain ⟨first, others, written, digit⟩ := Decimal.exists_first n
      have minus : first ≠ '-' := by
        rintro rfl
        cases digit
      simp [written, minus]
    simp only [read?, Bool.false_eq_true, if_false, unsigned, taken, dropped]
    simp [nonempty, unpadded]

theorem read?_write {n : Number} (standard : n.Standard) : read? n.write = some n := by
  obtain ⟨negative, mantissa, exponent, isInteger⟩ := n
  cases isInteger with
  | true =>
    obtain rfl : exponent = 0 := standard rfl
    have read := read?_digits negative mantissa [] (by simp)
    simpa [write, readTail?, Decimal.value_write] using read
  | false =>
    have read := read?_digits negative mantissa ('e' :: Decimal.writeInt exponent) (by simp)
    simpa [write, readTail?, Decimal.value_write, readExponent?_writeInt] using read

end Number

/-- Nothing, or a sign first. -/
def Ended (cs : List Char) : Prop := ∀ c ∈ cs.head?, Token.isSign c = true

theorem Ended.append {cs rest : List Char} (ended : Ended cs) (after : Ended rest) :
    Ended (cs ++ rest) := by
  cases cs with
  | nil => exact after
  | cons c cs => exact ended

/-- Characters that make certain tokens where a sign or nothing comes after them. -/
def ScansAs (cs : List Char) (ts : List Token) : Prop :=
  ∀ done rest, Ended rest →
    Token.scanFrom .between done (cs ++ rest) =
      Token.scanFrom .between (ts.reverse ++ done) rest

theorem sign_apart {c : Char} (sign : Token.isSign c = true) :
    Token.isBlank c = false ∧ Token.isNumberChar c = false ∧ c.isAlpha = false := by
  revert sign
  simp only [Token.isSign, Bool.or_eq_true, beq_iff_eq]
  rintro (((((rfl | rfl) | rfl) | rfl) | rfl) | rfl) <;> exact ⟨rfl, rfl, rfl⟩

theorem scan_sign {c : Char} (sign : Token.isSign c = true) (done : List Token) (rest : List Char) :
    Token.scanFrom .between done (c :: rest) =
      Token.scanFrom .between (.sign c :: done) rest := by
  simp [Token.scanFrom, Token.step?, Token.start?, sign_apart sign, sign]

theorem scan_number_end (digits : List Char) (done : List Token) {rest : List Char}
    (ended : Ended rest) :
    Token.scanFrom (.inNumber digits) done rest =
      Token.scanFrom .between (.number digits.reverse :: done) rest := by
  cases rest with
  | nil => rfl
  | cons c rest => simp [Token.scanFrom, Token.step?, sign_apart (ended c rfl)]

theorem scan_word_end (w : List Char) (done : List Token) {rest : List Char}
    (ended : Ended rest) :
    Token.scanFrom (.inWord w) done rest =
      Token.scanFrom .between (.word w.reverse :: done) rest := by
  cases rest with
  | nil => rfl
  | cons c rest => simp [Token.scanFrom, Token.step?, sign_apart (ended c rfl)]

theorem scan_number_chars {cs : List Char} (all : ∀ c ∈ cs, Token.isNumberChar c = true)
    (digits : List Char) (done : List Token) (rest : List Char) :
    Token.scanFrom (.inNumber digits) done (cs ++ rest) =
      Token.scanFrom (.inNumber (cs.reverse ++ digits)) done rest := by
  induction cs generalizing digits with
  | nil => rfl
  | cons c cs ih =>
    obtain ⟨first, others⟩ := List.forall_mem_cons.1 all
    simp [Token.scanFrom, Token.step?, first, ih others]

theorem scansAs_null : ScansAs ['n', 'u', 'l', 'l'] [.word ['n', 'u', 'l', 'l']] :=
  fun done _ ended => scan_word_end ['l', 'l', 'u', 'n'] done ended

theorem scansAs_true : ScansAs ['t', 'r', 'u', 'e'] [.word ['t', 'r', 'u', 'e']] :=
  fun done _ ended => scan_word_end ['e', 'u', 'r', 't'] done ended

theorem scansAs_false : ScansAs ['f', 'a', 'l', 's', 'e'] [.word ['f', 'a', 'l', 's', 'e']] :=
  fun done _ ended => scan_word_end ['e', 's', 'l', 'a', 'f'] done ended

theorem scansAs_text (text : Option String) : ScansAs (writeString text) [.text (raw text)] :=
  fun done rest _ => scan_writeString text done rest

theorem scansAs_digits {first : Char} (starts : first.isDigit = true ∨ first = '-')
    {others : List Char} (all : ∀ c ∈ others, Token.isNumberChar c = true) :
    ScansAs (first :: others) [.number (first :: others)] := by
  intro done rest ended
  have opened : Token.start? first done = some (.inNumber [first], done) := by
    have numeric : Token.isNumberChar first = true := by
      rcases starts with digit | rfl
      · simp [Token.isNumberChar, digit]
      · rfl
    have unsigned : ¬ Token.isSign first = true := fun sign => by
      simp [sign_apart sign] at numeric
    have visible : ¬ Token.isBlank first = true := by
      intro blank
      simp only [Token.isBlank, Bool.or_eq_true, beq_iff_eq] at blank
      rcases blank with ((rfl | rfl) | rfl) | rfl <;> cases numeric
    rw [Token.start?, if_neg visible, if_neg unsigned, if_neg, if_pos (by simpa using starts)]
    rintro rfl
    cases numeric
  have scanned := scan_number_chars all [first] done rest
  rw [scan_number_end _ done ended] at scanned
  simp [Token.scanFrom, Token.step?, opened, scanned]

theorem isNumberChar_digit {n : Nat} {c : Char} (member : c ∈ Decimal.write n) :
    Token.isNumberChar c = true := by
  simp [Token.isNumberChar, Decimal.isDigit_of_mem_write member]

theorem isNumberChar_exponent {n : Int} {c : Char} (member : c ∈ 'e' :: Decimal.writeInt n) :
    Token.isNumberChar c = true := by
  rcases List.mem_cons.1 member with rfl | member
  · rfl
  · rw [Decimal.writeInt] at member
    split at member
    · rcases List.mem_cons.1 member with rfl | member
      · rfl
      · exact isNumberChar_digit member
    · exact isNumberChar_digit member

theorem Number.write_parts (n : Number) :
    ∃ minus tail, n.write = minus ++ (Decimal.write n.mantissa ++ tail) ∧
      (minus = [] ∨ minus = ['-']) ∧ ∀ c ∈ tail, Token.isNumberChar c = true := by
  refine ⟨if n.negative then ['-'] else [],
    if n.isInteger then [] else 'e' :: Decimal.writeInt n.exponent, ?_, ?_, ?_⟩
  · cases negative : n.negative <;> cases integer : n.isInteger <;>
      simp [write, negative, integer]
  · cases n.negative <;> simp
  · intro c member
    split at member
    · cases member
    · exact isNumberChar_exponent member

theorem scansAs_number (n : Number) : ScansAs n.write [.number n.write] := by
  obtain ⟨minus, tail, written, sign, rest⟩ := n.write_parts
  obtain ⟨first, others, digits, digit⟩ := Decimal.exists_first n.mantissa
  have after : ∀ c ∈ Decimal.write n.mantissa ++ tail, Token.isNumberChar c = true := by
    intro c member
    rcases List.mem_append.1 member with member | member
    · exact isNumberChar_digit member
    · exact rest c member
  rw [written]
  rcases sign with rfl | rfl
  · rw [List.nil_append]
    rw [digits] at after ⊢
    exact scansAs_digits (.inl digit) (List.forall_mem_cons.1 after).2
  · exact scansAs_digits (.inr rfl) after

theorem scansAs_sign {c : Char} (sign : Token.isSign c = true) {cs : List Char}
    {ts : List Token} (more : ScansAs cs ts) : ScansAs (c :: cs) (.sign c :: ts) := by
  intro done rest ended
  rw [List.cons_append, scan_sign sign, more _ _ ended]
  simp

theorem scansAs_append {cs cs' : List Char} {ts ts' : List Token} (first : ScansAs cs ts)
    (ended : Ended cs') (more : ScansAs cs' ts') : ScansAs (cs ++ cs') (ts ++ ts') := by
  intro done rest after
  rw [List.append_assoc, first _ _ (ended.append after), more _ _ after]
  simp

/-- Where a value may come next, and what is open around it. -/
inductive Awaits : State → List Frame → Prop where
  | value (open_ : List Frame) : Awaits (.value open_) open_
  | firstItem (open_ : List Frame) : Awaits (.firstItem open_) (.arr [] :: open_)

/-- Characters that scan and read as a value, wherever the value stands. -/
def ReadsAs (cs : List Char) (j : Json) : Prop :=
  ∃ ts, ScansAs cs ts ∧
    ∀ s open_, Awaits s open_ → ts.foldlM State.next? s = some (.afterValue j open_)

theorem Awaits.next? {s : State} {open_ : List Frame} (awaits : Awaits s open_) {t : Token}
    (other : t ≠ .sign ']') : s.next? t = State.startValue? open_ t := by
  cases awaits with
  | value => rfl
  | firstItem => simp [State.next?, other]

theorem readsAs_scalar {cs : List Char} {t : Token} {j : Json} (scans : ScansAs cs [t])
    (read : State.scalar? t = some j) : ReadsAs cs j := by
  refine ⟨[t], scans, ?_⟩
  intro s open_ awaits
  cases t with
  | sign c => cases read
  | word w | number w | text w =>
    simp [awaits.next?, State.startValue?, read]

theorem ended_tail {α : Type} (part : α → List Char) (parts : List α) {last : Char}
    (sign : Token.isSign last = true) : Ended (parts.flatMap (fun a => ',' :: part a) ++ [last]) := by
  cases parts with
  | nil => simpa [Ended] using sign
  | cons => simp [Ended, Token.isSign]

/-- What follows an item, to the end of the array. The tokens are the same whatever is open around
it. -/
theorem reads_items {items : List Json} (all : ∀ j ∈ items, ReadsAs j.write j) :
    ∃ ts, ScansAs (items.flatMap (fun j => ',' :: j.write) ++ [']']) ts ∧
      ∀ v before open_, ts.foldlM State.next? (.afterValue v (.arr before :: open_)) =
        some (.afterValue (.arr ((v :: before).reverse ++ items)) open_) := by
  induction items with
  | nil =>
    refine ⟨[.sign ']'], scansAs_sign rfl fun _ _ _ => rfl, ?_⟩
    simp [State.next?]
  | cons j items ih =>
    obtain ⟨first, others⟩ := List.forall_mem_cons.1 all
    obtain ⟨ts, scans, reads⟩ := first
    obtain ⟨ts', scans', reads'⟩ := ih others
    refine ⟨.sign ',' :: (ts ++ ts'), ?_, ?_⟩
    · rw [List.flatMap_cons, List.cons_append, List.cons_append, List.append_assoc]
      exact scansAs_sign rfl (scansAs_append scans (ended_tail _ items rfl) scans')
    · intro v before open_
      simp [State.next?, List.foldlM_cons, reads _ _ (.value _), reads']

theorem reads_field (name : Option String) {j : Json} (value : ReadsAs j.write j) :
    ∃ ts, ScansAs (writeString name ++ ':' :: j.write) ts ∧
      (∀ open_, ts.foldlM State.next? (.firstName open_) =
        some (.afterValue j (.obj [] name :: open_))) ∧
      ∀ fields open_, ts.foldlM State.next? (.nextName fields open_) =
        some (.afterValue j (.obj fields name :: open_)) := by
  obtain ⟨ts, scans, reads⟩ := value
  refine ⟨[.text (raw name)] ++ .sign ':' :: ts, ?_, ?_, ?_⟩
  · exact scansAs_append (scansAs_text name) (by simp [Ended, Token.isSign]) (scansAs_sign rfl scans)
  · intro open_
    simp [State.next?, State.name?, unescape?_raw, reads _ _ (.value _)]
  · intro fields open_
    simp [State.next?, State.name?, unescape?_raw, reads _ _ (.value _)]

theorem reads_fields {fields : List (Option String × Json)}
    (all : ∀ f ∈ fields, ReadsAs f.2.write f.2) :
    ∃ ts, ScansAs (fields.flatMap (fun f => ',' :: (writeString f.1 ++ ':' :: f.2.write)) ++
        ['\x7d']) ts ∧
      ∀ name v before open_, ts.foldlM State.next? (.afterValue v (.obj before name :: open_)) =
        some (.afterValue (.obj (((name, v) :: before).reverse ++ fields)) open_) := by
  induction fields with
  | nil =>
    refine ⟨[.sign '\x7d'], scansAs_sign rfl fun _ _ _ => rfl, ?_⟩
    simp [State.next?]
  | cons f fields ih =>
    obtain ⟨first, others⟩ := List.forall_mem_cons.1 all
    obtain ⟨ts, scans, -, reads⟩ := reads_field f.1 first
    obtain ⟨ts', scans', reads'⟩ := ih others
    refine ⟨.sign ',' :: (ts ++ ts'), ?_, ?_⟩
    · rw [List.flatMap_cons, List.cons_append, List.cons_append, List.append_assoc]
      exact scansAs_sign rfl (scansAs_append scans (ended_tail _ fields rfl) scans')
    · intro name v before open_
      simp [State.next?, List.foldlM_cons, reads, reads']

theorem writeItems_eq (items : List Json) : writeItems items = items.map write := by
  induction items with
  | nil => rfl
  | cons j items ih => simp [writeItems, ih]

theorem writeFields_eq (fields : List (Option String × Json)) :
    writeFields fields = fields.map fun f => writeString f.1 ++ ':' :: f.2.write := by
  induction fields with
  | nil => rfl
  | cons f fields ih => simp [writeFields, ih]

theorem between_cons (first last : Char) (part : List Char) (parts : List (List Char)) :
    between first last (part :: parts) =
      first :: (part ++ (parts.flatMap (',' :: ·) ++ [last])) := by
  rw [between, Text.intercalate_cons, List.append_assoc]

-- The first item is read while the array has none, each other one after a comma.
theorem readsAs_arr {items : List Json} (all : ∀ j ∈ items, ReadsAs j.write j) :
    ReadsAs (write (.arr items)) (.arr items) := by
  rw [write, writeItems_eq]
  cases items with
  | nil =>
    refine ⟨[.sign '[', .sign ']'], scansAs_sign rfl (scansAs_sign rfl fun _ _ _ => rfl), ?_⟩
    intro s open_ awaits
    rw [List.foldlM_cons, awaits.next? (by simp)]
    rfl
  | cons j items =>
    obtain ⟨first, others⟩ := List.forall_mem_cons.1 all
    obtain ⟨ts, scans, reads⟩ := first
    obtain ⟨ts', scans', reads'⟩ := reads_items others
    refine ⟨.sign '[' :: (ts ++ ts'), ?_, ?_⟩
    · rw [List.map_cons, between_cons, List.flatMap_map]
      exact scansAs_sign rfl (scansAs_append scans (ended_tail _ items rfl) scans')
    · intro s open_ awaits
      simp [awaits.next?, State.startValue?, reads _ _ (.firstItem _), reads']

theorem readsAs_obj {fields : List (Option String × Json)}
    (all : ∀ f ∈ fields, ReadsAs f.2.write f.2) :
    ReadsAs (write (.obj fields)) (.obj fields) := by
  rw [write, writeFields_eq]
  cases fields with
  | nil =>
    refine ⟨[.sign '\x7b', .sign '\x7d'], scansAs_sign rfl (scansAs_sign rfl fun _ _ _ => rfl), ?_⟩
    intro s open_ awaits
    rw [List.foldlM_cons, awaits.next? (by simp)]
    rfl
  | cons f fields =>
    obtain ⟨first, others⟩ := List.forall_mem_cons.1 all
    obtain ⟨ts, scans, reads, -⟩ := reads_field f.1 first
    obtain ⟨ts', scans', reads'⟩ := reads_fields others
    refine ⟨.sign '\x7b' :: (ts ++ ts'), ?_, ?_⟩
    · rw [List.map_cons, between_cons, List.flatMap_map]
      exact scansAs_sign rfl (scansAs_append scans (ended_tail _ fields rfl) scans')
    · intro s open_ awaits
      simp [awaits.next?, State.startValue?, reads, reads']

theorem readsAs_write {j : Json} (standard : Standard j) : ReadsAs j.write j := by
  induction standard with
  | null => exact readsAs_scalar scansAs_null rfl
  | bool b =>
    cases b with
    | true => exact readsAs_scalar scansAs_true rfl
    | false => exact readsAs_scalar scansAs_false rfl
  | @num n standard =>
    have read : State.scalar? (.number n.write) = some (.num n) := by
      simp [State.scalar?, Number.read?_write standard]
    exact readsAs_scalar (scansAs_number n) read
  | str text =>
    have read : State.scalar? (.text (raw text)) = some (.str text) := by
      simp [State.scalar?, unescape?_raw]
    exact readsAs_scalar (scansAs_text text) read
  | arr _ ih => exact readsAs_arr ih
  | obj _ ih => exact readsAs_obj ih

theorem Standard.read_back {j : Json} (standard : Standard j) : parse? j.print = some j := by
  obtain ⟨ts, scans, reads⟩ := readsAs_write standard
  -- At the top nothing is open and nothing comes after the value.
  have scanned : Token.ofText? j.write = some ts := by
    simpa [Token.ofText?, Token.scanFrom] using scans [] [] (by simp [Ended])
  simp [parse?, print, scanned, ofTokens?, reads _ _ (.value []), State.finish?]

end CodeSearch.Json
