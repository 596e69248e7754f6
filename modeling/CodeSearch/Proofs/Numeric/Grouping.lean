import CodeSearch.Numeric.Grouped
import CodeSearch.Proofs.Numeric.Decimal
import Std.Data.String.ToInt

/-!
Numbers in groups of digits. What is written of a number is its sign, a first group of up to three
digits and groups of three behind commas; without the commas it reads as the number again.
-/
namespace CodeSearch.Numeric

namespace Grouped

/-- Groups of three digits behind a group that may be shorter. -/
structure Groups where
  first : List Char
  others : List (List Char)
  nonempty : 1 ≤ first.length
  short : first.length ≤ 3
  full : ∀ group ∈ others, group.length = 3
  numeric : ∀ group ∈ first :: others, ∀ c ∈ group, c.isDigit = true

def withoutCommas (cs : List Char) : List Char := cs.filter (· ≠ ',')

theorem withoutCommas_of_digits {cs : List Char} (digits : ∀ c ∈ cs, c.isDigit = true) :
    withoutCommas cs = cs := by
  refine List.filter_eq_self.2 fun c member => decide_eq_true ?_
  rintro rfl
  exact absurd (digits ',' member) (by decide)

namespace Groups

def digits (g : Groups) : List Char := g.first ++ g.others.flatten

def chars (g : Groups) : List Char := g.first ++ g.others.flatMap (',' :: ·)

theorem length_digits (g : Groups) : g.digits.length = g.first.length + g.others.length * 3 := by
  rw [digits, List.length_append, List.length_flatten, List.map_congr_left g.full, List.map_const',
    List.sum_replicate_nat]

theorem head?_digits (g : Groups) : g.digits.head? = g.first.head? := by
  have nonempty := List.ne_nil_of_length_pos g.nonempty
  rw [digits, List.head?_append, Option.or_of_isSome (List.isSome_head?.2 nonempty)]

theorem withoutCommas_chars (g : Groups) : withoutCommas g.chars = g.digits := by
  have others : ∀ {groups : List (List Char)}, (∀ group ∈ groups, ∀ c ∈ group, c.isDigit = true) →
      withoutCommas (groups.flatMap (',' :: ·)) = groups.flatten := by
    intro groups numeric
    induction groups with
    | nil => rfl
    | cons group groups ih =>
      obtain ⟨here, later⟩ := List.forall_mem_cons.1 numeric
      have plain := withoutCommas_of_digits here
      have rest := ih later
      simp only [withoutCommas] at plain rest ⊢
      rw [List.flatMap_cons, List.cons_append, List.filter_cons_of_neg (by decide),
        List.filter_append, plain, rest, List.flatten_cons]
  obtain ⟨here, later⟩ := List.forall_mem_cons.1 g.numeric
  have plain := withoutCommas_of_digits here
  have rest := others later
  rw [withoutCommas] at plain rest ⊢
  rw [chars, digits, List.filter_append, plain, rest]

/-- A group of its own for a digit, as the digits behind it fill whole groups. -/
def before (c : Char) (g : Groups) (digit : c.isDigit = true) (three : g.first.length = 3) :
    Groups where
  first := [c]
  others := g.first :: g.others
  nonempty := Nat.le_refl 1
  short := by simp
  full := List.forall_mem_cons.2 ⟨three, g.full⟩
  numeric := List.forall_mem_cons.2 ⟨by simpa using digit, g.numeric⟩

def within (c : Char) (g : Groups) (digit : c.isDigit = true) (room : g.first.length < 3) :
    Groups where
  first := c :: g.first
  others := g.others
  nonempty := by simp
  short := room
  full := g.full
  numeric := by
    obtain ⟨here, later⟩ := List.forall_mem_cons.1 g.numeric
    exact List.forall_mem_cons.2 ⟨List.forall_mem_cons.2 ⟨digit, here⟩, later⟩

end Groups

/-- A comma comes before a digit just when the first group behind it is full. -/
theorem separate_groups {cs : List Char} (nonempty : cs ≠ [])
    (numeric : ∀ c ∈ cs, c.isDigit = true) :
    ∃ g : Groups, g.digits = cs ∧ separate cs = g.chars := by
  induction cs with
  | nil => exact absurd rfl nonempty
  | cons c cs ih =>
    obtain ⟨digit, later⟩ := List.forall_mem_cons.1 numeric
    cases cs with
    | nil =>
      exact ⟨⟨[c], [], Nat.le_refl 1, by simp, by simp, by simpa using digit⟩, rfl, rfl⟩
    | cons d ds =>
      obtain ⟨g, digits, written⟩ := ih (List.cons_ne_nil d ds) later
      have length := g.length_digits
      have nonempty := g.nonempty
      have short := g.short
      rw [digits] at length
      rw [separate, written]
      by_cases whole : (d :: ds).length % 3 = 0
      case pos =>
        have three : g.first.length = 3 := by omega
        refine ⟨g.before c digit three, ?_, ?_⟩
        · simp [Groups.digits, Groups.before, ← digits]
        · rw [whole]
          rfl
      case neg =>
        have room : g.first.length < 3 := by omega
        refine ⟨g.within c digit room, ?_, ?_⟩
        · simp [Groups.digits, Groups.within, ← digits]
        · have apart : ((d :: ds).length % 3 == 0) = false := beq_eq_false_iff_ne.2 whole
          rw [apart]
          rfl

structure Written (n : Int) (text : String) : Prop where
  grouped : ∃ g : Groups, text.toList = (if n < 0 then ['-'] else []) ++ g.chars ∧
    (g.first.head? = some '0' → n = 0)
  reads : (String.ofList (withoutCommas text.toList)).toInt? = some n

theorem writeChars_groups (n : Int) : ∃ g : Groups, g.digits = Decimal.write n.natAbs ∧
    writeChars n = (if n < 0 then ['-'] else []) ++ g.chars := by
  obtain ⟨g, digits, written⟩ := separate_groups (Decimal.write_ne_nil n.natAbs) fun _ =>
    Decimal.isDigit_of_mem_write
  refine ⟨g, digits, ?_⟩
  rw [writeChars, written]
  split <;> rfl

theorem ofList_writeInt (n : Int) : String.ofList (Decimal.writeInt n) = n.repr := by
  cases n with
  | ofNat n => exact Nat.repr_eq_ofList_toDigits.symm
  | negSucc n =>
    have digits : (n + 1).repr = String.ofList (Decimal.write (n + 1)) := Nat.repr_eq_ofList_toDigits
    rw [Decimal.writeInt, if_pos (Int.negSucc_lt_zero n), Int.natAbs_negSucc, Int.repr, digits,
      ← List.singleton_append, String.ofList_append]

theorem write_written (n : Int) : Written n (write n) := by
  obtain ⟨g, digits, written⟩ := writeChars_groups n
  have text : (write n).toList = (if n < 0 then ['-'] else []) ++ g.chars := by
    rw [write, String.toList_ofList, written]
  constructor
  case grouped =>
    refine ⟨g, text, fun zero => ?_⟩
    rw [← g.head?_digits, digits, Decimal.head?_write] at zero
    exact Int.natAbs_eq_zero.1 zero
  case reads =>
    have plain : withoutCommas (write n).toList = Decimal.writeInt n := by
      have commas := g.withoutCommas_chars
      rw [withoutCommas] at commas
      rw [text, withoutCommas, List.filter_append, commas, digits, Decimal.writeInt]
      split <;> rfl
    rw [plain, ofList_writeInt]
    exact Int.toInt?_repr n

/-- The text of a number has its form and its value, so no two numbers have one text. -/
theorem write_exact :
    (∀ n, Written n (write n)) ∧ ∀ m n, write m = write n ↔ m = n := by
  refine ⟨write_written, fun m n => ⟨fun same => ?_, congrArg write⟩⟩
  have first := (write_written m).reads
  rw [same, (write_written n).reads] at first
  exact (Option.some.inj first).symm

example : write (-9223372036854775808) = "-9,223,372,036,854,775,808" := by decide

end Grouped

end CodeSearch.Numeric
