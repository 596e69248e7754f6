import CodeSearch.Numeric.Decimal

/-!
The digits of a number. They read as the number, and a zero comes first only where the number is 0.
-/
namespace CodeSearch.Numeric.Decimal

theorem write_ne_nil (n : Nat) : write n ≠ [] := Nat.toDigits_ne_nil

theorem isDigit_of_mem_write {n : Nat} {c : Char} (member : c ∈ write n) : c.isDigit = true :=
  Nat.isDigit_of_mem_toDigits (by decide) (by decide) member

theorem exists_first (n : Nat) :
    ∃ first others, write n = first :: others ∧ first.isDigit = true := by
  obtain ⟨first, others, written⟩ := List.exists_cons_of_ne_nil (write_ne_nil n)
  exact ⟨first, others, written, isDigit_of_mem_write (written ▸ List.mem_cons_self)⟩

theorem value_write (n : Nat) : value (write n) = n := Nat.ofDigitChars_ten_toDigits

theorem read?_write (n : Nat) : read? (write n) = some n := by
  have nonempty : (write n).isEmpty = false := List.isEmpty_eq_false_iff.2 (write_ne_nil n)
  have digits : (write n).all Char.isDigit = true :=
    List.all_eq_true.2 fun c => isDigit_of_mem_write
  rw [read?, nonempty, digits, value_write]
  rfl

theorem head?_write {n : Nat} : (write n).head? = some '0' ↔ n = 0 := by
  induction n using Nat.strongRecOn with
  | _ n ih =>
    rw [write, Nat.toDigits_eq_if (by decide)]
    split
    case isTrue small =>
      have digits : ∀ d : Fin 10, (some (Nat.digitChar d) = some '0' ↔ d.val = 0) := by decide
      exact digits ⟨n, small⟩
    case isFalse great =>
      have shorter := ih (n / 10) (by omega)
      rw [write] at shorter
      rw [List.head?_append, Option.or_of_isSome (by simp [Nat.toDigits_ne_nil]), shorter]
      omega

end CodeSearch.Numeric.Decimal
