import CodeSearch.Json.Value

/-!
Numbers of 53 binary digits. A decimal number is read to the nearest of them, to the even one of two
that are as near, and then made whole.
-/
namespace CodeSearch.Numeric

/-- The number `mantissa * 2 ^ exponent`, with a sign. -/
structure Binary64 where
  negative : Bool
  mantissa : Nat
  exponent : Int
deriving DecidableEq, Repr

namespace Binary64

/-- The quotient, a half going to the even neighbour. -/
def divideToEven (num den : Nat) : Nat :=
  let q := num / den
  let twice := 2 * (num % den)
  if twice < den ∨ twice = den ∧ q % 2 = 0 then q else q + 1

/-- `num / (den * 2 ^ e)`, to the nearest whole number. -/
def scaled (num den : Nat) (e : Int) : Nat :=
  if e < 0 then divideToEven (num <<< (-e).toNat) den else divideToEven num (den <<< e.toNat)

/-- The least exponent with which the quotient has no more than 53 binary digits. -/
def fitting (num den : Nat) : Int :=
  let e := (num.log2 : Int) - den.log2 - 53
  let fits (e : Int) : Bool :=
    if e < 0 then num <<< (-e).toNat < den <<< 53 else num < den <<< (e.toNat + 53)
  max (-1074) (if fits e then e else e + 1)

def ofQuotient (negative : Bool) (num den : Nat) : Binary64 :=
  let e := fitting num den
  ⟨negative, scaled num den e, e⟩

/-- The nearest number; powers of ten that no such number can have are cut off. -/
def ofNumber (n : Json.Number) : Binary64 :=
  if n.mantissa = 0 then ⟨n.negative, 0, 0⟩
  else
    let power := min n.exponent 400
    if power < -(400 + (n.mantissa.log2 : Int)) then ⟨n.negative, 0, 0⟩
    else if power < 0 then ofQuotient n.negative n.mantissa (Nat.pow 10 (-power).toNat)
    else ofQuotient n.negative (n.mantissa * Nat.pow 10 power.toNat) 1

def signed (x : Binary64) (size : Nat) : Int := if x.negative then -(size : Int) else size

/-- Without the fraction. -/
def truncate (x : Binary64) : Int :=
  x.signed (if x.exponent < 0 then x.mantissa >>> (-x.exponent).toNat
    else x.mantissa <<< x.exponent.toNat)

/-- The nearest whole number; a half goes away from zero. -/
def round (x : Binary64) : Int :=
  x.signed (if x.exponent < 0 then
      (2 * x.mantissa + (1 <<< (-x.exponent).toNat)) >>> ((-x.exponent).toNat + 1)
    else x.mantissa <<< x.exponent.toNat)

end Binary64

end CodeSearch.Numeric
