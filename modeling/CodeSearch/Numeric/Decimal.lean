/-!
Whole numbers in decimal digits.
-/
namespace CodeSearch.Numeric.Decimal

def write (n : Nat) : List Char := Nat.toDigits 10 n

def writeInt (n : Int) : List Char := if n < 0 then '-' :: write n.natAbs else write n.natAbs

/-- The number that digits write. -/
def value (digits : List Char) : Nat := Nat.ofDigitChars 10 digits 0

/-- Digits and nothing else, one at least. -/
def read? (cs : List Char) : Option Nat :=
  if !cs.isEmpty && cs.all Char.isDigit then some (value cs) else none

end CodeSearch.Numeric.Decimal
