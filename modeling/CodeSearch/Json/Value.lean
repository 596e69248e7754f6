import CodeSearch.Numeric.Decimal

/-!
Values of JSON. Numbers keep the way they are written as far as it tells integers from others, and
objects keep all their fields in order. A string may name half of a surrogate pair alone, which no
text can hold; then nothing is kept of it.
-/
namespace CodeSearch

/-- A decimal number; it is an integer if neither a fraction nor an exponent is written. -/
structure Json.Number where
  negative : Bool
  mantissa : Nat
  exponent : Int
  isInteger : Bool
deriving DecidableEq, Repr

inductive Json where
  | null
  | bool (b : Bool)
  | num (n : Json.Number)
  | str (text : Option String)
  | arr (items : List Json)
  | obj (fields : List (Option String × Json))

namespace Json

open Numeric

namespace Number

def ofInt (n : Int) : Number := ⟨n < 0, n.natAbs, 0, true⟩

/-- The integer that is written, if one is. The integers have no negative zero. -/
def toInt? (n : Number) : Option Int :=
  if !n.isInteger || n.negative && n.mantissa == 0 then none
  else some (if n.negative then -(n.mantissa : Int) else n.mantissa)

def write (n : Number) : List Char :=
  let digits := Decimal.write n.mantissa
  let signed := if n.negative then '-' :: digits else digits
  if n.isInteger then signed else signed ++ 'e' :: Decimal.writeInt n.exponent

/-- A sign and digits, as in exponents. -/
def readExponent? (cs : List Char) : Option Int :=
  match cs with
  | '-' :: digits => (Decimal.read? digits).map fun n => -(n : Int)
  | '+' :: digits => (Decimal.read? digits).map fun n => (n : Int)
  | digits => (Decimal.read? digits).map fun n => (n : Int)

/-- What follows the digits before the point: a fraction and an exponent, each if there is one. -/
def readTail? (negative : Bool) (whole rest : List Char) : Option Number :=
  let withExponent (digits places rest : List Char) (isInteger : Bool) : Option Number :=
    match rest with
    | [] => some ⟨negative, Decimal.value digits, -(places.length : Int), isInteger⟩
    | e :: power =>
      if e = 'e' ∨ e = 'E' then
        (readExponent? power).map fun k =>
          ⟨negative, Decimal.value digits, k - places.length, false⟩
      else none
  match rest with
  | '.' :: rest =>
    let places := rest.takeWhile Char.isDigit
    if places.isEmpty then none
    else withExponent (whole ++ places) places (rest.dropWhile Char.isDigit) false
  | rest => withExponent whole [] rest true

/-- Reads a number that takes all of the text. No zero may stand before other digits. -/
def read? (cs : List Char) : Option Number :=
  let negative := cs.head? == some '-'
  let cs := if negative then cs.tail else cs
  let whole := cs.takeWhile Char.isDigit
  if whole.isEmpty || 1 < whole.length && whole.head? == some '0' then none
  else readTail? negative whole (cs.dropWhile Char.isDigit)

end Number

def ofString (s : String) : Json := .str (some s)

def ofInt (n : Int) : Json := .num (.ofInt n)

def ofNat (n : Nat) : Json := ofInt n

/-- An object with the given fields in order. -/
def ofFields (fields : List (String × Json)) : Json :=
  .obj (fields.map fun f => (some f.1, f.2))

def ofOption : Option Json → Json
  | none => .null
  | some j => j

end Json

end CodeSearch
