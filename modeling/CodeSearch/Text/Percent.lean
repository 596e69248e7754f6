import CodeSearch.Text.Encoded

/-!
Percent encoding. Every byte of the UTF-8 form is written as `%` and two digits, but for letters,
digits and `-`, `_`, `.`, `~`. Reading replaces each `%` that two digits follow and keeps the rest;
it fails if the bytes are no UTF-8.
-/
namespace CodeSearch.Text.Percent

def isPlain (b : UInt8) : Bool :=
  48 ≤ b && b ≤ 57 || 65 ≤ b && b ≤ 90 || 97 ≤ b && b ≤ 122 ||
    b == 45 || b == 95 || b == 46 || b == 126

def digit (n : Nat) : Char := if n < 10 then Char.ofNat (48 + n) else Char.ofNat (55 + n)

def encodeByte (b : UInt8) : List Char :=
  if isPlain b then [Char.ofNat b.toNat] else ['%', digit (b.toNat / 16), digit (b.toNat % 16)]

def encodeChars (cs : List Char) : List Char := (Text.encode cs).flatMap encodeByte

def encode (s : String) : String := String.ofList (encodeChars s.toList)

def digitValue? (b : UInt8) : Option UInt8 :=
  if 48 ≤ b ∧ b ≤ 57 then some (b - 48)
  else if 65 ≤ b ∧ b ≤ 70 then some (b - 55)
  else if 97 ≤ b ∧ b ≤ 102 then some (b - 87)
  else none

/-- The byte that two digits write. -/
def byte? (high low : UInt8) : Option UInt8 := do
  return 16 * (← digitValue? high) + (← digitValue? low)

def decodeBytes : List UInt8 → List UInt8
  | [] => []
  | [b] => [b]
  | [a, b] => [a, b]
  | a :: high :: low :: rest =>
    match if a = 37 then byte? high low else none with
    | some b => b :: decodeBytes rest
    | none => a :: decodeBytes (high :: low :: rest)

def decodeChars? (cs : List Char) : Option (List Char) :=
  Text.decode? (decodeBytes (Text.encode cs))

end CodeSearch.Text.Percent
