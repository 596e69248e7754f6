/-!
Ranges of characters in encoded form. A range of code points is parted into rows of byte ranges:
a character is in the range exactly if its bytes, one by one, are in the ranges of one row. The rows
are as few as the encoding allows and stand in the order of the characters.
-/
namespace CodeSearch.Unicode

/-- Bytes from a first to a last, both taken. -/
structure ByteRange where
  low : Nat
  high : Nat
deriving DecidableEq, Repr

/-- A byte range for each byte of a character. -/
abbrev ByteRow := List ByteRange

namespace ByteRange

def single (byte : Nat) : ByteRange := ⟨byte, byte⟩

/-- All bytes that go on a character. -/
def goesOn : ByteRange := ⟨0x80, 0xbf⟩

end ByteRange

/-- The numbers from `low` to `high`, a byte for their leading digit to the base 64, which is counted
from `mark`, and one for each of the `after` digits behind it. Digits behind that take all values are
kept together. -/
def rowsFrom (mark : Nat) : Nat → Nat → Nat → List ByteRow
  | 0, low, high => [[⟨mark + low, mark + high⟩]]
  | after + 1, low, high =>
    let block := Nat.pow 64 (after + 1)
    let first := low / block
    let last := high / block
    let within (digit low high : Nat) : List ByteRow :=
      (rowsFrom 0x80 after low high).map (ByteRange.single (mark + digit) :: ·)
    if first = last then within first (low % block) (high % block)
    else
      let cutFirst := low % block != 0
      let cutLast := high % block != block - 1
      let start := if cutFirst then first + 1 else first
      let stop := if cutLast then last else last + 1
      (if cutFirst then within first (low % block) (block - 1) else []) ++
        (if start < stop then
          [⟨mark + start, mark + stop - 1⟩ :: List.replicate (after + 1) ByteRange.goesOn]
        else []) ++
        (if cutLast then within last 0 (high % block) else [])

/-- A form of encoding: how many bytes follow the first, what is added to the first, and the first
and last character of this form, the surrogates standing between two forms. -/
structure Encoding where
  after : Nat
  mark : Nat
  low : Nat
  high : Nat

def encodings : List Encoding :=
  [⟨0, 0, 0, 0x7f⟩, ⟨1, 0xc0, 0x80, 0x7ff⟩, ⟨2, 0xe0, 0x800, 0xd7ff⟩, ⟨2, 0xe0, 0xe000, 0xffff⟩,
    ⟨3, 0xf0, 0x10000, 0x10ffff⟩]

def Encoding.rows (e : Encoding) (low high : Nat) : List ByteRow :=
  if max low e.low ≤ min high e.high then
    rowsFrom e.mark e.after (max low e.low) (min high e.high)
  else []

/-- The rows of all characters from `low` to `high`. -/
def byteRows (low high : Nat) : List ByteRow := encodings.flatMap (·.rows low high)

end CodeSearch.Unicode
