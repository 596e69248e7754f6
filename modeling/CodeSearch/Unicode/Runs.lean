import CodeSearch.Unicode.CharSet

/-!
The written form of the tables: numbers in base sixteen, parted by blanks, over several texts.
-/
namespace CodeSearch.Unicode.Runs

def digit (c : Char) : Nat := if c ≤ '9' then c.toNat - 48 else c.toNat - 87

/-- The numbers of one text, `n` being what is read of the first. -/
def numbersFrom (n : Nat) : List Char → List Nat
  | [] => [n]
  | ' ' :: cs => n :: numbersFrom 0 cs
  | c :: cs => numbersFrom (16 * n + digit c) cs

def numbers (lines : List String) : List Nat := lines.flatMap fun line => numbersFrom 0 line.toList

/-- Lengths come in turn: code points left out, code points taken. -/
def rangesFrom (start : Nat) : List Nat → List (Nat × Nat)
  | gap :: run :: rest =>
    (start + gap, start + gap + run - 1) :: rangesFrom (start + gap + run) rest
  | _ => []

def charSet (lines : List String) : CharSet := ⟨rangesFrom 0 (numbers lines)⟩

end CodeSearch.Unicode.Runs
