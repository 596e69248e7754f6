/-!
Whole numbers between two bounds. A number of this kind carries the proof that it keeps them, so
a sum either has a place between the bounds or is told apart as one that has none.
-/
namespace CodeSearch.Numeric

@[ext]
structure Bounded (low high : Int) where
  val : Int
  low_le : low ≤ val
  le_high : val ≤ high
deriving DecidableEq

/-- Signed numbers of 64 bits. -/
abbrev Signed64 := Bounded (-9223372036854775808) 9223372036854775807

/-- Unsigned numbers of 64 bits. -/
abbrev Unsigned64 := Bounded 0 18446744073709551615

namespace Bounded

variable {low high : Int}

def ofInt? (n : Int) : Option (Bounded low high) :=
  if h : low ≤ n ∧ n ≤ high then some ⟨n, h.1, h.2⟩ else none

/-- The sum with `k`, if it keeps the bounds. -/
def add? (n : Bounded low high) (k : Int) : Option (Bounded low high) := ofInt? (n.val + k)

/-- The number between the bounds that is nearest to `n`. -/
def clamp (h : low ≤ high) (n : Int) : Bounded low high :=
  if below : n < low then ⟨low, Int.le_refl _, h⟩
  else if above : high < n then ⟨high, h, Int.le_refl _⟩
  else ⟨n, Int.not_lt.1 below, Int.not_lt.1 above⟩

def toNat (n : Bounded low high) : Nat := n.val.toNat

theorem ofInt?_val (n : Bounded low high) : ofInt? n.val = some n := by
  simp [ofInt?, n.low_le, n.le_high]

theorem clamp_val (h : low ≤ high) (n : Int) : (clamp h n).val = max low (min n high) := by
  unfold clamp
  split
  · dsimp only
    omega
  · split <;> dsimp only <;> omega

theorem toNat_of_val {n : Bounded low high} {k : Nat} (same : n.val = k) : n.toNat = k := by
  rw [toNat, same, Int.toNat_natCast]

end Bounded

def Signed64.clamp (n : Int) : Signed64 := Bounded.clamp (by decide) n

def Unsigned64.clamp (n : Int) : Unsigned64 := Bounded.clamp (by decide) n

instance : Inhabited Signed64 := ⟨⟨0, by decide, by decide⟩⟩

instance : Inhabited Unsigned64 := ⟨⟨0, by decide, by decide⟩⟩

end CodeSearch.Numeric
