import Std.Data.HashMap

/-!
States by their links, so that equal states are written once. The memory has a fixed number of
places, and a state that comes to a place takes it from the one there: an equal state that is met
again may have been forgotten, and is then written again.
-/
namespace CodeSearch.Regex

/-- For each place that is taken the links of a state, as numbers, and the number of the state. -/
structure Memo where
  places : Nat
  taken : Std.HashMap Nat (List Nat × Nat) := {}

namespace Memo

def mix (hash : UInt64) (n : Nat) : UInt64 := (hash ^^^ UInt64.ofNat n) * 1099511628211

/-- The place where these links belong. -/
def place (m : Memo) (links : List Nat) : Nat :=
  (links.foldl mix 14695981039346656037).toNat % m.places

def find? (m : Memo) (links : List Nat) : Option Nat :=
  match m.taken[m.place links]? with
  | some (kept, state) => if kept = links then some state else none
  | none => none

def insert (m : Memo) (links : List Nat) (state : Nat) : Memo :=
  { m with taken := m.taken.insert (m.place links) (links, state) }

end Memo

end CodeSearch.Regex
