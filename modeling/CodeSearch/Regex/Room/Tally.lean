/-!
How large an automaton gets as it is written down state by state. Its states all take the same room;
links take room of their own.
-/
namespace CodeSearch.Regex

/-- Whether an automaton reads text from its beginning or from its end. -/
inductive Direction where
  | forwards | backwards
deriving DecidableEq, Repr

namespace Room

/-- The bytes that a state takes, and those of its links: to where it goes on after bytes of a
range, and to where it goes on without reading. -/
def ofState : Nat := 32
def ofRange : Nat := 8
def ofLink : Nat := 4

end Room

/-- The states written so far, numbered from zero, and the bytes of their links. -/
structure Tally where
  states : Nat := 0
  links : Nat := 0
deriving DecidableEq, Repr

namespace Tally

def room (t : Tally) : Nat := Room.ofState * t.states + t.links

def add (t : Tally) (states links : Nat) : Tally := ⟨t.states + states, t.links + links⟩

/-- Nothing once there is no room left. -/
def within? (limit : Nat) (t : Tally) : Option Tally := if t.room ≤ limit then some t else none

/-- As often as asked for, as long as there is room. -/
def times (step : Tally → Option Tally) : Nat → Tally → Option Tally
  | 0, t => some t
  | count + 1, t =>
    match step t with
    | none => none
    | some t => times step count t

theorem room_add (t : Tally) (states links : Nat) :
    (t.add states links).room = t.room + (Room.ofState * states + links) := by
  simp only [room, add, Nat.mul_add]
  omega

end Tally

end CodeSearch.Regex
