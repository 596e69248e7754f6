/-!
Channels that listeners subscribe to. Every subscription gets a number of its own, which is never
given out again, and the listeners stand in the order in which they came.
-/
namespace CodeSearch

structure Channel (L : Type) where
  listeners : List (Nat × L) := []
  nextId : Nat := 0

namespace Channel

variable {L : Type}

def subscribe (c : Channel L) (listener : L) : Channel L :=
  ⟨c.listeners ++ [(c.nextId, listener)], c.nextId + 1⟩

def has (c : Channel L) (id : Nat) : Bool := c.listeners.any (·.1 == id)

/-- Takes out the listener of this number, if there is one. -/
def cancel (c : Channel L) (id : Nat) : Channel L :=
  { c with listeners := c.listeners.filter (·.1 != id) }

def size (c : Channel L) : Nat := c.listeners.length

def isEmpty (c : Channel L) : Bool := c.listeners.isEmpty

def describe (c : Channel L) : String :=
  "Signal \x7b listeners: " ++ toString c.size ++ " \x7d"

end Channel

end CodeSearch
