import CodeSearch.Channel.Basic
import CodeSearch.Dialogue.Basic

/-!
The board on which the listeners of a dialogue are kept, one channel for each topic. A subscription
is known by a handle; handles count up over all topics.
-/
namespace CodeSearch

inductive Topic where
  | willSearch | didSearch | willLoadMore | didLoadMore | didError | didLoadRepos
deriving DecidableEq, Repr

namespace Topic

def all : List Topic := [willSearch, didSearch, willLoadMore, didLoadMore, didError, didLoadRepos]

def name : Topic → String
  | willSearch => "willSearch"
  | didSearch => "didSearch"
  | willLoadMore => "willLoadMore"
  | didLoadMore => "didLoadMore"
  | didError => "didError"
  | didLoadRepos => "didLoadRepos"

def named? (name : String) : Option Topic := all.find? (·.name == name)

end Topic

namespace Notice

def topic : Notice → Topic
  | willSearch _ => .willSearch
  | didSearch _ _ => .didSearch
  | willLoadMore _ => .willLoadMore
  | didLoadMore _ _ => .didLoadMore
  | didError _ => .didError
  | didLoadRepos _ => .didLoadRepos

/-- The list of results that comes with a notice, if one does. -/
def results? : Notice → Option (List RepoHits)
  | didSearch results _ => some results
  | didLoadMore _ results => some results
  | _ => none

end Notice

structure Board where
  channel : Topic → Channel String := fun _ => {}
  /-- The topic and the number that each handle stands for, until it is cancelled. -/
  handles : List (Option (Topic × Nat)) := []

namespace Board

def setChannel (b : Board) (t : Topic) (c : Channel String) : Board :=
  { b with channel := fun other => if other = t then c else b.channel other }

/-- The new subscription has the next handle. -/
def subscribe (b : Board) (t : Topic) (name : String) : Board :=
  let c := b.channel t
  { b.setChannel t (c.subscribe name) with handles := b.handles ++ [some (t, c.nextId)] }

/-- Cancels a subscription; false if the handle stands for none. -/
def cancel (b : Board) (handle : Nat) : Bool × Board :=
  match b.handles[handle]?.join with
  | none => (false, b)
  | some (t, id) =>
    let c := b.channel t
    (c.has id, { b.setChannel t (c.cancel id) with handles := b.handles.set handle none })

/-- Who is told of a notice. -/
def deliver (b : Board) (n : Notice) : List (String × Notice) :=
  (b.channel n.topic).listeners.map fun l => (l.2, n)

end Board

end CodeSearch
