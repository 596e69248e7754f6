import CodeSearch.Channel.Basic

/-!
Runs of actions on channels, in which a listener that is called may act in its turn. A value that is
published goes to the listeners of that moment, one after another; what they do meanwhile changes
who hears the next value. A listener knows what to do on its first call, its second and so on, and
does nothing once it has done all.
-/
namespace CodeSearch.Channel

inductive Action where
  /-- Subscribes a listener under a name, with what it does on each of its calls. -/
  | subscribe (channel : Nat) (name : String) (turns : List (List Action))
  /-- Cancels the subscription made last under a name. -/
  | cancel (channel : Nat) (name : String)
  | publish (channel : Nat) (value : Int)
  | describe (channel : Nat)

/-- A subscribed listener; the turns it has left are kept under its number. -/
structure Listener where
  name : String
  number : Nat

/-- What is written down. -/
inductive Entry where
  | subscribed (name : String) (size : Nat)
  | cancelled (name : String) (found : Option Bool) (size : Nat)
  | publishing (value : Int)
  | called (name : String) (value : Int)
  | published (value : Int)
  | described (text : String)
deriving DecidableEq, Repr

/-- What is still to be done. -/
inductive Task where
  | act (a : Action)
  | call (l : Listener) (value : Int)
  | endPublish (value : Int)

structure Stage where
  channels : List (Channel Listener)
  /-- The number that each name got last, whatever the channel. -/
  ids : List (String × Nat) := []
  /-- The turns of all listeners that ever were. -/
  turns : List (List (List Action)) := []
  /-- Latest first. -/
  log : List Entry := []

namespace Stage

def ofCount (count : Nat) : Stage := { channels := List.replicate count {} }

def channel (s : Stage) (k : Nat) : Channel Listener := s.channels[k]?.getD {}

def write (s : Stage) (e : Entry) : Stage := { s with log := e :: s.log }

def subscribe (s : Stage) (k : Nat) (name : String) (turns : List (List Action)) : Stage :=
  let c := s.channel k
  let joined := c.subscribe ⟨name, s.turns.length⟩
  let s := { s with
    channels := s.channels.set k joined
    ids := (name, c.nextId) :: s.ids
    turns := s.turns ++ [turns] }
  s.write (.subscribed name joined.size)

def cancel (s : Stage) (k : Nat) (name : String) : Stage :=
  let c := s.channel k
  match s.ids.lookup name with
  | none => s.write (.cancelled name none c.size)
  | some id =>
    let left := c.cancel id
    let s := { s with channels := s.channels.set k left }
    s.write (.cancelled name (some (c.has id)) left.size)

/-- Does one task and tells what is to be done next, before all else. -/
def step (s : Stage) : Task → Stage × List Task
  | .act (.subscribe k name turns) => (s.subscribe k name turns, [])
  | .act (.cancel k name) => (s.cancel k name, [])
  | .act (.publish k value) =>
    (s.write (.publishing value),
      (s.channel k).listeners.map (fun l => .call l.2 value) ++ [.endPublish value])
  | .act (.describe k) => (s.write (.described (s.channel k).describe), [])
  | .call l value =>
    let s := s.write (.called l.name value)
    match s.turns[l.number]? with
    | some (turn :: later) =>
      ({ s with turns := s.turns.set l.number later }, turn.map .act)
    | _ => (s, [])
  | .endPublish value => (s.write (.published value), [])

def run (s : Stage) : Nat → List Task → Stage
  | 0, _ => s
  | _ + 1, [] => s
  | fuel + 1, t :: later =>
    let (s, now) := s.step t
    s.run fuel (now ++ later)

end Stage

namespace Action

mutual

/-- The most actions, subscriptions and values published that an action can lead to. -/
def most : Action → Nat × Nat × Nat
  | .subscribe _ _ turns =>
    let (actions, subscriptions, values) := mostTurns turns
    (actions + 1, subscriptions + 1, values)
  | .cancel _ _ => (1, 0, 0)
  | .publish _ _ => (1, 0, 1)
  | .describe _ => (1, 0, 0)

def mostTurns : List (List Action) → Nat × Nat × Nat
  | [] => (0, 0, 0)
  | turn :: turns =>
    let (a, s, v) := mostOf turn
    let (a', s', v') := mostTurns turns
    (a + a', s + s', v + v')

def mostOf : List Action → Nat × Nat × Nat
  | [] => (0, 0, 0)
  | action :: actions =>
    let (a, s, v) := most action
    let (a', s', v') := mostOf actions
    (a + a', s + s', v + v')

end

/-- Enough steps for some actions: each takes one, and each value that is published calls every
listener there may be and then ends. -/
def steps (actions : List Action) : Nat :=
  let (a, s, v) := mostOf actions
  a + v * (s + 1) + 1

end Action

namespace Stage

/-- Does the actions in turn. What is written down in each is the log since the one before. The
bound takes in all the actions, as a listener may have its turns left from earlier ones. -/
def perform (s : Stage) (bound : Nat) (a : Action) : Stage × List Entry :=
  let s := { s with log := [] }.run bound [.act a]
  (s, s.log.reverse)

/-- Does all actions; after each, what was written down and the channels as they are then. -/
def performAll (count : Nat) (actions : List Action) :
    List (List Entry × List (Channel Listener)) :=
  let bound := Action.steps actions
  (actions.foldl (fun (s, done) a =>
    let (s, log) := s.perform bound a
    (s, (log, s.channels) :: done)) (ofCount count, [])).2.reverse

end Stage

end CodeSearch.Channel
