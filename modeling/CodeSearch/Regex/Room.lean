import CodeSearch.Regex.Lead
import CodeSearch.Regex.Room.Sets
import CodeSearch.Regex.Room.Words

/-!
The room that a pattern takes. A pattern is small enough if the automaton that it writes fits into a
given number of bytes, both the one that reads text forwards and the one that reads it backwards.
They read encoded text byte by byte, and a counted repetition is written out copy by copy, so a short
pattern can take much room. Measuring stops as soon as there is none left.
-/
namespace CodeSearch.Regex

open CodeSearch.Unicode CodeSearch.Text

def Direction.order (d : Direction) (bytes : List UInt8) : List UInt8 :=
  match d with
  | .forwards => bytes
  | .backwards => bytes.reverse

/-- The condition that holds only where reading begins. -/
def Direction.startEdge : Direction → Edge
  | .forwards => .textStart
  | .backwards => .textEnd

/-- Where an expression stands: for itself, or as an alternative after the first. The two states at
which the alternatives part and meet are written behind the second. -/
inductive Role where
  | single | second | later
deriving DecidableEq, Repr

/-- Ends what stands in a role with the states and links that the role asks for. -/
def Role.close (r : Role) (limit : Nat) (t : Tally) : Option Tally :=
  match r with
  | .single => t.within? limit
  | .second => (t.add 2 (2 * Room.ofLink)).within? limit
  | .later => (t.add 0 Room.ofLink).within? limit

namespace Expr

/-- Every match begins where the text does, in the given direction. -/
def startsAtEdge (d : Direction) : Expr → Bool
  | empty => false
  | text _ => false
  | set _ _ => false
  | edge e => e = d.startEdge
  | group _ body => body.startsAtEdge d
  | cat a b =>
    match d with
    | .forwards => a.startsAtEdge d || a.readsNothing && b.startsAtEdge d
    | .backwards => b.startsAtEdge d || b.readsNothing && a.startsAtEdge d
  | alt a b => a.startsAtEdge d && b.startsAtEdge d
  | .repeat body least _ _ => 0 < least && body.startsAtEdge d

/-- Writes the states of an expression behind those written already. -/
def measure (d : Direction) (limit : Nat) : Expr → Role → Tally → Option Tally
  | empty, r, t => r.close limit (t.add 1 0)
  | text cs, r, t => r.close limit (t.add (encode cs).length 0)
  | set _ s, r, t => r.close limit (measureSet d s t)
  | edge _, r, t => r.close limit (t.add 1 0)
  | group _ body, r, t =>
    match d with
    | .forwards => do
      let t ← body.measure d limit .single (t.add 1 0)
      r.close limit (t.add 1 0)
    | .backwards => do r.close limit (← body.measure d limit .single t)
  | cat a b, r, t =>
    match d with
    | .forwards => do
      let t ← a.measure d limit .single t
      r.close limit (← b.measure d limit .single t)
    | .backwards => do
      let t ← b.measure d limit .single t
      r.close limit (← a.measure d limit .single t)
  | alt a b, .single, t =>
    match (alt a b).choices.mapM text? with
    | some texts => (measureWords (texts.map fun cs => d.order (encode cs)) t).within? limit
    | none => do b.measure d limit .second (← a.measure d limit .single t)
  | alt a b, r, t => do b.measure d limit .later (← a.measure d limit r t)
  | .repeat body least most _, r, t => do
    let copy := body.measure d limit .single
    match least, most with
    | 0, none =>
      if body.readsSome then
        r.close limit ((← copy (t.add 1 0)).add 0 (2 * Room.ofLink))
      else r.close limit ((← copy t).add 3 (4 * Room.ofLink))
    | 0, some 1 => r.close limit ((← copy (t.add 1 0)).add 1 (2 * Room.ofLink))
    | least, none => r.close limit ((← t.times copy least).add 1 (2 * Room.ofLink))
    | least, some most =>
      let t ← if least = 0 then pure (t.add 1 0) else t.times copy least
      if most = least then r.close limit t
      else
        let optional (t : Tally) : Option Tally := copy (t.add 1 (2 * Room.ofLink))
        r.close limit (← (t.add 1 0).times optional (most - least))

/-- The room of the automaton that reads in the given direction, if it is not above the limit. The
automaton also passes over what stands before a match, unless the match must begin where the text
does, and forwards it keeps where the match begins and ends. -/
def room? (d : Direction) (limit : Nat) (e : Expr) : Option Nat := do
  let skipping : Tally :=
    if e.startsAtEdge d then ⟨1, 0⟩ else ⟨3, 2 * Room.ofLink + Room.ofRange⟩
  let kept := match d with
    | .forwards => 1
    | .backwards => 0
  let t ← e.measure d limit .single (skipping.add kept 0)
  return (← (t.add (kept + 1) 0).within? limit).room

/-- Whether both automata stay within the limit. -/
def fits (limit : Nat) (e : Expr) : Bool :=
  (e.room? .forwards limit).isSome && (e.room? .backwards limit).isSome

/-- So many texts to choose from are looked for in a tree of words, which is not measured. -/
def manyTexts : Nat := 3000

def isManyTexts (e : Expr) : Bool :=
  manyTexts ≤ e.choices.length && e.choices.all (·.text?.isSome)

/-- An expression with the same matches for which there is room: the expression itself, or a choice of
the words that are all it comes to. -/
def within? (limit : Option Nat) (e : Expr) : Option Expr :=
  if limit.all e.fits || e.isManyTexts then some e
  else e.words?.map fun words => altAll (words.map text)

end Expr

def roomLimit : Nat := 10 * (1 <<< 20)

end CodeSearch.Regex
