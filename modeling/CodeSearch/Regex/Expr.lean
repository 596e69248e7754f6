import CodeSearch.Unicode.Words

/-!
Regular expressions over characters. Choices and repetitions are ordered: what stands first is
tried first, so an expression has one preferred match and not only a set of matches. `catAll`,
`altAll`, `ofSet` and `ofRepeat` keep expressions in a normal form, whose size decides whether a
pattern is small enough to be used: neighbouring characters make one text, and what all alternatives
begin with is written once.
-/
namespace CodeSearch.Regex

open CodeSearch.Unicode

/-- The characters that count: the first 128, or all. -/
inductive Alphabet where
  | ascii | unicode
deriving DecidableEq, Repr

/-- Whether a character makes words. -/
def Alphabet.has : Alphabet → Char → Bool
  | ascii, c => asciiWordChars.contains c
  | unicode, c => wordChars.contains c

/-- Conditions on the place between two characters. -/
inductive Edge where
  | textStart | textEnd
  | lineStart | lineEnd
  /-- Lines may end in a carriage return, a line feed or both. -/
  | lineStartCrlf | lineEndCrlf
  | wordEdge (a : Alphabet) | notWordEdge (a : Alphabet)
  | wordStart (a : Alphabet) | wordEnd (a : Alphabet)
  | wordStartHalf (a : Alphabet) | wordEndHalf (a : Alphabet)
deriving DecidableEq, Repr

namespace Edge

/-- Whether a condition holds between the characters `before` and `after`. -/
def holds (before after : Option Char) : Edge → Bool
  | textStart => before.isNone
  | textEnd => after.isNone
  | lineStart => before.all (· = '\n')
  | lineEnd => after.all (· = '\n')
  | lineStartCrlf => before.all fun c => c = '\n' || c = '\r' && after != some '\n'
  | lineEndCrlf => after.all fun c => c = '\r' || c = '\n' && before != some '\r'
  | wordEdge a => before.any a.has != after.any a.has
  | notWordEdge a => before.any a.has == after.any a.has
  | wordStart a => !before.any a.has && after.any a.has
  | wordEnd a => before.any a.has && !after.any a.has
  | wordStartHalf a => !before.any a.has
  | wordEndHalf a => !after.any a.has

end Edge

/-- What two lists begin with alike. -/
def commonStart {α : Type} [DecidableEq α] : List α → List α → List α
  | a :: as, b :: bs => if a = b then a :: commonStart as bs else []
  | _, _ => []

inductive Expr where
  | empty
  /-- These characters in a row. -/
  | text (cs : List Char)
  /-- A member of the set, which is written with a view to an alphabet. -/
  | set (a : Alphabet) (s : CharSet)
  | edge (e : Edge)
  /-- What is kept of a match under a number. -/
  | group (number : Nat) (body : Expr)
  | cat (first rest : Expr)
  | alt (first rest : Expr)
  /-- At least `least` and at most `most` times; greedy if more is preferred to less. -/
  | repeat (body : Expr) (least : Nat) (most : Option Nat) (greedy : Bool)
deriving DecidableEq, Repr

namespace Expr

/-- The length of the shortest match in characters; none where no match is certain. -/
def shortest : Expr → Option Nat
  | empty => some 0
  | text cs => some cs.length
  | set _ s => if s.isEmpty then none else some 1
  | edge _ => some 0
  | group _ body => body.shortest
  | cat a b => do return (← a.shortest) + (← b.shortest)
  | alt a b => do return min (← a.shortest) (← b.shortest)
  | .repeat body least _ _ => do return (← body.shortest) * least

/-- Every match is empty. -/
def readsNothing : Expr → Bool
  | empty => true
  | text cs => cs.isEmpty
  | set _ _ => false
  | edge _ => true
  | group _ body => body.readsNothing
  | cat a b => a.readsNothing && b.readsNothing
  | alt a b => a.readsNothing && b.readsNothing
  | .repeat body _ _ _ => body.readsNothing

/-- Every match reads something. -/
def readsSome (e : Expr) : Bool := e.shortest.any (0 < ·)

/-- A repetition. Of what reads nothing, a second time would add nothing. -/
def ofRepeat (body : Expr) (least : Nat) (most : Option Nat) (greedy : Bool) : Expr :=
  let (least, most) :=
    if body.readsNothing then (min least 1, some (min (most.getD 1) 1)) else (least, most)
  if most = some 0 then empty
  else if least = 1 ∧ most = some 1 then body
  else .repeat body least most greedy

/-- A member of the set; the only one is a text. Without members alphabets make no difference. -/
def ofSet (a : Alphabet) (s : CharSet) : Expr :=
  match s.ranges with
  | [] => set .ascii s
  | [(low, high)] => if low = high then text [Char.ofNat low] else set a s
  | _ => set a s

/-- What an expression has one after another. -/
def parts : Expr → List Expr
  | empty => []
  | cat a b => a :: b.parts
  | e => [e]

def ofParts : List Expr → Expr
  | [] => empty
  | [e] => e
  | e :: rest => cat e (ofParts rest)

/-- Two texts in a row are one. -/
def consPart (e : Expr) (after : List Expr) : List Expr :=
  match e, after with
  | text cs, text ds :: rest => text (cs ++ ds) :: rest
  | e, after => e :: after

/-- One after another. -/
def catAll (es : List Expr) : Expr := ofParts ((es.flatMap parts).foldr consPart [])

/-- The alternatives of an expression. -/
def choices : Expr → List Expr
  | alt a b => a :: b.choices
  | e => [e]

def ofChoices : List Expr → Expr
  | [] => empty
  | [e] => e
  | e :: rest => alt e (ofChoices rest)

def text? : Expr → Option (List Char)
  | text cs => some cs
  | _ => none

def letter? : Expr → Option (Nat × Nat)
  | text [c] => some (c.toNat, c.toNat)
  | _ => none

def set? : Expr → Option CharSet
  | set _ s => some s
  | _ => none

/-- The parts of an expression that has several. -/
def row? : Expr → Option (List Expr)
  | cat a b => some (a :: b.parts)
  | _ => none

/-- One of the expressions. Of single characters only, or of sets only, a set. -/
def chooseFrom (es : List Expr) : Expr :=
  match es.flatMap choices with
  | [e] => e
  | es =>
    match es.mapM letter?, es.mapM set? with
    | some letters, _ => ofSet .unicode (CharSet.ofRanges letters)
    | _, some sets => ofSet .unicode (CharSet.unionAll sets)
    | _, _ => ofChoices es

/-- The first that leads to a match. The parts that all alternatives begin with stand before the
choice. -/
def altAll (es : List Expr) : Expr :=
  match (es.flatMap choices).mapM row? with
  | some (first :: second :: others) =>
    let rows := first :: second :: others
    let shared := (second :: others).foldl commonStart first
    catAll (shared ++ [chooseFrom (rows.map fun row => ofParts (row.drop shared.length))])
  | _ => chooseFrom es

end Expr

end CodeSearch.Regex
