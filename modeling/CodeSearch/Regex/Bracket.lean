import CodeSearch.Regex.Escape

/-!
Classes in brackets. A bracket holds single characters, ranges, named classes and further brackets,
all joined, and may combine such joins by intersection, difference or what is in just one of two.
-/
namespace CodeSearch.Regex

open CodeSearch.Unicode CodeSearch.Text

inductive SetOperator where
  | inter | diff | apart
deriving DecidableEq, Repr

def SetOperator.apply : SetOperator → CharSet → CharSet → CharSet
  | inter, s, t => s.inter t
  | diff, s, t => s.diff t
  | apart, s, t => s.apart t

/-- A set with how deeply its text is nested. -/
structure Nested where
  set : CharSet
  depth : Nat

/-- A bracket that is not yet closed: what is joined since the last operator, how many items that
is, and what stands on the operator's left. -/
structure Bracket where
  negated : Bool
  left : Option (SetOperator × Nested) := none
  joined : CharSet := CharSet.empty
  items : Nat := 0
  depth : Nat := 0

namespace Bracket

def add (b : Bracket) (s : CharSet) (depth : Nat) : Bracket :=
  { b with joined := b.joined.union s, items := b.items + 1, depth := max b.depth depth }

/-- All that is read since the bracket opened. -/
def value (f : Flags) (b : Bracket) : Nested :=
  let right : Nested := ⟨b.joined, if b.items ≤ 1 then b.depth else b.depth + 1⟩
  match b.left with
  | none => right
  | some (op, left) =>
    ⟨op.apply (f.fold left.set) (f.fold right.set), max left.depth right.depth + 1⟩

def operate (f : Flags) (b : Bracket) (op : SetOperator) : Bracket :=
  { negated := b.negated, left := some (op, b.value f) }

def close? (f : Flags) (b : Bracket) : Option Nested := do
  let inside := b.value f
  let s ← f.negate? b.negated (f.fold inside.set)
  return ⟨s, inside.depth + 1⟩

end Bracket

/-- Without `u`, brackets hold the first 128 characters only. -/
def bracketChar? (f : Flags) (c : Char) : Option CharSet :=
  if f.unicode || c.toNat < 0x80 then some (CharSet.singleton c) else none

/-- After an opening bracket: a caret negates, then hyphens and after none of them a closing
bracket stand for themselves. -/
def openBracket (verbose : Bool) (cs : List Char) : Option (Bracket × List Char) :=
  let start := skip verbose cs
  let negated := start.head? == some '^'
  let start := if negated then skip verbose start.tail else start
  let (hyphens, rest) := takeVisible verbose (· == '-') start
  let b : Bracket :=
    hyphens.foldl (fun b c => b.add (CharSet.singleton c) 0) { negated := negated }
  match rest with
  | [] => none
  | c :: cs =>
    if hyphens.isEmpty && c == ']' then
      match skip verbose cs with
      | [] => none
      | d :: ds => some (b.add (CharSet.singleton ']') 0, d :: ds)
    else some (b, c :: cs)

/-- A named class between `[:` and `:]`, the first bracket being read already. -/
def asciiClass? : List Char → Option (CharSet × Bool × List Char)
  | ':' :: cs =>
    let negated := cs.head? == some '^'
    let start := if negated then cs.tail else cs
    match start.dropWhile (· != ':') with
    | ':' :: ']' :: rest =>
      (asciiNamed.lookup (String.ofList (start.takeWhile (· != ':')))).map fun s =>
        (s, negated, rest)
    | _ => none
  | _ => none

def readItem (f : Flags) : List Char → Option (Atom × List Char)
  | [] => none
  | '\\' :: cs => readEscape f cs
  | c :: cs => some (.char c false, cs)

def itemSet? (f : Flags) : Atom → Option CharSet
  | .char c _ => bracketChar? f c
  | .set s => some s
  | .edge _ => none

/-- The character after a hyphen. In verbose mode blanks are passed over, and the first `#`. -/
def peek (verbose : Bool) (cs : List Char) : Option Char :=
  if !verbose then cs.head?
  else
    match cs.dropWhile isBlank with
    | '#' :: rest => (rest.dropWhile isBlank).head?
    | rest => rest.head?

/-- A single item or a range of two characters. -/
def readRange (f : Flags) (cs : List Char) : Option (CharSet × List Char) := do
  let (first, rest) ← readItem f cs
  match skip f.verbose rest with
  | [] => none
  | '-' :: after =>
    if peek f.verbose after == some ']' || peek f.verbose after == some '-' then
      return (← itemSet? f first, '-' :: after)
    else
      let (last, rest) ← readItem f (skip f.verbose after)
      match first, last with
      | .char low _, .char high _ =>
        let _ ← bracketChar? f low
        let _ ← bracketChar? f high
        if low ≤ high then return (CharSet.between low high, rest) else none
      | _, _ => none
  | c :: after => return (← itemSet? f first, c :: after)

/-- Reads to the end of the outermost bracket; `outer` holds the brackets around `b`, the nearest
first. Every round reads a character, so as many rounds as there are characters are enough. -/
def readBracket (f : Flags) : Nat → Bracket → List Bracket → List Char → Option (Nested × List Char)
  | 0, _, _, _ => none
  | fuel + 1, b, outer, cs =>
    match skip f.verbose cs with
    | [] => none
    | '[' :: rest =>
      match asciiClass? rest with
      | some (s, negated, rest) => do
        let s ← f.negate? negated (f.fold s)
        readBracket f fuel (b.add s 0) outer rest
      | none => do
        let (inner, rest) ← openBracket f.verbose rest
        readBracket f fuel inner (b :: outer) rest
    | ']' :: rest => do
      let closed ← b.close? f
      match outer with
      | [] => return (closed, rest)
      | around :: outer => readBracket f fuel (around.add closed.set closed.depth) outer rest
    | '&' :: '&' :: rest => readBracket f fuel (b.operate f .inter) outer rest
    | '-' :: '-' :: rest => readBracket f fuel (b.operate f .diff) outer rest
    | '~' :: '~' :: rest => readBracket f fuel (b.operate f .apart) outer rest
    | start => do
      let (s, rest) ← readRange f start
      readBracket f fuel (b.add s 0) outer rest

/-- A class in brackets, the first bracket being read already. -/
def readClass (f : Flags) (cs : List Char) : Option (Nested × List Char) := do
  let (b, rest) ← openBracket f.verbose cs
  readBracket f (rest.length + 1) b [] rest

end CodeSearch.Regex
