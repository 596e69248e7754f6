import CodeSearch.Regex.Bracket

/-!
Reading the text of a pattern. The reader keeps the groups that are open, each with the flags to
return to, the alternatives finished in it and the items of the one being read.
-/
namespace CodeSearch.Regex

open CodeSearch.Unicode CodeSearch.Text

/-- An expression with how deeply its text is nested. Setting flags is an item too, though one that
cannot be repeated. -/
structure Item where
  expr : Expr
  depth : Nat := 0
  repeatable : Bool := true

/-- A group that is not yet closed, the latest items and alternatives first. -/
structure Group where
  restore : Flags
  number : Option Nat := none
  alternatives : List Item := []
  items : List Item := []

def deepest (items : List Item) : Nat := items.foldl (fun d i => max d i.depth) 0

namespace Group

/-- The items since the last bar, one after another. -/
def sequence (g : Group) : Item :=
  match g.items with
  | [] => ⟨.empty, 0, true⟩
  | [i] => i
  | items => ⟨Expr.catAll (items.reverse.map (·.expr)), deepest items + 1, true⟩

def add (g : Group) (i : Item) : Group := { g with items := i :: g.items }

def bar (g : Group) : Group :=
  { g with alternatives := g.sequence :: g.alternatives, items := [] }

/-- All that is read since the group opened. -/
def value (g : Group) : Item :=
  match g.alternatives with
  | [] => g.sequence
  | _ =>
    let all := g.sequence :: g.alternatives
    ⟨Expr.altAll (all.reverse.map (·.expr)), deepest all + 1, true⟩

/-- The item that a closed group is. -/
def closed (g : Group) : Item :=
  let inside := g.value
  let e := match g.number with
    | none => inside.expr
    | some n => .group n inside.expr
  ⟨e, inside.depth + 1, true⟩

/-- Puts a repetition in the place of the last item. -/
def repeatLast? (f : Flags) (g : Group) (least : Nat) (most : Option Nat) (greedy : Bool) :
    Option Group :=
  match g.items with
  | [] => none
  | i :: items =>
    if !i.repeatable then none
    else
      let e := Expr.ofRepeat i.expr least most (greedy != f.swapGreed)
      some { g with items := ⟨e, i.depth + 1, true⟩ :: items }

end Group

structure Reader where
  flags : Flags
  group : Group
  outer : List Group := []
  names : List (List Char) := []
  /-- How many groups with a number have been opened. -/
  numbered : Nat := 0

/-- Deeper patterns are refused. -/
def depthLimit : Nat := 250

def isNameStart (c : Char) : Bool := c == '_' || nameLetters.contains c

def isNameChar (c : Char) : Bool :=
  c == '_' || c == '.' || c == '[' || c == ']' || nameLettersAndNumbers.contains c

/-- The name of a group and what follows the angle bracket that closes it. -/
def readName (cs : List Char) : Option (List Char × List Char) :=
  match cs.takeWhile (· != '>'), cs.dropWhile (· != '>') with
  | first :: more, _ :: rest =>
    if isNameStart first && more.all isNameChar then some (first :: more, rest) else none
  | _, _ => none

inductive FlagsEnd where
  | setHere
  | group
deriving DecidableEq, Repr

/-- Letters of flags, those after a hyphen being taken back, up to the end of a group or a colon.
A letter or a hyphen may stand once, and a hyphen not last. -/
def readFlags (f : Flags) (negating dangling : Bool) (seen : List Char) :
    List Char → Option (Flags × FlagsEnd × List Char)
  | [] => none
  | c :: cs =>
    if c = ':' then
      if dangling then none else some (f, .group, cs)
    else if c = ')' then
      if dangling || seen.isEmpty then none else some (f, .setHere, cs)
    else if c = '-' then
      if negating then none else readFlags f true true seen cs
    else if seen.contains c then none
    else
      match f.set? c (!negating) with
      | none => none
      | some f => readFlags f negating false (c :: seen) cs

namespace Reader

def add (r : Reader) (e : Expr) (depth : Nat) : Reader :=
  { r with group := r.group.add ⟨e, depth, true⟩ }

def enter (r : Reader) (f : Flags) : Reader :=
  { r with flags := f, group := { restore := r.flags }, outer := r.group :: r.outer }

/-- Opens a group with the next number. -/
def enterNumbered (r : Reader) : Reader :=
  { r with
    group := { restore := r.flags, number := some (r.numbered + 1) }
    outer := r.group :: r.outer
    numbered := r.numbered + 1 }

def enterNamed (r : Reader) (cs : List Char) : Option (Reader × List Char) := do
  let (name, rest) ← readName cs
  if r.names.contains name then none
  return ({ r.enterNumbered with names := name :: r.names }, rest)

/-- After an opening parenthesis. Conditions on the text ahead or behind are refused. -/
def openGroup (r : Reader) (cs : List Char) : Option (Reader × List Char) :=
  match skip r.flags.verbose cs with
  | '?' :: '=' :: _ => none
  | '?' :: '!' :: _ => none
  | '?' :: '<' :: '=' :: _ => none
  | '?' :: '<' :: '!' :: _ => none
  | '?' :: 'P' :: '<' :: rest => r.enterNamed rest
  | '?' :: '<' :: rest => r.enterNamed rest
  | '?' :: rest => do
    let (f, stop, rest) ← readFlags r.flags false false [] rest
    match stop with
    | .group => return (r.enter f, rest)
    | .setHere =>
      return ({ r with flags := f, group := r.group.add ⟨.empty, 0, false⟩ }, rest)
  | rest => some (r.enterNumbered, rest)

/-- After a closing parenthesis. -/
def closeGroup (r : Reader) : Option Reader :=
  match r.outer with
  | [] => none
  | around :: outer =>
    some { r with
      flags := r.group.restore
      group := around.add r.group.closed
      outer := outer }

/-- A question mark right after a repetition prefers less to more. -/
def takeLazy (cs : List Char) : Bool × List Char :=
  match cs with
  | '?' :: rest => (true, rest)
  | _ => (false, cs)

def repeatLast (r : Reader) (least : Nat) (most : Option Nat) (cs : List Char) :
    Option (Reader × List Char) := do
  let (isLazy, rest) := takeLazy cs
  let g ← r.group.repeatLast? r.flags least most (!isLazy)
  return ({ r with group := g }, rest)

/-- A count between blanks; its words are of 32 bits. -/
def readCount (verbose : Bool) (cs : List Char) : Option (Nat × List Char) :=
  let (digits, rest) := takeVisible verbose Char.isDigit (cs.dropWhile isBlank)
  let n := digits.foldl (fun n c => 10 * n + (c.toNat - 48)) 0
  if digits.isEmpty || 0xffffffff < n then none
  else some (n, skip verbose (rest.dropWhile isBlank))

/-- After an opening brace: a count, a count with a comma, or two counts. -/
def repeatCounted (r : Reader) (cs : List Char) : Option (Reader × List Char) := do
  let v := r.flags.verbose
  let (least, rest) ← readCount v (skip v cs)
  match rest with
  | '}' :: rest => r.repeatLast least (some least) (skip v rest)
  | ',' :: rest =>
    match skip v rest with
    | '}' :: rest => r.repeatLast least none (skip v rest)
    | rest =>
      let (most, rest) ← readCount v rest
      match rest with
      | '}' :: rest =>
        if most < least then none else r.repeatLast least (some most) (skip v rest)
      | _ => none
  | _ => none

def addAtom (r : Reader) : Atom → Option Reader
  | .char c twoDigits =>
    if !r.flags.unicode && twoDigits && 0x7f < c.toNat then none
    else some (r.add (r.flags.letter c) 0)
  | .set s => some (r.add (.ofSet r.flags.alphabet s) 0)
  | .edge e => some (r.add (.edge e) 0)

/-- Reads one item, or one sign that opens, closes, parts or repeats. -/
def step (r : Reader) (c : Char) (cs : List Char) : Option (Reader × List Char) :=
  match c with
  | '(' => r.openGroup cs
  | ')' => r.closeGroup.map (·, cs)
  | '|' => some ({ r with group := r.group.bar }, cs)
  | '[' => do
    let (s, rest) ← readClass r.flags cs
    return (r.add (.ofSet r.flags.alphabet s.set) s.depth, rest)
  | '?' => r.repeatLast 0 (some 1) cs
  | '*' => r.repeatLast 0 none cs
  | '+' => r.repeatLast 1 none cs
  | '{' => r.repeatCounted cs
  | '\\' => do
    let (a, rest) ← readEscape r.flags cs
    return (← r.addAtom a, rest)
  | '.' => r.flags.dot?.map fun s => (r.add (.ofSet r.flags.alphabet s) 0, cs)
  | '^' => some (r.add (.edge r.flags.lineStart) 0, cs)
  | '$' => some (r.add (.edge r.flags.lineEnd) 0, cs)
  | c => some (r.add (r.flags.letter c) 0, cs)

/-- Every step reads a character, so as many as there are characters are enough. -/
def run (r : Reader) : Nat → List Char → Option Reader
  | 0, _ => none
  | fuel + 1, cs =>
    match skip r.flags.verbose cs with
    | [] => some r
    | c :: rest =>
      match r.step c rest with
      | none => none
      | some (r, rest) => run r fuel rest

/-- The whole pattern, once every group is closed. -/
def finish (r : Reader) : Option Expr :=
  match r.outer with
  | [] =>
    let all := r.group.value
    if all.depth ≤ depthLimit then some all.expr else none
  | _ => none

end Reader

namespace Expr

/-- The expression that a pattern writes, read under the given flags. -/
def ofPattern? (f : Flags) (pattern : List Char) : Option Expr := do
  let r ← Reader.run { flags := f, group := { restore := f } } (pattern.length + 1) pattern
  r.finish

end Expr

end CodeSearch.Regex
