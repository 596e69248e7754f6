import CodeSearch.Numeric.Hexadecimal
import CodeSearch.Regex.Flags
import CodeSearch.Text.Cut
import CodeSearch.Unicode.Named

/-!
What follows a backslash in a pattern: a character by number or name, a class of characters, or a
condition on the place.
-/
namespace CodeSearch.Regex

open CodeSearch.Unicode CodeSearch.Text CodeSearch.Numeric

inductive Atom where
  /-- One character. `twoDigits` tells that it was written with just two digits. -/
  | char (c : Char) (twoDigits : Bool)
  | set (s : CharSet)
  | edge (e : Edge)

/-- Takes characters while `wanted` holds, passing over what verbose mode leaves out. -/
def takeVisible (verbose : Bool) (wanted : Char → Bool) : List Char → List Char × List Char
  | [] => ([], [])
  | c :: cs =>
    if wanted c then
      let more := takeVisible verbose wanted (skip verbose cs)
      (c :: more.1, more.2)
    else ([], c :: cs)
termination_by cs => cs.length
decreasing_by
  have := skip_length verbose cs
  simp only [List.length_cons]
  omega

/-- The character with a given code point. -/
def scalar? (n : Nat) : Option Char :=
  if n < 0xd800 ∨ 0xdfff < n ∧ n < 0x110000 then some (Char.ofNat n) else none

/-- Exactly `count` digits. -/
def takeDigits (verbose : Bool) : Nat → List Char → Option (List Char × List Char)
  | 0, cs => some ([], cs)
  | _ + 1, [] => none
  | count + 1, c :: cs => do
    let (digits, rest) ← takeDigits verbose count (skip verbose cs)
    return (c :: digits, rest)

/-- What stands in braces, and what follows them. -/
def takeBraced (verbose : Bool) (cs : List Char) : Option (List Char × List Char) :=
  match takeVisible verbose (· != '}') (skip verbose cs) with
  | (inside, _ :: rest) => some (inside, rest)
  | (_, []) => none

/-- A character by its number: in braces, or with as many digits as the letter asks for. -/
def readHex (verbose : Bool) (letter : Char) (cs : List Char) : Option (Atom × List Char) :=
  let count := if letter = 'x' then 2 else if letter = 'u' then 4 else 8
  match skip verbose cs with
  | '{' :: inner => do
    let (digits, rest) ← takeBraced verbose inner
    let c ← scalar? (← Hexadecimal.read? digits)
    return (.char c false, skip verbose rest)
  | start => do
    let (digits, rest) ← takeDigits verbose count start
    let c ← scalar? (← Hexadecimal.read? digits)
    return (.char c (letter = 'x'), rest)

/-- The name of a class, with a value after `!=`, `:` or `=`. The first of these signs means all but
the characters that have the value. -/
def propertySet? (name : List Char) : Option (CharSet × Bool) :=
  match cut? ['!', '='] name with
  | some (name, value) => do
    return (← charSetValued? (String.ofList name) (String.ofList value), true)
  | none =>
    match cut? [':'] name <|> cut? ['='] name with
    | some (name, value) => do
      return (← charSetValued? (String.ofList name) (String.ofList value), false)
    | none => do return (← charSetNamed? (String.ofList name), false)

def readProperty (f : Flags) (negated : Bool) (cs : List Char) : Option (Atom × List Char) := do
  let (name, rest) ← match skip f.verbose cs with
    | [] => none
    | '{' :: inner => takeBraced f.verbose inner
    | '\\' :: _ => none
    | c :: rest => some ([c], skip f.verbose rest)
  if !f.unicode then none
  let (s, unequal) ← propertySet? name
  let s ← f.negate? (negated != unequal) (f.fold s)
  return (.set s, rest)

/-- Digits, white space and word characters. -/
def letterClass? (f : Flags) (c : Char) : Option CharSet :=
  match c with
  | 'd' => some (if f.unicode then digits else asciiDigits)
  | 's' => some (if f.unicode then whiteSpace else asciiSpace)
  | 'w' => some (if f.unicode then wordChars else asciiWordChars)
  | 'D' => f.negate? true (if f.unicode then digits else asciiDigits)
  | 'S' => f.negate? true (if f.unicode then whiteSpace else asciiSpace)
  | 'W' => f.negate? true (if f.unicode then wordChars else asciiWordChars)
  | _ => none

/-- Characters with a meaning of their own somewhere in a pattern. -/
def metaChars : List Char :=
  ['\\', '.', '+', '*', '?', '(', ')', '|', '[', ']', '{', '}', '^', '$', '#', '&', '-', '~']

/-- A backslash takes the meaning from any of the first 128 characters that is no letter, no digit
and no angle bracket. -/
def standsForItself (c : Char) : Bool :=
  metaChars.contains c || c.toNat < 0x80 && !c.isAlphanum && c != '<' && c != '>'

def controlChar? (c : Char) : Option Char :=
  match c with
  | 'a' => some '\x07'
  | 'f' => some '\x0c'
  | 't' => some '\t'
  | 'n' => some '\n'
  | 'r' => some '\r'
  | 'v' => some '\x0b'
  | _ => none

def edgeNamed? (a : Alphabet) (name : String) : Option Edge :=
  match name with
  | "start" => some (.wordStart a)
  | "end" => some (.wordEnd a)
  | "start-half" => some (.wordStartHalf a)
  | "end-half" => some (.wordEndHalf a)
  | _ => none

def isEdgeLetter (c : Char) : Bool := c.isAlpha || c == '-'

/-- A word boundary, perhaps of a special kind in braces. Braces that begin otherwise are left to
be read as a count. -/
def readWordEdge (f : Flags) (cs : List Char) : Option (Atom × List Char) :=
  match cs with
  | '{' :: inner =>
    match skip f.verbose inner with
    | [] => none
    | c :: start =>
      if !isEdgeLetter c then some (.edge (.wordEdge f.alphabet), cs)
      else
        match takeVisible f.verbose isEdgeLetter (c :: start) with
        | (name, '}' :: rest) => do
          let e ← edgeNamed? f.alphabet (String.ofList name)
          return (.edge e, rest)
        | _ => none
  | _ => some (.edge (.wordEdge f.alphabet), cs)

def readEscape (f : Flags) : List Char → Option (Atom × List Char)
  | [] => none
  | c :: cs =>
    if standsForItself c then some (.char c false, cs)
    else
      match c with
      | 'x' | 'u' | 'U' => readHex f.verbose c cs
      | 'p' => readProperty f false cs
      | 'P' => readProperty f true cs
      | 'd' | 's' | 'w' | 'D' | 'S' | 'W' => (letterClass? f c).map fun s => (.set s, cs)
      | 'A' => some (.edge .textStart, cs)
      | 'z' => some (.edge .textEnd, cs)
      | 'b' => readWordEdge f cs
      | 'B' => some (.edge (.notWordEdge f.alphabet), cs)
      | '<' => some (.edge (.wordStart f.alphabet), cs)
      | '>' => some (.edge (.wordEnd f.alphabet), cs)
      | _ => (controlChar? c).map fun d => (.char d false, cs)

end CodeSearch.Regex
