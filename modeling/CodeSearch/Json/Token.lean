import CodeSearch.Json.Value
import CodeSearch.Numeric.Hexadecimal

/-!
The tokens of JSON text: signs, words, numbers and strings, with blanks between them. A number or a
word goes on as far as its characters do, so whether it is a good one is asked afterwards.
-/
namespace CodeSearch.Json

inductive Token where
  | sign (c : Char)
  | word (w : List Char)
  | number (digits : List Char)
  /-- What stands between the quotes. -/
  | text (raw : List Char)
deriving DecidableEq, Repr

/-- What is being read; the characters of a token are kept latest first. -/
inductive Scan where
  | between
  | inWord (w : List Char)
  | inNumber (digits : List Char)
  | inText (raw : List Char) (escaped : Bool)

namespace Token

def isBlank (c : Char) : Bool := c == ' ' || c == '\t' || c == '\n' || c == '\r'

def isSign (c : Char) : Bool :=
  c == '[' || c == ']' || c == '\x7b' || c == '\x7d' || c == ',' || c == ':'

def isNumberChar (c : Char) : Bool :=
  c.isDigit || c == '-' || c == '+' || c == '.' || c == 'e' || c == 'E'

/-- The first character after a token or a blank, and the tokens it adds. -/
def start? (c : Char) (done : List Token) : Option (Scan × List Token) :=
  if isBlank c then some (.between, done)
  else if isSign c then some (.between, .sign c :: done)
  else if c = '"' then some (.inText [] false, done)
  else if c.isDigit || c == '-' then some (.inNumber [c], done)
  else if c.isAlpha then some (.inWord [c], done)
  else none

def step? (scan : Scan) (done : List Token) (c : Char) : Option (Scan × List Token) :=
  match scan with
  | .between => start? c done
  | .inWord w => if c.isAlpha then some (.inWord (c :: w), done) else start? c (.word w.reverse :: done)
  | .inNumber digits =>
    if isNumberChar c then some (.inNumber (c :: digits), done)
    else start? c (.number digits.reverse :: done)
  | .inText raw escaped =>
    if escaped then some (.inText (c :: raw) false, done)
    else if c = '\\' then some (.inText (c :: raw) true, done)
    else if c = '"' then some (.between, .text raw.reverse :: done)
    else some (.inText (c :: raw) false, done)

/-- Reads on to the end of the text; the tokens before it are in `done`, latest first. -/
def scanFrom (scan : Scan) (done : List Token) : List Char → Option (List Token)
  | [] =>
    match scan with
    | .between => some done.reverse
    | .inWord w => some (.word w.reverse :: done).reverse
    | .inNumber digits => some (.number digits.reverse :: done).reverse
    | .inText _ _ => none
  | c :: cs =>
    match step? scan done c with
    | none => none
    | some (scan, done) => scanFrom scan done cs

def ofText? (cs : List Char) : Option (List Token) := scanFrom .between [] cs

end Token

/-- A code point, or half of one above 0xFFFF. -/
def unit? (a b c d : Char) : Option Nat := Numeric.Hexadecimal.read? [a, b, c, d]

def namedChar? (c : Char) : Option Char :=
  match c with
  | '"' => some '"'
  | '\\' => some '\\'
  | '/' => some '/'
  | 'b' => some '\x08'
  | 'f' => some '\x0c'
  | 'n' => some '\n'
  | 'r' => some '\r'
  | 't' => some '\t'
  | _ => none

/-- The units that a raw string stands for, latest first, after those in `done`. -/
def unitsFrom (done : List Nat) : List Char → Option (List Nat)
  | [] => some done
  | '\\' :: 'u' :: a :: b :: c :: d :: rest =>
    match unit? a b c d with
    | none => none
    | some n => unitsFrom (n :: done) rest
  | '\\' :: c :: rest =>
    match namedChar? c with
    | none => none
    | some c => unitsFrom (c.toNat :: done) rest
  | c :: rest => if c.toNat < 0x20 ∨ c = '\\' then none else unitsFrom (c.toNat :: done) rest

/-- Joins pairs of surrogates, of units given latest first; a half that stands alone is no text. -/
def joinUnits (done : List Char) : List Nat → Option (List Char)
  | [] => some done
  | [n] => if 0xd800 ≤ n ∧ n ≤ 0xdfff then none else some (Char.ofNat n :: done)
  | n :: m :: rest =>
    if 0xdc00 ≤ n ∧ n ≤ 0xdfff ∧ 0xd800 ≤ m ∧ m ≤ 0xdbff then
      joinUnits (Char.ofNat (0x10000 + (m - 0xd800) * 0x400 + (n - 0xdc00)) :: done) rest
    else if 0xd800 ≤ n ∧ n ≤ 0xdfff then none
    else joinUnits (Char.ofNat n :: done) (m :: rest)

/-- The text of a raw string; no value if it is not well formed, and no text within the value if it
names half of a pair. -/
def unescape? (raw : List Char) : Option (Option String) :=
  (unitsFrom [] raw).map fun units => (joinUnits [] units).map String.ofList

end CodeSearch.Json
