import CodeSearch.Regex.Expr
import CodeSearch.Unicode.Fold
import CodeSearch.Text.Blank

/-!
Flags in force at a place of a pattern, and the text that the flag `x` makes void: blanks, and
comments from `#` to the end of the line.
-/
namespace CodeSearch.Regex

open CodeSearch.Unicode CodeSearch.Text

structure Flags where
  ignoreCase : Bool := false
  multiLine : Bool := false
  dotAll : Bool := false
  swapGreed : Bool := false
  unicode : Bool := true
  crlf : Bool := false
  verbose : Bool := false
deriving DecidableEq, Repr

namespace Flags

def set? (f : Flags) (letter : Char) (on : Bool) : Option Flags :=
  match letter with
  | 'i' => some { f with ignoreCase := on }
  | 'm' => some { f with multiLine := on }
  | 's' => some { f with dotAll := on }
  | 'U' => some { f with swapGreed := on }
  | 'u' => some { f with unicode := on }
  | 'R' => some { f with crlf := on }
  | 'x' => some { f with verbose := on }
  | _ => none

def alphabet (f : Flags) : Alphabet := if f.unicode then .unicode else .ascii

/-- Adds the other cases of the members if case is ignored. -/
def fold (f : Flags) (s : CharSet) : CharSet :=
  if !f.ignoreCase then s else if f.unicode then s.closeCase else s.closeAsciiCase

/-- The set itself or what it leaves out. Without `u` a pattern must not match a part of a
character, and what leaves out single bytes would. -/
def negate? (f : Flags) (negated : Bool) (s : CharSet) : Option CharSet :=
  if !negated then some s else if f.unicode then some s.complement else none

def lineStart (f : Flags) : Edge :=
  if !f.multiLine then .textStart else if f.crlf then .lineStartCrlf else .lineStart

def lineEnd (f : Flags) : Edge :=
  if !f.multiLine then .textEnd else if f.crlf then .lineEndCrlf else .lineEnd

/-- What a dot matches. -/
def dot? (f : Flags) : Option CharSet :=
  if !f.unicode then none
  else if f.dotAll then some CharSet.all
  else if f.crlf then some (CharSet.ofRanges [(0xa, 0xa), (0xd, 0xd)]).complement
  else some (CharSet.singleton '\n').complement

/-- A character that stands for itself, and for its other cases if case is ignored. -/
def letter (f : Flags) (c : Char) : Expr :=
  if !f.ignoreCase then .text [c] else .ofSet f.alphabet (f.fold (CharSet.singleton c))

end Flags

/-- Drops blanks and comments; `inComment` tells that a comment has begun. -/
def skipFrom (inComment : Bool) : List Char → List Char
  | [] => []
  | c :: cs =>
    if inComment then skipFrom (c != '\n') cs
    else if isBlank c then skipFrom false cs
    else if c = '#' then skipFrom true cs
    else c :: cs

/-- Drops the text that says nothing in verbose mode. -/
def skip (verbose : Bool) (cs : List Char) : List Char := if verbose then skipFrom false cs else cs

theorem skipFrom_length (inComment : Bool) (cs : List Char) :
    (skipFrom inComment cs).length ≤ cs.length := by
  induction cs generalizing inComment with
  | nil => simp [skipFrom]
  | cons c cs ih =>
    have shorter := ih (c != '\n')
    have after := ih false
    have comment := ih true
    simp only [skipFrom, List.length_cons]
    split
    · omega
    · split
      · omega
      · split
        · omega
        · simp

theorem skip_length (verbose : Bool) (cs : List Char) : (skip verbose cs).length ≤ cs.length := by
  unfold skip
  split
  · exact skipFrom_length false cs
  · exact Nat.le_refl _

end CodeSearch.Regex
