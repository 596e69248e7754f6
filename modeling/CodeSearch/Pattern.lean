import CodeSearch.Failure
import CodeSearch.Regex.Reading
import CodeSearch.Regex.Room
import CodeSearch.Regex.Search

/-!
Compiled patterns. A pattern keeps the text it was compiled from and finds the leftmost place in a
line where it matches. `quote` writes a text as the pattern that matches just this text.
-/
namespace CodeSearch

open CodeSearch.Regex

structure PatternOptions where
  ignoreCase : Bool := false
  unicode : Bool := true
  multiLine : Bool := false
deriving DecidableEq, Repr

structure Pattern where
  source : String
  program : Array Instr

namespace PatternOptions

def flags (o : PatternOptions) : Flags :=
  { ignoreCase := o.ignoreCase, unicode := o.unicode, multiLine := o.multiLine }

end PatternOptions

namespace Pattern

/-- Nothing if the text does not write a pattern, or one that does not fit into `limit` bytes. -/
def compile? (source : String) (options : PatternOptions) (limit : Option Nat := some roomLimit) :
    Option Pattern := do
  let e ← Expr.ofPattern? options.flags source.toList
  return ⟨source, (← e.within? limit).program⟩

/-- In which words a text that does not compile is turned down, given how it was to be read. -/
abbrev Wording := String → PatternOptions → String

def compile (wording : Wording) (source : String) (options : PatternOptions) :
    Except Failure Pattern :=
  match compile? source options with
  | some p => .ok p
  | none => .error (.badPattern (wording source options))

section

variable {wording : Wording} {source : String} {options : PatternOptions}

theorem compile_eq_ok {p : Pattern} :
    compile wording source options = .ok p ↔ compile? source options = some p := by
  unfold compile
  cases compile? source options <;> simp

theorem compile_eq_error {f : Failure} : compile wording source options = .error f ↔
    compile? source options = none ∧ f = .badPattern (wording source options) := by
  unfold compile
  cases compile? source options <;> simp [eq_comm]

end

/-- The leftmost match, with the text before and after it. -/
def find (p : Pattern) (text : List Char) : Option Occurrence := search p.program text

def isMatch (p : Pattern) (text : String) : Bool := (p.find text.toList).isSome

/-- How many bytes the characters take in UTF-8. -/
def byteLength (cs : List Char) : Nat := cs.foldr (fun c bytes => c.utf8Size + bytes) 0

/-- Where the leftmost match begins and ends, in bytes. -/
def findRange (p : Pattern) (text : String) : Option (Nat × Nat) :=
  (p.find text.toList).map fun o =>
    (byteLength o.before, byteLength o.before + byteLength o.matched)

def quoteChar (c : Char) : List Char := if metaChars.contains c then ['\\', c] else [c]

def quote (text : String) : String := String.ofList (text.toList.flatMap quoteChar)

end Pattern

end CodeSearch
