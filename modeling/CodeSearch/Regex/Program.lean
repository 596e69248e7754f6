import CodeSearch.Regex.Expr

/-!
Programs of a matching machine. The code of an expression starts at a given place and leaves by
falling off its end; where it may go two ways, the way that is tried first stands first.
-/
namespace CodeSearch.Regex

open CodeSearch.Unicode

inductive Instr where
  /-- Reads this character and goes on at the next place. -/
  | char (c : Char)
  | set (s : CharSet)
  /-- Goes on at the next place if the condition holds. -/
  | edge (e : Edge)
  | split (first second : Nat)
  | jump (target : Nat)
  | accept
deriving Repr

namespace Expr

/-- How many instructions the code of an expression has. -/
def size : Expr → Nat
  | empty => 0
  | text cs => cs.length
  | set _ _ => 1
  | edge _ => 1
  | group _ body => body.size
  | cat a b => a.size + b.size
  | alt a b => a.size + b.size + 2
  | .repeat body 0 none _ => body.size + 2
  | .repeat body (least + 1) none _ => (least + 1) * body.size + 1
  | .repeat body least (some most) _ => least * body.size + (most - least) * (body.size + 1)

def splitOf (greedy : Bool) (more done : Nat) : Instr :=
  if greedy then .split more done else .split done more

/-- `count` copies of one code, each `width` instructions long. -/
def copies (code : Nat → List Instr) (width count start : Nat) : List Instr :=
  (List.range count).flatMap fun k => code (start + k * width)

/-- `count` copies of which each may be left out, and then all after it are. -/
def optionals (code : Nat → List Instr) (width : Nat) (greedy : Bool) (done count start : Nat) :
    List Instr :=
  copies (fun place => splitOf greedy (place + 1) done :: code (place + 1)) (width + 1) count start

/-- The code of an expression from the place `start` on. After an alternative the code goes on at
`leave`, where that is known already. A loop whose body may read nothing tests after each round
whether to go on, so a round that reads nothing ends the loop. -/
def code : Expr → Option Nat → Nat → List Instr
  | empty, _, _ => []
  | text cs, _, _ => cs.map .char
  | set _ s, _, _ => [.set s]
  | edge e, _, _ => [.edge e]
  | group _ body, _, start => body.code none start
  | cat a b, _, start => a.code none start ++ b.code none (start + a.size)
  | alt a b, leave, start =>
    let second := start + 1 + a.size + 1
    let done := leave.getD (second + b.size)
    .split (start + 1) second :: a.code none (start + 1) ++ .jump done :: b.code (some done) second
  | .repeat body 0 none greedy, _, start =>
    let done := start + body.size + 2
    let back := if body.readsSome then .jump start else splitOf greedy (start + 1) done
    splitOf greedy (start + 1) done :: body.code none (start + 1) ++ [back]
  | .repeat body (least + 1) none greedy, _, start =>
    let last := start + least * body.size
    copies (body.code none) body.size least start ++ body.code none last ++
      [splitOf greedy last (last + body.size + 1)]
  | .repeat body least (some most) greedy, _, start =>
    let middle := start + least * body.size
    let done := middle + (most - least) * (body.size + 1)
    copies (body.code none) body.size least start ++
      optionals (body.code none) body.size greedy done (most - least) middle

def program (e : Expr) : Array Instr := (e.code none 0 ++ [Instr.accept]).toArray

end Expr

end CodeSearch.Regex
