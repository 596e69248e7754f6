import CodeSearch.Regex.Expr
import CodeSearch.Text.Encoded

/-!
How matches begin. For many expressions a few texts can be listed so that every match begins with
one of them. Where these texts are all of the match, the expression comes to a list of words, and
looking for the words does in its place. An alternative that begins with an earlier word is never
preferred, so it adds nothing, however large it is.
-/
namespace CodeSearch.Regex

open CodeSearch.Unicode CodeSearch.Text

/-- The first bytes of a match, `whole` if they are all of it. -/
structure Lead where
  bytes : List UInt8
  whole : Bool
deriving DecidableEq, Repr

namespace Lead

def goesOn (l : Lead) : Lead := { l with whole := false }

/-- At most so many bytes of it. -/
def keep (count : Nat) (l : Lead) : Lead :=
  if l.bytes.length ≤ count then l else ⟨l.bytes.take count, false⟩

def joinFrom (l : Lead) : List Lead → List Lead
  | [] => [l]
  | m :: rest =>
    if l.bytes = m.bytes then joinFrom ⟨l.bytes, l.whole && m.whole⟩ rest else l :: joinFrom m rest

/-- Makes one of neighbours with the same bytes. -/
def join : List Lead → List Lead
  | [] => []
  | l :: rest => joinFrom l rest

/-- Drops each that begins with an earlier one. -/
def dropShadowed (leads : List Lead) : List Lead :=
  leads.foldl (fun kept l =>
    if kept.any fun k => k.bytes.isPrefixOf l.bytes then kept else kept ++ [l]) []

def commonBytes : List Lead → List UInt8
  | [] => []
  | l :: rest => rest.foldl (fun start m => commonStart start m.bytes) l.bytes

end Lead

/-- The leads of an expression in order of preference, or none where they are too many to list. -/
abbrev Leads := Option (List Lead)

namespace Leads

/-- How many leads are listed at most, and how many bytes of each. -/
def mostLeads : Nat := 250
def mostBytes : Nat := 100

/-- How many members of a set are told apart, and how many rounds of a repetition. -/
def mostMembers : Nat := 10
def mostRounds : Nat := 10

/-- The lead of a match that is empty. -/
def nothingRead : Leads := some [⟨[], true⟩]

def ofText (cs : List Char) : Leads := some [Lead.keep mostBytes ⟨encode cs, true⟩]

def ofSet (s : CharSet) : Leads :=
  if mostMembers < s.ranges.foldr (fun r members => (r.2 - r.1 + 1) + members) 0 then none
  else
    some (s.ranges.flatMap fun r =>
      (List.range' r.1 (r.2 - r.1 + 1)).map fun n => ⟨encode [Char.ofNat n], true⟩)

def goesOn (leads : Leads) : Leads := leads.map (·.map Lead.goesOn)

/-- No lead is all of a match. -/
def isOpen : Leads → Bool
  | none => true
  | some leads => leads.all (! ·.whole)

def count (leads : Leads) : Nat := (leads.getD []).length

/-- The leads of a match of one expression with a match of another behind it. -/
def cross (first second : Leads) : Leads :=
  let second := if mostLeads < first.count * second.count then none else second
  match first, second with
  | none, _ => none
  | some leads, none => if leads.any (·.bytes.isEmpty) then none else goesOn (some leads)
  | some leads, some behind =>
    let both := leads.flatMap fun l =>
      if l.whole then behind.map fun b => ⟨l.bytes ++ b.bytes, b.whole⟩ else [l]
    some ((Lead.join both).map (Lead.keep mostBytes))

/-- As `cross`, but what stands behind is left alone where nothing ends before it. -/
def andThen (first second : Leads) : Leads := if first.isOpen then first else first.cross second

def shorten (leads : Leads) : Leads := leads.map fun ls => Lead.join (ls.map (Lead.keep 4))

/-- The leads of either expression, those of the first preferred. Four bytes of each must do where
there are too many. -/
def orElse (first second : Leads) : Leads :=
  let crowded := first.isSome && second.isSome && mostLeads < first.count + second.count
  let first := if crowded then first.shorten else first
  let second := if crowded then second.shorten else second
  match first, second with
  | some a, some b => if mostLeads < a.length + b.length then none else some (Lead.join (a ++ b))
  | _, _ => none

def rounds (body : Leads) : Nat → Leads
  | 0 => nothingRead
  | n + 1 => (rounds body n).andThen body

def ofRepeat (body : Leads) (least : Nat) (most : Option Nat) (greedy : Bool) : Leads :=
  if least = 0 then
    let body := if most = some 1 then body else body.goesOn
    if greedy then body.orElse nothingRead else nothingRead.orElse body
  else
    let leads := rounds body (min least mostRounds)
    if most = some least ∧ least ≤ mostRounds then leads else leads.goesOn

end Leads

/-- Where an expression stands: for itself, behind what is read already, or beside what is preferred
to it. -/
inductive Joint where
  | alone
  | behind (leads : Leads)
  | beside (leads : Leads)

def Joint.close (j : Joint) (own : Leads) : Leads :=
  match j with
  | .alone => own
  | .behind before => before.andThen own
  | .beside before => before.orElse own

namespace Expr

def leads : Expr → Joint → Leads
  | empty, j => j.close Leads.nothingRead
  | text cs, j => j.close (Leads.ofText cs)
  | set _ s, j => j.close (Leads.ofSet s)
  | edge _, j => j.close Leads.nothingRead
  | group _ body, j => j.close (body.leads .alone)
  | cat a b, .behind before => b.leads (.behind (a.leads (.behind before)))
  | cat a b, j => j.close (b.leads (.behind (a.leads (.behind Leads.nothingRead))))
  | alt a b, .beside before => b.leads (.beside (a.leads (.beside before)))
  | alt a b, j => j.close (b.leads (.beside (a.leads (.beside (some [])))))
  | .repeat body least most greedy, j =>
    j.close (Leads.ofRepeat (body.leads .alone) least most greedy)

/-- Has neither conditions on places nor numbered groups. -/
def isPlain : Expr → Bool
  | empty => true
  | text _ => true
  | set _ _ => true
  | edge _ => false
  | group _ _ => false
  | cat a b => a.isPlain && b.isPlain
  | alt a b => a.isPlain && b.isPlain
  | .repeat body _ _ _ => body.isPlain

/-- Signs that are frequent in text. Bytes of longer characters count as frequent too. -/
def frequentChars : List Char := "\n\r (),-./0129:_abcdefghilmnoprstuvxy|".toList

def isRare (b : UInt8) : Bool := b < 0x80 && !frequentChars.contains (Char.ofNat b.toNat)

/-- Cuts leads that are more than the second number of a step to as many bytes as the first tells,
up to a step at which they are not too many. -/
def cutDown : List (Nat × Nat) → List Lead → List Lead
  | [], leads => leads
  | (bytes, most) :: steps, leads =>
    if leads.length ≤ most then leads
    else cutDown steps (Lead.dropShadowed (leads.map (Lead.keep bytes)))

/-- What is looked for to find where a match may begin: fewer and shorter texts where these can be
found faster, even if they are no longer whole. -/
def lookedFor (leads : List Lead) : List Lead :=
  let distinct := Lead.dropShadowed leads
  let start := Lead.commonBytes distinct
  if 1 < leads.length && start.length ≤ 3 && start.head?.any isRare then
    Lead.join (distinct.map (Lead.keep 1))
  else
    let isFast := distinct.all (·.whole) && distinct.length ≤ 16
    let leads :=
      if 4 < start.length || 1 < start.length && !isFast then
        Lead.join (distinct.map (Lead.keep start.length))
      else distinct
    let short := cutDown [(5, 10), (4, 10), (3, 64), (2, 64), (1, 10)] leads
    let isPoor := 64 < short.length || short.any (·.bytes.length ≤ 2)
    if leads.all (·.whole) && isPoor then leads else short

/-- The words that an expression comes to, if looking for its leads finds whole matches. -/
def words? (e : Expr) : Option (List (List Char)) := do
  if !e.isPlain then none
  let leads := Lead.join (← e.leads .alone)
  if leads.isEmpty || leads.any (·.bytes.isEmpty) then none
  let found := lookedFor leads
  if found.all (·.whole) then found.mapM fun l => decode? l.bytes else none

end Expr

end CodeSearch.Regex
