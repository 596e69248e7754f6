import CodeSearch.Unicode.Age
import CodeSearch.Unicode.Break
import CodeSearch.Unicode.Property
import CodeSearch.Unicode.Script

/-!
Character sets by name, as in `\p` classes. Names are compared without regard to case, blanks,
hyphens and underscores, and without a leading `is`. A name alone is a yes-or-no property, a general
category or a script, looked for in this order; a name with a value picks one property.
-/
namespace CodeSearch.Unicode

def dropIs : List Char → List Char × Bool
  | a :: b :: rest => if (a = 'i' ∨ a = 'I') ∧ (b = 's' ∨ b = 'S') then (rest, true)
    else (a :: b :: rest, false)
  | cs => (cs, false)

/-- The form in which names are compared. The one name that begins with `is` keeps it. -/
def comparisonForm (name : String) : String :=
  let (cs, dropped) := dropIs name.toList
  let kept := cs.filter fun c => c ≠ ' ' ∧ c ≠ '_' ∧ c ≠ '-' ∧ c.toNat < 0x80
  let form := kept.map Char.toLower
  if dropped ∧ form = ['c'] then "isc" else String.ofList form

/-- Short names that could also be those of properties, but that stand for categories. -/
def categoryFirst : List String := ["cf", "sc", "lc"]

def charSetNamed? (name : String) : Option CharSet :=
  let form := comparisonForm name
  let property := if categoryFirst.contains form then none else Property.named? form
  property <|> Category.named? form <|> (Script.named? form).map Script.Runs.ownSet

def charSetValued? (name value : String) : Option CharSet :=
  let form := comparisonForm name
  let value := comparisonForm value
  if form = "gc" ∨ form = "generalcategory" then Category.named? value
  else if form = "sc" ∨ form = "script" then (Script.named? value).map Script.Runs.ownSet
  else if form = "scx" ∨ form = "scriptextensions" then
    (Script.named? value).map Script.Runs.extendedSet
  else if form = "age" then Age.named? value
  else if form = "gcb" ∨ form = "graphemeclusterbreak" then Break.graphemeNamed? value
  else if form = "wb" ∨ form = "wordbreak" then Break.wordNamed? value
  else if form = "sb" ∨ form = "sentencebreak" then Break.sentenceNamed? value
  else none

end CodeSearch.Unicode
