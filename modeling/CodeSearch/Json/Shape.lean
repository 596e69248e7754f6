import CodeSearch.Json.Value
import CodeSearch.Numeric.Bounded
import CodeSearch.NameMap

/-!
What a value must look like to be read as text, number, list, map or record. A record is an object,
each of whose known fields stands once at most, or an array with its fields in order, from the end
of which fields may be missing. Unknown fields of an object are passed over.
-/
namespace CodeSearch.Json

open Numeric

def asString? : Json → Option String
  | .str text => text
  | _ => none

def asBool? : Json → Option Bool
  | .bool b => some b
  | _ => none

def asBounded? {low high : Int} : Json → Option (Bounded low high)
  | .num n => n.toInt?.bind Bounded.ofInt?
  | _ => none

def asList? {α : Type} (item? : Json → Option α) : Json → Option (List α)
  | .arr items => items.mapM item?
  | _ => none

/-- Reads `null` as nothing. -/
def asOption? {α : Type} (value? : Json → Option α) : Json → Option (Option α)
  | .null => some none
  | j => (value? j).map some

/-- Reads `null` as the empty list. -/
def asListOrNull? {α : Type} (item? : Json → Option α) (j : Json) : Option (List α) :=
  (asOption? (asList? item?) j).map (·.getD [])

/-- Of several values under one name the last stays. -/
def asMap? {α : Type} (value? : Json → Option α) : Json → Option (NameMap α)
  | .obj fields => do
    let entries ← fields.mapM fun f => do return (← f.1, ← value? f.2)
    return NameMap.ofList entries
  | _ => none

def pairOf? {α β : Type} (first? : Json → Option α) (second? : Json → Option β) :
    Json → Option (α × β)
  | .arr [a, b] => do return (← first? a, ← second? b)
  | _ => none

/-- The values of the fields that a record may have, in the order of their names. -/
def record? (names : List String) : Json → Option (List (Option Json))
  | .obj fields =>
    if fields.all (·.1.isSome) && names.all fun n => fields.countP (·.1 == some n) ≤ 1 then
      some (names.map fun n => fields.lookup (some n))
    else none
  | .arr items =>
    if items.length ≤ names.length then
      some (items.map some ++ List.replicate (names.length - items.length) none)
    else none
  | _ => none

/-- A field that must be there. -/
def required? {α : Type} (value? : Json → Option α) (field : Option Json) : Option α :=
  field.bind value?

/-- A field that may be missing. -/
def optional? {α : Type} (value? : Json → Option α) (missing : α) : Option Json → Option α
  | none => some missing
  | some j => value? j

end CodeSearch.Json
