import CodeSearch.Json.Value

/-!
Events that are written down as things happen: a level, a message and fields in order.
-/
namespace CodeSearch.Trace

inductive Level where
  | debug | trace
deriving DecidableEq, Repr

inductive Value where
  | text (s : String)
  | number (n : Int)
deriving DecidableEq, Repr

structure Event where
  level : Level
  message : String
  fields : List (String × Value) := []
deriving DecidableEq, Repr

def Level.name : Level → String
  | debug => "DEBUG"
  | trace => "TRACE"

def Value.toJson : Value → Json
  | text s => .ofString s
  | number n => .ofInt n

namespace Event

/-- The message stands first among the fields. -/
def toJson (e : Event) : Json :=
  let fields := ("message", .text e.message) :: e.fields
  .ofFields [("level", .ofString e.level.name),
    ("fields", .arr (fields.map fun f => .arr [.ofString f.1, f.2.toJson]))]

end Event

end CodeSearch.Trace
