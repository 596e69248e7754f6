import CodeSearch.Json.Token

/-!
Reading JSON text. The arrays and objects that are open are kept in a list, so a text may nest them
to any depth.
-/
namespace CodeSearch.Json

/-- An array or object that is open, its contents latest first; of an object also the name of the
field whose value is being read. -/
inductive Frame where
  | arr (items : List Json)
  | obj (fields : List (Option String × Json)) (name : Option String)

/-- What comes next. -/
inductive State where
  | value (open_ : List Frame)
  | firstItem (open_ : List Frame)
  | firstName (open_ : List Frame)
  | nextName (fields : List (Option String × Json)) (open_ : List Frame)
  | colon (fields : List (Option String × Json)) (name : Option String) (open_ : List Frame)
  | afterValue (v : Json) (open_ : List Frame)

namespace State

/-- A value that is no array or object. -/
def scalar? : Token → Option Json
  | .sign _ => none
  | .word w =>
    if w = ['n', 'u', 'l', 'l'] then some .null
    else if w = ['t', 'r', 'u', 'e'] then some (.bool true)
    else if w = ['f', 'a', 'l', 's', 'e'] then some (.bool false)
    else none
  | .number digits => (Number.read? digits).map .num
  | .text raw => (unescape? raw).map .str

def startValue? (open_ : List Frame) : Token → Option State
  | .sign c =>
    if c = '[' then some (.firstItem open_)
    else if c = '\x7b' then some (.firstName open_)
    else none
  | t => (scalar? t).map (.afterValue · open_)

def name? (fields : List (Option String × Json)) (open_ : List Frame) : Token → Option State
  | .text raw => (unescape? raw).map (.colon fields · open_)
  | _ => none

def next? (s : State) (t : Token) : Option State :=
  match s with
  | .value open_ => startValue? open_ t
  | .firstItem open_ =>
    if t = .sign ']' then some (.afterValue (.arr []) open_)
    else startValue? (.arr [] :: open_) t
  | .firstName open_ =>
    if t = .sign '\x7d' then some (.afterValue (.obj []) open_) else name? [] open_ t
  | .nextName fields open_ => name? fields open_ t
  | .colon fields name open_ =>
    if t = .sign ':' then some (.value (.obj fields name :: open_)) else none
  | .afterValue _ [] => none
  | .afterValue v (.arr items :: open_) =>
    if t = .sign ',' then some (.value (.arr (v :: items) :: open_))
    else if t = .sign ']' then some (.afterValue (.arr (v :: items).reverse) open_)
    else none
  | .afterValue v (.obj fields name :: open_) =>
    if t = .sign ',' then some (.nextName ((name, v) :: fields) open_)
    else if t = .sign '\x7d' then some (.afterValue (.obj ((name, v) :: fields).reverse) open_)
    else none

def finish? : State → Option Json
  | .afterValue v [] => some v
  | _ => none

end State

def ofTokens? (ts : List Token) : Option Json := do
  let s ← ts.foldlM State.next? (.value [])
  s.finish?

def parse? (text : String) : Option Json := do
  ofTokens? (← Token.ofText? text.toList)

end CodeSearch.Json
