import CodeSearch.Json.Value

/-!
Writing JSON text, without blanks. Quotes, backslashes and the first 32 characters are escaped, all
others stand for themselves.
-/
namespace CodeSearch.Json

def writeHexDigit (n : Nat) : Char := Nat.digitChar n

def escapeChar (c : Char) : List Char :=
  match c with
  | '"' => ['\\', '"']
  | '\\' => ['\\', '\\']
  | '\n' => ['\\', 'n']
  | '\r' => ['\\', 'r']
  | '\t' => ['\\', 't']
  | '\x08' => ['\\', 'b']
  | '\x0c' => ['\\', 'f']
  | c =>
    if c.toNat < 0x20 then
      ['\\', 'u', '0', '0', writeHexDigit (c.toNat / 16), writeHexDigit (c.toNat % 16)]
    else [c]

def quote (s : String) : List Char := '"' :: (s.toList.flatMap escapeChar ++ ['"'])

/-- A string without a text is written as half of a pair. -/
def writeString : Option String → List Char
  | some s => quote s
  | none => ['"', '\\', 'u', 'd', '8', '0', '0', '"']

def between (first last : Char) (parts : List (List Char)) : List Char :=
  first :: (List.intercalate [','] parts ++ [last])

mutual

def write : Json → List Char
  | .null => ['n', 'u', 'l', 'l']
  | .bool true => ['t', 'r', 'u', 'e']
  | .bool false => ['f', 'a', 'l', 's', 'e']
  | .num n => n.write
  | .str text => writeString text
  | .arr items => between '[' ']' (writeItems items)
  | .obj fields => between '\x7b' '\x7d' (writeFields fields)

def writeItems : List Json → List (List Char)
  | [] => []
  | j :: rest => write j :: writeItems rest

def writeFields : List (Option String × Json) → List (List Char)
  | [] => []
  | (name, j) :: rest => (writeString name ++ ':' :: write j) :: writeFields rest

end

def print (j : Json) : String := String.ofList (write j)

end CodeSearch.Json
