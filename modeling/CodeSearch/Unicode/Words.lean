import CodeSearch.Unicode.Property

/-!
The sets that patterns name most: digits, white space, what words and names are made of.
-/
namespace CodeSearch.Unicode

open Category in
def digits : CharSet := decimalNumber.charSet

def whiteSpace : CharSet := Property.whiteSpace.charSet

def alphabetic : CharSet := Property.alphabeticSet

open Category in
def wordChars : CharSet :=
  CharSet.unionAll [alphabetic, anyOf (decimalNumber :: connectorPunctuation :: marks),
    Property.joinControl.charSet]

/-- Letters that Unicode 17.0 brought. They came after the tables, so no class has them, but names may
be written in them. -/
def youngLetters : CharSet := ⟨[
  (0x88f, 0x88f), (0xc5c, 0xc5c), (0xcdc, 0xcdc), (0xa7ce, 0xa7cf), (0xa7d2, 0xa7d2),
  (0xa7d4, 0xa7d4), (0xa7f1, 0xa7f1), (0x10940, 0x10959), (0x10ec5, 0x10ec7), (0x10efa, 0x10efb),
  (0x11b60, 0x11b67), (0x11db0, 0x11ddb), (0x16ea0, 0x16eb8), (0x16ebb, 0x16ed3),
  (0x16ff2, 0x16ff6), (0x187f8, 0x187ff), (0x18d09, 0x18d1e), (0x18d80, 0x18df2),
  (0x1e6c0, 0x1e6de), (0x1e6e0, 0x1e6f5), (0x1e6fe, 0x1e6ff), (0x2b73a, 0x2b73f),
  (0x2cea2, 0x2cead), (0x323b0, 0x33479)]⟩

/-- Digits that Unicode 17.0 brought. -/
def youngDigits : CharSet := ⟨[(0x11de0, 0x11de9)]⟩

/-- What names begin with. -/
def nameLetters : CharSet := alphabetic.union youngLetters

/-- What names go on with. -/
def nameLettersAndNumbers : CharSet :=
  CharSet.unionAll [nameLetters, Category.anyOf Category.numbers, youngDigits]

def asciiDigits : CharSet := ⟨[(0x30, 0x39)]⟩

def asciiSpace : CharSet := ⟨[(0x9, 0xd), (0x20, 0x20)]⟩

def asciiWordChars : CharSet := ⟨[(0x30, 0x39), (0x41, 0x5a), (0x5f, 0x5f), (0x61, 0x7a)]⟩

/-- The classes that are named between `[:` and `:]`; they hold none but the first 128 characters. -/
def asciiNamed : List (String × CharSet) := [
  ("alnum", ⟨[(0x30, 0x39), (0x41, 0x5a), (0x61, 0x7a)]⟩),
  ("alpha", ⟨[(0x41, 0x5a), (0x61, 0x7a)]⟩),
  ("ascii", CharSet.ascii),
  ("blank", ⟨[(0x9, 0x9), (0x20, 0x20)]⟩),
  ("cntrl", ⟨[(0x0, 0x1f), (0x7f, 0x7f)]⟩),
  ("digit", asciiDigits),
  ("graph", ⟨[(0x21, 0x7e)]⟩),
  ("lower", ⟨[(0x61, 0x7a)]⟩),
  ("print", ⟨[(0x20, 0x7e)]⟩),
  ("punct", ⟨[(0x21, 0x2f), (0x3a, 0x40), (0x5b, 0x60), (0x7b, 0x7e)]⟩),
  ("space", asciiSpace),
  ("upper", ⟨[(0x41, 0x5a)]⟩),
  ("word", asciiWordChars),
  ("xdigit", ⟨[(0x30, 0x39), (0x41, 0x46), (0x61, 0x66)]⟩)]

end CodeSearch.Unicode
