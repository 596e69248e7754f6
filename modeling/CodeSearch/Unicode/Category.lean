import CodeSearch.Unicode.Runs
import CodeSearch.Unicode.CategoryRuns

/-!
General categories. A name stands for one category or for a group of them; what no category takes
is unassigned.
-/
namespace CodeSearch.Unicode

inductive Category where
  | uppercaseLetter | lowercaseLetter | titlecaseLetter | modifierLetter | otherLetter
  | nonspacingMark | spacingMark | enclosingMark
  | decimalNumber | letterNumber | otherNumber
  | connectorPunctuation | dashPunctuation | openPunctuation | closePunctuation
  | initialPunctuation | finalPunctuation | otherPunctuation
  | mathSymbol | currencySymbol | modifierSymbol | otherSymbol
  | spaceSeparator | lineSeparator | paragraphSeparator
  | control | format | privateUse
deriving DecidableEq, Repr

namespace Category

def runs : Category → List String
  | uppercaseLetter => CategoryRuns.uppercaseLetter
  | lowercaseLetter => CategoryRuns.lowercaseLetter
  | titlecaseLetter => CategoryRuns.titlecaseLetter
  | modifierLetter => CategoryRuns.modifierLetter
  | otherLetter => CategoryRuns.otherLetter
  | nonspacingMark => CategoryRuns.nonspacingMark
  | spacingMark => CategoryRuns.spacingMark
  | enclosingMark => CategoryRuns.enclosingMark
  | decimalNumber => CategoryRuns.decimalNumber
  | letterNumber => CategoryRuns.letterNumber
  | otherNumber => CategoryRuns.otherNumber
  | connectorPunctuation => CategoryRuns.connectorPunctuation
  | dashPunctuation => CategoryRuns.dashPunctuation
  | openPunctuation => CategoryRuns.openPunctuation
  | closePunctuation => CategoryRuns.closePunctuation
  | initialPunctuation => CategoryRuns.initialPunctuation
  | finalPunctuation => CategoryRuns.finalPunctuation
  | otherPunctuation => CategoryRuns.otherPunctuation
  | mathSymbol => CategoryRuns.mathSymbol
  | currencySymbol => CategoryRuns.currencySymbol
  | modifierSymbol => CategoryRuns.modifierSymbol
  | otherSymbol => CategoryRuns.otherSymbol
  | spaceSeparator => CategoryRuns.spaceSeparator
  | lineSeparator => CategoryRuns.lineSeparator
  | paragraphSeparator => CategoryRuns.paragraphSeparator
  | control => CategoryRuns.control
  | format => CategoryRuns.format
  | privateUse => CategoryRuns.privateUse

def letters : List Category :=
  [uppercaseLetter, lowercaseLetter, titlecaseLetter, modifierLetter, otherLetter]

def casedLetters : List Category := [uppercaseLetter, lowercaseLetter, titlecaseLetter]

def marks : List Category := [nonspacingMark, spacingMark, enclosingMark]

def numbers : List Category := [decimalNumber, letterNumber, otherNumber]

def punctuation : List Category :=
  [connectorPunctuation, dashPunctuation, openPunctuation, closePunctuation, initialPunctuation,
    finalPunctuation, otherPunctuation]

def symbols : List Category := [mathSymbol, currencySymbol, modifierSymbol, otherSymbol]

def separators : List Category := [spaceSeparator, lineSeparator, paragraphSeparator]

def others : List Category := [control, format, privateUse]

def charSet (c : Category) : CharSet := Runs.charSet c.runs

def anyOf (cs : List Category) : CharSet := CharSet.unionAll (cs.map charSet)

/-- Has every character that a category takes. -/
def assigned : CharSet :=
  anyOf (letters ++ marks ++ numbers ++ punctuation ++ symbols ++ separators ++ others)

def unassigned : CharSet := assigned.complement

/-- Has what stands for no sign of its own. The surrogates belong to it, so one range runs over them. -/
def other : CharSet := CharSet.unionAll [unassigned, anyOf others, CharSet.surrogates]

/-- Names in comparison form with the categories that they take together. -/
def named : List (List String × List Category) := [
  (["lu", "uppercaseletter"], [uppercaseLetter]),
  (["ll", "lowercaseletter"], [lowercaseLetter]),
  (["lt", "titlecaseletter"], [titlecaseLetter]),
  (["lm", "modifierletter"], [modifierLetter]),
  (["lo", "otherletter"], [otherLetter]),
  (["lc", "casedletter"], casedLetters),
  (["l", "letter"], letters),
  (["mn", "nonspacingmark"], [nonspacingMark]),
  (["mc", "spacingmark"], [spacingMark]),
  (["me", "enclosingmark"], [enclosingMark]),
  (["m", "mark", "combiningmark"], marks),
  (["nd", "decimalnumber", "digit"], [decimalNumber]),
  (["nl", "letternumber"], [letterNumber]),
  (["no", "othernumber"], [otherNumber]),
  (["n", "number"], numbers),
  (["pc", "connectorpunctuation"], [connectorPunctuation]),
  (["pd", "dashpunctuation"], [dashPunctuation]),
  (["ps", "openpunctuation"], [openPunctuation]),
  (["pe", "closepunctuation"], [closePunctuation]),
  (["pi", "initialpunctuation"], [initialPunctuation]),
  (["pf", "finalpunctuation"], [finalPunctuation]),
  (["po", "otherpunctuation"], [otherPunctuation]),
  (["p", "punctuation", "punct"], punctuation),
  (["sm", "mathsymbol"], [mathSymbol]),
  (["sc", "currencysymbol"], [currencySymbol]),
  (["sk", "modifiersymbol"], [modifierSymbol]),
  (["so", "othersymbol"], [otherSymbol]),
  (["s", "symbol"], symbols),
  (["zs", "spaceseparator"], [spaceSeparator]),
  (["zl", "lineseparator"], [lineSeparator]),
  (["zp", "paragraphseparator"], [paragraphSeparator]),
  (["z", "separator"], separators),
  (["cc", "control", "cntrl"], [control]),
  (["cf", "format"], [format]),
  (["co", "privateuse"], [privateUse])]

/-- The set that a category's name stands for, `any`, `ascii` and `assigned` among them. -/
def named? (name : String) : Option CharSet :=
  if name = "any" then some CharSet.all
  else if name = "ascii" then some CharSet.ascii
  else if name = "assigned" then some assigned
  else if name = "cn" ∨ name = "unassigned" then some unassigned
  else if name = "c" ∨ name = "other" then some other
  else (named.find? (·.1.contains name)).map fun p => anyOf p.2

end Category

end CodeSearch.Unicode
