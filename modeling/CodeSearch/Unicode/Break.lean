import CodeSearch.Unicode.Runs
import CodeSearch.Unicode.BreakRuns

/-!
What characters do where text is broken into characters as seen by a reader, words and sentences.
-/
namespace CodeSearch.Unicode.Break

def find? (table : List (List String × List String)) (form : String) : Option CharSet :=
  (table.find? (·.1.contains form)).map fun e => Runs.charSet e.2

/-- Consonants with a vowel, every 28th of the block of syllables. -/
def openSyllables : CharSet :=
  ⟨(List.range 399).map fun k => (0xac00 + 28 * k, 0xac00 + 28 * k)⟩

def closedSyllables : CharSet := CharSet.diff ⟨[(0xac00, 0xd7a3)]⟩ openSyllables

def graphemeNamed? (form : String) : Option CharSet :=
  if form = "lv" then some openSyllables
  else if form = "lvt" then some closedSyllables
  else find? BreakRuns.grapheme form

def wordNamed? (form : String) : Option CharSet := find? BreakRuns.word form

def sentenceNamed? (form : String) : Option CharSet := find? BreakRuns.sentence form

end CodeSearch.Unicode.Break
