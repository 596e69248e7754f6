import CodeSearch.Text.Cut

/-!
Templates with names in braces. Variables are filled in one after another, each at the first place
where its name stands in braces; a name that no variable has stays as it is.
-/
namespace CodeSearch.Text.Template

def placeholder (name : List Char) : List Char := '\x7b' :: (name ++ ['\x7d'])

/-- Puts one value into a text. -/
def fillOne (text : List Char) (name value : List Char) : List Char :=
  match cut? (placeholder name) text with
  | some (before, after) => before ++ value ++ after
  | none => text

def fillChars (text : List Char) (values : List (List Char × List Char)) : List Char :=
  values.foldl (fun text v => fillOne text v.1 v.2) text

def fill (template : String) (values : List (String × String)) : String :=
  String.ofList (fillChars template.toList (values.map fun v => (v.1.toList, v.2.toList)))

end CodeSearch.Text.Template
