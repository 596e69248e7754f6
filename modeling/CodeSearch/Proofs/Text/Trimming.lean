import CodeSearch.Text.Blank

/-!
Trimmed texts. Trimming gives a text without blanks at its ends, and leaves such a text as it is; so
it does not matter how often a text is trimmed.
-/
namespace CodeSearch.Text

def Trimmed (cs : List Char) : Prop :=
  (∀ c ∈ cs.head?, isBlank c = false) ∧ (∀ c ∈ cs.getLast?, isBlank c = false)

theorem trimStart_head? (cs : List Char) : ∀ c ∈ (trimStart cs).head?, isBlank c = false := by
  intro c first
  have bare := List.head?_dropWhile_not isBlank cs
  rw [trimStart, Option.mem_def] at first
  rwa [first] at bare

theorem trimStart_of_head? {cs : List Char} (bare : ∀ c ∈ cs.head?, isBlank c = false) :
    trimStart cs = cs := by
  cases cs with
  | nil => rfl
  | cons c cs =>
    have here : isBlank c = false := bare c rfl
    exact List.dropWhile_cons_of_neg (by simp [here])

theorem trimEnd_prefix (cs : List Char) : trimEnd cs <+: cs := by
  have suffix : trimStart cs.reverse <:+ cs.reverse := List.dropWhile_suffix isBlank
  rw [trimEnd, ← List.reverse_reverse cs, List.reverse_prefix]
  simpa only [List.reverse_reverse] using suffix

theorem trimChars_trimmed (cs : List Char) : Trimmed (trimChars cs) := by
  constructor
  · intro c first
    obtain ⟨rest, whole⟩ := trimEnd_prefix (trimStart cs)
    apply trimStart_head? cs c
    rw [← whole, Option.mem_def, List.head?_append]
    rw [trimChars, Option.mem_def] at first
    rw [first]
    rfl
  · intro c last
    rw [trimChars, trimEnd, List.getLast?_reverse] at last
    exact trimStart_head? _ c last

theorem trimChars_of_trimmed {cs : List Char} (trimmed : Trimmed cs) : trimChars cs = cs := by
  have bare : ∀ c ∈ cs.reverse.head?, isBlank c = false := by
    rw [List.head?_reverse]
    exact trimmed.2
  rw [trimChars, trimStart_of_head? trimmed.1, trimEnd, trimStart_of_head? bare, List.reverse_reverse]

theorem toList_trim (s : String) : (trim s).toList = trimChars s.toList := String.toList_ofList

theorem trim_trimmed (s : String) : Trimmed (trim s).toList := by
  rw [toList_trim]
  exact trimChars_trimmed s.toList

theorem trim_of_trimmed {s : String} (trimmed : Trimmed s.toList) : trim s = s := by
  rw [trim, trimChars_of_trimmed trimmed, String.ofList_toList]

theorem trim_trim (s : String) : trim (trim s) = trim s :=
  trim_of_trimmed (trim_trimmed s)

end CodeSearch.Text
