import CodeSearch.Pattern

/-!
Quoted texts as patterns. A character with a meaning is read back from behind its backslash and any
other character stands for itself, so the pattern that a quoted text writes is that text in a row.
-/
namespace CodeSearch

namespace Pattern

theorem toList_quote (text : String) : (quote text).toList = text.toList.flatMap quoteChar :=
  String.toList_ofList

theorem quoteChar_eq (c : Char) :
    quoteChar c = [c] ∧ c ∉ Regex.metaChars ∨ quoteChar c = ['\\', c] ∧ c ∈ Regex.metaChars := by
  unfold quoteChar
  split
  · rename_i meant
    exact .inr ⟨rfl, by simpa using meant⟩
  · rename_i other
    exact .inl ⟨rfl, by simpa using other⟩

end Pattern

namespace Regex

/-- These characters in a row, as patterns are kept. -/
def Expr.literal : List Char → Expr
  | [] => .empty
  | cs => .text cs

def Item.letter (c : Char) : Item := { expr := .text [c] }

def Reader.spell (r : Reader) (c : Char) : Reader :=
  { r with group := r.group.add (Item.letter c) }

/-- Letters stand for themselves and no text is void. -/
structure Flags.Plain (f : Flags) : Prop where
  exact : f.ignoreCase = false
  unicode : f.unicode = true
  visible : f.verbose = false

namespace Reader

variable {r : Reader}

theorem add_letter (plain : r.flags.Plain) (c : Char) : r.add (r.flags.letter c) 0 = r.spell c := by
  simp [Flags.letter, plain.exact, add, spell, Item.letter]

theorem step_other (plain : r.flags.Plain) {c : Char} (other : c ∉ metaChars) (cs : List Char) :
    r.step c cs = some (r.spell c, cs) := by
  unfold step
  split
  case h_13 => rw [add_letter plain]
  all_goals exact absurd (by decide) other

theorem step_quoted (plain : r.flags.Plain) {c : Char} (meant : c ∈ metaChars) (cs : List Char) :
    r.step '\\' (c :: cs) = some (r.spell c, cs) := by
  have itself : standsForItself c = true := by simp [standsForItself, meant]
  simp [step, readEscape, itself, addAtom, plain.unicode, add_letter plain]

theorem run_cons (plain : r.flags.Plain) {fuel : Nat} {c : Char} {cs rest : List Char}
    {next : Reader} (read : r.step c cs = some (next, rest)) : r.run (fuel + 1) (c :: cs) = next.run fuel rest := by
  simp [run, skip, plain.visible, read]

/-- Reading a quoted text spells it. -/
theorem run_quoted (plain : r.flags.Plain) {cs : List Char} {fuel : Nat}
    (enough : (cs.flatMap Pattern.quoteChar).length < fuel) :
    r.run fuel (cs.flatMap Pattern.quoteChar) = some (cs.foldl spell r) := by
  induction cs generalizing r fuel with
  | nil =>
    cases fuel with
    | zero => simp at enough
    | succ fuel => simp [run, skip, plain.visible]
  | cons c cs ih =>
    have plain' : (r.spell c).flags.Plain := plain
    cases fuel with
    | zero => simp at enough
    | succ fuel =>
      rw [List.flatMap_cons] at enough ⊢
      rcases Pattern.quoteChar_eq c with ⟨bare, other⟩ | ⟨quoted, meant⟩
      · rw [bare] at enough ⊢
        rw [List.singleton_append, run_cons plain (step_other plain other _), List.foldl_cons]
        exact ih plain' (by simpa using enough)
      · rw [quoted] at enough ⊢
        rw [List.cons_append, List.singleton_append, run_cons plain (step_quoted plain meant _),
          List.foldl_cons]
        exact ih plain' (by simp only [List.length_append, List.length_cons] at enough; omega)

theorem foldl_spell (r : Reader) (cs : List Char) : cs.foldl spell r =
    { r with group := { r.group with items := (cs.map Item.letter).reverse ++ r.group.items } } := by
  induction cs generalizing r with
  | nil => rfl
  | cons c cs ih => simp [ih, spell, Group.add]

end Reader

theorem foldr_consPart (c : Char) (cs : List Char) :
    ((c :: cs).map fun c => Expr.text [c]).foldr Expr.consPart [] = [Expr.text (c :: cs)] := by
  induction cs generalizing c with
  | nil => rfl
  | cons d cs ih => rw [List.map_cons, List.foldr_cons, ih d]; rfl

theorem catAll_letters (cs : List Char) :
    Expr.catAll (cs.map fun c => Expr.text [c]) = Expr.literal cs := by
  have parts : (cs.map fun c => Expr.text [c]).flatMap Expr.parts =
      cs.map fun c => Expr.text [c] := by
    rw [List.flatMap_map, List.map_eq_flatMap]
    rfl
  rw [Expr.catAll, parts]
  cases cs with
  | nil => rfl
  | cons c cs => rw [foldr_consPart]; rfl

theorem deepest_eq_zero {items : List Item} (flat : ∀ i ∈ items, i.depth = 0) :
    deepest items = 0 := by
  unfold deepest
  induction items with
  | nil => rfl
  | cons i items ih =>
    simp only [List.foldl_cons, flat i List.mem_cons_self, Nat.max_self]
    exact ih fun j member => flat j (List.mem_cons_of_mem i member)

theorem deepest_letters (cs : List Char) : deepest ((cs.map Item.letter).reverse) = 0 := by
  apply deepest_eq_zero
  intro i member
  obtain ⟨c, -, rfl⟩ := List.mem_map.1 (List.mem_reverse.1 member)
  rfl

/-- Letters in a row are one text, and not nested more than one level deep. -/
theorem sequence_letters {g : Group} (cs : List Char)
    (items : g.items = (cs.map Item.letter).reverse) :
    g.sequence.expr = Expr.literal cs ∧ g.sequence.depth ≤ 1 := by
  have exprs : g.items.reverse.map (·.expr) = cs.map fun c => Expr.text [c] := by
    simp [items, Item.letter]
  have deep : deepest g.items = 0 := by rw [items, deepest_letters]
  unfold Group.sequence
  split
  · rename_i none
    rw [none] at exprs
    cases cs with
    | nil => exact ⟨rfl, Nat.zero_le _⟩
    | cons c cs => simp at exprs
  · rename_i i single
    rw [single] at exprs deep
    cases cs with
    | nil => simp at exprs
    | cons c cs =>
      cases cs with
      | nil =>
        simp only [List.reverse_singleton, List.map_singleton, List.cons.injEq, and_true] at exprs
        refine ⟨exprs, ?_⟩
        simp [deepest] at deep
        omega
      | cons d cs => simp at exprs
  · exact ⟨by rw [exprs, catAll_letters], by simp [deep]⟩

theorem ofPattern?_quote {f : Flags} (plain : f.Plain) (text : String) :
    Expr.ofPattern? f (Pattern.quote text).toList = some (Expr.literal text.toList) := by
  let start : Reader := { flags := f, group := { restore := f } }
  have read : start.run ((Pattern.quote text).toList.length + 1) (Pattern.quote text).toList =
      some (text.toList.foldl Reader.spell start) := by
    rw [Pattern.toList_quote]
    exact Reader.run_quoted plain (Nat.lt_succ_self _)
  have row := sequence_letters (g := (text.toList.foldl Reader.spell start).group) text.toList
    (by simp [Reader.foldl_spell, start])
  have value : (text.toList.foldl Reader.spell start).group.value =
      (text.toList.foldl Reader.spell start).group.sequence := by
    simp [Reader.foldl_spell, start, Group.value]
  have closed : (text.toList.foldl Reader.spell start).outer = [] := by
    simp [Reader.foldl_spell, start]
  have shallow := Nat.le_trans row.2 (by decide : 1 ≤ depthLimit)
  rw [Expr.ofPattern?, read]
  simp [Reader.finish, closed, value, shallow, row.1]

end Regex

end CodeSearch
