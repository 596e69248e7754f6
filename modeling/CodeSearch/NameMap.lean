/-!
Values under names. A name stands once, and the names stand in the order of their characters, which
is also the order of their bytes in UTF-8.
-/
namespace CodeSearch

structure NameMap (α : Type) where
  entries : List (String × α)
  sorted : entries.Pairwise fun a b => a.1 < b.1

namespace NameMap

variable {α : Type}

def empty : NameMap α := ⟨[], List.Pairwise.nil⟩

instance : Inhabited (NameMap α) := ⟨empty⟩

/-- Puts a value in its place; one under the same name gives way. -/
def insertEntry (name : String) (a : α) : List (String × α) → List (String × α)
  | [] => [(name, a)]
  | (other, b) :: rest =>
    if name < other then (name, a) :: (other, b) :: rest
    else if name = other then (name, a) :: rest
    else (other, b) :: insertEntry name a rest

theorem mem_insertEntry {name : String} {a : α} {entries : List (String × α)} {p : String × α}
    (h : p ∈ insertEntry name a entries) : p = (name, a) ∨ p ∈ entries := by
  induction entries with
  | nil => simpa [insertEntry] using h
  | cons q rest ih =>
    simp only [insertEntry] at h
    split at h
    · simpa using h
    · split at h
      · simp only [List.mem_cons] at h ⊢
        exact h.imp_right .inr
      · simp only [List.mem_cons] at h ⊢
        cases h with
        | inl h => exact .inr (.inl h)
        | inr h => exact (ih h).imp_right .inr

theorem insertEntry_sorted (name : String) (a : α) {entries : List (String × α)}
    (sorted : entries.Pairwise fun p q => p.1 < q.1) :
    (insertEntry name a entries).Pairwise fun p q => p.1 < q.1 := by
  induction entries with
  | nil => simp [insertEntry]
  | cons q rest ih =>
    obtain ⟨other, b⟩ := q
    have first := List.pairwise_cons.1 sorted
    simp only [insertEntry]
    split
    · rename_i less
      refine List.pairwise_cons.2 ⟨?_, sorted⟩
      intro p hp
      cases List.mem_cons.1 hp with
      | inl h => exact h ▸ less
      | inr h => exact String.lt_trans less (first.1 p h)
    · rename_i notLess
      split
      · rename_i same
        exact List.pairwise_cons.2 ⟨fun p hp => same ▸ first.1 p hp, first.2⟩
      · rename_i different
        refine List.pairwise_cons.2 ⟨?_, ih first.2⟩
        intro p hp
        cases mem_insertEntry hp with
        | inl h =>
          subst h
          have atMost : other ≤ name := String.not_lt.1 notLess
          exact Decidable.byContradiction fun h =>
            different (String.le_antisymm (String.not_lt.1 h) atMost)
        | inr h => exact first.1 p h

def insert (m : NameMap α) (name : String) (a : α) : NameMap α :=
  ⟨insertEntry name a m.entries, insertEntry_sorted name a m.sorted⟩

/-- Of several values under one name the last stays. -/
def ofList (entries : List (String × α)) : NameMap α :=
  entries.foldl (fun m e => m.insert e.1 e.2) empty

def get? (m : NameMap α) (name : String) : Option α := m.entries.lookup name

def contains (m : NameMap α) (name : String) : Bool := (m.get? name).isSome

def size (m : NameMap α) : Nat := m.entries.length

def isEmpty (m : NameMap α) : Bool := m.entries.isEmpty

def names (m : NameMap α) : List String := m.entries.map (·.1)

end NameMap

end CodeSearch
