import CodeSearch.NameMap

/-!
Finding by name. Where no name stands twice, what is found under a name is what stands there.
-/
namespace CodeSearch.NameMap

variable {α : Type}

theorem lookup_eq_some_iff {entries : List (String × α)} (distinct : (entries.map (·.1)).Nodup)
    {name : String} {a : α} : entries.lookup name = some a ↔ (name, a) ∈ entries := by
  induction entries with
  | nil => simp
  | cons e rest ih =>
    obtain ⟨other, b⟩ := e
    have parts := List.nodup_cons.1 distinct
    by_cases same : name = other
    · subst same
      have absent : (name, a) ∉ rest := fun member =>
        parts.1 (List.mem_map.2 ⟨(name, a), member, rfl⟩)
      simp [absent, eq_comm]
    · have unlike : (name == other) = false := beq_eq_false_iff_ne.2 same
      simp [List.lookup_cons, unlike, ih parts.2, same]

theorem names_nodup (m : NameMap α) : m.names.Nodup := by
  refine List.pairwise_map.2 (m.sorted.imp ?_)
  intro a b less same
  exact String.lt_irrefl b.1 (same ▸ less)

theorem get?_eq_some_iff {m : NameMap α} {name : String} {a : α} :
    m.get? name = some a ↔ (name, a) ∈ m.entries :=
  lookup_eq_some_iff m.names_nodup

theorem contains_iff {m : NameMap α} {name : String} : m.contains name = true ↔ name ∈ m.names := by
  simp [contains, names, Option.isSome_iff_exists, get?_eq_some_iff]

theorem insertEntry_perm {name : String} {entries : List (String × α)}
    (absent : name ∉ entries.map (·.1)) (a : α) :
    (insertEntry name a entries).Perm ((name, a) :: entries) := by
  induction entries with
  | nil => exact .refl _
  | cons e rest ih =>
    obtain ⟨other, b⟩ := e
    have unlike : name ≠ other := List.ne_of_not_mem_cons absent
    have later := ih (List.not_mem_of_not_mem_cons absent)
    rw [insertEntry, if_neg unlike]
    split
    · exact .refl _
    · exact (later.cons _).trans (.swap _ _ _)

theorem foldl_insert_perm {m : NameMap α} {entries : List (String × α)}
    (distinct : ((m.entries ++ entries).map (·.1)).Nodup) :
    (entries.foldl (fun m e => m.insert e.1 e.2) m).entries.Perm (m.entries ++ entries) := by
  induction entries generalizing m with
  | nil => simp
  | cons e entries ih =>
    have absent : e.1 ∉ m.entries.map (·.1) := by
      rw [List.map_append, List.nodup_append] at distinct
      exact fun member => distinct.2.2 _ member _ List.mem_cons_self rfl
    have inserted : (m.insert e.1 e.2).entries.Perm (e :: m.entries) := insertEntry_perm absent e.2
    have shifted : ((m.insert e.1 e.2).entries ++ entries).Perm (m.entries ++ e :: entries) :=
      (inserted.append_right entries).trans List.perm_middle.symm
    exact (ih ((shifted.map _).nodup_iff.2 distinct)).trans shifted

/-- A map is made from its entries in any order. -/
theorem ofList_of_perm {entries : List (String × α)} {m : NameMap α}
    (same : entries.Perm m.entries) : ofList entries = m := by
  have distinct : (entries.map (·.1)).Nodup := (same.map _).nodup_iff.2 m.names_nodup
  have filled : (ofList entries).entries.Perm m.entries :=
    (foldl_insert_perm (m := empty) distinct).trans same
  have sorted : (ofList entries).entries = m.entries := by
    refine filled.eq_of_pairwise ?_ (ofList entries).sorted m.sorted
    intro e f _ _ less greater
    exact absurd (String.lt_trans less greater) (String.lt_irrefl e.1)
  generalize ofList entries = made at sorted
  cases made
  cases sorted
  rfl

end CodeSearch.NameMap
