import CodeSearch.Json.Shape
import CodeSearch.Proofs.Json.Printing
import CodeSearch.Proofs.NameMap
import Mathlib.Data.List.Forall2
import Mathlib.Data.List.Nodup

/-!
Lists that a text leaves out. A field for a list may be missing or hold `null` where the list is
empty, at any depth, and what is read stays the same.
-/
namespace CodeSearch.Json

open Numeric

def listNames : List String := ["Before", "After", "Matches"]

/-- Fields of an object, some of those for an empty list left out or set to `null`. -/
inductive RelaxedFields (relaxed : Json → Json → Prop) :
    List (Option String × Json) → List (Option String × Json) → Prop where
  | nil : RelaxedFields relaxed [] []
  | kept {name : Option String} {j j' : Json} {fields fields' : List (Option String × Json)}
      (value : relaxed j j') (rest : RelaxedFields relaxed fields fields') :
      RelaxedFields relaxed ((name, j) :: fields) ((name, j') :: fields')
  | missing {name : String} {fields fields' : List (Option String × Json)}
      (list : name ∈ listNames) (rest : RelaxedFields relaxed fields fields') :
      RelaxedFields relaxed ((some name, .arr []) :: fields) fields'
  | null {name : String} {fields fields' : List (Option String × Json)}
      (list : name ∈ listNames) (rest : RelaxedFields relaxed fields fields') :
      RelaxedFields relaxed ((some name, .arr []) :: fields) ((some name, .null) :: fields')

inductive Relaxed : Json → Json → Prop where
  | same (j : Json) : Relaxed j j
  | arr {items items' : List Json} (all : List.Forall₂ Relaxed items items') :
    Relaxed (.arr items) (.arr items')
  | obj {fields fields' : List (Option String × Json)}
      (all : RelaxedFields Relaxed fields fields') : Relaxed (.obj fields) (.obj fields')

inductive RelaxedField (j : Json) : Option Json → Prop where
  | kept {j' : Json} (value : Relaxed j j') : RelaxedField j (some j')
  | missing (empty : j = .arr []) : RelaxedField j none
  | null (empty : j = .arr []) : RelaxedField j (some .null)

variable {fields fields' : List (Option String × Json)}

theorem RelaxedFields.same (fields : List (Option String × Json)) :
    RelaxedFields Relaxed fields fields := by
  induction fields with
  | nil => exact .nil
  | cons f fields ih => exact .kept (.same f.2) ih

theorem Relaxed.of_arr {items : List Json} {j : Json} (relaxed : Relaxed (.arr items) j) :
    ∃ items', j = .arr items' ∧ List.Forall₂ Relaxed items items' := by
  cases relaxed with
  | same => exact ⟨items, rfl, List.forall₂_same.2 fun j _ => .same j⟩
  | arr all => exact ⟨_, rfl, all⟩

theorem Relaxed.of_obj {j : Json} (relaxed : Relaxed (.obj fields) j) :
    ∃ fields', j = .obj fields' ∧ RelaxedFields Relaxed fields fields' := by
  cases relaxed with
  | same => exact ⟨fields, rfl, .same fields⟩
  | obj all => exact ⟨_, rfl, all⟩

theorem Relaxed.ofString {s : String} {j : Json} (relaxed : Relaxed (.ofString s) j) :
    j = .ofString s := by
  cases relaxed
  rfl

theorem Relaxed.ofInt {n : Int} {j : Json} (relaxed : Relaxed (.ofInt n) j) : j = .ofInt n := by
  cases relaxed
  rfl

theorem Relaxed.of_null {j : Json} (relaxed : Relaxed j .null) : j = .null := by
  cases relaxed
  rfl

theorem RelaxedFields.names_sublist (relaxed : RelaxedFields Relaxed fields fields') :
    (fields'.map (·.1)).Sublist (fields.map (·.1)) := by
  induction relaxed with
  | nil => exact .slnil
  | kept _ _ ih => exact ih.cons_cons _
  | missing _ _ ih => exact ih.cons _
  | null _ _ ih => exact ih.cons_cons _

theorem RelaxedFields.lookup (relaxed : RelaxedFields Relaxed fields fields')
    (distinct : (fields.map (·.1)).Nodup) :
    ∀ f ∈ fields, RelaxedField f.2 (fields'.lookup f.1) := by
  -- A field that comes later has another name than the first one, whatever that holds.
  have later : ∀ {name : Option String} {j j' : Json} {rest rest' : List (Option String × Json)},
      (((name, j) :: rest).map (·.1)).Nodup →
        ∀ f ∈ rest, ((name, j') :: rest').lookup f.1 = rest'.lookup f.1 := by
    intro name j j' rest rest' distinct f member
    have other : (f.1 == name) = false := by
      refine beq_eq_false_iff_ne.2 fun same => ?_
      exact (List.nodup_cons.1 distinct).1 (List.mem_map.2 ⟨f, member, same⟩)
    rw [List.lookup_cons, other]
  induction relaxed with
  | nil => simp
  | kept value rest ih =>
    refine List.forall_mem_cons.2 ⟨?_, fun f member => ?_⟩
    · rw [List.lookup_cons_self]
      exact .kept value
    · rw [later distinct f member]
      exact ih distinct.of_cons f member
  | @missing name fields fields' list rest ih =>
    refine List.forall_mem_cons.2 ⟨?_, ih distinct.of_cons⟩
    have absent : fields'.lookup (some name) = none := by
      refine List.lookup_eq_none_iff.2 fun f member => ?_
      refine bne_iff_ne.2 fun same => ?_
      refine (List.nodup_cons.1 distinct).1 (rest.names_sublist.subset ?_)
      exact List.mem_map.2 ⟨f, member, same.symm⟩
    rw [absent]
    exact .missing rfl
  | null list rest ih =>
    refine List.forall_mem_cons.2 ⟨?_, fun f member => ?_⟩
    · rw [List.lookup_cons_self]
      exact .null rfl
    · rw [later distinct f member]
      exact ih distinct.of_cons f member

theorem RelaxedFields.of_nonempty (relaxed : RelaxedFields Relaxed fields fields')
    (nonempty : ∀ f ∈ fields, f.2 ≠ .arr []) :
    List.Forall₂ (fun f f' => f.1 = f'.1 ∧ Relaxed f.2 f'.2) fields fields' := by
  induction relaxed with
  | nil => exact .nil
  | kept value rest ih => exact .cons ⟨rfl, value⟩ (ih (List.forall_mem_cons.1 nonempty).2)
  | missing | null => exact absurd rfl (List.forall_mem_cons.1 nonempty).1

theorem RelaxedFields.standard (relaxed : RelaxedFields Relaxed fields fields')
    (all : ∀ f ∈ fields, ∀ {j}, Relaxed f.2 j → Standard j) : ∀ f ∈ fields', Standard f.2 := by
  induction relaxed with
  | nil => simp
  | kept value rest ih =>
    obtain ⟨first, others⟩ := List.forall_mem_cons.1 all
    exact List.forall_mem_cons.2 ⟨first value, ih others⟩
  | missing list rest ih => exact ih (List.forall_mem_cons.1 all).2
  | null list rest ih =>
    exact List.forall_mem_cons.2 ⟨.null, ih (List.forall_mem_cons.1 all).2⟩

theorem Standard.items {items items' : List Json} (relaxed : List.Forall₂ Relaxed items items')
    (all : ∀ j ∈ items, ∀ {j'}, Relaxed j j' → Standard j') : ∀ j ∈ items', Standard j := by
  induction relaxed with
  | nil => simp
  | cons first others ih =>
    obtain ⟨head, tail⟩ := List.forall_mem_cons.1 all
    exact List.forall_mem_cons.2 ⟨head first, ih tail⟩

theorem Standard.relaxed {j j' : Json} (standard : Standard j) (relaxed : Relaxed j j') :
    Standard j' := by
  induction standard generalizing j' with
  | null =>
    cases relaxed
    exact .null
  | bool b =>
    cases relaxed
    exact .bool b
  | num standard =>
    cases relaxed
    exact .num standard
  | str text =>
    cases relaxed
    exact .str text
  | arr _ ih =>
    obtain ⟨items', rfl, all⟩ := relaxed.of_arr
    exact .arr (Standard.items all ih)
  | obj _ ih =>
    obtain ⟨fields', rfl, all⟩ := relaxed.of_obj
    exact .obj (all.standard ih)

/-- What is found for the fields of a record, in the order of their names. -/
theorem Relaxed.record {fields : List (String × Json)} {j : Json}
    (relaxed : Relaxed (.ofFields fields) j) (names : List String)
    (named : fields.map (·.1) = names) (distinct : names.Nodup) :
    ∃ found, record? names j = some found ∧
      List.Forall₂ (fun f field => RelaxedField f.2 field) fields found := by
  obtain ⟨fields', rfl, all⟩ := relaxed.of_obj
  have optional : (fields.map fun f => (some f.1, f.2)).map (·.1) = names.map some := by
    rw [← named]
    simp
  have nodup : (names.map some).Nodup := distinct.map fun _ _ => Option.some.inj
  have kept := all.names_sublist
  rw [optional] at kept
  have known : ∀ f ∈ fields', f.1.isSome = true := by
    intro f member
    obtain ⟨n, _, same⟩ := List.mem_map.1 (kept.subset (List.mem_map_of_mem member))
    rw [← same]
    rfl
  have once : ∀ n : String, fields'.countP (·.1 == some n) ≤ 1 := by
    intro n
    have counted := List.nodup_iff_count_le_one.1 (nodup.sublist kept) (some n)
    rwa [List.count, List.countP_map] at counted
  have shaped : (fields'.all (·.1.isSome) && names.all fun n =>
      fields'.countP (·.1 == some n) ≤ 1) = true := by
    rw [Bool.and_eq_true, List.all_eq_true, List.all_eq_true]
    exact ⟨known, fun n _ => decide_eq_true (once n)⟩
  refine ⟨names.map fun n => fields'.lookup (some n), by rw [record?, if_pos shaped], ?_⟩
  rw [← named, List.map_map, List.forall₂_map_right_iff, List.forall₂_same]
  intro f member
  exact all.lookup (optional ▸ nodup) (some f.1, f.2)
    (List.mem_map_of_mem (f := fun f => (some f.1, f.2)) member)

theorem Number.toInt?_ofInt (n : Int) : (Number.ofInt n).toInt? = some n := by
  by_cases negative : n < 0
  case pos =>
    have nonzero : (n.natAbs == 0) = false := beq_eq_false_iff_ne.2 (by omega)
    have magnitude : -(n.natAbs : Int) = n := by omega
    simp only [ofInt, toInt?, negative, nonzero, decide_true, Bool.not_true, Bool.and_false,
      Bool.or_false, Bool.false_eq_true, if_false, if_true, magnitude]
  case neg =>
    have magnitude : (n.natAbs : Int) = n := by omega
    simp only [ofInt, toInt?, negative, decide_false, Bool.not_true, Bool.false_and,
      Bool.or_false, Bool.false_eq_true, if_false, magnitude]

def Reads {α : Type} (value? : Json → Option α) (j : Json) (a : α) : Prop :=
  ∀ j', Relaxed j j' → value? j' = some a

namespace Reads

variable {α : Type} {value? : Json → Option α} {j : Json} {a : α}

theorem string (s : String) : Reads asString? (.ofString s) s := by
  intro j relaxed
  rw [relaxed.ofString]
  rfl

theorem bounded {low high : Int} (n : Bounded low high) : Reads asBounded? (.ofInt n.val) n := by
  intro j relaxed
  rw [relaxed.ofInt, ofInt, asBounded?, Number.toInt?_ofInt, Option.bind_some, Bounded.ofInt?_val]

theorem list {toJson : α → Json} (reads : ∀ a, Reads value? (toJson a) a) (as : List α) :
    Reads (asListOrNull? value?) (.arr (as.map toJson)) as := by
  intro j relaxed
  obtain ⟨items, rfl, all⟩ := relaxed.of_arr
  have read : items.mapM value? = some as := by
    clear relaxed
    rw [List.forall₂_map_left_iff] at all
    induction all with
    | nil => rfl
    | cons first others ih => simp [reads _ _ first, ih]
  simp [asListOrNull?, asOption?, asList?, read]

theorem optional (reads : Reads value? j a) (nonempty : j ≠ .arr []) (missing : α)
    {field : Option Json} (relaxed : RelaxedField j field) :
    optional? value? missing field = some a := by
  cases relaxed with
  | kept value => exact reads _ value
  | missing empty | null empty => exact absurd empty nonempty

theorem required (reads : Reads value? j a) (nonempty : j ≠ .arr [])
    {field : Option Json} (relaxed : RelaxedField j field) :
    required? value? field = some a := by
  cases relaxed with
  | kept value => exact reads _ value
  | missing empty | null empty => exact absurd empty nonempty

theorem optionalList {toJson : α → Json} {as : List α}
    (reads : Reads (asListOrNull? value?) (.arr (as.map toJson)) as) {field : Option Json}
    (relaxed : RelaxedField (.arr (as.map toJson)) field) :
    optional? (asListOrNull? value?) [] field = some as := by
  cases relaxed with
  | kept value => exact reads _ value
  | missing empty | null empty =>
    obtain rfl : as = [] := by simpa using empty
    rfl

theorem option {toJson : α → Json} (reads : ∀ a, Reads value? (toJson a) a)
    (some : ∀ a, toJson a ≠ .null) (x : Option α) :
    Reads (asOption? value?) (.ofOption (x.map toJson)) x := by
  intro j relaxed
  cases x with
  | none =>
    cases relaxed
    rfl
  | some a =>
    have said : j ≠ .null := by
      rintro rfl
      exact some a relaxed.of_null
    rw [asOption?, reads a j relaxed]
    · rfl
    · exact said

theorem ofOption_ne_arr (toJson : α → Json) (nonempty : ∀ a, toJson a ≠ .arr []) (x : Option α) :
    Json.ofOption (x.map toJson) ≠ .arr [] := by
  cases x with
  | none => nofun
  | some a => exact nonempty a

theorem map {toJson : α → Json} (reads : ∀ a, Reads value? (toJson a) a)
    (nonempty : ∀ a, toJson a ≠ .arr []) {entries : List (String × α)} {m : NameMap α}
    (same : entries.Perm m.entries) :
    Reads (asMap? value?) (.ofFields (entries.map fun e => (e.1, toJson e.2))) m := by
  intro j relaxed
  obtain ⟨fields, rfl, fewer⟩ := relaxed.of_obj
  rw [List.map_map] at fewer
  have filled : ∀ f ∈ entries.map fun e => (some e.1, toJson e.2), f.2 ≠ .arr [] := by
    intro f member
    obtain ⟨e, _, rfl⟩ := List.mem_map.1 member
    exact nonempty e.2
  have all := List.forall₂_map_left_iff.1 (fewer.of_nonempty filled)
  have read : (fields.mapM fun f => do return (← f.1, ← value? f.2)) = some entries := by
    clear same relaxed filled fewer
    induction all with
    | nil => rfl
    | cons first rest ih =>
      rw [List.mapM_cons, ← first.1, reads _ _ first.2, ih]
      rfl
  rw [asMap?, read]
  exact congrArg some (NameMap.ofList_of_perm same)

theorem of_print (reads : Reads value? j a) (standard : Standard j) {j' : Json}
    (relaxed : Relaxed j j') : (parse? j'.print).bind value? = some a := by
  rw [(standard.relaxed relaxed).read_back]
  exact reads j' relaxed

end Reads

end CodeSearch.Json
