import CodeSearch.Channel.Basic

/-!
The numbers of subscriptions. Whatever was called on a channel and in whatever order, its calls tell
who listens: who got a number and was not taken out under it since.
-/
namespace CodeSearch.Channel

variable {L : Type}

/-- A call with what it returned: the number of the new listener, or whether there was one to take
out. -/
inductive Call (L : Type) where
  | subscribed (id : Nat) (listener : L)
  | cancelled (id : Nat) (found : Bool)

namespace Call

def comer? : Call L → Option (Nat × L)
  | .subscribed id listener => some (id, listener)
  | .cancelled _ _ => none

def takesOut : Call L → Bool
  | .subscribed _ _ => false
  | .cancelled _ found => found

end Call

def joined (calls : List (Call L)) : List (Nat × L) := calls.filterMap Call.comer?

/-- A listener came under this number and was not taken out since. -/
def Stands (calls : List (Call L)) (id : Nat) (listener : L) : Prop :=
  ∃ before after, calls = before ++ .subscribed id listener :: after ∧ .cancelled id true ∉ after

inductive Served : List (Call L) → Channel L → Prop where
  | fresh : Served [] {}
  | subscribed {calls : List (Call L)} {c : Channel L} (served : Served calls c) (listener : L) :
      Served (calls ++ [.subscribed c.nextId listener]) (c.subscribe listener)
  | cancelled {calls : List (Call L)} {c : Channel L} (served : Served calls c) (id : Nat) :
      Served (calls ++ [.cancelled id (c.has id)]) (c.cancel id)

variable {calls : List (Call L)} {c : Channel L} {id : Nat}

theorem concat_eq_append_cons {α : Type} {xs before after : List α} {x y : α}
    (whole : xs ++ [x] = before ++ y :: after) :
    x = y ∨ ∃ more, xs = before ++ y :: more ∧ after = more ++ [x] := by
  rcases List.eq_nil_or_concat after with rfl | ⟨more, z, rfl⟩
  · exact .inl (List.cons.inj (List.append_inj_right' whole rfl)).1
  · rw [List.concat_eq_append, ← List.cons_append, ← List.append_assoc] at whole
    have last := (List.cons.inj (List.append_inj_right' whole rfl)).1
    refine .inr ⟨more, List.append_inj_left' whole rfl, ?_⟩
    rw [List.concat_eq_append, last]

theorem stands_concat (call : Call L) (listener : L) :
    Stands (calls ++ [call]) id listener ↔
      call = .subscribed id listener ∨ Stands calls id listener ∧ call ≠ .cancelled id true := by
  constructor
  · rintro ⟨before, after, whole, stays⟩
    rcases concat_eq_append_cons whole with here | ⟨more, earlier, rfl⟩
    · exact .inl here
    · simp only [List.mem_append, List.mem_singleton, not_or] at stays
      exact .inr ⟨⟨before, more, earlier, stays.1⟩, Ne.symm stays.2⟩
  · rintro (rfl | ⟨⟨before, after, rfl, stays⟩, other⟩)
    · exact ⟨calls, [], rfl, List.not_mem_nil⟩
    · refine ⟨before, after ++ [call], by simp, ?_⟩
      simp only [List.mem_append, List.mem_singleton, not_or]
      exact ⟨stays, Ne.symm other⟩

theorem has_iff : c.has id = true ↔ ∃ listener, (id, listener) ∈ c.listeners := by
  simp [has, List.any_eq_true]

theorem cancel_of_absent (absent : c.has id = false) : c.cancel id = c := by
  have others : c.listeners.filter (·.1 != id) = c.listeners := by
    refine List.filter_eq_self.2 fun e member => bne_iff_ne.2 ?_
    rintro rfl
    rw [has_iff.2 ⟨e.2, member⟩] at absent
    cases absent
  rw [cancel, others]

/-- Where numbers rise, there is one listener under a number at most. -/
theorem cancel_of_has (rising : c.listeners.Pairwise (·.1 < ·.1)) (found : c.has id = true) :
    ∃ before listener after, c.listeners = before ++ (id, listener) :: after ∧
      c.cancel id = ⟨before ++ after, c.nextId⟩ := by
  obtain ⟨listener, member⟩ := has_iff.1 found
  obtain ⟨before, after, whole⟩ := List.append_of_mem member
  rw [whole, List.pairwise_append, List.pairwise_cons] at rising
  obtain ⟨_, ⟨below, _⟩, above⟩ := rising
  refine ⟨before, listener, after, whole, ?_⟩
  have first : before.filter (·.1 != id) = before := List.filter_eq_self.2 fun e member =>
    bne_iff_ne.2 (Nat.ne_of_lt (above e member (id, listener) List.mem_cons_self))
  have last : after.filter (·.1 != id) = after := List.filter_eq_self.2 fun e member =>
    bne_iff_ne.2 (Nat.ne_of_gt (below e member))
  rw [cancel, whole, List.filter_append, List.filter_cons_of_neg (by simp), first, last]

structure Consistent (calls : List (Call L)) (c : Channel L) : Prop where
  numbers : (joined calls).map (·.1) = List.range c.nextId
  order : c.listeners.Sublist (joined calls)
  members : ∀ id listener, (id, listener) ∈ c.listeners ↔ Stands calls id listener
  size : c.size + calls.countP Call.takesOut = (joined calls).length

namespace Consistent

theorem sublist_range (consistent : Consistent calls c) :
    (c.listeners.map (·.1)).Sublist (List.range c.nextId) :=
  consistent.numbers ▸ consistent.order.map _

theorem rising (consistent : Consistent calls c) : c.listeners.Pairwise (·.1 < ·.1) :=
  List.pairwise_map.1 (List.pairwise_lt_range.sublist consistent.sublist_range)

theorem below (consistent : Consistent calls c) : ∀ e ∈ c.listeners, e.1 < c.nextId :=
  fun _ member => List.mem_range.1 (consistent.sublist_range.subset (List.mem_map_of_mem member))

theorem fresh : Consistent (L := L) [] {} where
  numbers := rfl
  order := List.Sublist.refl _
  members id listener := by simp [Stands]
  size := rfl

theorem subscribe (consistent : Consistent calls c) (listener : L) :
    Consistent (calls ++ [.subscribed c.nextId listener]) (c.subscribe listener) := by
  have comers : joined (calls ++ [.subscribed c.nextId listener]) =
      joined calls ++ [(c.nextId, listener)] := by simp [joined, Call.comer?]
  constructor
  case numbers =>
    rw [comers, List.map_append, consistent.numbers]
    exact List.range_succ.symm
  case order =>
    rw [comers]
    exact consistent.order.append (List.Sublist.refl _)
  case members =>
    intro id other
    rw [stands_concat, ← consistent.members]
    simp [Channel.subscribe, or_comm, eq_comm]
  case size =>
    have size := consistent.size
    rw [comers]
    simp only [Channel.subscribe, Channel.size, List.length_append, List.length_singleton,
      List.countP_append, List.countP_singleton, Call.takesOut, Bool.false_eq_true, if_false] at size ⊢
    omega

theorem cancel (consistent : Consistent calls c) (id : Nat) :
    Consistent (calls ++ [.cancelled id (c.has id)]) (c.cancel id) := by
  have comers : joined (calls ++ [.cancelled id (c.has id)]) = joined calls := by
    simp [joined, Call.comer?]
  constructor
  case numbers => rw [comers]; exact consistent.numbers
  case order =>
    rw [comers]
    exact List.filter_sublist.trans consistent.order
  case members =>
    intro other listener
    rw [stands_concat, ← consistent.members]
    by_cases same : other = id
    · subst same
      have gone : (other, listener) ∉ (c.cancel other).listeners := by simp [Channel.cancel]
      refine iff_of_false gone ?_
      rintro (joins | ⟨member, stays⟩)
      · cases joins
      · exact stays (by rw [has_iff.2 ⟨listener, member⟩])
    · simp [Channel.cancel, same, Ne.symm same]
  case size =>
    have size := consistent.size
    rw [comers, List.countP_append, List.countP_singleton]
    cases found : c.has id with
    | false =>
      rw [cancel_of_absent found]
      exact size
    | true =>
      obtain ⟨before, listener, after, whole, left⟩ := cancel_of_has consistent.rising found
      simp only [Channel.size, whole, left, List.length_append, List.length_cons] at size ⊢
      simp only [Call.takesOut, if_true]
      omega

end Consistent

theorem Served.consistent (served : Served calls c) : Consistent calls c := by
  induction served with
  | fresh => exact .fresh
  | subscribed _ listener ih => exact ih.subscribe listener
  | cancelled _ id ih => exact ih.cancel id

structure Accounted (calls : List (Call L)) (c : Channel L) : Prop
    extends Consistent calls c where
  rising : c.listeners.Pairwise (·.1 < ·.1)
  below : ∀ e ∈ c.listeners, e.1 < c.nextId
  once : ((joined calls).map (·.1)).Nodup
  unused : c.nextId ∉ (joined calls).map (·.1)
  found : ∀ id, c.has id = true ↔ ∃ listener, Stands calls id listener
  takes : ∀ id, c.has id = true → ∃ before listener after,
    c.listeners = before ++ (id, listener) :: after ∧ c.cancel id = ⟨before ++ after, c.nextId⟩
  keeps : ∀ id, c.has id = false → c.cancel id = c

theorem Served.accounted (served : Served calls c) : Accounted calls c := by
  have consistent := served.consistent
  refine { consistent with
    rising := consistent.rising
    below := consistent.below
    once := ?_
    unused := ?_
    found := fun id => ?_
    takes := fun id => cancel_of_has consistent.rising
    keeps := fun id => cancel_of_absent }
  · rw [consistent.numbers]
    exact List.nodup_range
  · rw [consistent.numbers]
    exact List.not_mem_range_self
  · simp only [has_iff, consistent.members]

end CodeSearch.Channel
