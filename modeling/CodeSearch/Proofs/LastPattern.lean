import CodeSearch.Page

/-!
The pattern that a page keeps. Whatever patterns are asked for one after another, and whichever of
them do not compile, each answer is the one that compiling anew would give; what is kept is the last
pattern that did compile.
-/
namespace CodeSearch

structure PatternKey where
  source : String
  ignoreCase : Bool

namespace PatternKey

def compile? (k : PatternKey) : Option Pattern :=
  Pattern.compile? k.source { ignoreCase := k.ignoreCase }

def compiled (wording : Pattern.Wording) (k : PatternKey) : Except Failure Pattern :=
  Pattern.compile wording k.source { ignoreCase := k.ignoreCase }

def refusal (wording : Pattern.Wording) (k : PatternKey) : Failure :=
  .badPattern (wording k.source { ignoreCase := k.ignoreCase })

def kept? (k : PatternKey) : Option LastPattern :=
  k.compile?.map fun p => ⟨k.source, k.ignoreCase, p⟩

theorem compiled_eq_ok {wording : Pattern.Wording} {k : PatternKey} {p : Pattern} :
    k.compiled wording = .ok p ↔ k.compile? = some p := Pattern.compile_eq_ok

theorem compiled_eq_error {wording : Pattern.Wording} {k : PatternKey} {e : Failure} :
    k.compiled wording = .error e ↔ k.compile? = none ∧ e = k.refusal wording :=
  Pattern.compile_eq_error

theorem source_of_compile? {k : PatternKey} {p : Pattern} (compiles : k.compile? = some p) :
    p.source = k.source := by
  simp only [compile?, Pattern.compile?, Option.bind_eq_bind, Option.bind_eq_some_iff,
    Option.pure_def] at compiles
  obtain ⟨_, -, _, -, made⟩ := compiles
  exact Option.some.inj made ▸ rfl

end PatternKey

namespace Page

variable {wording : Pattern.Wording}

/-- The answers to all that is asked for, each with what is kept after it. -/
def patterns (wording : Pattern.Wording) (last : Option LastPattern) :
    List PatternKey → List (Except Failure Pattern × Option LastPattern)
  | [] => []
  | k :: ks =>
    let step := pattern wording last k.source k.ignoreCase
    step :: patterns wording step.2 ks

def lastKept (keys : List PatternKey) : Option LastPattern :=
  keys.reverse.findSome? PatternKey.kept?

/-- A pattern is kept for what it was compiled from. -/
def Current (last : Option LastPattern) : Prop :=
  ∀ l, last = some l → PatternKey.compile? ⟨l.source, l.ignoreCase⟩ = some l.pattern

theorem pattern_eq {last : Option LastPattern} (current : Current last) (k : PatternKey) :
    pattern wording last k.source k.ignoreCase = (k.compiled wording, k.kept?.or last) := by
  have anew : Pattern.compile? k.source { ignoreCase := k.ignoreCase } = k.compile? := rfl
  unfold pattern PatternKey.compiled PatternKey.kept? Pattern.compile
  rw [anew]
  cases last with
  | none => cases k.compile? <;> rfl
  | some l =>
    by_cases same : l.source = k.source ∧ l.ignoreCase = k.ignoreCase
    · have compiles : k.compile? = some l.pattern := by
        have kept := current l rfl
        rwa [same.1, same.2] at kept
      simp only [Option.bind_some, if_pos same, compiles, Option.map_some, Option.some_or]
      rw [← same.1, ← same.2]
    · simp only [Option.bind_some, if_neg same]
      cases k.compile? <;> rfl

theorem Current.next {last : Option LastPattern} (current : Current last) (k : PatternKey) :
    Current (k.kept?.or last) := by
  intro l holds
  rcases Option.or_eq_some_iff.1 holds with here | ⟨-, before⟩
  · obtain ⟨p, compiles, rfl⟩ := Option.map_eq_some_iff.1 here
    exact compiles
  · exact current l before

theorem lastKept_cons (k : PatternKey) (keys : List PatternKey) :
    lastKept (k :: keys) = (lastKept keys).or k.kept? := by
  rw [lastKept, List.reverse_cons, List.findSome?_append, List.findSome?_singleton, lastKept]

theorem lastKept_concat (keys : List PatternKey) (k : PatternKey) :
    lastKept (keys ++ [k]) = k.kept?.or (lastKept keys) := by
  rw [lastKept, List.reverse_concat, List.findSome?_cons, lastKept]
  cases k.kept? <;> rfl

theorem patterns_getElem? {last : Option LastPattern} (current : Current last)
    (keys : List PatternKey) (i : Nat) :
    (patterns wording last keys)[i]? =
      keys[i]?.map fun k => (k.compiled wording, (lastKept (keys.take (i + 1))).or last) := by
  induction keys generalizing last i with
  | nil => rfl
  | cons k keys ih =>
    rw [patterns, pattern_eq current]
    cases i with
    | zero => simp [lastKept]
    | succ i => simp [ih (current.next k), lastKept_cons, Option.or_assoc]

/-- A page that keeps the pattern it compiled last answers as one that compiles each time. It keeps
nothing until something compiles, then the last that did, and what does not compile changes
nothing. -/
theorem patterns_transparent (wording : Pattern.Wording) (keys : List PatternKey) :
    (∀ i, (patterns wording none keys)[i]? =
      keys[i]?.map fun k => (k.compiled wording, lastKept (keys.take (i + 1)))) ∧
    (lastKept keys = none ↔ ∀ k ∈ keys, k.compiled wording = .error (k.refusal wording)) ∧
    (∀ (k : PatternKey) p, k.compiled wording = .ok p → p.source = k.source ∧
      lastKept (keys ++ [k]) = some ⟨k.source, k.ignoreCase, p⟩) ∧
    ∀ (k : PatternKey) e, k.compiled wording = .error e →
      lastKept (keys ++ [k]) = lastKept keys := by
  refine ⟨?_, ?_, ?_, ?_⟩
  · intro i
    have empty : Current none := fun _ holds => nomatch holds
    simp only [patterns_getElem? empty, Option.or_none]
  · simp only [lastKept, List.findSome?_eq_none_iff, List.mem_reverse, PatternKey.kept?,
      Option.map_eq_none_iff, PatternKey.compiled_eq_error, and_true]
  · intro k p compiles
    have found := PatternKey.compiled_eq_ok.1 compiles
    refine ⟨PatternKey.source_of_compile? found, ?_⟩
    rw [lastKept_concat, PatternKey.kept?, found]
    rfl
  · intro k e fails
    rw [lastKept_concat, PatternKey.kept?, (PatternKey.compiled_eq_error.1 fails).1]
    rfl

end Page

end CodeSearch
