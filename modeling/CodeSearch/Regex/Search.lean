import CodeSearch.Regex.Program

/-!
Running a program over text. The machine reads the text once. It keeps all the ways to match that
are open, each with its place in the program and how much it has read, in order of preference: an
earlier start comes first, and of one start what the program tries first. Two ways at one place go
on alike, so only the preferred one is kept.
-/
namespace CodeSearch.Regex

/-- A way to match that began `length` characters ago. -/
structure Thread where
  place : Nat
  length : Nat
deriving DecidableEq, Repr

/-- Follows the instructions that read nothing and gives the threads that have come to where a
character is read or a match ends, the latest first, before those in `ready`. A place that is marked
in `seen` is not visited again. -/
def settle (code : Array Instr) (before after : Option Char) :
    Nat → List Thread → Array Bool → List Thread → List Thread
  | 0, _, _, ready => ready
  | _ + 1, [], _, ready => ready
  | fuel + 1, t :: pending, seen, ready =>
    if seen[t.place]? = some false then
      let seen := seen.setIfInBounds t.place true
      match code[t.place]? with
      | some (.split a b) =>
        let both := { t with place := a } :: { t with place := b } :: pending
        settle code before after fuel both seen ready
      | some (.jump a) =>
        settle code before after fuel ({ t with place := a } :: pending) seen ready
      | some (.edge e) =>
        if e.holds before after then
          settle code before after fuel ({ t with place := t.place + 1 } :: pending) seen ready
        else settle code before after fuel pending seen ready
      | some (.char _) => settle code before after fuel pending seen (t :: ready)
      | some (.set _) => settle code before after fuel pending seen (t :: ready)
      | some .accept => settle code before after fuel pending seen (t :: ready)
      | none => settle code before after fuel pending seen ready
    else settle code before after fuel pending seen ready

/-- Each place is visited once and adds at most two threads, so this many steps are enough. -/
def settled (code : Array Instr) (before after : Option Char) (pending : List Thread) :
    List Thread :=
  (settle code before after (pending.length + 2 * code.size + 1) pending
    (Array.replicate code.size false) []).reverse

def reads (code : Array Instr) (c : Char) (t : Thread) : Bool :=
  match code[t.place]? with
  | some (.char d) => c == d
  | some (.set s) => s.contains c
  | _ => false

def accepts (code : Array Instr) (t : Thread) : Bool :=
  match code[t.place]? with
  | some .accept => true
  | _ => false

/-- A match that ends between `passed`, which is backwards, and `rest`. -/
structure Found where
  passed : List Char
  rest : List Char
  length : Nat

/-- The threads at one place of the text, and the match that is preferred so far. A new thread
starts while there is none. Threads after one that accepts are given up; those before it may still
find a match that is preferred. -/
def arrive (code : Array Instr) (next : List Thread) (found : Option Found)
    (passed rest : List Char) : List Thread × Option Found :=
  let pending := if found.isNone then next ++ [⟨0, 0⟩] else next
  let live := settled code passed.head? rest.head? pending
  match live.find? (accepts code) with
  | some t => (live.takeWhile (! accepts code ·), some ⟨passed, rest, t.length⟩)
  | none => (live, found)

def Thread.advance (t : Thread) : Thread := ⟨t.place + 1, t.length + 1⟩

def sweep (code : Array Instr) (next : List Thread) (found : Option Found) (passed : List Char) :
    List Char → Option Found
  | [] => (arrive code next found passed []).2
  | c :: rest =>
    let (live, found) := arrive code next found passed (c :: rest)
    let next := (live.filter (reads code c)).map Thread.advance
    if next.isEmpty && found.isSome then found else sweep code next found (c :: passed) rest

/-- A text cut in three, the match in the middle. -/
structure Occurrence where
  before : List Char
  matched : List Char
  after : List Char
deriving DecidableEq, Repr

def Found.occurrence (f : Found) : Occurrence :=
  ⟨(f.passed.drop f.length).reverse, (f.passed.take f.length).reverse, f.rest⟩

/-- The preferred match of a text. -/
def search (code : Array Instr) (text : List Char) : Option Occurrence :=
  (sweep code [] none [] text).map Found.occurrence

theorem arrive_found {code : Array Instr} {next : List Thread} {found : Option Found}
    {passed rest : List Char} {f : Found} (h : (arrive code next found passed rest).2 = some f) :
    found = some f ∨ f.passed = passed ∧ f.rest = rest := by
  simp only [arrive] at h
  split at h
  · cases h
    exact .inr ⟨rfl, rfl⟩
  · exact .inl h

theorem sweep_append {code : Array Instr} {next : List Thread} {found : Option Found}
    {passed rest text : List Char} {f : Found} (whole : passed.reverse ++ rest = text)
    (before : ∀ g, found = some g → g.passed.reverse ++ g.rest = text)
    (h : sweep code next found passed rest = some f) : f.passed.reverse ++ f.rest = text := by
  induction rest generalizing next found passed with
  | nil =>
    cases arrive_found h with
    | inl h => exact before f h
    | inr h => rw [h.1, h.2, whole]
  | cons c rest ih =>
    have here : ∀ g, (arrive code next found passed (c :: rest)).2 = some g →
        g.passed.reverse ++ g.rest = text := by
      intro g hg
      cases arrive_found hg with
      | inl h => exact before g h
      | inr h => rw [h.1, h.2, whole]
    simp only [sweep] at h
    split at h
    · exact here f h
    · exact ih (by simpa using whole) here h

/-- The three parts of an occurrence make up the text. -/
theorem search_append {code : Array Instr} {text : List Char} {o : Occurrence}
    (h : search code text = some o) : o.before ++ o.matched ++ o.after = text := by
  obtain ⟨f, hf, rfl⟩ := Option.map_eq_some_iff.1 h
  have parts : f.passed.reverse ++ f.rest = text := sweep_append rfl (by simp) hf
  simpa only [Found.occurrence, ← List.reverse_append, List.take_append_drop] using parts

end CodeSearch.Regex
