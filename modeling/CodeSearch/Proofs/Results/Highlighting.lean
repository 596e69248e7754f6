import CodeSearch.Proofs.Regex.ByteRanges
import CodeSearch.Proofs.Results.Fragment

/-!
The emphasis of a line as a search that goes on in the rest of the line. Each emphasised span is the
first match in what is left after the one before it, and the search ends where nothing is left to be
found. No other cut of the line is like this.
-/
namespace CodeSearch

open Regex

namespace Span

def between (cs : List Char) : List Span := if cs.isEmpty then [] else [plain cs]

def Unmatched (gap : List Span) : Prop := ∀ s ∈ gap, s.emphasized = false

/-- The line starts after these spans, or a match ends with them. -/
def Resumes (done : List Span) : Prop := ∀ s ∈ done.getLast?, s.emphasized = true

/-- In what is left of the line the pattern finds `matched` after `gap`. -/
structure Finds (p : Pattern) (gap : List Span) (matched : List Char) (after : List Span) :
    Prop where
  nonempty : matched ≠ []
  whole : gap = between (gap.flatMap text)
  find : p.find (gap.flatMap text ++ matched ++ after.flatMap text) =
    some ⟨gap.flatMap text, matched, after.flatMap text⟩
  range : ∃ start stop,
    p.findRange (String.ofList (gap.flatMap text ++ matched ++ after.flatMap text)) =
      some (start, stop) ∧
    start = (Text.encode (gap.flatMap text)).length ∧
    ((Text.encode (gap.flatMap text ++ matched ++ after.flatMap text)).take stop).drop start =
      Text.encode matched

/-- The pattern is not found in this text, or only as a match of nothing. -/
def Ends (p : Pattern) (rest : List Char) : Prop := ∀ o, p.find rest = some o → o.matched = []

/-- The spans of a line, as a search in the line and then in what follows each match gives them. -/
structure Searched (p : Pattern) (l : Line) (spans : List Span) : Prop where
  whole : spans.flatMap text = l.content.toList
  context : l.isHit = false → spans = [plain l.content.toList]
  found : l.isHit = true → ∀ done gap matched after,
    spans = done ++ (gap ++ emphasis matched :: after) → Resumes done → Unmatched gap →
    Finds p gap matched after
  last : l.isHit = true → ∀ done rest, spans = done ++ rest → Resumes done → Unmatched rest →
    Ends p (rest.flatMap text)
  /-- No span is empty, and no two plain ones stand side by side. -/
  apart : l.content ≠ "" → Apart spans
  empty : l.content = "" → spans = [plain []]

theorem between_text (cs : List Char) : (between cs).flatMap text = cs := before_text cs

theorem between_unmatched (cs : List Char) : Unmatched (between cs) := by
  intro s member
  cases cs with
  | nil => cases member
  | cons c cs =>
    cases List.mem_singleton.1 member
    rfl

theorem not_unmatched {gap after : List Span} {matched : List Char}
    (unmatched : Unmatched (gap ++ emphasis matched :: after)) : False := by
  have plain := unmatched (emphasis matched) (List.mem_append_right _ List.mem_cons_self)
  cases plain

theorem unmatched_or_first (spans : List Span) : Unmatched spans ∨
    ∃ gap matched after, spans = gap ++ emphasis matched :: after ∧ Unmatched gap := by
  induction spans with
  | nil => exact .inl fun _ member => nomatch member
  | cons s spans ih =>
    obtain ⟨text, emphasized⟩ := s
    cases emphasized with
    | true => exact .inr ⟨[], text, spans, rfl, fun _ member => nomatch member⟩
    | false =>
      rcases ih with plain | ⟨gap, matched, after, rfl, plain⟩
      · exact .inl (List.forall_mem_cons.2 ⟨rfl, plain⟩)
      · exact .inr ⟨_ :: gap, matched, after, rfl, List.forall_mem_cons.2 ⟨rfl, plain⟩⟩

theorem unmatched_append_inj {gap other after rest : List Span} {matched found : List Char}
    (plain : Unmatched gap) (bare : Unmatched other)
    (same : gap ++ emphasis matched :: after = other ++ emphasis found :: rest) :
    gap = other ∧ matched = found ∧ after = rest := by
  induction gap generalizing other with
  | nil =>
    cases other with
    | nil =>
      obtain ⟨here, later⟩ := List.cons.inj same
      exact ⟨rfl, congrArg text here, later⟩
    | cons s other =>
      have first := bare s List.mem_cons_self
      rw [← (List.cons.inj same).1] at first
      cases first
  | cons s gap ih =>
    have known := List.forall_mem_cons.1 plain
    cases other with
    | nil =>
      have first := known.1
      rw [(List.cons.inj same).1] at first
      cases first
    | cons t other =>
      obtain ⟨rfl, later⟩ := List.cons.inj same
      obtain ⟨rfl, parts⟩ := ih known.2 (List.forall_mem_cons.1 bare).2 later
      exact ⟨rfl, parts⟩

theorem resumes_nil : Resumes [] := fun _ none => nomatch none

theorem resumes_first {gap done : List Span} {matched : List Char} :
    Resumes (gap ++ emphasis matched :: done) ↔ Resumes done := by
  cases done with
  | nil => simp [Resumes, emphasis]
  | cons s done => simp [Resumes, List.getLast?_append, List.getLast?_cons_cons]

theorem Resumes.eq_nil {done : List Span} (resumes : Resumes done) (plain : Unmatched done) :
    done = [] := by
  cases last : done.getLast? with
  | none => exact List.getLast?_eq_none_iff.1 last
  | some s =>
    have emphasized := resumes s last
    rw [plain s (List.mem_of_getLast? last)] at emphasized
    cases emphasized

structure Located (p : Pattern) (spans : List Span) : Prop where
  found : ∀ done gap matched after, spans = done ++ (gap ++ emphasis matched :: after) →
    Resumes done → Unmatched gap → Finds p gap matched after
  last : ∀ done rest, spans = done ++ rest → Resumes done → Unmatched rest →
    Ends p (rest.flatMap text)

theorem located_unmatched {p : Pattern} {spans : List Span} (plain : Unmatched spans) :
    Located p spans ↔ Ends p (spans.flatMap text) := by
  constructor
  · intro located
    exact located.last [] spans rfl resumes_nil plain
  · intro ends
    constructor
    · rintro done gap matched after rfl
      have all : Unmatched ((done ++ gap) ++ emphasis matched :: after) := by simpa using plain
      exact fun _ _ => (not_unmatched all).elim
    · rintro done rest rfl resumes _
      have none := resumes.eq_nil fun s member => plain s (List.mem_append_left _ member)
      rwa [none] at ends

/-- A search in a line is its first step and a search in what follows the match. -/
theorem located_first {p : Pattern} {gap after : List Span} {matched : List Char}
    (plain : Unmatched gap) : Located p (gap ++ emphasis matched :: after) ↔
      Finds p gap matched after ∧ Located p after := by
  constructor
  · intro located
    refine ⟨located.found [] gap matched after rfl resumes_nil plain, ?_, ?_⟩
    · rintro done next more rest rfl resumes bare
      exact located.found (gap ++ emphasis matched :: done) next more rest (by simp)
        (resumes_first.2 resumes) bare
    · rintro done rest rfl resumes bare
      exact located.last (gap ++ emphasis matched :: done) rest (by simp)
        (resumes_first.2 resumes) bare
  · rintro ⟨finds, located⟩
    constructor
    · intro done next more rest same resumes bare
      rcases unmatched_or_first done with none | ⟨first, text, done, rfl, opening⟩
      · rw [resumes.eq_nil none, List.nil_append] at same
        obtain ⟨rfl, rfl, rfl⟩ := unmatched_append_inj plain bare same
        exact finds
      · rw [List.append_assoc, List.cons_append] at same
        obtain ⟨rfl, rfl, rfl⟩ := unmatched_append_inj plain opening same
        exact located.found done next more rest rfl (resumes_first.1 resumes) bare
    · intro done rest same resumes bare
      rcases unmatched_or_first done with none | ⟨first, text, done, rfl, opening⟩
      · rw [resumes.eq_nil none, List.nil_append] at same
        exact (not_unmatched (same ▸ bare)).elim
      · rw [List.append_assoc, List.cons_append] at same
        obtain ⟨rfl, rfl, rfl⟩ := unmatched_append_inj plain opening same
        exact located.last done rest rfl (resumes_first.1 resumes) bare

theorem Apart.of_append {done rest : List Span} (apart : Apart (done ++ rest)) : Apart rest := by
  induction done with
  | nil => exact apart
  | cons s done ih => exact ih apart.2.2

theorem Apart.eq_between {rest : List Span} (apart : Apart rest) (plain : Unmatched rest) :
    rest = between (rest.flatMap text) := by
  cases rest with
  | nil => rfl
  | cons s rest =>
    obtain ⟨text, emphasized⟩ := s
    obtain rfl : emphasized = false := plain _ List.mem_cons_self
    obtain ⟨nonempty, alternate, -⟩ := apart
    cases rest with
    | nil =>
      cases text with
      | nil => exact absurd rfl nonempty
      | cons c cs => simp [between, Span.plain]
    | cons next rest =>
      have bare := plain next (List.mem_cons_of_mem _ List.mem_cons_self)
      rcases alternate next rfl with first | second
      · cases first
      · rw [bare] at second
        cases second

theorem finds_of_find {p : Pattern} {rest : List Char} {o : Occurrence} {after : List Span}
    (found : p.find rest = some o) (nonempty : o.matched ≠ []) (more : after.flatMap text = o.after) :
    Finds p (between o.before) o.matched after := by
  have parts : o.before ++ o.matched ++ o.after = rest := Regex.search_append found
  have here : p.find ((between o.before).flatMap text ++ o.matched ++ after.flatMap text) =
      some ⟨(between o.before).flatMap text, o.matched, after.flatMap text⟩ := by
    rw [between_text, more, parts, found]
  exact ⟨nonempty, by rw [between_text], here, _, _, Pattern.findRange_of_find here,
    (Pattern.length_encode _).symm, Pattern.slice_encode ..⟩

theorem scan_of_ends {p : Pattern} {rest : List Char} (ends : Ends p rest) (started : Bool) :
    scan p started rest = if rest.isEmpty && started then [] else [plain rest] := by
  rw [scan]
  split
  · rename_i o found
    rw [dif_neg (not_not_intro (ends o found))]
  · rfl

theorem scan_of_find {p : Pattern} {rest : List Char} {o : Occurrence}
    (found : p.find rest = some o) (nonempty : o.matched ≠ []) (started : Bool) :
    scan p started rest = between o.before ++ emphasis o.matched :: scan p true o.after := by
  rw [scan]
  split
  · rename_i other same
    obtain rfl : o = other := Option.some.inj (found.symm.trans same)
    rw [dif_pos nonempty]
    rfl
  · rename_i none
    rw [found] at none
    cases none

theorem length_after_lt {p : Pattern} {rest : List Char} {o : Occurrence}
    (found : p.find rest = some o) (nonempty : o.matched ≠ []) : o.after.length < rest.length := by
  have parts : o.before ++ o.matched ++ o.after = rest := Regex.search_append found
  have some := List.length_pos_iff.2 nonempty
  rw [← parts]
  simp only [List.length_append]
  omega

theorem scan_located (p : Pattern) (started : Bool) (rest : List Char) :
    Located p (scan p started rest) := by
  by_cases ends : Ends p rest
  · rw [scan_of_ends ends]
    split
    · rename_i ended
      rw [eq_nil_of_ended ended] at ends
      exact (located_unmatched (by simp [Unmatched])).2 ends
    · apply (located_unmatched (by simp [Unmatched, plain])).2
      simpa [plain] using ends
  · simp only [Ends, Classical.not_forall] at ends
    obtain ⟨o, found, nonempty⟩ := ends
    have shorter := length_after_lt found nonempty
    rw [scan_of_find found nonempty]
    apply (located_first (between_unmatched o.before)).2
    exact ⟨finds_of_find found nonempty (scan_text p true o.after), scan_located p true o.after⟩
termination_by rest.length

/-- The search is all that these spans can come from. -/
theorem scan_of_located {p : Pattern} {spans : List Span} (located : Located p spans)
    (apart : Apart spans) {started : Bool} (there : started = true ∨ spans.flatMap text ≠ []) :
    scan p started (spans.flatMap text) = spans := by
  rcases unmatched_or_first spans with none | ⟨gap, matched, after, rfl, plain⟩
  · rw [scan_of_ends ((located_unmatched none).1 located)]
    have shape := apart.eq_between none
    split
    · rename_i ended
      rw [eq_nil_of_ended ended] at shape
      exact shape.symm
    · rename_i going
      have some := mt List.isEmpty_iff.1 fun nothing => going (ended_of_nil there nothing)
      rwa [between, if_neg some, eq_comm] at shape
  · obtain ⟨finds, later⟩ := (located_first plain).1 located
    have parts : (gap ++ emphasis matched :: after).flatMap text =
        gap.flatMap text ++ matched ++ after.flatMap text := by
      simp [emphasis]
    rw [parts, scan_of_find finds.find finds.nonempty, ← finds.whole,
      scan_of_located later apart.of_append.2.2 (.inl rfl)]
termination_by spans.length

theorem ofLine_searched (p : Pattern) (l : Line) : Searched p l (ofLine p l) := by
  have located : l.isHit = true → Located p (ofLine p l) := by
    intro hit
    rw [ofLine, if_pos hit]
    exact scan_located p false l.content.toList
  constructor
  case whole => exact ofLine_text p l
  case context =>
    intro plain
    rw [ofLine, plain]
    rfl
  case found => exact fun hit => (located hit).found
  case last => exact fun hit => (located hit).last
  case apart => exact fun some => ofLine_apart p (mt String.toList_eq_nil_iff.1 some)
  case empty => exact fun none => ofLine_nil p (String.toList_eq_nil_iff.2 none)

theorem Searched.eq_ofLine {p : Pattern} {l : Line} {spans : List Span}
    (searched : Searched p l spans) : ofLine p l = spans := by
  by_cases none : l.content = ""
  · rw [searched.empty none, ofLine_nil p (String.toList_eq_nil_iff.2 none)]
  cases hit : l.isHit with
  | false =>
    rw [searched.context hit, ofLine, hit]
    rfl
  | true =>
    have located : Located p spans := ⟨searched.found hit, searched.last hit⟩
    have some : spans.flatMap text ≠ [] := by
      rw [searched.whole]
      exact mt String.toList_eq_nil_iff.1 none
    rw [ofLine, if_pos hit, ← searched.whole]
    exact scan_of_located located (searched.apart none) (.inr some)

/-- The spans of a line are what the search gives, and no other spans are. -/
theorem ofLine_eq_iff (p : Pattern) (l : Line) (spans : List Span) :
    ofLine p l = spans ↔ Searched p l spans := by
  constructor
  · rintro rfl
    exact ofLine_searched p l
  · exact Searched.eq_ofLine

end Span

end CodeSearch
