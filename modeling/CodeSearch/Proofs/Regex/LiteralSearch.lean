import CodeSearch.Proofs.Regex.ByteRanges
import CodeSearch.Proofs.Regex.Quoting
import Mathlib.Data.List.Nodup

/-!
Searching for a text in a row. After each character the open threads are the beginnings of the text
that the part read so far ends with, the longest first; so the machine stops where the whole text
has been read for the first time.
-/
namespace CodeSearch

namespace Regex

variable {t : List Char}

namespace Expr

theorem program_literal (t : List Char) :
    (literal t).program = (t.map Instr.char ++ [Instr.accept]).toArray := by
  cases t with
  | nil => rfl
  | cons c cs => rfl

theorem program_literal_lt {k : Nat} (inside : k < t.length) :
    (literal t).program[k]? = some (.char t[k]) := by
  rw [program_literal, List.getElem?_toArray, List.getElem?_append_left (by simpa using inside)]
  simp

theorem program_literal_length : (literal t).program[t.length]? = some .accept := by
  simp [program_literal]

end Expr

/-- A thread that has come to where a character is read or a match ends. -/
def Thread.Rests (code : Array Instr) (thread : Thread) : Prop :=
  (∃ c, code[thread.place]? = some (.char c)) ∨ code[thread.place]? = some .accept

theorem settle_resting {code : Array Instr} {before after : Option Char} {fuel : Nat}
    {pending ready : List Thread} {seen : Array Bool}
    (rests : ∀ thread ∈ pending, thread.Rests code) (apart : (pending.map Thread.place).Nodup)
    (unseen : ∀ thread ∈ pending, seen[thread.place]? = some false)
    (enough : pending.length ≤ fuel) :
    settle code before after fuel pending seen ready = pending.reverse ++ ready := by
  induction pending generalizing fuel seen ready with
  | nil => cases fuel <;> rfl
  | cons thread pending ih =>
    cases fuel with
    | zero => cases enough
    | succ fuel =>
      rw [List.map_cons, List.nodup_cons] at apart
      have later : settle code before after fuel pending
          (seen.setIfInBounds thread.place true) (thread :: ready) =
          (thread :: pending).reverse ++ ready := by
        rw [ih (fun other member => rests other (List.mem_cons_of_mem thread member)) apart.2
          ?_ (Nat.le_of_succ_le_succ enough)]
        · simp
        · intro other member
          have elsewhere : thread.place ≠ other.place :=
            fun same => apart.1 (same ▸ List.mem_map_of_mem member)
          rw [Array.getElem?_setIfInBounds_ne elsewhere]
          exact unseen other (List.mem_cons_of_mem thread member)
      have first := unseen thread List.mem_cons_self
      rcases rests thread List.mem_cons_self with ⟨c, here⟩ | here
      · simpa [settle, first, here] using later
      · simpa [settle, first, here] using later

/-- Threads that rest at places apart stay as they are. -/
theorem settled_resting {code : Array Instr} {before after : Option Char} {pending : List Thread}
    (rests : ∀ thread ∈ pending, thread.Rests code) (apart : (pending.map Thread.place).Nodup) :
    settled code before after pending = pending := by
  have unseen : ∀ thread ∈ pending,
      (Array.replicate code.size false)[thread.place]? = some false := by
    intro thread member
    have inside : thread.place < code.size := by
      rcases rests thread member with ⟨c, here⟩ | here
      · exact (Array.getElem?_eq_some_iff.1 here).1
      · exact (Array.getElem?_eq_some_iff.1 here).1
    simp [inside]
  rw [settled, settle_resting rests apart unseen (by omega)]
  simp

/-- The lengths of the beginnings of `t` that the text passed ends with, the longest first. -/
def borders (t passed : List Char) : List Nat :=
  (List.range (t.length + 1)).reverse.filter fun k => (t.take k).reverse <+: passed

def Thread.along (k : Nat) : Thread := ⟨k, k⟩

theorem mem_borders {passed : List Char} {k : Nat} :
    k ∈ borders t passed ↔ k ≤ t.length ∧ (t.take k).reverse <+: passed := by
  rw [borders, List.mem_filter, List.mem_reverse, List.mem_range, Nat.lt_succ_iff,
    decide_eq_true_eq]

theorem borders_start : borders t [] = [0] := by
  cases t with
  | nil => rfl
  | cons c cs =>
    rw [borders, List.range_succ_eq_map, List.reverse_cons, ← List.map_reverse, List.filter_append,
      List.filter_eq_nil_iff.2 (by simp)]
    rfl

/-- With one character more, a beginning is kept if it goes on with this character. -/
theorem borders_cons (c : Char) (passed : List Char) :
    borders t (c :: passed) =
      ((borders t passed).filter fun k => t[k]? = some c).map Nat.succ ++ [0] := by
  have longer : ∀ k ∈ (List.range t.length).reverse,
      decide ((t.take (k + 1)).reverse <+: c :: passed) =
        (decide (t[k]? = some c) && decide ((t.take k).reverse <+: passed)) := by
    intro k member
    have inside : k < t.length := by simpa using member
    rw [List.take_succ_eq_append_getElem inside, List.getElem?_eq_getElem inside,
      List.reverse_append, List.reverse_singleton, List.singleton_append]
    simp only [List.cons_prefix_cons, Option.some.injEq, Bool.decide_and]
  have shorter : (borders t passed).filter (fun k => t[k]? = some c) =
      (List.range t.length).reverse.filter fun k =>
        decide (t[k]? = some c) && decide ((t.take k).reverse <+: passed) := by
    rw [borders, List.filter_filter, List.range_succ, List.reverse_append]
    simp
  rw [shorter, borders, List.range_succ_eq_map, List.reverse_cons, ← List.map_reverse,
    List.filter_append, List.filter_map]
  exact congrArg (fun kept => kept.map Nat.succ ++ [0]) (List.filter_congr longer)

theorem borders_whole {passed : List Char} (whole : t.reverse <+: passed) :
    ∃ shorter, borders t passed = t.length :: shorter := by
  rw [borders, List.range_succ, List.reverse_append]
  exact ⟨_, List.filter_cons_of_pos (by simpa using whole)⟩

theorem nodup_borders (passed : List Char) : (borders t passed).Nodup :=
  (List.nodup_reverse.2 List.nodup_range).filter _

section

variable {before after : Option Char} {passed rest : List Char} {next : List Thread}

theorem settled_along (passed : List Char) :
    settled (Expr.literal t).program before after ((borders t passed).map Thread.along) =
      (borders t passed).map Thread.along := by
  apply settled_resting
  · intro thread member
    obtain ⟨k, border, rfl⟩ := List.mem_map.1 member
    rcases Nat.lt_or_eq_of_le (mem_borders.1 border).1 with inside | rfl
    · exact .inl ⟨_, Expr.program_literal_lt inside⟩
    · exact .inr Expr.program_literal_length
  · rw [List.map_map]
    exact (List.map_id _).symm ▸ nodup_borders passed

theorem accepts_along {k : Nat} (inside : k ≤ t.length) :
    accepts (Expr.literal t).program (.along k) = decide (k = t.length) := by
  rcases Nat.lt_or_eq_of_le inside with inside | rfl
  · simp [accepts, Thread.along, Expr.program_literal_lt inside, Nat.ne_of_lt inside]
  · simp [accepts, Thread.along, Expr.program_literal_length]

theorem reads_along {c : Char} {k : Nat} (inside : k ≤ t.length) :
    reads (Expr.literal t).program c (.along k) = decide (t[k]? = some c) := by
  rcases Nat.lt_or_eq_of_le inside with inside | rfl
  · simp [reads, Thread.along, Expr.program_literal_lt inside, List.getElem?_eq_getElem inside,
      beq_eq_decide, eq_comm]
  · simp [reads, Thread.along, Expr.program_literal_length]

/-- The machine arrives at the end of the text, and gives up all other threads. -/
theorem arrive_whole (threads : next ++ [.along 0] = (borders t passed).map Thread.along)
    (whole : t.reverse <+: passed) :
    arrive (Expr.literal t).program next none passed rest =
      ([], some ⟨passed, rest, t.length⟩) := by
  obtain ⟨shorter, longest⟩ := borders_whole whole
  have accepted : accepts (Expr.literal t).program (.along t.length) = true := by
    simp [accepts_along (Nat.le_refl _)]
  have pending : next ++ [⟨0, 0⟩] = (borders t passed).map Thread.along := threads
  simp only [arrive, Option.isNone_none, if_true, pending, settled_along]
  rw [longest, List.map_cons, List.find?_cons_of_pos accepted]
  simp only [List.takeWhile_cons, accepted]
  rfl

theorem arrive_within (threads : next ++ [.along 0] = (borders t passed).map Thread.along)
    (within : ¬ t.reverse <+: passed) :
    arrive (Expr.literal t).program next none passed rest =
      ((borders t passed).map Thread.along, none) := by
  have shorter : ∀ thread ∈ (borders t passed).map Thread.along,
      ¬ accepts (Expr.literal t).program thread = true := by
    intro thread member
    obtain ⟨k, border, rfl⟩ := List.mem_map.1 member
    obtain ⟨inside, begun⟩ := mem_borders.1 border
    rw [accepts_along inside, decide_eq_true_eq]
    rintro rfl
    exact within (by simpa using begun)
  have pending : next ++ [⟨0, 0⟩] = (borders t passed).map Thread.along := threads
  simp only [arrive, Option.isNone_none, if_true, pending, settled_along,
    List.find?_eq_none.2 shorter]

/-- Reading a character takes the threads along to the next place. -/
theorem advance_borders (c : Char) (passed : List Char) :
    (((borders t passed).map Thread.along).filter (reads (Expr.literal t).program c)).map
        Thread.advance ++ [.along 0] = (borders t (c :: passed)).map Thread.along := by
  have read : ∀ k ∈ borders t passed, (reads (Expr.literal t).program c ∘ Thread.along) k =
      decide (t[k]? = some c) := fun k border => reads_along (mem_borders.1 border).1
  rw [List.filter_map, List.filter_congr read, borders_cons, List.map_append, List.map_map,
    List.map_map]
  rfl

/-- The search ends where what has been read ends with the whole text for the first time. -/
theorem sweep_literal (threads : next ++ [.along 0] = (borders t passed).map Thread.along) :
    sweep (Expr.literal t).program next none passed rest =
      ((List.range (rest.length + 1)).find? fun n =>
          t.reverse <+: (rest.take n).reverse ++ passed).map fun n =>
        ⟨(rest.take n).reverse ++ passed, rest.drop n, t.length⟩ := by
  induction rest generalizing next passed with
  | nil =>
    by_cases whole : t.reverse <+: passed
    · simp [sweep, arrive_whole threads whole, whole]
    · simp [sweep, arrive_within threads whole, whole]
  | cons c rest ih =>
    rw [List.length_cons, List.range_succ_eq_map, List.find?_cons, List.take_zero,
      List.reverse_nil, List.nil_append, List.find?_map]
    by_cases whole : t.reverse <+: passed
    · simp [sweep, arrive_whole threads whole, whole]
    · simp only [sweep, arrive_within threads whole, Option.isSome_none, Bool.and_false,
        Bool.false_eq_true, if_false, decide_eq_false whole]
      rw [ih (advance_borders c passed)]
      simp [Function.comp_def]

end

theorem suffix_take {text : List Char} {n : Nat} (begins : t <+: text.drop n) :
    t <:+ text.take (n + t.length) := by
  rw [List.take_add, ← List.prefix_iff_eq_take.1 begins]
  exact List.suffix_append _ _

def FirstOccurrence (t text : List Char) : Option Occurrence → Prop
  | none => ¬ t <:+: text
  | some o => o.matched = t ∧ o.before ++ t ++ o.after = text ∧ FirstAt t text o.before.length

theorem search_literal (t text : List Char) :
    FirstOccurrence t text (search (Expr.literal t).program text) := by
  have opened : [] ++ [Thread.along 0] = (borders t []).map Thread.along := by
    rw [borders_start]
    rfl
  have swept := @sweep_literal t [] text [] opened
  simp only [List.append_nil, List.reverse_prefix] at swept
  rw [search, swept, Option.map_map]
  cases found : (List.range (text.length + 1)).find? fun n => t <:+ text.take n with
  | none =>
    rintro ⟨before, after, rfl⟩
    have short : (before ++ t).length < (before ++ t ++ after).length + 1 := by
      simp only [List.length_append]
      omega
    have never := List.find?_range_eq_none.1 found _ short
    rw [List.take_left] at never
    simp at never
  | some n =>
    obtain ⟨ends, member, sooner⟩ := List.find?_range_eq_some.1 found
    rw [List.mem_range] at member
    obtain ⟨before, split⟩ := of_decide_eq_true ends
    have parts : before ++ t ++ text.drop n = text := by rw [split, List.take_append_drop]
    have length : before.length + t.length = n := by
      have size := congrArg List.length split
      rw [List.length_append, List.length_take] at size
      omega
    have cut : (before ++ t).reverse = t.reverse ++ before.reverse := List.reverse_append
    have occurrence : Found.occurrence ⟨(text.take n).reverse, text.drop n, t.length⟩ =
        ⟨before, t, text.drop n⟩ := by
      rw [Found.occurrence, ← split, cut, List.drop_left' (List.length_reverse),
        List.take_left' (List.length_reverse), List.reverse_reverse, List.reverse_reverse]
    rw [Option.map_some, Function.comp_apply, occurrence]
    refine ⟨rfl, parts, ?_, ?_⟩
    · rw [← parts, List.append_assoc, List.drop_left]
      exact List.prefix_append _ _
    · intro m less begins
      have never := sooner (m + t.length) (by simp only at less; omega)
      simp [suffix_take begins] at never

theorem FirstOccurrence.firstAt_bytes {text : List Char} {o : Occurrence}
    (first : FirstOccurrence t text (some o)) :
    FirstAt (Text.encode t) (Text.encode text) (Pattern.byteLength o.before) := by
  obtain ⟨-, whole, first⟩ := first
  rw [List.append_assoc] at whole
  rw [← whole] at first ⊢
  rw [← Pattern.length_encode]
  exact Text.firstAt_encode first

theorem FirstOccurrence.no_bytes {text : List Char} (absent : FirstOccurrence t text none)
    (n : Nat) : ¬ Text.encode t <+: (Text.encode text).drop n := by
  intro begins
  have filled : t ≠ [] := by
    rintro rfl
    exact absent List.nil_infix
  obtain ⟨before, rest, rfl, -, inside⟩ := Text.encode_prefix_drop filled begins
  exact absent (inside.isInfix.trans (List.suffix_append before rest).isInfix)

namespace Expr

theorem startsAtEdge_literal (d : Direction) (t : List Char) :
    (literal t).startsAtEdge d = false := by
  cases t with
  | nil => rfl
  | cons c cs => rfl

/-- A text in a row takes a state for each byte, and one if it has none. -/
theorem measure_literal (d : Direction) {limit : Nat} {tally : Tally}
    (enough : tally.room + Room.ofState * ((Text.encode t).length + 1) ≤ limit) :
    ∃ next, (literal t).measure d limit .single tally = some next ∧
      next.room ≤ tally.room + Room.ofState * ((Text.encode t).length + 1) := by
  have written : ∃ states ≤ (Text.encode t).length + 1,
      (literal t).measure d limit .single tally = (tally.add states 0).within? limit := by
    cases t with
    | nil => exact ⟨1, Nat.le_refl _, rfl⟩
    | cons c cs => exact ⟨_, Nat.le_succ _, rfl⟩
  obtain ⟨states, few, measured⟩ := written
  have size : (tally.add states 0).room ≤
      tally.room + Room.ofState * ((Text.encode t).length + 1) := by
    rw [Tally.room_add]
    have := Nat.mul_le_mul_left Room.ofState few
    omega
  exact ⟨_, by rw [measured, Tally.within?, if_pos (Nat.le_trans size enough)], size⟩

theorem fits_literal {limit : Nat}
    (enough : Room.ofState * ((Text.encode t).length + 7) + 16 ≤ limit) :
    (literal t).fits limit = true := by
  have room : ∀ d, ((literal t).room? d limit).isSome := by
    intro d
    have kept : ∃ kept ≤ 1, (literal t).room? d limit = (do
        let next ← (literal t).measure d limit .single (Tally.add ⟨3, 16⟩ kept 0)
        return (← (next.add (kept + 1) 0).within? limit).room) := by
      cases d with
      | forwards => exact ⟨1, Nat.le_refl _, by rw [room?, startsAtEdge_literal]; rfl⟩
      | backwards => exact ⟨0, Nat.zero_le _, by rw [room?, startsAtEdge_literal]; rfl⟩
    obtain ⟨kept, few, opened⟩ := kept
    have start : (Tally.add ⟨3, 16⟩ kept 0).room = Room.ofState * (3 + kept) + 16 := rfl
    have text : (Tally.add ⟨3, 16⟩ kept 0).room +
        Room.ofState * ((Text.encode t).length + 1) ≤ limit := by
      simp only [start, Room.ofState] at enough ⊢
      omega
    obtain ⟨next, measured, size⟩ := measure_literal d text
    have last : (next.add (kept + 1) 0).room ≤ limit := by
      rw [Tally.room_add]
      simp only [start, Room.ofState] at enough size ⊢
      omega
    rw [opened, measured]
    simp [Tally.within?, last]
  rw [fits, room, room]
  rfl

end Expr

end Regex

namespace Pattern

open Regex Text

theorem flags_plain : ({} : PatternOptions).flags.Plain where
  exact := rfl
  unicode := rfl
  visible := rfl

theorem compile?_quote_unlimited (t : String) :
    compile? (quote t) {} none = some ⟨quote t, (Expr.literal t.toList).program⟩ := by
  rw [compile?, ofPattern?_quote flags_plain]
  rfl

/-- A limit makes no difference to a quoted text if it has room for the bytes of the text. -/
theorem compile?_quote_of_room {t : String} {limit : Nat}
    (enough : Room.ofState * ((encode t.toList).length + 7) + 16 ≤ limit) :
    compile? (quote t) {} limit = compile? (quote t) {} none := by
  rw [compile?, compile?, ofPattern?_quote flags_plain]
  simp [Expr.within?, Expr.fits_literal enough]

/-- Quoted text is found where its bytes begin for the first time. -/
theorem quote_finds_first (t : String) :
    ∃ p, compile? (quote t) {} none = some p ∧ ∀ text : String,
      (∀ start stop, p.findRange text = some (start, stop) ↔
        FirstAt (encode t.toList) (encode text.toList) start ∧
          stop = start + (encode t.toList).length) ∧
      (p.findRange text = none ↔ ¬ t.toList <:+: text.toList) ∧
      (p.isMatch text = true ↔ t.toList <:+: text.toList) := by
  refine ⟨_, compile?_quote_unlimited t, fun text => ?_⟩
  have searched := search_literal t.toList text.toList
  rw [findRange, isMatch, find]
  cases found : search (Expr.literal t.toList).program text.toList with
  | none =>
    rw [found] at searched
    have absent : ¬ t.toList <:+: text.toList := searched
    refine ⟨fun start stop => ?_, by simp [absent], by simp [absent]⟩
    constructor
    · intro range
      cases range
    · rintro ⟨first, -⟩
      exact absurd first.1 (searched.no_bytes start)
  | some o =>
    rw [found] at searched
    have inside : t.toList <:+: text.toList := ⟨o.before, o.after, searched.2.1⟩
    have length : (encode t.toList).length = byteLength o.matched := by
      rw [searched.1, length_encode]
    refine ⟨fun start stop => ?_, by simp [inside], by simp [inside]⟩
    constructor
    · intro range
      cases range
      exact ⟨searched.firstAt_bytes, by rw [length]⟩
    · rintro ⟨first, rfl⟩
      cases searched.firstAt_bytes.unique first
      rw [length]
      rfl

end Pattern

end CodeSearch
