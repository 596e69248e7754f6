import CodeSearch.Proofs.Numeric.Decimal
import CodeSearch.Proofs.Text.Splitting
import CodeSearch.Results.Batch
import Mathlib.Logic.Basic

/-!
The text of a range and the files it names. The server reads from the text where to start and how
many files to send; for a batch it reads what the batch means, so the files it sends are the first
ones that are not loaded.
-/
namespace CodeSearch

open Numeric Text

theorem Batch.next_count (r : RepoHits) : (next r).count = min r.remaining limit := rfl

namespace FileRange

theorem readHalf_write {n : Nat} (small : n < 18446744073709551616) : readHalf (Decimal.write n) = n := by
  have unsigned : (Decimal.write n).head? ≠ some '+' := by
    intro plus
    exact absurd (Decimal.isDigit_of_mem_write (List.mem_of_head? plus)) (by decide)
  rw [readHalf, if_neg unsigned, Decimal.read?_write]
  exact if_pos small

theorem colon_not_mem_write (n : Nat) : ':' ∉ Decimal.write n := by
  intro member
  exact absurd (Decimal.isDigit_of_mem_write member) (by decide)

theorem parse_range {b : Batch} (loaded : b.loaded < 18446744073709551616) (count : b.count < 18446744073709551616) :
    parse b.range = (b.loaded, if b.count = b.needed then 0 else b.count) := by
  unfold parse Batch.range Batch.rangeChars
  rw [String.toList_ofList, cut?_at (colon_not_mem_write b.loaded)]
  dsimp only
  rw [readHalf_write loaded]
  split
  · rfl
  · rw [readHalf_write count]

/-- A limit is written only where files would be left over. -/
theorem parse_next {r : RepoHits} (small : r.files.length < 18446744073709551616) :
    parse (Batch.next r).range =
      (r.files.length, if r.remaining ≤ Batch.limit then 0 else Batch.limit) := by
  have needed : (Batch.next r).needed = r.remaining := rfl
  have counted := Batch.next_count r
  have limit : Batch.limit = 2000 := rfl
  have range := parse_range (b := Batch.next r) small (by omega)
  by_cases few : r.remaining ≤ Batch.limit
  · rw [if_pos (by omega)] at range
    rw [if_pos few]
    exact range
  · have count : (Batch.next r).count = Batch.limit := by omega
    rw [if_neg (by omega), count] at range
    rw [if_neg few]
    exact range

/-- No more files than the limit, 0 being none. -/
def atMost (limit : Nat) (files : List FileHits) : List FileHits :=
  if limit = 0 then files else files.take limit

/-- The files that the server sends for a range. -/
def pick (range : String) (files : List FileHits) : List FileHits :=
  atMost (parse range).2 (files.drop (parse range).1)

theorem pick_first (files : List FileHits) : pick ":20" files = files.take 20 := rfl

def AsksFor (range : String) (place : Nat) : Prop :=
  (parse range).1 ≤ place ∧
    ((parse range).2 = 0 ∨ place < (parse range).1 + (parse range).2)

instance (range : String) (place : Nat) : Decidable (AsksFor range place) :=
  inferInstanceAs (Decidable (_ ∧ _))

theorem getElem?_atMost (limit : Nat) (files : List FileHits) (i : Nat) :
    (atMost limit files)[i]? = if limit = 0 ∨ i < limit then files[i]? else none := by
  unfold atMost
  by_cases unlimited : limit = 0
  · rw [if_pos unlimited, if_pos (Or.inl unlimited)]
  · rw [if_neg unlimited, List.getElem?_take]
    exact if_congr (by omega) rfl rfl

theorem getElem?_pick (range : String) (files : List FileHits) (i : Nat) :
    (pick range files)[i]? =
      if AsksFor range ((parse range).1 + i) then files[(parse range).1 + i]? else none := by
  rw [pick, getElem?_atMost, List.getElem?_drop]
  exact if_congr (by rw [AsksFor]; omega) rfl rfl

/-- Of the files there are, a batch asks for as many as it counts, from the first that is not
loaded. -/
theorem asksFor_next {r : RepoHits} (small : r.files.length < 18446744073709551616) {place : Nat}
    (there : place < r.total.toNat) : AsksFor (Batch.next r).range place ↔
      r.files.length ≤ place ∧ place < r.files.length + (Batch.next r).count := by
  have remaining : r.remaining = r.total.toNat - r.files.length := rfl
  have counted := Batch.next_count r
  have limit : Batch.limit = 2000 := rfl
  rw [AsksFor, parse_next small]
  dsimp only
  split
  case isTrue few => omega
  case isFalse many => omega

theorem pick_batch {r : RepoHits} {files : List FileHits} (total : r.total.val = files.length)
    (small : r.files.length < 18446744073709551616) :
    pick (Batch.next r).range files =
      (files.drop r.files.length).take (Batch.next r).count := by
  have known : r.total.toNat = files.length := Bounded.toNat_of_val total
  have start : (parse (Batch.next r).range).1 = r.files.length :=
    congrArg Prod.fst (parse_next small)
  refine List.ext_getElem? fun i => ?_
  rw [getElem?_pick, start, List.getElem?_take, List.getElem?_drop]
  by_cases there : r.files.length + i < files.length
  · have asked := asksFor_next small (known ▸ there)
    exact if_congr (asked.trans (by omega)) rfl rfl
  · rw [List.getElem?_eq_none (by omega), ite_self, ite_self]

theorem pick_next {r : RepoHits} {files : List FileHits} (total : r.total.val = files.length)
    (small : r.files.length < 18446744073709551616) :
    pick (Batch.next r).range files = (files.drop r.files.length).take Batch.limit := by
  have remaining : r.remaining = files.length - r.files.length := by
    rw [RepoHits.remaining, Bounded.toNat_of_val total]
  rw [pick_batch total small, List.take_eq_take_iff, List.length_drop, Batch.next_count]
  omega

end FileRange

namespace Batch

/-- What the request for the next files comes to on the server, whatever is loaded already. -/
structure Understood (r : RepoHits) : Prop where
  few : r.remaining ≤ 2000 → FileRange.parse (next r).range = (r.files.length, 0)
  many : 2000 < r.remaining → FileRange.parse (next r).range = (r.files.length, 2000)
  asked : ∀ place < r.total.toNat, FileRange.AsksFor (next r).range place ↔
    r.files.length ≤ place ∧ place < r.files.length + (next r).count
  sent : ∀ files : List FileHits, r.total.val = files.length →
    FileRange.pick (next r).range files = (files.drop r.files.length).take (next r).count ∧
      (FileRange.pick (next r).range files).length = (next r).count
  idle : (next r).count = 0 ↔ r.total.toNat ≤ r.files.length
  within : r.files.length + (next r).count ≤ max r.files.length r.total.toNat

/-- The server reads what was meant, as files are counted in 64 bits; it finds no limit just where
all files that are left shall come. -/
theorem next_understood (r : RepoHits) (small : r.files.length < 18446744073709551616) :
    Understood r := by
  have parsed := FileRange.parse_next small
  have remaining : r.remaining = r.total.toNat - r.files.length := rfl
  have counted := next_count r
  have limit : limit = 2000 := rfl
  constructor
  case few =>
    intro few
    rw [parsed]
    exact congrArg (r.files.length, ·) (if_pos few)
  case many =>
    intro many
    rw [parsed]
    exact congrArg (r.files.length, ·) (if_neg (Nat.not_le_of_lt many))
  case asked => exact fun place there => FileRange.asksFor_next small there
  case sent =>
    intro files total
    have known : r.total.toNat = files.length := Bounded.toNat_of_val total
    have sent := FileRange.pick_batch total small
    refine ⟨sent, ?_⟩
    rw [sent, List.length_take, List.length_drop]
    omega
  case idle => omega
  case within => omega

/-- Two files are loaded, of the greatest number there can be and of one. -/
theorem next_understood_extremes :
    let loaded (total : Int) : RepoHits := ⟨"", "", [⟨"a", []⟩, ⟨"b", []⟩], .clamp total⟩
    FileRange.parse (next (loaded 18446744073709551615)).range = (2, 2000) ∧
      FileRange.parse (next (loaded 1)).range = (2, 0) ∧ (next (loaded 1)).count = 0 := by
  intro loaded
  have greatest := next_understood (loaded 18446744073709551615) (by decide)
  have less := next_understood (loaded 1) (by decide)
  exact ⟨greatest.many (by decide), less.few (by decide), less.idle.2 (by decide)⟩

end Batch

end CodeSearch
