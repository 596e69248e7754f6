import CodeSearch.Proofs.Results.Gathering
import CodeSearch.Proofs.Results.Markup
import CodeSearch.Results.Rendered

/-!
Hits in a file as a page shows them. If the hits are what a search of the file reports, the page
shows the lines around them as they stand in the file, in order and each once.
-/
namespace CodeSearch

open Numeric Text

/-- A line of a file; the first has number 1. -/
def lineAt? (file : List String) (k : Int) : Option String :=
  if 0 < k then file[(k - 1).toNat]? else none

theorem lineAt?_of_index {file : List String} {k : Int} {i : Nat} {content : String}
    (number : k = i + 1) (found : file[i]? = some content) : lineAt? file k = some content := by
  have positive : 0 < k := by omega
  have index : (k - 1).toNat = i := by omega
  rw [lineAt?, if_pos positive, index, found]

/-- The hit in line `n` of a file, with so many lines before and after it as the file has, but no
more than `context`. -/
def Hit.ofFile (file : List String) (context n : Nat) : Hit where
  content := file.getD (n - 1) ""
  number := Signed64.clamp n
  before := (file.take (n - 1)).drop (n - 1 - context)
  after := (file.drop n).take context

/-- What a page should show of a file in which the lines of these numbers match. -/
structure Faithful (file : List String) (context : Nat) (numbers : List Nat)
    (link : Signed64 → String) (shown : List RenderedLine) : Prop where
  increasing : shown.Pairwise fun a b => a.number.val < b.number.val
  covers : ∀ k : Int, (∃ l ∈ shown, l.number.val = k) ↔
    ∃ n ∈ numbers, max 1 ((n : Int) - context) ≤ k ∧ k ≤ min (file.length : Int) (n + context)
  marks : ∀ l ∈ shown, l.isHit = true ↔ ∃ n ∈ numbers, l.number.val = (n : Int)
  reads : ∀ l ∈ shown, lineAt? file l.number.val = some (Html.shownText l.html)
  plain : ∀ l ∈ shown, l.isHit = false → ¬ "<em>".toList <:+: l.html.toList
  links : ∀ l ∈ shown, l.url = link l.number

namespace Hit

section OfFile

variable {file : List String} {n : Nat} (context : Nat) (positive : 1 ≤ n)
  (inside : n ≤ file.length) (small : file.length < 9223372036854775808)
include positive inside

theorem ofFile_before_length :
    (ofFile file context n).before.length = n - 1 - (n - 1 - context) := by
  simp only [ofFile, List.length_drop, List.length_take]
  omega

include small

theorem ofFile_number : (ofFile file context n).number.val = n := by
  simp only [ofFile, Signed64.clamp, Bounded.clamp_val]
  omega

theorem ofFile_first : (ofFile file context n).first.val = max 1 ((n : Int) - context) := by
  have number := ofFile_number context positive inside small
  have length := ofFile_before_length context positive inside
  rw [first_val, number, length]
  omega

theorem ofFile_last :
    (ofFile file context n).last.val = min (file.length : Int) (n + context) := by
  have number := ofFile_number context positive inside small
  have length : (ofFile file context n).after.length = min context (file.length - n) := by
    simp only [ofFile, List.length_take, List.length_drop]
  rw [last_val, number, length]
  omega

theorem lineAt?_of_mem_window {l : Line} (member : l ∈ (ofFile file context n).window) :
    lineAt? file l.number.val = some l.content := by
  have number := ofFile_number context positive inside small
  rcases mem_window.1 member with before | rfl | after
  · rw [linesBefore_eq, mem_contextFrom] at before
    obtain ⟨-, i, place, found⟩ := before
    rw [number, ofFile_before_length context positive inside] at place
    simp only [ofFile, List.getElem?_drop, List.getElem?_take] at found
    split at found
    · exact lineAt?_of_index (by omega) found
    · cases found
  · have found : file[n - 1]? = some (file.getD (n - 1) "") := by
      rw [List.getD_eq_getElem?_getD, List.getElem?_eq_getElem (by omega)]
      rfl
    have place : (ofFile file context n).line.number.val = ((n - 1 : Nat) : Int) + 1 := by
      have same : (ofFile file context n).line.number.val = n := number
      omega
    exact lineAt?_of_index place found
  · rw [linesAfter_eq, mem_contextFrom] at after
    obtain ⟨-, i, place, found⟩ := after
    simp only [ofFile, List.getElem?_take, List.getElem?_drop] at found
    split at found
    · exact lineAt?_of_index (by omega) found
    · cases found

end OfFile

end Hit

namespace Excerpt

section OfFile

variable {file : List String} {context : Nat} {numbers : List Nat}
  (small : file.length < 9223372036854775808) (inside : ∀ n ∈ numbers, 1 ≤ n ∧ n ≤ file.length)
include small inside

/-- What the windows say of a number: its line in the file, that it is near a hit, and whether it is
one. -/
theorem ofFile_sourced : ∀ h ∈ numbers.map (Hit.ofFile file context), (ofHit h).Sourced
    (fun k content => lineAt? file k.val = some content ∧ ∃ n ∈ numbers,
      max 1 ((n : Int) - context) ≤ k.val ∧ k.val ≤ min (file.length : Int) (n + context))
    (fun k => ∃ n ∈ numbers, k.val = (n : Int)) := by
  intro h member l there
  obtain ⟨n, wanted, rfl⟩ := List.mem_map.1 member
  obtain ⟨positive, fits⟩ := inside n wanted
  rw [ofHit_lines] at there
  have bounds := Hit.exists_mem_window.1 ⟨l, there, rfl⟩
  rw [Hit.ofFile_first context positive fits small, Hit.ofFile_last context positive fits small]
    at bounds
  refine ⟨⟨Hit.lineAt?_of_mem_window context positive fits small there, n, wanted, bounds⟩, ?_⟩
  intro marked
  have number := Hit.number_of_mem_window there marked
  exact ⟨n, wanted, number ▸ Hit.ofFile_number context positive fits small⟩

variable (increasing : numbers.Pairwise (· < ·))
include increasing

theorem ofFile_ordered : (numbers.map (Hit.ofFile file context)).Pairwise
    fun a b => ∀ l ∈ b.window, a.first.val ≤ l.number.val := by
  refine List.pairwise_map.2 (increasing.imp_of_mem ?_)
  intro m n hm hn less l member
  have bounds := Hit.exists_mem_window.1 ⟨l, member, rfl⟩
  rw [Hit.ofFile_first context (inside n hn).1 (inside n hn).2 small] at bounds
  rw [Hit.ofFile_first context (inside m hm).1 (inside m hm).2 small]
  omega

theorem ofFile_shows {n : Nat} (wanted : n ∈ numbers) {l : Line}
    (member : l ∈ (Hit.ofFile file context n).window) :
    Shown l ((ofHits (numbers.map (Hit.ofFile file context))).flatMap lines) :=
  ofHits_shows (fun _ _ => id) (ofFile_ordered small inside increasing)
    (List.mem_map_of_mem wanted) member

theorem ofFile_covers (k : Int) :
    (∃ l ∈ (ofHits (numbers.map (Hit.ofFile file context))).flatMap lines, l.number.val = k) ↔
      ∃ n ∈ numbers, max 1 ((n : Int) - context) ≤ k ∧ k ≤ min (file.length : Int) (n + context) := by
  constructor
  · rintro ⟨l, there, rfl⟩
    obtain ⟨e, block, line⟩ := List.mem_flatMap.1 there
    exact (ofHits_sourced (ofFile_sourced small inside) block l line).1.2
  · rintro ⟨n, wanted, bounds⟩
    obtain ⟨positive, fits⟩ := inside n wanted
    rw [← Hit.ofFile_first context positive fits small, ← Hit.ofFile_last context positive fits small]
      at bounds
    obtain ⟨l, member, number⟩ := Hit.exists_mem_window.2 bounds
    obtain ⟨shown, there, same, -⟩ := ofFile_shows small inside increasing wanted member
    exact ⟨shown, there, same ▸ number⟩

theorem ofFile_marks {l : Line}
    (there : l ∈ (ofHits (numbers.map (Hit.ofFile file context))).flatMap lines) :
    l.isHit = true ↔ ∃ n ∈ numbers, l.number.val = (n : Int) := by
  constructor
  · obtain ⟨e, block, line⟩ := List.mem_flatMap.1 there
    exact (ofHits_sourced (ofFile_sourced small inside) block l line).2
  · rintro ⟨n, wanted, number⟩
    obtain ⟨positive, fits⟩ := inside n wanted
    have same : (Hit.ofFile file context n).number = l.number :=
      Bounded.ext ((Hit.ofFile_number context positive fits small).trans number.symm)
    obtain ⟨shown, member, sameNumber, marked⟩ :=
      ofFile_shows small inside increasing wanted (Hit.line_mem_window _)
    have here : shown = l :=
      eq_of_number (ofHits_increasing _) member there (sameNumber.trans same)
    exact here ▸ marked rfl

end OfFile

end Excerpt

namespace RenderedFile

open Excerpt

theorem blocks_flatten (r : Repo) (rev : String) (p : Pattern) (f : FileHits) :
    (ofHits r rev p f).blocks.flatten =
      ((Excerpt.ofHits f.hits).flatMap lines).map (RenderedLine.ofLine r rev f.filename p) := by
  rw [List.map_flatMap, List.flatMap_def]
  rfl

/-- A page shows of a file what the file has around its hits. -/
theorem ofHits_faithful (file : List String) (context : Nat) (numbers : List Nat)
    (small : file.length < 9223372036854775808) (inside : ∀ n ∈ numbers, 1 ≤ n ∧ n ≤ file.length)
    (increasing : numbers.Pairwise (· < ·)) (r : Repo) (rev filename : String) (p : Pattern) :
    Faithful file context numbers (fun k => r.link filename (some k) rev)
      (ofHits r rev p ⟨filename, numbers.map (Hit.ofFile file context)⟩).blocks.flatten := by
  rw [blocks_flatten]
  constructor
  case increasing => exact List.pairwise_map.2 (Excerpt.ofHits_increasing _)
  case covers =>
    intro k
    rw [← ofFile_covers small inside increasing k]
    constructor
    · rintro ⟨_, member, number⟩
      obtain ⟨l, there, rfl⟩ := List.mem_map.1 member
      exact ⟨l, there, number⟩
    · rintro ⟨l, there, number⟩
      exact ⟨_, List.mem_map_of_mem there, number⟩
  case marks =>
    intro _ member
    obtain ⟨l, there, rfl⟩ := List.mem_map.1 member
    exact ofFile_marks small inside increasing there
  case reads =>
    intro _ member
    obtain ⟨l, there, rfl⟩ := List.mem_map.1 member
    obtain ⟨e, block, line⟩ := List.mem_flatMap.1 there
    have content := (ofHits_sourced (ofFile_sourced small inside) block l line).1.1
    exact content.trans (congrArg some (l.shownText_html p).symm)
  case plain =>
    intro _ member notHit tag
    obtain ⟨l, there, rfl⟩ := List.mem_map.1 member
    exact Line.not_mem_html notHit (tag.subset List.mem_cons_self)
  case links =>
    intro _ member
    obtain ⟨l, there, rfl⟩ := List.mem_map.1 member
    rfl

/-- Two windows that overlap in a file of five lines, with an empty match line and an escaped one. -/
theorem ofHits_faithful_overlapping :
    ∃ p, Pattern.compile? "a*" {} = some p ∧
      ["if a<b", "", "</em>", "aa & a", "done"].length < 9223372036854775808 ∧
      (∀ n ∈ [2, 4], 1 ≤ n ∧ n ≤ ["if a<b", "", "</em>", "aa & a", "done"].length) ∧
      [2, 4].Pairwise (· < ·) ∧
      Faithful ["if a<b", "", "</em>", "aa & a", "done"] 1 [2, 4]
        (fun k => Repo.link ⟨"https://h/o/r", {}⟩ "a.c" (some k) "main")
        (ofHits ⟨"https://h/o/r", {}⟩ "main" p ⟨"a.c",
          [2, 4].map (Hit.ofFile ["if a<b", "", "</em>", "aa & a", "done"] 1)⟩).blocks.flatten := by
  have compiled : (Pattern.compile? "a*" {}).isSome = true := by decide +kernel
  obtain ⟨p, found⟩ := Option.isSome_iff_exists.1 compiled
  exact ⟨p, found, by decide, by decide, by decide,
    ofHits_faithful _ 1 [2, 4] (by decide) (by decide) (by decide) _ "main" "a.c" p⟩

end RenderedFile

end CodeSearch
