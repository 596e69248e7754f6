import CodeSearch.Results.Reply
import CodeSearch.Text.Cut

/-!
Which files of a repository to load next, and the text by which a request says so: the first file
and how many, or no number where all that are left shall come.
-/
namespace CodeSearch

open Numeric

/-- The files of one repository that the next request shall load. -/
structure Batch where
  repo : String
  loaded : Nat
  /-- How many are left on the server. -/
  needed : Nat
  /-- How many of them to load. -/
  count : Nat
deriving DecidableEq, Repr

namespace Batch

def limit : Nat := 2000

def next (r : RepoHits) : Batch :=
  ⟨r.repo, r.files.length, r.remaining, min r.remaining limit⟩

def rangeChars (b : Batch) : List Char :=
  Decimal.write b.loaded ++ ':' :: (if b.count = b.needed then [] else Decimal.write b.count)

def range (b : Batch) : String := String.ofList b.rangeChars

def toJson (b : Batch) : Json :=
  .ofFields [("range", .ofFields [("repo", .ofString b.repo), ("loaded", .ofNat b.loaded),
      ("needed", .ofNat b.needed), ("toLoad", .ofNat b.count)]),
    ("rng", .ofString b.range)]

end Batch

namespace FileRange

/-- A number of 64 bits, with a plus sign or without; all else counts as 0. -/
def readHalf (cs : List Char) : Nat :=
  let digits := if cs.head? = some '+' then cs.tail else cs
  match Decimal.read? digits with
  | some n => if n < 18446744073709551616 then n else 0
  | none => 0

/-- The first file and how many, as the server reads them. -/
def parse (range : String) : Nat × Nat :=
  match Text.cut? [':'] range.toList with
  | some (start, count) => (readHalf start, readHalf count)
  | none => (0, 0)

end FileRange

end CodeSearch
