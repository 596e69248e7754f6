import CodeSearch.Regex.Room.Tally

/-!
The states that read one of several words, given as bytes. They make a tree from the first bytes of
the words on. The earlier of two words is preferred, so where a word ends, the words after it are
kept apart from those before it, and are not joined with them.
-/
namespace CodeSearch.Regex

/-- Words that end where nothing goes on yet end there once. -/
def dropSameEnds : List (List UInt8) → List (List UInt8)
  | [] :: words => [] :: words.dropWhile List.isEmpty
  | words => words

/-- What is left of the words that begin with a byte. -/
def restsAfter (b : UInt8) (words : List (List UInt8)) : List (List UInt8) :=
  words.filterMap fun w =>
    match w with
    | c :: rest => if c = b then some rest else none
    | [] => none

/-- The states of a node at which words of fewer than `depth` bytes go on, and of all nodes after
it. A node parts the words that go on at those that end, and a word's last byte needs no node. -/
def measureNode : Nat → List (List UInt8) → Tally → Tally
  | 0, _, t => t
  | depth + 1, words, t =>
    let words := dropSameEnds words
    let runs := (words.splitOnP List.isEmpty).filter (! ·.isEmpty)
    let t := t.add 1 (Room.ofLink * (runs.length + words.count []))
    runs.foldl (fun t run =>
      let firsts := (run.filterMap List.head?).eraseDups
      let t := t.add 1 (if firsts.length = 1 then 0 else Room.ofRange * firsts.length)
      firsts.foldl (fun t b =>
        let rests := restsAfter b run
        if rests.all List.isEmpty then t else measureNode depth rests t) t) t

def measureWords (words : List (List UInt8)) (t : Tally) : Tally :=
  measureNode ((words.map List.length).foldl max 0 + 1) words (t.add 1 0)

end CodeSearch.Regex
