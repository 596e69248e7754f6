import CodeSearch.Query.Basic
import CodeSearch.Text.Percent
import CodeSearch.Trace

/-!
Queries in the address of a page. An address holds pairs of a key and a value; of several good pairs
with one key the last counts, and what is no good pair counts for nothing.
-/
namespace CodeSearch

open Text

/-- What a piece of an address says. -/
inductive UrlPair where
  | pair (key value : String)
  /-- Its bytes make no text. -/
  | undecodable (raw : String)
  /-- It has no equals sign, or more than one. -/
  | malformed
deriving DecidableEq, Repr

namespace UrlPair

def plusToBlank (c : Char) : Char := if c = '+' then ' ' else c

/-- In a value, a plus stands for a blank. -/
def ofPiece (piece : List Char) : UrlPair :=
  match splitAt '=' piece with
  | [key, value] =>
    match Percent.decodeChars? key, Percent.decodeChars? (value.map plusToBlank) with
    | some key, some value => .pair (String.ofList key) (String.ofList value)
    | _, _ => .undecodable (String.ofList piece)
  | _ => .malformed

/-- The pieces of an address, after a question mark if it begins with one. -/
def ofAddress (address : String) : List UrlPair :=
  let cs := address.toList
  (splitAt '&' (if cs.head? = some '?' then cs.tail else cs)).map ofPiece

end UrlPair

namespace Query

def take (q : Query) : UrlPair → Query
  | .pair key value => (q.set? key value).getD q
  | _ => q

/-- The query that an address writes; a key without a good pair keeps its value in `standard`. -/
def ofAddress (address : String) (standard : Query := {}) : Query :=
  (UrlPair.ofAddress address).foldl take standard

/-- What is written down about one piece. -/
def pairEvent? : UrlPair → Option Trace.Event
  | .pair key value =>
    if (({} : Query).set? key value).isSome then none
    else some ⟨.trace, "ignoring unknown query parameter", [("key", .text key)]⟩
  | .undecodable raw => some ⟨.debug, "skipping undecodable query pair", [("pair", .text raw)]⟩
  | .malformed => none

def addressEvents (address : String) : List Trace.Event :=
  (UrlPair.ofAddress address).filterMap pairEvent?

/-- The repositories are written as they are, so that commas stay. -/
def address (q : Query) : String :=
  "?q=" ++ Percent.encode q.text ++ "&i=" ++ Percent.encode q.caseFlag ++ "&files=" ++
    Percent.encode q.files ++ "&repos=" ++ q.repos

end Query

namespace Request

def address (r : Request) : String :=
  "&".intercalate (r.pairs.map fun p => p.1 ++ "=" ++ Percent.encode p.2)

end Request

end CodeSearch
