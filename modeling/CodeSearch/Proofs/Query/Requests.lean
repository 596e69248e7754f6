import CodeSearch.Proofs.Query.History

/-!
Requests on their way to the server. All values are sent in encoded form, so that the separators of
an address are those between the pairs, and every field of the request can be read again.
-/
namespace CodeSearch

open Text

namespace Request

def sent (p : String × String) : List Char :=
  p.1.toList ++ '=' :: Percent.encodeChars p.2.toList

theorem sent_key_plain {r : Request} {p : String × String} (member : p ∈ r.pairs) :
    '&' ∉ p.1.toList ∧ '=' ∉ p.1.toList ∧ '%' ∉ p.1.toList := by
  have keys : ∀ key ∈ ["q", "i", "files", "repos", "stats", "rng"],
      '&' ∉ key.toList ∧ '=' ∉ key.toList ∧ '%' ∉ key.toList := by decide
  exact keys p.1 (List.mem_map_of_mem (f := Prod.fst) member)

theorem toList_address (r : Request) :
    r.address.toList = ['&'].intercalate (r.pairs.map sent) := by
  have piece : ∀ p : String × String, (p.1 ++ "=" ++ Percent.encode p.2).toList = sent p := by
    intro p
    simp [sent, Percent.encode]
  simp only [address, String.toList_intercalate, List.map_map, Function.comp_def, piece]
  rfl

theorem splitAt_address (r : Request) : splitAt '&' r.address.toList = r.pairs.map sent := by
  rw [toList_address]
  refine splitAt_intercalate (List.cons_ne_nil _ _) ?_
  intro piece member
  obtain ⟨p, known, rfl⟩ := List.mem_map.1 member
  exact Query.amp_not_mem (sent_key_plain known).1 p.2

theorem splitAt_sent {r : Request} {p : String × String} (member : p ∈ r.pairs) :
    splitAt '=' (sent p) = [p.1.toList, Percent.encodeChars p.2.toList] :=
  splitAt_eq_pair.2 ⟨rfl, (sent_key_plain member).2.1, Percent.not_mem_encodeChars (by decide) _⟩

theorem decode_sent {r : Request} {p : String × String} (member : p ∈ r.pairs) :
    (splitAt '=' (sent p)).map Percent.decodeChars? = [some p.1.toList, some p.2.toList] := by
  have key := Percent.unescaped_of_not_mem (sent_key_plain member).2.2
  rw [splitAt_sent member, List.map_cons, List.map_singleton,
    Percent.decodeChars?_of_unescaped key, Percent.decodeChars?_encodeChars]

/-- The pieces of the address say what the pairs of the request say. -/
theorem ofAddress_address (r : Request) :
    UrlPair.ofAddress r.address = r.pairs.map fun p => .pair p.1 p.2 := by
  have first : r.address.toList.head? ≠ some '?' := by
    rw [toList_address, pairs, List.map_cons, intercalate_cons]
    simp [sent]
  rw [UrlPair.ofAddress, if_neg first, splitAt_address, List.map_map]
  refine List.map_congr_left fun p member => ?_
  obtain ⟨-, single, signless⟩ := sent_key_plain member
  exact UrlPair.ofPiece_encoded single signless p.2

theorem eq_of_pairs {r other : Request} (same : r.pairs = other.pairs) : r = other := by
  cases r
  cases other
  simpa [pairs] using same

/-- Nothing of a request gets lost in its address: it reads as the query that is asked, over any
standard; cut at the separators and decoded it gives the pairs in order; and no other request has
it. -/
theorem address_lossless (r : Request) (standard : Query) :
    Query.ofAddress r.address standard = ⟨r.text, r.caseFlag, r.files, r.repos⟩ ∧
    (splitAt '&' r.address.toList).map (fun piece => (splitAt '=' piece).map Percent.decodeChars?) =
      r.pairs.map (fun p => [some p.1.toList, some p.2.toList]) ∧
    ∀ other : Request, other.address = r.address ↔ other = r := by
  refine ⟨?_, ?_, ?_⟩
  · rw [Query.ofAddress, ofAddress_address]
    rfl
  · rw [splitAt_address, List.map_map]
    exact List.map_congr_left fun p member => decode_sent member
  · intro other
    refine ⟨fun same => eq_of_pairs ?_, fun same => same ▸ rfl⟩
    have pieces := congrArg UrlPair.ofAddress same
    rw [ofAddress_address, ofAddress_address] at pieces
    refine (List.map_inj_right ?_).1 pieces
    intro a b here
    injection here with key value
    exact Prod.ext key value

end Request

end CodeSearch
