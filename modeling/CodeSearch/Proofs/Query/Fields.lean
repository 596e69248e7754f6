import CodeSearch.Query.Url

/-!
The fields of a query, as the pairs of an address set them. A pair with the key of a field gives the
field its value and leaves the others alone; after many pairs a field has the value of the last pair
with its key.
-/
namespace CodeSearch.Query

inductive Field where
  | text
  | caseFlag
  | files
  | repos
deriving DecidableEq

namespace Field

def key : Field → String
  | text => "q"
  | caseFlag => "i"
  | files => "files"
  | repos => "repos"

def get : Field → Query → String
  | text, q => q.text
  | caseFlag, q => q.caseFlag
  | files, q => q.files
  | repos, q => q.repos

def put : Field → String → Query → Query
  | text, value, q => { q with text := value }
  | caseFlag, value, q => { q with caseFlag := value }
  | files, value, q => { q with files := value }
  | repos, value, q => { q with repos := value }

def Foreign (f : Field) (p : UrlPair) : Prop := ∀ value, p ≠ .pair f.key value

theorem ext {q r : Query} (same : ∀ f : Field, f.get q = f.get r) : q = r := by
  cases q
  cases r
  simpa [get] using And.intro (same text)
    (And.intro (same caseFlag) (And.intro (same files) (same repos)))

theorem get_put (f g : Field) (value : String) (q : Query) :
    f.get (g.put value q) = if f = g then value else f.get q := by
  cases f <;> cases g <;> rfl

theorem put_comm {f g : Field} (other : f ≠ g) (value more : String) (q : Query) :
    g.put more (f.put value q) = f.put value (g.put more q) := by
  cases f <;> cases g <;> first | rfl | exact absurd rfl other

theorem set?_key (f : Field) (q : Query) (value : String) :
    q.set? f.key value = some (f.put value q) := by
  cases f <;> rfl

/-- A key is that of a field, or it sets nothing. -/
theorem key_or_unknown (key : String) :
    (∃ f : Field, key = f.key) ∨ ∀ q value, set? q key value = none := by
  by_cases isText : key = "q"
  · exact .inl ⟨text, isText⟩
  by_cases isFlag : key = "i"
  · exact .inl ⟨caseFlag, isFlag⟩
  by_cases isFiles : key = "files"
  · exact .inl ⟨files, isFiles⟩
  by_cases isRepos : key = "repos"
  · exact .inl ⟨repos, isRepos⟩
  · exact .inr fun q value => by simp [set?, isText, isFlag, isFiles, isRepos]

theorem take_key (f : Field) (q : Query) (value : String) :
    q.take (.pair f.key value) = f.put value q := by
  rw [take, set?_key, Option.getD_some]

theorem get_take_foreign {f : Field} {p : UrlPair} (foreign : f.Foreign p) (q : Query) :
    f.get (q.take p) = f.get q := by
  cases p with
  | pair key value =>
    rcases key_or_unknown key with ⟨g, rfl⟩ | unknown
    · have other : f ≠ g := fun same => foreign value (by rw [same])
      rw [take_key, get_put, if_neg other]
    · rw [take, unknown, Option.getD_none]
  | undecodable raw => rfl
  | malformed => rfl

theorem take_put {f : Field} {p : UrlPair} (foreign : f.Foreign p) (value : String) (q : Query) :
    (f.put value q).take p = f.put value (q.take p) := by
  cases p with
  | pair key more =>
    rcases key_or_unknown key with ⟨g, rfl⟩ | unknown
    · have other : f ≠ g := fun same => foreign more (by rw [same])
      rw [take_key, take_key, put_comm other]
    · rw [take, take, unknown, unknown, Option.getD_none, Option.getD_none]
  | undecodable raw => rfl
  | malformed => rfl

theorem foldl_take_put {f : Field} {pairs : List UrlPair} (foreign : ∀ p ∈ pairs, f.Foreign p)
    (value : String) (q : Query) :
    pairs.foldl take (f.put value q) = f.put value (pairs.foldl take q) := by
  induction pairs generalizing q with
  | nil => rfl
  | cons p pairs ih =>
    have known := List.forall_mem_cons.1 foreign
    rw [List.foldl_cons, take_put known.1, ih known.2, List.foldl_cons]

theorem take_of_foreign {p : UrlPair} (foreign : ∀ f : Field, f.Foreign p) (q : Query) :
    q.take p = q := ext fun f => get_take_foreign (foreign f) q

theorem get_foldl_foreign {f : Field} {pairs : List UrlPair} (foreign : ∀ p ∈ pairs, f.Foreign p)
    (q : Query) : f.get (pairs.foldl take q) = f.get q := by
  induction pairs generalizing q with
  | nil => rfl
  | cons p pairs ih =>
    have known := List.forall_mem_cons.1 foreign
    rw [List.foldl_cons, ih known.2, get_take_foreign known.1]

theorem get_foldl_last {f : Field} {before after : List UrlPair} {value : String}
    (foreign : ∀ p ∈ after, f.Foreign p) (q : Query) :
    f.get ((before ++ .pair f.key value :: after).foldl take q) = value := by
  rw [List.foldl_append, List.foldl_cons, get_foldl_foreign foreign, take_key,
    get_put, if_pos rfl]

theorem foreign_or_last (f : Field) (pairs : List UrlPair) : (∀ p ∈ pairs, f.Foreign p) ∨
    ∃ before value after, pairs = before ++ .pair f.key value :: after ∧
      ∀ p ∈ after, f.Foreign p := by
  induction pairs with
  | nil => exact .inl fun _ member => nomatch member
  | cons p pairs ih =>
    rcases ih with none | ⟨before, value, after, rfl, none⟩
    · by_cases own : f.Foreign p
      · exact .inl (List.forall_mem_cons.2 ⟨own, none⟩)
      · simp only [Foreign, Classical.not_forall, Decidable.not_not] at own
        obtain ⟨value, rfl⟩ := own
        exact .inr ⟨[], value, pairs, rfl, none⟩
    · exact .inr ⟨p :: before, value, after, rfl, none⟩

end Field

end CodeSearch.Query
