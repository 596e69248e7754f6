import CodeSearch.Repo.Link
import CodeSearch.Proofs.Text.Filling

/-!
Links from the template of a repository. A link is the template with all values put in at once, as
long as no value that is already there spells the name of a later variable in braces. A path can do
that, and then takes the value that the template has a place for.
-/
namespace CodeSearch

open Text Text.Template Numeric

namespace LinkParts

theorem values_names (p : LinkParts) : p.values.map Prod.fst =
    ["url", "path", "rev", "anchor", "filename", "hostname", "port", "project", "repo"] := rfl

theorem values_distinct (p : LinkParts) : (p.values.map Prod.fst).Nodup := by
  rw [values_names]
  decide

theorem values_bare (p : LinkParts) :
    ∀ v ∈ p.values, '\x7b' ∉ v.1.toList ∧ '\x7d' ∉ v.1.toList := by
  intro v member
  have named : v.1 ∈ p.values.map Prod.fst := List.mem_map_of_mem member
  have bare : ∀ name ∈ ["url", "path", "rev", "anchor", "filename", "hostname", "port", "project",
      "repo"], '\x7b' ∉ name.toList ∧ '\x7d' ∉ name.toList := by decide
  exact bare v.1 named

end LinkParts

namespace Repo

/-- A link shows each value at its own place and all else as the template has it, unless a value
spells the name of a later variable in braces before the place of that variable. Values without
braces never do. -/
theorem link_substitutes (r : Repo) (path : String) (line : Option Signed64) (rev : String)
    {pieces : List Piece} (template : r.links.base.toList = written pieces)
    (good : WellFormed pieces) :
    (Undisturbed pieces [] (LinkParts.ofRepo r path line rev).values →
      (r.link path line rev).toList = shown (LinkParts.ofRepo r path line rev).values pieces) ∧
    ((∀ v ∈ (LinkParts.ofRepo r path line rev).values, '\x7b' ∉ v.2.toList) →
      Undisturbed pieces [] (LinkParts.ofRepo r path line rev).values) := by
  let p := LinkParts.ofRepo r path line rev
  constructor
  · intro undisturbed
    have filled := good.fillChars_shown (fun v member => (p.values_bare v member).1)
      p.values_distinct undisturbed
    unfold link fill
    rw [String.toList_ofList, template]
    exact filled
  · intro plain
    exact good.undisturbed (fun v member => (p.values_bare v member).2) plain

/-- A path may have braces, even around the names of variables whose turn is over or whose place is
before it, and a name that no variable has stays open. -/
theorem link_substitutes_braces :
    let r : Repo := ⟨"https://h/o/r.git",
      "\x7burl\x7d/src/\x7brev\x7d/\x7bpath\x7d\x7banchor\x7d?at=\x7bbranch\x7d", "#L\x7bline\x7d"⟩
    let pieces : List Piece := [.hole "url", .literal "/src/", .hole "rev", .literal "/",
      .hole "path", .hole "anchor", .literal "?at=", .hole "branch"]
    let path := "\x7burl\x7d/\x7brev\x7d.md"
    let line : Option Signed64 := some ⟨7, by decide, by decide⟩
    r.links.base.toList = written pieces ∧ WellFormed pieces ∧
      Undisturbed pieces [] (LinkParts.ofRepo r path line "main").values ∧
      (r.link path line "main").toList =
        "https://h/o/r/src/main/\x7burl\x7d/\x7brev\x7d.md#L7?at=\x7bbranch\x7d".toList := by
  intro r pieces path line
  have template : r.links.base.toList = written pieces := by decide
  have good : WellFormed pieces := ⟨by decide, by decide, by decide⟩
  have undisturbed : Undisturbed pieces [] (LinkParts.ofRepo r path line "main").values := by
    decide +kernel
  have link := (link_substitutes r path line "main" template good).1 undisturbed
  exact ⟨template, good, undisturbed, link.trans (by decide)⟩

/-- A path that spells `anchor` in braces takes the line, and the place of the line stays open. -/
theorem link_captured_by_path :
    let r : Repo := { url := "https://h/o/r" }
    let pieces : List Piece := [.hole "url", .literal "/blob/master/", .hole "path", .hole "anchor"]
    let path := "docs/\x7banchor\x7d.md"
    let line : Option Signed64 := some ⟨7, by decide, by decide⟩
    r.links.base.toList = written pieces ∧ WellFormed pieces ∧
      r.link path line "main" = "https://h/o/r/blob/master/docs/#L7.md\x7banchor\x7d" ∧
      shown (LinkParts.ofRepo r path line "main").values pieces =
        "https://h/o/r/blob/master/docs/\x7banchor\x7d.md#L7".toList ∧
      (r.link path line "main").toList ≠
        shown (LinkParts.ofRepo r path line "main").values pieces := by
  intro r pieces path line
  have good : WellFormed pieces := ⟨by decide, by decide, by decide⟩
  exact ⟨by decide, good, by decide, by decide, by decide⟩

end Repo

end CodeSearch
