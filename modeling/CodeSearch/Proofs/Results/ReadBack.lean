import CodeSearch.Proofs.Json.Relaxing
import CodeSearch.Repo.Basic
import CodeSearch.Results.Reply

/-!
Catalogs and replies read back from their own text. A record finds its fields under the names that
it writes; the results of a reply may stand in any order, and lists that are empty may be left out.
-/
namespace CodeSearch

open Json Numeric

namespace LinkTemplate

@[simp]
theorem standard (t : LinkTemplate) : Standard t.toJson := by simp [toJson]

theorem reads (t : LinkTemplate) : Reads ofJson? t.toJson t := by
  intro j relaxed
  obtain ⟨_, record, _ | ⟨base, _ | ⟨anchor, _ | _⟩⟩⟩ :=
    relaxed.record ["base-url", "anchor"] rfl (by decide)
  have base := (Reads.string t.base).optional nofun ({} : LinkTemplate).base base
  have anchor := (Reads.string t.anchor).optional nofun ({} : LinkTemplate).anchor anchor
  simp [ofJson?, record, base, anchor]

end LinkTemplate

namespace Repo

@[simp]
theorem standard (r : Repo) : Standard r.toJson := by simp [toJson]

theorem reads (r : Repo) : Reads ofJson? r.toJson r := by
  intro j relaxed
  obtain ⟨_, record, _ | ⟨url, _ | ⟨links, _ | _⟩⟩⟩ :=
    relaxed.record ["url", "url-pattern"] rfl (by decide)
  have url := (Reads.string r.url).required nofun url
  have links := r.links.reads.optional nofun {} links
  simp [ofJson?, record, url, links]

end Repo

namespace Catalog

theorem standard (c : Catalog) : Standard c.toJson :=
  standard_ofFields.2 (List.forall_mem_map.2 fun e _ => e.2.standard)

theorem reads (c : Catalog) : Reads ofJson? c.toJson c := Reads.map Repo.reads nofun (.refl _)

theorem parse_relaxed (c : Catalog) {j : Json} (relaxed : Relaxed c.toJson j) :
    parse j.print = .ok c := by
  rw [parse, c.reads.of_print c.standard relaxed]

end Catalog

namespace Hit

@[simp]
theorem standard (h : Hit) : Standard h.toJson := by simp [toJson]

theorem reads (h : Hit) : Reads ofJson? h.toJson h := by
  intro j relaxed
  obtain ⟨_, record, _ | ⟨content, _ | ⟨number, _ | ⟨before, _ | ⟨after, _ | _⟩⟩⟩⟩⟩ :=
    relaxed.record ["Line", "LineNumber", "Before", "After"] rfl (by decide)
  have content := (Reads.string h.content).required nofun content
  have number := (Reads.bounded h.number).required nofun number
  have before := (Reads.list Reads.string h.before).optionalList before
  have after := (Reads.list Reads.string h.after).optionalList after
  simp [ofJson?, record, content, number, before, after]

end Hit

namespace FileHits

@[simp]
theorem standard (f : FileHits) : Standard f.toJson := by simp [toJson]

theorem reads (f : FileHits) : Reads ofJson? f.toJson f := by
  intro j relaxed
  obtain ⟨_, record, _ | ⟨filename, _ | ⟨hits, _ | _⟩⟩⟩ :=
    relaxed.record ["Filename", "Matches"] rfl (by decide)
  have filename := (Reads.string f.filename).required nofun filename
  have hits := (Reads.list Hit.reads f.hits).optionalList hits
  simp [ofJson?, record, filename, hits]

end FileHits

namespace RepoReply

@[simp]
theorem standard (r : RepoReply) : Standard r.toJson := by simp [toJson]

theorem reads (r : RepoReply) : Reads ofJson? r.toJson r := by
  intro j relaxed
  obtain ⟨_, record, _ | ⟨revision, _ | ⟨files, _ | ⟨total, _ | _⟩⟩⟩⟩ :=
    relaxed.record ["Revision", "Matches", "FilesWithMatch"] rfl (by decide)
  have revision := (Reads.string r.revision).optional nofun "" revision
  have files := (Reads.list FileHits.reads r.files).optionalList files
  have total := (Reads.bounded r.total).optional nofun default total
  simp [ofJson?, record, revision, files, total]

end RepoReply

namespace ServerStats

@[simp]
theorem standard (s : ServerStats) : Standard s.toJson := by simp [toJson]

theorem reads (s : ServerStats) : Reads ofJson? s.toJson s := by
  intro j relaxed
  obtain ⟨_, record, _ | ⟨filesOpened, _ | ⟨duration, _ | _⟩⟩⟩ :=
    relaxed.record ["FilesOpened", "Duration"] rfl (by decide)
  have filesOpened := (Reads.bounded s.filesOpened).required nofun filesOpened
  have duration := (Reads.bounded s.duration).required nofun duration
  simp [ofJson?, record, filesOpened, duration]

end ServerStats

namespace Reply

variable {entries : List (String × Option RepoReply)}

/-- A reply as JSON that lists its results in a certain order. -/
def listed (r : Reply) (entries : List (String × Option RepoReply)) : Json :=
  .ofFields [("Results", .ofFields (entries.map fun e =>
      (e.1, .ofOption (e.2.map RepoReply.toJson)))),
    ("Stats", .ofOption (r.stats.map ServerStats.toJson)),
    ("Error", .ofOption (r.error.map .ofString))]

theorem listed_entries (r : Reply) : r.listed r.results.entries = r.toJson := rfl

def outcome (r : Reply) : Except Failure Reply :=
  match r.error with
  | none => .ok r
  | some message => .error (.rejected message)

theorem standard (r : Reply) (entries : List (String × Option RepoReply)) :
    Standard (r.listed entries) := by
  have results : Standard (.ofFields (entries.map fun e =>
      (e.1, .ofOption (e.2.map RepoReply.toJson)))) :=
    standard_ofFields.2 (List.forall_mem_map.2 fun e _ => by simp)
  simp [listed, results]

theorem reads (r : Reply) (same : entries.Perm r.results.entries) :
    Reads ofJson? (r.listed entries) r := by
  intro j relaxed
  obtain ⟨_, record, _ | ⟨results, _ | ⟨stats, _ | ⟨error, _ | _⟩⟩⟩⟩ :=
    relaxed.record ["Results", "Stats", "Error"] rfl (by decide)
  have said := Reads.option RepoReply.reads fun _ => nofun
  have filled := Reads.ofOption_ne_arr RepoReply.toJson fun _ => nofun
  have results := (Reads.map said filled same).optional nofun .empty results
  have stats := (Reads.option ServerStats.reads (fun _ => nofun) r.stats).optional
    (Reads.ofOption_ne_arr ServerStats.toJson (fun _ => nofun) r.stats) none stats
  have error := (Reads.option Reads.string (fun _ => nofun) r.error).optional
    (Reads.ofOption_ne_arr .ofString (fun _ => nofun) r.error) none error
  simp [ofJson?, record, results, stats, error]

theorem parse_relaxed (r : Reply) (same : entries.Perm r.results.entries) {j : Json}
    (relaxed : Relaxed (r.listed entries) j) : parse j.print = r.outcome := by
  rw [parse, (r.reads same).of_print (r.standard entries) relaxed, outcome]
  cases refused : r.error <;> simp [refused]

end Reply

structure ReadsBack {α : Type} (parse : String → Except Failure α) (j : Json)
    (result : Except Failure α) : Prop where
  whole : parse j.print = result
  relaxed : ∀ j', Relaxed j j' → parse j'.print = result

theorem Reply.listed_readsBack (r : Reply) {entries : List (String × Option RepoReply)}
    (same : entries.Perm r.results.entries) : ReadsBack parse (r.listed entries) r.outcome where
  whole := r.parse_relaxed same (.same _)
  relaxed _ := r.parse_relaxed same

theorem parse_print :
    (∀ c : Catalog, ReadsBack Catalog.parse c.toJson (.ok c)) ∧
      (∀ r : Reply, ReadsBack Reply.parse r.toJson r.outcome) ∧
        ∀ (r : Reply) (entries : List (String × Option RepoReply)),
          entries.Perm r.results.entries → ReadsBack Reply.parse (r.listed entries) r.outcome := by
  refine ⟨fun c => ?_, fun r => ?_, fun r entries same => r.listed_readsBack same⟩
  · exact ⟨c.parse_relaxed (.same _), fun _ => c.parse_relaxed⟩
  · rw [← r.listed_entries]
    exact r.listed_readsBack (.refl _)

theorem parse_print_reordered :
    let hit : Hit := ⟨"a", ⟨-9223372036854775808, by decide, by decide⟩, [], []⟩
    let said : RepoReply := ⟨"", [⟨"f", [hit]⟩], ⟨18446744073709551615, by decide, by decide⟩⟩
    let r : Reply := { results := ⟨[("x", none), ("y", some said)], by decide⟩ }
    let entries : List (String × Option RepoReply) := [("y", some said), ("x", none)]
    let shortHit : Json := .ofFields [("Line", .ofString "a"),
      ("LineNumber", .ofInt (-9223372036854775808)), ("After", .null)]
    let shortSaid : Json := .ofFields [("Revision", .ofString ""),
      ("Matches", .arr [.ofFields [("Filename", .ofString "f"), ("Matches", .arr [shortHit])]]),
      ("FilesWithMatch", .ofInt 18446744073709551615)]
    let short : Json := .ofFields [("Results", .ofFields [("y", shortSaid), ("x", .null)]),
      ("Stats", .null), ("Error", .null)]
    shortHit.print =
        "\x7b\"Line\":\"a\",\"LineNumber\":-9223372036854775808,\"After\":null\x7d" ∧
      entries.Perm r.results.entries ∧ Relaxed (r.listed entries) short ∧
        Reply.parse short.print = .ok r := by
  intro hit said r entries shortHit shortSaid short
  have fewer : Relaxed hit.toJson shortHit := by
    refine .obj (.kept (.same _) (.kept (.same _) (.missing ?_ (.null ?_ .nil)))) <;>
      simp [listNames]
  have file : Relaxed (.arr [FileHits.toJson ⟨"f", [hit]⟩])
      (.arr [.ofFields [("Filename", .ofString "f"), ("Matches", .arr [shortHit])]]) :=
    .arr (.cons (.obj (.kept (.same _) (.kept (.arr (.cons fewer .nil)) .nil))) .nil)
  have results : RelaxedFields Relaxed [(some "y", said.toJson), (some "x", .null)]
      [(some "y", shortSaid), (some "x", .null)] :=
    .kept (.obj (.kept (.same _) (.kept file (.kept (.same _) .nil)))) (.kept (.same _) .nil)
  have relaxed : Relaxed (r.listed entries) short :=
    .obj (.kept (.obj results) (.kept (.same _) (.kept (.same _) .nil)))
  have same : entries.Perm r.results.entries := .swap _ _ _
  exact ⟨by decide +kernel, same, relaxed, (parse_print.2.2 r entries same).relaxed _ relaxed⟩

end CodeSearch
