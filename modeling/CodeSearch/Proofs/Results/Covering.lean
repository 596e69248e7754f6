import CodeSearch.Proofs.Results.Gathering

/-!
Excerpts as intervals. The excerpts of hits whose windows begin in order have the numbers of all the
windows, and a number and the next one stand in one excerpt exactly if they stand in one window.
What a line says is what the first window with its number says.
-/
namespace CodeSearch

open Numeric

def Numbered (ls : List Line) (k : Int) : Prop := ∃ l ∈ ls, l.number.val = k

namespace RunsFrom

theorem numbered_iff {start k : Int} {ls : List Line} (runs : RunsFrom start ls) :
    Numbered ls k ↔ start ≤ k ∧ k < start + ls.length := by
  constructor
  · rintro ⟨l, member, rfl⟩
    exact runs.bounds member
  · rintro ⟨low, high⟩
    exact runs.exists_number low high

theorem find?_number {start : Int} {ls : List Line} (runs : RunsFrom start ls) {l : Line}
    (member : l ∈ ls) : ls.find? (·.number == l.number) = some l := by
  cases found : ls.find? (·.number == l.number) with
  | none => simpa using List.find?_eq_none.1 found l member
  | some here =>
    have same : here.number = l.number := by simpa using List.find?_some found
    rw [Excerpt.eq_of_number runs.increasing (List.mem_of_find?_eq_some found) member same]

end RunsFrom

namespace Hit

def contentAt? (h : Hit) (number : Signed64) : Option String :=
  (h.window.find? (·.number == number)).map (·.content)

theorem contentAt?_of_mem {h : Hit} {l : Line} (member : l ∈ h.window) :
    h.contentAt? l.number = some l.content := by
  rw [contentAt?, h.window_runs.find?_number member]
  rfl

theorem numbered_of_contentAt? {h : Hit} {number : Signed64} {content : String}
    (told : h.contentAt? number = some content) : Numbered h.window number.val := by
  obtain ⟨l, found, -⟩ := Option.map_eq_some_iff.1 told
  have same : l.number = number := by simpa using List.find?_some found
  exact ⟨l, List.mem_of_find?_eq_some found, congrArg Bounded.val same⟩

theorem contentAt?_of_past {h : Hit} {number : Signed64} (past : h.last.val < number.val) :
    h.contentAt? number = none := by
  cases told : h.contentAt? number with
  | none => rfl
  | some content =>
    have inside := exists_mem_window.1 (numbered_of_contentAt? told)
    omega

end Hit

namespace Excerpt

theorem Gapless.numbered_iff {e : Excerpt} (gapless : e.Gapless) {k : Int} :
    Numbered e.lines k ↔ e.first.val ≤ k ∧ k ≤ e.last.val := by
  have length := gapless.length_lines
  rw [RunsFrom.numbered_iff gapless]
  omega

theorem ofHit_last (h : Hit) : (ofHit h).last.val = h.last.val := by
  have lines := (ofHit_gapless h).length_lines
  have window := h.window_length
  rw [ofHit_first, ofHit_lines] at lines
  omega

theorem merge_ofHit_last {e : Excerpt} {h : Hit} (gapless : e.Gapless)
    (meets : ¬ e.last.val < (ofHit h).first.val) :
    (e.merge (ofHit h)).last.val = max e.last.val h.last.val := by
  have merged := merge_ofHit_gapless gapless meets
  have window := ofHit_gapless h
  have reach := ofHit_last h
  have old : e.last.val ≤ (e.merge (ofHit h)).last.val := by
    obtain ⟨l, member, number⟩ := gapless.numbered_iff.2 ⟨gapless.first_le_last, Int.le_refl _⟩
    have kept : Shown l (e.merge (ofHit h)).lines := merge_shows_old member
    obtain ⟨shown, inside, same, -⟩ := kept
    have below := merged.le_last inside
    rw [same] at below
    omega
  have new : h.last.val ≤ (e.merge (ofHit h)).last.val := by
    by_cases past : e.last.val < h.last.val
    · obtain ⟨l, member, number⟩ :=
        window.numbered_iff.2 ⟨window.first_le_last, Int.le_refl _⟩
      have added : l ∈ beyond e (ofHit h) := mem_beyond.2 ⟨member, by omega⟩
      have below := merged.le_last (mem_merge.2 (.inr added))
      omega
    · omega
  obtain ⟨l, member, number⟩ := merged.numbered_iff.2 ⟨merged.first_le_last, Int.le_refl _⟩
  rcases mem_merge.1 member with ⟨before, there, rfl⟩ | added
  · have below := gapless.le_last there
    rw [markAll_number] at number
    omega
  · have below := window.le_last (mem_beyond.1 added).1
    omega

/-- What the first of the windows with this number has under it. -/
def firstContent? (hits : List Hit) (number : Signed64) : Option String :=
  hits.findSome? (·.contentAt? number)

theorem firstContent?_append {hits : List Hit} {number : Signed64} {content : String}
    (told : firstContent? hits number = some content) (more : List Hit) :
    firstContent? (hits ++ more) number = some content := by
  rw [firstContent?, List.findSome?_append, ← firstContent?, told, Option.some_or]

theorem firstContent?_concat {hits : List Hit} {h : Hit} {l : Line} (member : l ∈ h.window)
    (past : ∀ g ∈ hits, g.last.val < l.number.val) :
    firstContent? (hits ++ [h]) l.number = some l.content := by
  have none : firstContent? hits l.number = none :=
    List.findSome?_eq_none_iff.2 fun g before => Hit.contentAt?_of_past (past g before)
  rw [firstContent?, List.findSome?_append, ← firstContent?, none, Option.none_or,
    List.findSome?_singleton, Hit.contentAt?_of_mem member]

/-- The excerpt tells what the first of these windows say, and none of them goes past it. -/
structure Told (hits : List Hit) (e : Excerpt) : Prop where
  content : ∀ l ∈ e.lines, firstContent? hits l.number = some l.content
  reach : ∀ h ∈ hits, h.last.val ≤ e.last.val

theorem Told.opened {hits : List Hit} {e : Excerpt} (told : Told hits e) {h : Hit}
    (apart : e.last.val < (ofHit h).first.val) : Told (hits ++ [h]) (ofHit h) := by
  have window := ofHit_gapless h
  constructor
  · intro l member
    have low := window.first_le member
    rw [ofHit_lines] at member
    refine firstContent?_concat member fun g before => ?_
    have behind := told.reach g before
    omega
  · intro g before
    rw [ofHit_last]
    rcases List.mem_append.1 before with earlier | here
    · have behind := told.reach g earlier
      have order := window.first_le_last
      rw [ofHit_last] at order
      omega
    · exact List.mem_singleton.1 here ▸ Int.le_refl _

theorem Told.merged {hits : List Hit} {e : Excerpt} (told : Told hits e) (gapless : e.Gapless)
    {h : Hit} (meets : ¬ e.last.val < (ofHit h).first.val) :
    Told (hits ++ [h]) (e.merge (ofHit h)) := by
  constructor
  · intro l member
    rcases mem_merge.1 member with ⟨old, there, rfl⟩ | new
    · rw [markAll_number, markAll_content]
      exact firstContent?_append (told.content old there) [h]
    · obtain ⟨inside, past⟩ := mem_beyond.1 new
      rw [ofHit_lines] at inside
      refine firstContent?_concat inside fun g before => ?_
      have behind := told.reach g before
      omega
  · intro g before
    rw [merge_ofHit_last gapless meets]
    rcases List.mem_append.1 before with earlier | here
    · have behind := told.reach g earlier
      omega
    · rw [List.mem_singleton.1 here]
      omega

theorem gather_told {hits : List Hit} {current : Excerpt} (gapless : current.Gapless)
    {e : Excerpt} (member : e ∈ gather current hits) {l : Line} (inside : l ∈ e.lines) :
    ∀ earlier, Told earlier current →
      firstContent? (earlier ++ hits) l.number = some l.content := by
  fun_induction gather current hits with
  | case1 current =>
    intro earlier told
    rw [List.mem_singleton.1 member] at inside
    exact firstContent?_append (told.content l inside) []
  | case2 current h rest window apart ih =>
    intro earlier told
    cases List.mem_cons.1 member with
    | inl here =>
      rw [here] at inside
      exact firstContent?_append (told.content l inside) (h :: rest)
    | inr later =>
      have all := ih (ofHit_gapless h) later (earlier ++ [h]) (told.opened apart)
      rwa [List.append_assoc] at all
  | case3 current h rest window meets ih =>
    intro earlier told
    have all := ih (merge_ofHit_gapless gapless meets) member (earlier ++ [h])
      (told.merged gapless meets)
    rwa [List.append_assoc] at all

/-- Lines that follow one another come from one window. -/
def Linked (hits : List Hit) (e : Excerpt) : Prop :=
  ∀ k, e.first.val ≤ k → k + 1 ≤ e.last.val → ∃ h ∈ hits, h.first.val ≤ k ∧ k + 1 ≤ h.last.val

theorem ofHit_linked {hits : List Hit} {h : Hit} (member : h ∈ hits) : Linked hits (ofHit h) := by
  intro k low high
  rw [ofHit_first] at low
  rw [ofHit_last] at high
  exact ⟨h, member, low, high⟩

theorem merge_linked {hits : List Hit} {e : Excerpt} (linked : Linked hits e) (gapless : e.Gapless)
    {h : Hit} (member : h ∈ hits) (meets : ¬ e.last.val < (ofHit h).first.val) :
    Linked hits (e.merge (ofHit h)) := by
  intro k low high
  rw [merge_first] at low
  rw [merge_ofHit_last gapless meets] at high
  rw [ofHit_first] at meets
  by_cases old : k + 1 ≤ e.last.val
  · exact linked k low old
  -- The window goes past the old end and does not begin after it, so it has both.
  · exact ⟨h, member, by omega, by omega⟩

theorem gather_linked {all hits : List Hit} {current : Excerpt} (gapless : current.Gapless)
    (linked : Linked all current) (among : ∀ h ∈ hits, h ∈ all) {e : Excerpt}
    (member : e ∈ gather current hits) : Linked all e := by
  fun_induction gather current hits with
  | case1 current => exact List.mem_singleton.1 member ▸ linked
  | case2 current h rest window apart ih =>
    have known := List.forall_mem_cons.1 among
    cases List.mem_cons.1 member with
    | inl here => exact here ▸ linked
    | inr later => exact ih (ofHit_gapless h) (ofHit_linked known.1) known.2 later
  | case3 current h rest window meets ih =>
    have known := List.forall_mem_cons.1 among
    have merged := merge_linked linked gapless known.1 meets
    exact ih (merge_ofHit_gapless gapless meets) merged known.2 member

def Spans (e : Excerpt) (low high : Int) : Prop := e.first.val ≤ low ∧ high ≤ e.last.val

theorem gather_spans_current {current : Excerpt} (gapless : current.Gapless) (hits : List Hit) :
    ∃ e ∈ gather current hits, e.Spans current.first.val current.last.val := by
  fun_induction gather current hits with
  | case1 current => exact ⟨current, List.mem_singleton_self _, Int.le_refl _, Int.le_refl _⟩
  | case2 current h rest window apart ih =>
    exact ⟨current, List.mem_cons_self, Int.le_refl _, Int.le_refl _⟩
  | case3 current h rest window meets ih =>
    obtain ⟨e, member, low, high⟩ := ih (merge_ofHit_gapless gapless meets)
    rw [merge_first] at low
    rw [merge_ofHit_last gapless meets] at high
    exact ⟨e, member, low, by omega⟩

theorem gather_spans_opened (h : Hit) (rest : List Hit) :
    ∃ e ∈ gather (ofHit h) rest, e.Spans h.first.val h.last.val := by
  rw [← ofHit_first, ← ofHit_last]
  exact gather_spans_current (ofHit_gapless h) rest

/-- Where windows begin in order, none begins before the excerpt that takes it in. -/
theorem gather_spans {current : Excerpt} {hits : List Hit} (gapless : current.Gapless)
    (after : ∀ h ∈ hits, current.first.val ≤ h.first.val)
    (order : hits.Pairwise fun a b => a.first.val ≤ b.first.val) {h : Hit} (member : h ∈ hits) :
    ∃ e ∈ gather current hits, e.Spans h.first.val h.last.val := by
  fun_induction gather current hits with
  | case1 current => cases member
  | case2 current first rest window apart ih =>
    have ordered := List.pairwise_cons.1 order
    have start : window.first.val = first.first.val := ofHit_first first
    have later : ∃ e ∈ gather window rest, e.Spans h.first.val h.last.val := by
      cases List.mem_cons.1 member with
      | inl here => exact here ▸ gather_spans_opened first rest
      | inr there => exact ih (ofHit_gapless first) (start ▸ ordered.1) ordered.2 there
    obtain ⟨e, inside, spans⟩ := later
    exact ⟨e, List.mem_cons_of_mem current inside, spans⟩
  | case3 current first rest window meets ih =>
    have ordered := List.pairwise_cons.1 order
    have behind := List.forall_mem_cons.1 after
    have merged := merge_ofHit_gapless gapless meets
    have start : (current.merge window).first = current.first := merge_first current window
    have stop := merge_ofHit_last gapless meets
    cases List.mem_cons.1 member with
    | inl here =>
      obtain ⟨e, inside, low, high⟩ := gather_spans_current merged rest
      rw [start] at low
      rw [stop] at high
      have begins := behind.1
      exact ⟨e, inside, by rw [here]; omega, by rw [here]; omega⟩
    | inr there => exact ih merged (start ▸ behind.2) ordered.2 there

theorem ofHits_told {hits : List Hit} {e : Excerpt} (member : e ∈ ofHits hits) {l : Line}
    (inside : l ∈ e.lines) : firstContent? hits l.number = some l.content := by
  cases hits with
  | nil => cases member
  | cons h rest =>
    have alone : Told [h] (ofHit h) := by
      constructor
      · intro l here
        rw [ofHit_lines] at here
        rw [firstContent?, List.findSome?_singleton]
        exact Hit.contentAt?_of_mem here
      · intro g here
        rw [ofHit_last]
        exact List.mem_singleton.1 here ▸ Int.le_refl _
    exact gather_told (ofHit_gapless h) member inside [h] alone

theorem ofHits_linked {hits : List Hit} {e : Excerpt} (member : e ∈ ofHits hits) :
    Linked hits e := by
  cases hits with
  | nil => cases member
  | cons h rest =>
    exact gather_linked (ofHit_gapless h) (ofHit_linked List.mem_cons_self)
      (fun _ later => List.mem_cons_of_mem h later) member

theorem ofHits_spans {hits : List Hit}
    (order : hits.Pairwise fun a b => a.first.val ≤ b.first.val) {h : Hit} (member : h ∈ hits) :
    ∃ e ∈ ofHits hits, e.Spans h.first.val h.last.val := by
  cases hits with
  | nil => cases member
  | cons first rest =>
    have ordered := List.pairwise_cons.1 order
    have start := ofHit_first first
    cases List.mem_cons.1 member with
    | inl here => exact here ▸ gather_spans_opened first rest
    | inr there => exact gather_spans (ofHit_gapless first) (start ▸ ordered.1) ordered.2 there

theorem eq_or_apart {hits : List Hit} {a b : Excerpt} (ha : a ∈ ofHits hits)
    (hb : b ∈ ofHits hits) : a = b ∨ a.last.val < b.first.val ∨ b.last.val < a.first.val := by
  have apart := ofHits_apart hits
  refine List.Pairwise.forall_of_forall_of_flip
    (R := fun a b => a = b ∨ a.last.val < b.first.val ∨ b.last.val < a.first.val) ?_ ?_ ?_ ha hb
  · exact fun _ _ => .inl rfl
  · exact apart.imp fun before => .inr (.inl before)
  · exact apart.imp fun after => .inr (.inr after)

theorem eq_of_numbered {hits : List Hit} {a b : Excerpt} (ha : a ∈ ofHits hits)
    (hb : b ∈ ofHits hits) {k : Int} (inA : Numbered a.lines k) (inB : Numbered b.lines k) :
    a = b := by
  rw [(ofHits_gapless ha).numbered_iff] at inA
  rw [(ofHits_gapless hb).numbered_iff] at inB
  rcases eq_or_apart ha hb with same | before | after
  · exact same
  · omega
  · omega

structure Covers (hits : List Hit) (es : List Excerpt) : Prop where
  present : ∀ k, (∃ e ∈ es, Numbered e.lines k) ↔ ∃ h ∈ hits, Numbered h.window k
  once : ((es.flatMap lines).map (·.number)).Nodup
  content : ∀ e ∈ es, ∀ l ∈ e.lines, firstContent? hits l.number = some l.content
  joined : ∀ k, (∃ e ∈ es, Numbered e.lines k ∧ Numbered e.lines (k + 1)) ↔
    ∃ h ∈ hits, Numbered h.window k ∧ Numbered h.window (k + 1)
  /-- Windows that only touch stay apart. -/
  touching : ∀ a ∈ hits, ∀ b ∈ hits, a.last.val + 1 = b.first.val →
    (∀ h ∈ hits, ¬ (Numbered h.window a.last.val ∧ Numbered h.window b.first.val)) →
    ∀ e ∈ es, ¬ (Numbered e.lines a.last.val ∧ Numbered e.lines b.first.val)
  /-- Windows that share a line come together. -/
  sharing : ∀ a ∈ hits, ∀ b ∈ hits, ∀ k, Numbered a.window k → Numbered b.window k →
    ∃ e ∈ es, ∀ j, Numbered a.window j ∨ Numbered b.window j → Numbered e.lines j

theorem Spans.numbered {e : Excerpt} {h : Hit} (spans : e.Spans h.first.val h.last.val)
    (gapless : e.Gapless) {k : Int} (inside : Numbered h.window k) : Numbered e.lines k := by
  have bounds := Hit.exists_mem_window.1 inside
  obtain ⟨low, high⟩ := spans
  exact gapless.numbered_iff.2 ⟨by omega, by omega⟩

theorem ofHits_joined {hits : List Hit}
    (order : hits.Pairwise fun a b => a.first.val ≤ b.first.val) (k : Int) :
    (∃ e ∈ ofHits hits, Numbered e.lines k ∧ Numbered e.lines (k + 1)) ↔
      ∃ h ∈ hits, Numbered h.window k ∧ Numbered h.window (k + 1) := by
  constructor
  · rintro ⟨e, member, here, next⟩
    have low := (ofHits_gapless member).numbered_iff.1 here
    have high := (ofHits_gapless member).numbered_iff.1 next
    obtain ⟨h, known, begins, ends⟩ := ofHits_linked member k low.1 high.2
    exact ⟨h, known, Hit.exists_mem_window.2 ⟨begins, by omega⟩,
      Hit.exists_mem_window.2 ⟨by omega, ends⟩⟩
  · rintro ⟨h, known, here, next⟩
    obtain ⟨e, member, spans⟩ := ofHits_spans order known
    have gapless := ofHits_gapless member
    exact ⟨e, member, spans.numbered gapless here, spans.numbered gapless next⟩

/-- The excerpts of hits whose windows begin in order. The hits' own numbers need no order. -/
theorem ofHits_covers (hits : List Hit)
    (order : hits.Pairwise fun a b => a.first.val ≤ b.first.val) : Covers hits (ofHits hits) where
  present k := by
    constructor
    · rintro ⟨e, member, l, inside, rfl⟩
      obtain ⟨h, known, told⟩ := List.exists_of_findSome?_eq_some (ofHits_told member inside)
      exact ⟨h, known, Hit.numbered_of_contentAt? told⟩
    · rintro ⟨h, known, here⟩
      obtain ⟨e, member, spans⟩ := ofHits_spans order known
      exact ⟨e, member, spans.numbered (ofHits_gapless member) here⟩
  once := ofHits_numbers_nodup hits
  content _ member _ inside := ofHits_told member inside
  joined := ofHits_joined order
  touching a _ b _ meets apart e member := by
    rintro ⟨left, right⟩
    rw [← meets] at right
    obtain ⟨h, known, both⟩ := (ofHits_joined order a.last.val).1 ⟨e, member, left, right⟩
    exact apart h known (meets ▸ both)
  sharing a ha b hb k inA inB := by
    obtain ⟨e, member, spansA⟩ := ofHits_spans order ha
    obtain ⟨f, other, spansB⟩ := ofHits_spans order hb
    have gapless := ofHits_gapless member
    have same : f = e := eq_of_numbered other member
      (spansB.numbered (ofHits_gapless other) inB) (spansA.numbered gapless inA)
    refine ⟨e, member, fun j either => ?_⟩
    cases either with
    | inl here => exact spansA.numbered gapless here
    | inr here => exact (same ▸ spansB).numbered gapless here

/-- A window inside another, the same hit twice, and a window that only touches. -/
theorem ofHits_covers_nested :
    let outer : Hit := ⟨"c", Signed64.clamp 3, ["a", "b"], ["d", "e"]⟩
    let inner : Hit := ⟨"d", Signed64.clamp 4, ["c"], []⟩
    let beside : Hit := ⟨"f", Signed64.clamp 6, [], ["g"]⟩
    [outer, inner, inner, beside].Pairwise (fun a b => a.first.val ≤ b.first.val) ∧
      Covers [outer, inner, inner, beside] (ofHits [outer, inner, inner, beside]) :=
  ⟨by decide, ofHits_covers _ (by decide)⟩

end Excerpt

end CodeSearch
