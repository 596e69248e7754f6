import CodeSearch.Proofs.Results.Numbering

/-!
What the sweep over the hits of a file makes of their windows. One step takes a window into the open
excerpt; three facts about it carry over to the whole sweep: excerpts stay gapless and apart, lines
come from windows only, and no line that is wanted gets lost.
-/
namespace CodeSearch.Excerpt

open Numeric

def markAll (hits : List Line) (l : Line) : Line := hits.foldl (fun l h => mark h.number l) l

/-- The hits of a window that the excerpt has already a line for. -/
def overlap (e window : Excerpt) : List Line :=
  window.lines.filter fun l => l.isHit && !decide (e.last.val < l.number.val)

def beyond (e window : Excerpt) : List Line :=
  window.lines.filter fun l => e.last.val < l.number.val

theorem merge_lines (e window : Excerpt) :
    (e.merge window).lines = e.lines.map (markAll (overlap e window)) ++ beyond e window := rfl

theorem mark_number (number : Signed64) (l : Line) : (mark number l).number = l.number := by
  unfold mark
  split <;> rfl

theorem mark_content (number : Signed64) (l : Line) : (mark number l).content = l.content := by
  unfold mark
  split <;> rfl

theorem mark_isHit (number : Signed64) (l : Line) :
    (mark number l).isHit = true ↔ l.isHit = true ∨ number = l.number := by
  unfold mark
  split
  · rename_i same
    simp [same]
  · rename_i other
    simp [Ne.symm other]

theorem markAll_number (hits : List Line) (l : Line) : (markAll hits l).number = l.number := by
  induction hits generalizing l with
  | nil => rfl
  | cons h hits ih => exact (ih (mark h.number l)).trans (mark_number h.number l)

theorem markAll_content (hits : List Line) (l : Line) : (markAll hits l).content = l.content := by
  induction hits generalizing l with
  | nil => rfl
  | cons h hits ih => exact (ih (mark h.number l)).trans (mark_content h.number l)

theorem markAll_isHit (hits : List Line) (l : Line) :
    (markAll hits l).isHit = true ↔ l.isHit = true ∨ ∃ h ∈ hits, h.number = l.number := by
  induction hits generalizing l with
  | nil => simp [markAll]
  | cons h hits ih =>
    have step : markAll (h :: hits) l = markAll hits (mark h.number l) := rfl
    simp only [step, ih, mark_isHit, mark_number, List.mem_cons, exists_eq_or_imp, or_assoc]

theorem mem_overlap {e window : Excerpt} {l : Line} :
    l ∈ overlap e window ↔ l ∈ window.lines ∧ l.isHit = true ∧ l.number.val ≤ e.last.val := by
  simp [overlap]

theorem mem_beyond {e window : Excerpt} {l : Line} :
    l ∈ beyond e window ↔ l ∈ window.lines ∧ e.last.val < l.number.val := by
  simp [beyond]

theorem mem_merge {e window : Excerpt} {l : Line} :
    l ∈ (e.merge window).lines ↔
      (∃ old ∈ e.lines, markAll (overlap e window) old = l) ∨ l ∈ beyond e window := by
  rw [merge_lines, List.mem_append, List.mem_map]

theorem merge_first (e window : Excerpt) : (e.merge window).first = e.first :=
  markAll_number _ e.head

/-- A window that begins no later than the excerpt ends, or right after it, leaves no gap. -/
theorem merge_gapless {e window : Excerpt} (gapless : e.Gapless) (run : window.Gapless)
    (meets : window.first.val ≤ e.last.val + 1) : (e.merge window).Gapless := by
  rw [Gapless, merge_first, merge_lines, RunsFrom.append_iff, List.length_map, gapless.length_lines]
  refine ⟨gapless.map _ (markAll_number _), ?_⟩
  have start : max window.first.val (e.last.val + 1) = e.last.val + 1 := by omega
  exact start ▸ run.filter e.last.val

theorem merge_ofHit_gapless {e : Excerpt} {h : Hit} (gapless : e.Gapless)
    (meets : ¬ e.last.val < (ofHit h).first.val) : (e.merge (ofHit h)).Gapless :=
  merge_gapless gapless (ofHit_gapless h) (by omega)

theorem gather_gapless {current : Excerpt} {hits : List Hit} (gapless : current.Gapless)
    {e : Excerpt} (member : e ∈ gather current hits) : e.Gapless := by
  fun_induction gather current hits with
  | case1 current => exact List.mem_singleton.1 member ▸ gapless
  | case2 current h rest window apart ih =>
    cases List.mem_cons.1 member with
    | inl here => exact here ▸ gapless
    | inr later => exact ih (ofHit_gapless h) later
  | case3 current h rest window meets ih => exact ih (merge_ofHit_gapless gapless meets) member

theorem first_le_of_mem_gather {current : Excerpt} {hits : List Hit} (gapless : current.Gapless)
    {e : Excerpt} (member : e ∈ gather current hits) : current.first.val ≤ e.first.val := by
  fun_induction gather current hits with
  | case1 current => exact List.mem_singleton.1 member ▸ Int.le_refl _
  | case2 current h rest window apart ih =>
    cases List.mem_cons.1 member with
    | inl here => exact here ▸ Int.le_refl _
    | inr later =>
      have order := gapless.first_le_last
      have further := ih (ofHit_gapless h) later
      omega
  | case3 current h rest window meets ih =>
    have further := ih (merge_ofHit_gapless gapless meets) member
    rwa [merge_first] at further

theorem gather_apart {current : Excerpt} {hits : List Hit} (gapless : current.Gapless) :
    (gather current hits).Pairwise fun a b => a.last.val < b.first.val := by
  fun_induction gather current hits with
  | case1 current => exact List.pairwise_singleton _ _
  | case2 current h rest window apart ih =>
    refine List.pairwise_cons.2 ⟨?_, ih (ofHit_gapless h)⟩
    intro e later
    have further : window.first.val ≤ e.first.val := first_le_of_mem_gather (ofHit_gapless h) later
    omega
  | case3 current h rest window meets ih => exact ih (merge_ofHit_gapless gapless meets)

/-- What holds of every line by its number and content, and of the number of every marked line. -/
def Sourced (line : Signed64 → String → Prop) (hit : Signed64 → Prop) (e : Excerpt) : Prop :=
  ∀ l ∈ e.lines, line l.number l.content ∧ (l.isHit = true → hit l.number)

section Sources

variable {line : Signed64 → String → Prop} {hit : Signed64 → Prop}

theorem merge_sourced {e window : Excerpt} (old : e.Sourced line hit)
    (new : window.Sourced line hit) : (e.merge window).Sourced line hit := by
  intro l member
  rcases mem_merge.1 member with ⟨before, there, rfl⟩ | past
  · rw [markAll_number, markAll_content]
    refine ⟨(old before there).1, ?_⟩
    intro marked
    rcases (markAll_isHit _ _).1 marked with already | ⟨h, overlapping, number⟩
    · exact (old before there).2 already
    · obtain ⟨there, isHit, -⟩ := mem_overlap.1 overlapping
      exact number ▸ (new h there).2 isHit
  · exact new l (mem_beyond.1 past).1

theorem gather_sourced {current : Excerpt} {hits : List Hit} (here : current.Sourced line hit)
    (windows : ∀ h ∈ hits, (ofHit h).Sourced line hit) {e : Excerpt}
    (member : e ∈ gather current hits) : e.Sourced line hit := by
  fun_induction gather current hits with
  | case1 current => exact List.mem_singleton.1 member ▸ here
  | case2 current h rest window apart ih =>
    have first := List.forall_mem_cons.1 windows
    cases List.mem_cons.1 member with
    | inl same => exact same ▸ here
    | inr later => exact ih first.1 first.2 later
  | case3 current h rest window meets ih =>
    have first := List.forall_mem_cons.1 windows
    exact ih (merge_sourced here first.1) first.2 member

end Sources

def Shown (l : Line) (ls : List Line) : Prop :=
  ∃ shown ∈ ls, shown.number = l.number ∧ (l.isHit = true → shown.isHit = true)

theorem Shown.of_mem {l : Line} {ls : List Line} (member : l ∈ ls) : Shown l ls :=
  ⟨l, member, rfl, id⟩

theorem Shown.trans {l : Line} {ls more : List Line} (shown : Shown l ls)
    (further : ∀ l ∈ ls, Shown l more) : Shown l more := by
  obtain ⟨here, member, number, mark⟩ := shown
  obtain ⟨there, inside, same, keep⟩ := further here member
  exact ⟨there, inside, same.trans number, fun marked => keep (mark marked)⟩

theorem merge_shows_old {e window : Excerpt} {l : Line} (member : l ∈ e.lines) :
    Shown l (e.merge window).lines := by
  refine ⟨markAll (overlap e window) l, mem_merge.2 (.inl ⟨l, member, rfl⟩), ?_, ?_⟩
  · exact markAll_number _ l
  · exact fun marked => (markAll_isHit _ l).2 (.inl marked)

/-- Only lines before the excerpt begins can get lost. -/
theorem merge_shows_new {e window : Excerpt} (gapless : e.Gapless) {l : Line}
    (member : l ∈ window.lines) (inside : e.first.val ≤ l.number.val) :
    Shown l (e.merge window).lines := by
  by_cases past : e.last.val < l.number.val
  · exact .of_mem (mem_merge.2 (.inr (mem_beyond.2 ⟨member, past⟩)))
  · have length := gapless.length_lines
    obtain ⟨old, there, number⟩ := gapless.exists_number inside (by omega)
    have same : old.number = l.number := Bounded.ext number
    refine ⟨markAll (overlap e window) old, mem_merge.2 (.inl ⟨old, there, rfl⟩), ?_, ?_⟩
    · exact (markAll_number _ old).trans same
    · intro marked
      have overlapping := mem_overlap.2 ⟨member, marked, Int.not_lt.1 past⟩
      exact (markAll_isHit _ old).2 (.inr ⟨l, overlapping, same.symm⟩)

theorem gather_shows_current (current : Excerpt) (hits : List Hit) :
    ∀ l ∈ current.lines, Shown l ((gather current hits).flatMap lines) := by
  fun_induction gather current hits with
  | case1 current => exact fun l member => .of_mem (by simpa using member)
  | case2 current h rest window apart ih =>
    exact fun l member => .of_mem (List.mem_append_left _ member)
  | case3 current h rest window meets ih =>
    exact fun l member => (merge_shows_old member).trans ih

theorem mem_ofHit_lines {h : Hit} {l : Line} (member : l ∈ h.window) : l ∈ (ofHit h).lines := by
  rw [ofHit_lines]
  exact member

theorem gather_shows_opened {h : Hit} (rest : List Hit) {l : Line} (member : l ∈ h.window) :
    Shown l ((gather (ofHit h) rest).flatMap lines) :=
  gather_shows_current (ofHit h) rest l (mem_ofHit_lines member)

/-- The lines that are wanted of the windows are all shown, if none of them comes before the windows
that were taken in earlier. -/
theorem gather_shows {wanted : Hit → Line → Prop} (ofWindow : ∀ h l, wanted h l → l ∈ h.window)
    {current : Excerpt} {hits : List Hit} (gapless : current.Gapless)
    (after : ∀ h ∈ hits, ∀ l, wanted h l → current.first.val ≤ l.number.val)
    (order : hits.Pairwise fun a b => ∀ l, wanted b l → a.first.val ≤ l.number.val)
    {h : Hit} (member : h ∈ hits) {l : Line} (want : wanted h l) :
    Shown l ((gather current hits).flatMap lines) := by
  fun_induction gather current hits with
  | case1 current => cases member
  | case2 current first rest window apart ih =>
    have ordered := List.pairwise_cons.1 order
    have later : Shown l ((gather window rest).flatMap lines) := by
      cases List.mem_cons.1 member with
      | inl here => exact gather_shows_opened rest (here ▸ ofWindow h l want)
      | inr there =>
        have start : window.first.val = first.first.val := ofHit_first first
        exact ih (ofHit_gapless first) (fun h there l want => start ▸ ordered.1 h there l want)
          ordered.2 there
    exact later.trans fun _ shown => .of_mem (List.mem_append_right _ shown)
  | case3 current first rest window meets ih =>
    have ordered := List.pairwise_cons.1 order
    have behind := List.forall_mem_cons.1 after
    cases List.mem_cons.1 member with
    | inl here =>
      have inside : l ∈ window.lines := mem_ofHit_lines (here ▸ ofWindow h l want)
      have low := behind.1 l (here ▸ want)
      exact (merge_shows_new gapless inside low).trans (gather_shows_current _ rest)
    | inr there =>
      have same : (current.merge window).first = current.first := merge_first current window
      exact ih (merge_ofHit_gapless gapless meets) (same ▸ behind.2) ordered.2 there

theorem ofHits_gapless {hits : List Hit} {e : Excerpt} (member : e ∈ ofHits hits) : e.Gapless := by
  cases hits with
  | nil => cases member
  | cons h rest => exact gather_gapless (ofHit_gapless h) member

theorem ofHits_apart (hits : List Hit) :
    (ofHits hits).Pairwise fun a b => a.last.val < b.first.val := by
  cases hits with
  | nil => exact .nil
  | cons h rest => exact gather_apart (ofHit_gapless h)

theorem ofHits_increasing (hits : List Hit) :
    ((ofHits hits).flatMap lines).Pairwise fun a b => a.number.val < b.number.val := by
  refine List.pairwise_flatMap.2 ⟨fun e member => (ofHits_gapless member).increasing, ?_⟩
  refine (ofHits_apart hits).imp_of_mem ?_
  intro a b ha hb apart x hx y hy
  have below := (ofHits_gapless ha).le_last hx
  have above := (ofHits_gapless hb).first_le hy
  omega

theorem ofHits_numbers_nodup (hits : List Hit) :
    (((ofHits hits).flatMap lines).map (·.number)).Nodup := by
  apply List.pairwise_map.2
  apply (ofHits_increasing hits).imp
  intro a b less same
  rw [same] at less
  exact Int.lt_irrefl _ less

theorem eq_of_number {ls : List Line}
    (increasing : ls.Pairwise fun a b => a.number.val < b.number.val) {a b : Line} (ha : a ∈ ls)
    (hb : b ∈ ls) (same : a.number = b.number) : a = b := by
  induction ls with
  | nil => cases ha
  | cons l ls ih =>
    have ordered := List.pairwise_cons.1 increasing
    rcases List.mem_cons.1 ha with rfl | later
    · rcases List.mem_cons.1 hb with rfl | behind
      · rfl
      · have less := ordered.1 b behind
        rw [same] at less
        exact (Int.lt_irrefl _ less).elim
    · rcases List.mem_cons.1 hb with rfl | behind
      · have less := ordered.1 a later
        rw [same] at less
        exact (Int.lt_irrefl _ less).elim
      · exact ih ordered.2 later behind

theorem ofHits_sourced {line : Signed64 → String → Prop} {hit : Signed64 → Prop} {hits : List Hit}
    (windows : ∀ h ∈ hits, (ofHit h).Sourced line hit) {e : Excerpt} (member : e ∈ ofHits hits) :
    e.Sourced line hit := by
  cases hits with
  | nil => cases member
  | cons h rest =>
    have first := List.forall_mem_cons.1 windows
    exact gather_sourced first.1 first.2 member

theorem ofHits_shows {wanted : Hit → Line → Prop} (ofWindow : ∀ h l, wanted h l → l ∈ h.window)
    {hits : List Hit} (order : hits.Pairwise fun a b => ∀ l, wanted b l → a.first.val ≤ l.number.val)
    {h : Hit} (member : h ∈ hits) {l : Line} (want : wanted h l) :
    Shown l ((ofHits hits).flatMap lines) := by
  cases hits with
  | nil => cases member
  | cons first rest =>
    have ordered := List.pairwise_cons.1 order
    have start := ofHit_first first
    cases List.mem_cons.1 member with
    | inl here => exact gather_shows_opened rest (here ▸ ofWindow h l want)
    | inr there =>
      exact gather_shows ofWindow (ofHit_gapless first)
        (fun h there l want => start ▸ ordered.1 h there l want) ordered.2 there want

end CodeSearch.Excerpt
