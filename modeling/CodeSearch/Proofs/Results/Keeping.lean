import CodeSearch.Proofs.Results.Layout

/-!
What of the windows is kept, for hits in the order of their numbers. A window with more context than
the one before it may begin before the open excerpt does. No hit gets lost by that; a line of context
gets lost exactly if an excerpt that was opened earlier begins after it and no other window brings it.
-/
namespace CodeSearch

namespace Hit

theorem first_le_number (h : Hit) : h.first.val ≤ h.number.val := by
  have length := h.linesBefore_length
  omega

theorem numbered_window {h : Hit} {k : Int} :
    Numbered h.window k ↔ h.first.val ≤ k ∧ k ≤ h.last.val := exists_mem_window

end Hit

namespace Excerpt

open Numeric

structure Marks (hits : List Hit) (shown : List Line) : Prop where
  marked : ∀ number : Signed64,
    (∃ l ∈ shown, l.isHit = true ∧ l.number = number) ↔ ∃ h ∈ hits, h.number = number
  once : ∀ h ∈ hits, (shown.map (·.number)).count h.number = 1

theorem ofHits_number_once {hits : List Hit} {number : Signed64}
    (listed : number ∈ ((ofHits hits).flatMap lines).map (·.number)) :
    (((ofHits hits).flatMap lines).map (·.number)).count number = 1 := by
  rw [(ofHits_numbers_nodup hits).count, if_pos listed]

theorem ofHits_shows_hit {hits : List Hit}
    (order : hits.Pairwise fun a b => a.number.val ≤ b.number.val) {h : Hit} (member : h ∈ hits) :
    Shown h.line ((ofHits hits).flatMap lines) := by
  have ofWindow : ∀ (h : Hit) (l : Line), l = h.line → l ∈ h.window := by
    rintro h l rfl
    exact h.line_mem_window
  apply ofHits_shows ofWindow _ member rfl
  apply order.imp
  rintro a b ordered l rfl
  exact Int.le_trans a.first_le_number ordered

/-- Every hit is marked on one line, and no other line is. A window may begin before the open
excerpt does, but its hit comes after all excerpts were opened. -/
theorem ofHits_marks (hits : List Hit)
    (order : hits.Pairwise fun a b => a.number.val ≤ b.number.val) :
    Marks hits ((ofHits hits).flatMap lines) := by
  constructor
  case marked =>
    intro number
    constructor
    · rintro ⟨l, member, marked, rfl⟩
      obtain ⟨e, block, line⟩ := List.mem_flatMap.1 member
      exact (ofHits_from_windows block l line).2 marked
    · rintro ⟨h, member, rfl⟩
      obtain ⟨shown, there, number, marked⟩ := ofHits_shows_hit order member
      exact ⟨shown, there, marked rfl, number⟩
  case once =>
    intro h member
    obtain ⟨shown, there, number, -⟩ := ofHits_shows_hit order member
    apply ofHits_number_once
    exact List.mem_map.2 ⟨shown, there, number⟩

/-- The second window begins before the first one, the fourth before them all. -/
theorem ofHits_marks_backwards :
    let hits : List Hit := [⟨"e", Signed64.clamp 5, ["d"], ["f"]⟩,
      ⟨"f", Signed64.clamp 6, ["c", "d", "e"], []⟩, ⟨"f", Signed64.clamp 6, [], ["g", "h", "i"]⟩,
      ⟨"h", Signed64.clamp 8, ["a", "b", "c", "d", "e", "f", "g"], []⟩]
    hits.Pairwise (fun a b => a.number.val ≤ b.number.val) ∧
      Marks hits ((ofHits hits).flatMap lines) :=
  ⟨by decide, ofHits_marks _ (by decide)⟩

/-- A window that begins past those before it opens an excerpt. -/
def Opens (before : List Hit) (h : Hit) : Prop := ∀ g ∈ before, g.last.val < h.first.val

/-- No window that opened an excerpt begins after `k`. -/
def OpenAt (before : List Hit) (k : Int) : Prop :=
  ∀ earlier o, earlier ++ [o] <+: before → Opens earlier o → o.first.val ≤ k

/-- One of the windows that follow those `before` has the number `k`, and no excerpt that was opened
until then begins after `k`. -/
def KeptAfter (before hits : List Hit) (k : Int) : Prop :=
  ∃ between h, between ++ [h] <+: hits ∧ Numbered h.window k ∧ OpenAt (before ++ between) k

def Kept (hits : List Hit) (k : Int) : Prop := KeptAfter [] hits k

theorem openAt_nil (k : Int) : OpenAt [] k := by
  intro earlier o begins
  simp at begins

theorem openAt_concat {before : List Hit} {h : Hit} {k : Int} :
    OpenAt (before ++ [h]) k ↔ OpenAt before k ∧ (Opens before h → h.first.val ≤ k) := by
  constructor
  · intro all
    constructor
    · intro earlier o begins
      exact all earlier o (begins.trans (List.prefix_append before [h]))
    · exact all before h List.prefix_rfl
  · rintro ⟨old, new⟩ earlier o begins opens
    rcases List.prefix_concat_iff.1 begins with whole | begins
    · obtain ⟨rfl, same⟩ := List.append_inj' whole rfl
      cases same
      exact new opens
    · exact old earlier o begins opens

theorem not_keptAfter_nil (before : List Hit) (k : Int) : ¬ KeptAfter before [] k := by
  rintro ⟨between, h, begins, -⟩
  simp at begins

theorem keptAfter_cons {before rest : List Hit} {h : Hit} {k : Int} :
    KeptAfter before (h :: rest) k ↔
      Numbered h.window k ∧ OpenAt before k ∨ KeptAfter (before ++ [h]) rest k := by
  constructor
  · rintro ⟨between, g, begins, inside, opened⟩
    cases between with
    | nil =>
      obtain ⟨rfl, -⟩ := List.cons_prefix_cons.1 begins
      rw [List.append_nil] at opened
      exact .inl ⟨inside, opened⟩
    | cons first between =>
      obtain ⟨rfl, later⟩ := List.cons_prefix_cons.1 begins
      exact .inr ⟨between, g, later, inside, by simpa using opened⟩
  · rintro (⟨inside, opened⟩ | ⟨between, g, begins, inside, opened⟩)
    · exact ⟨[], h, by simp, inside, by simpa using opened⟩
    · exact ⟨h :: between, g, by simpa using begins, inside, by simpa using opened⟩

/-- The excerpt that is open after these windows, by what they say of its bounds. -/
structure Follows (before : List Hit) (current : Excerpt) : Prop where
  start : ∀ k, current.first.val ≤ k ↔ OpenAt before k
  reach : ∀ k, current.last.val < k ↔ ∀ g ∈ before, g.last.val < k

theorem Follows.alone (h : Hit) : Follows [h] (ofHit h) := by
  constructor
  · intro k
    have first : OpenAt ([] ++ [h]) k ↔ OpenAt [] k ∧ (Opens [] h → h.first.val ≤ k) :=
      openAt_concat
    have opens : Opens [] h := by simp [Opens]
    rw [ofHit_first]
    simpa [openAt_nil, opens] using first.symm
  · intro k
    simp [ofHit_last]

theorem Follows.opened {before : List Hit} {e : Excerpt} (follows : Follows before e)
    (gapless : e.Gapless) {h : Hit} (apart : e.last.val < (ofHit h).first.val) :
    Follows (before ++ [h]) (ofHit h) := by
  have order := gapless.first_le_last
  have window := (ofHit_gapless h).first_le_last
  rw [ofHit_first] at apart window
  rw [ofHit_last] at window
  constructor
  · intro k
    have opens : Opens before h := (follows.reach _).1 apart
    rw [ofHit_first, openAt_concat, ← follows.start]
    constructor
    · intro low
      exact ⟨by omega, fun _ => low⟩
    · intro low
      exact low.2 opens
  · intro k
    rw [ofHit_last, List.forall_mem_append, ← follows.reach, List.forall_mem_singleton]
    omega

theorem Follows.merged {before : List Hit} {e : Excerpt} (follows : Follows before e)
    (gapless : e.Gapless) {h : Hit} (meets : ¬ e.last.val < (ofHit h).first.val) :
    Follows (before ++ [h]) (e.merge (ofHit h)) := by
  constructor
  · intro k
    have closed : ¬ Opens before h := by
      rw [ofHit_first] at meets
      exact mt (follows.reach _).2 meets
    rw [merge_first, openAt_concat, ← follows.start]
    simp [closed]
  · intro k
    rw [merge_ofHit_last gapless meets, List.forall_mem_append, ← follows.reach,
      List.forall_mem_singleton]
    omega

theorem Follows.numbered_opened {before : List Hit} {e : Excerpt} (follows : Follows before e)
    (gapless : e.Gapless) {h : Hit} (apart : e.last.val < (ofHit h).first.val) (k : Int) :
    Numbered (ofHit h).lines k ↔ Numbered h.window k ∧ OpenAt before k := by
  have order := gapless.first_le_last
  rw [ofHit_lines, Hit.numbered_window, ← follows.start]
  rw [ofHit_first] at apart
  omega

theorem Follows.numbered_merged {before : List Hit} {e : Excerpt} (follows : Follows before e)
    (gapless : e.Gapless) {h : Hit} (meets : ¬ e.last.val < (ofHit h).first.val) (k : Int) :
    Numbered (e.merge (ofHit h)).lines k ↔
      Numbered e.lines k ∨ Numbered h.window k ∧ OpenAt before k := by
  rw [(merge_ofHit_gapless gapless meets).numbered_iff, merge_first,
    merge_ofHit_last gapless meets, gapless.numbered_iff, Hit.numbered_window, ← follows.start]
  rw [ofHit_first] at meets
  omega

theorem gather_ne_nil (current : Excerpt) (hits : List Hit) : gather current hits ≠ [] := by
  fun_induction gather current hits with
  | case1 current => simp
  | case2 current h rest window apart ih => simp
  | case3 current h rest window meets ih => exact ih

theorem gather_numbered_iff {current : Excerpt} {hits : List Hit} (gapless : current.Gapless)
    (k : Int) : ∀ before, Follows before current →
      ((∃ e ∈ gather current hits, Numbered e.lines k) ↔
        Numbered current.lines k ∨ KeptAfter before hits k) := by
  fun_induction gather current hits with
  | case1 current =>
    intro before follows
    simp [not_keptAfter_nil]
  | case2 current h rest window apart ih =>
    intro before follows
    have later := ih (ofHit_gapless h) (before ++ [h]) (follows.opened gapless apart)
    rw [follows.numbered_opened gapless apart] at later
    simp only [List.mem_cons, exists_eq_or_imp, later, keptAfter_cons]
  | case3 current h rest window meets ih =>
    intro before follows
    have later := ih (merge_ofHit_gapless gapless meets) (before ++ [h])
      (follows.merged gapless meets)
    rw [follows.numbered_merged gapless meets] at later
    rw [later, keptAfter_cons, or_assoc]

theorem ofHits_numbered_iff (hits : List Hit) (k : Int) :
    (∃ e ∈ ofHits hits, Numbered e.lines k) ↔ Kept hits k := by
  cases hits with
  | nil => simp [ofHits, Kept, not_keptAfter_nil]
  | cons h rest =>
    rw [ofHits, gather_numbered_iff (ofHit_gapless h) k [h] (.alone h), Kept, keptAfter_cons,
      ofHit_lines]
    simp [openAt_nil]

theorem gather_last_follows {current : Excerpt} {hits : List Hit} (gapless : current.Gapless)
    {e : Excerpt} (last : (gather current hits).getLast? = some e) :
    ∀ before, Follows before current → Follows (before ++ hits) e := by
  fun_induction gather current hits with
  | case1 current =>
    intro before follows
    cases last
    simpa using follows
  | case2 current h rest window apart ih =>
    intro before follows
    have rest_last : (gather window rest).getLast? = some e := by
      rw [List.getLast?_cons] at last
      cases ended : (gather window rest).getLast? with
      | none => exact absurd (List.getLast?_eq_none_iff.1 ended) (gather_ne_nil window rest)
      | some other => rwa [ended] at last
    have later := ih (ofHit_gapless h) rest_last (before ++ [h]) (follows.opened gapless apart)
    simpa using later
  | case3 current h rest window meets ih =>
    intro before follows
    have later := ih (merge_ofHit_gapless gapless meets) last (before ++ [h])
      (follows.merged gapless meets)
    simpa using later

theorem ofHits_last_follows {hits : List Hit} {e : Excerpt}
    (last : (ofHits hits).getLast? = some e) : Follows hits e := by
  cases hits with
  | nil => cases last
  | cons h rest => exact gather_last_follows (ofHit_gapless h) last [h] (.alone h)

theorem kept_of_number_le {hits before : List Hit} {h : Hit} {k : Int}
    (order : hits.Pairwise fun a b => a.number.val ≤ b.number.val) (begins : before ++ [h] <+: hits)
    (inside : Numbered h.window k) (past : h.number.val ≤ k) : Kept hits k := by
  refine ⟨before, h, begins, inside, ?_⟩
  intro earlier o among opens
  -- An earlier window has its hit no later, and begins with it or before.
  have member : o ∈ before := among.subset (by simp)
  have ordered := (List.pairwise_append.1 (order.sublist begins.sublist)).2.2 o member h (by simp)
  have low := o.first_le_number
  omega

structure Keeps (hits : List Hit) (shown : List Line) : Prop where
  /-- When the next window comes, this is where the open excerpt starts. -/
  start : ∀ before e, before <+: hits → (ofHits before).getLast? = some e →
    ∀ k, e.first.val ≤ k ↔ OpenAt before k
  kept : ∀ number : Signed64, Kept hits number.val → (shown.map (·.number)).count number = 1
  lost : ∀ number : Signed64, ¬ Kept hits number.val → (shown.map (·.number)).count number = 0
  context : ∀ h ∈ hits, ∀ l ∈ h.window, ¬ Kept hits l.number.val → l ∈ h.linesBefore
  whole : (∀ before h, before ++ [h] <+: hits → OpenAt before h.first.val) →
    ∀ h ∈ hits, ∀ l ∈ h.window, (shown.map (·.number)).count l.number = 1

theorem OpenAt.mono {before : List Hit} {j k : Int} (opened : OpenAt before j) (le : j ≤ k) :
    OpenAt before k := by
  intro earlier o begins opens
  exact Int.le_trans (opened earlier o begins opens) le

theorem concat_prefix_of_mem {hits : List Hit} {h : Hit} (member : h ∈ hits) :
    ∃ before, before ++ [h] <+: hits := by
  obtain ⟨before, after, rfl⟩ := List.append_of_mem member
  exact ⟨before, after, by simp⟩

theorem mem_numbers_iff_kept (hits : List Hit) (number : Signed64) :
    number ∈ ((ofHits hits).flatMap lines).map (·.number) ↔ Kept hits number.val := by
  rw [← ofHits_numbered_iff]
  constructor
  · intro member
    obtain ⟨l, there, rfl⟩ := List.mem_map.1 member
    obtain ⟨e, block, line⟩ := List.mem_flatMap.1 there
    exact ⟨e, block, l, line, rfl⟩
  · rintro ⟨e, block, l, line, same⟩
    obtain rfl : l.number = number := Bounded.ext same
    exact List.mem_map_of_mem (List.mem_flatMap_of_mem block line)

theorem count_of_kept {hits : List Hit} {number : Signed64} (kept : Kept hits number.val) :
    (((ofHits hits).flatMap lines).map (·.number)).count number = 1 := by
  apply ofHits_number_once
  exact (mem_numbers_iff_kept hits number).2 kept

theorem count_of_not_kept {hits : List Hit} {number : Signed64} (lost : ¬ Kept hits number.val) :
    (((ofHits hits).flatMap lines).map (·.number)).count number = 0 := by
  apply List.count_eq_zero_of_not_mem
  exact mt (mem_numbers_iff_kept hits number).1 lost

theorem linesBefore_of_not_kept {hits : List Hit}
    (order : hits.Pairwise fun a b => a.number.val ≤ b.number.val) {h : Hit} (member : h ∈ hits)
    {l : Line} (inside : l ∈ h.window) (lost : ¬ Kept hits l.number.val) : l ∈ h.linesBefore := by
  obtain ⟨before, begins⟩ := concat_prefix_of_mem member
  have early : ¬ h.number.val ≤ l.number.val := fun past =>
    lost (kept_of_number_le order begins ⟨l, inside, rfl⟩ past)
  rcases Hit.mem_window.1 inside with context | rfl | later
  · exact context
  · exact absurd (Int.le_refl _) early
  · rw [Hit.linesAfter_eq] at later
    have past := Hit.contextFrom_number later
    omega

theorem kept_of_never_backwards {hits : List Hit}
    (never : ∀ before h, before ++ [h] <+: hits → OpenAt before h.first.val) {h : Hit}
    (member : h ∈ hits) {l : Line} (inside : l ∈ h.window) : Kept hits l.number.val := by
  obtain ⟨before, begins⟩ := concat_prefix_of_mem member
  have numbered : Numbered h.window l.number.val := ⟨l, inside, rfl⟩
  have low := (Hit.numbered_window.1 numbered).1
  exact ⟨before, h, begins, numbered, (never before h begins).mono low⟩

/-- A number of a window is on one line of one excerpt exactly if it is kept. What is lost comes
before the hit of the window, and only where the open excerpt begins after the window does. -/
theorem ofHits_keeps (hits : List Hit)
    (order : hits.Pairwise fun a b => a.number.val ≤ b.number.val) :
    Keeps hits ((ofHits hits).flatMap lines) := by
  constructor
  case start =>
    intro before e _ last
    exact (ofHits_last_follows last).start
  case kept => exact fun _ => count_of_kept
  case lost => exact fun _ => count_of_not_kept
  case context => exact fun _ member _ inside => linesBefore_of_not_kept order member inside
  case whole =>
    intro never h member l inside
    exact count_of_kept (kept_of_never_backwards never member inside)

theorem ofHits_keeps_suffix :
    let hits : List Hit :=
      [⟨"e", Signed64.clamp 5, [], []⟩, ⟨"f", Signed64.clamp 6, ["c", "d", "e"], []⟩]
    hits.Pairwise (fun a b => a.number.val ≤ b.number.val) ∧
      Keeps hits ((ofHits hits).flatMap lines) :=
  ⟨by decide, ofHits_keeps _ (by decide)⟩

/-- Hits in order, and lines 3 and 4 of a window that begins before the open excerpt. -/
theorem ofHits_loses_context :
    let wide : Hit := ⟨"f", Signed64.clamp 6, ["c", "d", "e"], []⟩
    let hits : List Hit := [⟨"e", Signed64.clamp 5, [], []⟩, wide]
    hits.Pairwise (fun a b => a.number.val ≤ b.number.val) ∧
      wide.window.map (·.number.val) = [3, 4, 5, 6] ∧
      ((ofHits hits).map fun e => e.lines.map (·.number.val)) = [[5, 6]] ∧
      ¬ ∀ h ∈ hits, ∀ l ∈ h.window,
        (((ofHits hits).flatMap lines).map (·.number)).count l.number = 1 := by
  decide

end Excerpt

end CodeSearch
