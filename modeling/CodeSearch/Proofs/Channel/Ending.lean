import CodeSearch.Proofs.Channel.History

/-!
A value whose listeners publish nothing themselves. It takes a step for each listener and for each
action of the turns that these do, whatever the listeners that come meanwhile would do.
-/
namespace CodeSearch.Channel

def Action.publishes : Action → Bool
  | .publish _ _ => true
  | _ => false

variable {s last : Stage}

theorem Stage.step_quiet {a : Action} (quiet : a.publishes = false) :
    (s.step (.act a)).2 = [] ∧ s.turns <+: (s.step (.act a)).1.turns := by
  cases a with
  | subscribe k name turns => exact ⟨rfl, List.prefix_append _ _⟩
  | cancel k name => exact ⟨rfl, by simp [Stage.step, Stage.cancel_turns]⟩
  | publish k value => cases quiet
  | describe k => exact ⟨rfl, List.prefix_rfl⟩

theorem Does.of_quiet {actions : List Action} (quiet : ∀ a ∈ actions, a.publishes = false) :
    ∃ c last, Does s (actions.map .act) c last ∧ c.size = actions.length ∧ s.turns <+: last.turns := by
  induction actions generalizing s with
  | nil => exact ⟨.done, s, .done s, rfl, List.prefix_rfl⟩
  | cons a actions ih =>
    obtain ⟨nothing, kept⟩ := s.step_quiet (quiet a List.mem_cons_self)
    obtain ⟨c, last, does, size, more⟩ := ih fun b member => quiet b (List.mem_cons_of_mem _ member)
    refine ⟨.deed s (.act a) .done c, last, .deed (nothing ▸ .done _) does, ?_, kept.trans more⟩
    simp [Course.size, size]

theorem Stage.nextTurn_of_call {l l' : Listener} {value : Int}
    (kept : (s.step (.call l value)).1.turns <+: last.turns) (other : l.number ≠ l'.number)
    (known : l'.number < s.turns.length) : last.nextTurn l' = s.nextTurn l' := by
  rw [Stage.step_call] at kept
  obtain ⟨more, turns⟩ := kept
  rw [← List.length_modify List.tail s.turns l.number] at known
  rw [Stage.nextTurn, Stage.nextTurn, ← turns, List.getElem?_append_left known,
    List.getElem?_modify_ne _ _ other]

theorem Does.of_quiet_calls {listeners : List Listener} (value : Int)
    (known : ∀ l ∈ listeners, l.number < s.turns.length)
    (apart : listeners.Pairwise (·.number ≠ ·.number))
    (quiet : ∀ a ∈ listeners.flatMap s.nextTurn, a.publishes = false) :
    ∃ c last, Does s (listeners.map (.call · value) ++ [.endPublish value]) c last ∧
      c.size = listeners.length + (listeners.flatMap s.nextTurn).length + 1 := by
  induction listeners generalizing s with
  | nil => exact ⟨_, _, .deed (.done _) (.done _), rfl⟩
  | cons l listeners ih =>
    simp only [List.mem_cons, forall_eq_or_imp] at known
    simp only [List.pairwise_cons] at apart
    simp only [List.flatMap_cons, List.mem_append] at quiet
    obtain ⟨under, mid, does, size, kept⟩ :=
      Does.of_quiet (s := (s.step (.call l value)).1) fun a member => quiet a (.inl member)
    have longer : s.turns.length ≤ mid.turns.length := by
      simpa [Stage.step_call] using kept.length_le
    -- Listeners subscribed meanwhile have numbers of their own, so the others keep their turns.
    have turns : listeners.flatMap mid.nextTurn = listeners.flatMap s.nextTurn := by
      have same : ∀ l' ∈ listeners, mid.nextTurn l' = s.nextTurn l' := fun l' member =>
        Stage.nextTurn_of_call kept (apart.1 l' member) (known.2 l' member)
      rw [List.flatMap_def, List.flatMap_def, List.map_congr_left same]
    obtain ⟨later, last, goesOn, after⟩ :=
      ih (fun l' member => Nat.lt_of_lt_of_le (known.2 l' member) longer) apart.2
        (fun a member => quiet a (.inr (turns ▸ member)))
    refine ⟨.deed s (.call l value) under later, last, .deed ?_ goesOn, ?_⟩
    · rw [Stage.step_call] at does ⊢
      exact does
    · simp only [Course.size, size, after, turns, List.length_cons, List.flatMap_cons,
        List.length_append]
      omega

variable {count : Nat} {h : List Change}

/-- Numbers tell the listeners of a channel apart, and each has its turns. -/
theorem Recorded.apart (recorded : Recorded count h s) {k : Nat} (within : k < count) :
    ((s.channel k).listeners.map (·.2)).Pairwise (·.number < ·.number) ∧
      ∀ l ∈ (s.channel k).listeners.map (·.2), l.number < s.turns.length := by
  have came := present_sublist k h
  rw [recorded.listeners k within]
  exact ⟨recorded.rising.sublist came, fun l member => recorded.numbered l (came.subset member)⟩

/-- The run is through with the value after these steps and goes on to what it had to do. -/
theorem Recorded.publish_ends (recorded : Recorded count h s) {k : Nat} (within : k < count)
    (value : Int)
    (quiet : ∀ a ∈ ((s.channel k).listeners.map (·.2)).flatMap s.nextTurn, a.publishes = false) :
    ∃ last : Stage, ∀ fuel later, s.run ((s.channel k).size +
        (((s.channel k).listeners.map (·.2)).flatMap s.nextTurn).length + 2 + fuel)
      (.act (.publish k value) :: later) = last.run fuel later := by
  obtain ⟨rising, known⟩ := recorded.apart within
  obtain ⟨under, last, does, size⟩ := Does.of_quiet_calls (s := s.write (.publishing value)) value
    known (rising.imp Nat.ne_of_lt) quiet
  rw [List.map_map] at does
  have whole : Does s [.act (.publish k value)] (.deed s (.act (.publish k value)) under .done) last :=
    .deed does (.done last)
  refine ⟨last, fun fuel later => ?_⟩
  rw [← whole.run fuel later, Course.size, size, List.length_map]
  rfl

end CodeSearch.Channel
