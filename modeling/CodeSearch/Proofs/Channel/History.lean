import CodeSearch.Proofs.Channel.Course

/-!
Who comes to the channels and who goes. The listeners of every stage of a run are those who came
before it and have not gone since.
-/
namespace CodeSearch.Channel

inductive Change where
  | joined (channel id : Nat) (l : Listener)
  | left (channel id : Nat)

namespace Change

def ofTask (s : Stage) : Task → List Change
  | .act (.subscribe k name _) => [.joined k (s.channel k).nextId ⟨name, s.turns.length⟩]
  | .act (.cancel k name) => (s.ids.lookup name).toList.map (.left k)
  | _ => []

def leaves (k id : Nat) : Change → Bool
  | .joined _ _ _ => false
  | .left channel other => channel == k && other == id

def comer? : Change → Option Listener
  | .joined _ _ l => some l
  | .left _ _ => none

end Change

/-- The listeners of a channel after some changes: those who joined it and have not left since, in
the order in which they came. -/
def present (k : Nat) : List Change → List (Nat × Listener)
  | [] => []
  | .joined channel id l :: later =>
    if channel = k ∧ later.any (Change.leaves k id) = false then (id, l) :: present k later
    else present k later
  | .left _ _ :: later => present k later

def comers (changes : List Change) : List Listener := changes.filterMap Change.comer?

theorem present_append_joined (k : Nat) (h : List Change) (channel id : Nat) (l : Listener) :
    present k (h ++ [.joined channel id l]) =
      present k h ++ if channel = k then [(id, l)] else [] := by
  induction h with
  | nil => simp [present]
  | cons c h ih =>
    cases c with
    | joined other id' l' =>
      have stays : Change.leaves k id' (.joined channel id l) = false := rfl
      simp only [List.cons_append, present, List.any_append, List.any_cons, List.any_nil, stays,
        Bool.or_false, ih]
      split <;> rfl
    | left other id' => simp only [List.cons_append, present, ih]

theorem present_append_left (k : Nat) (h : List Change) (channel id : Nat) :
    present k (h ++ [.left channel id]) =
      if channel = k then (present k h).filter (·.1 != id) else present k h := by
  induction h with
  | nil => simp [present]
  | cons c h ih =>
    cases c with
    | joined other id' l' =>
      by_cases here : channel = k
      · by_cases same : id' = id
        · simp_all [present, Change.leaves]
          split <;> simp
        · have unlike : (id == id') = false := beq_eq_false_iff_ne.2 (Ne.symm same)
          simp_all [present, Change.leaves]
          split <;> simp [same]
      · have unlike : (channel == k) = false := beq_eq_false_iff_ne.2 here
        simp_all [present, Change.leaves]
    | left other id' => simp only [List.cons_append, present, ih]

theorem present_sublist (k : Nat) (h : List Change) :
    List.Sublist ((present k h).map (·.2)) (comers h) := by
  induction h with
  | nil => exact List.Sublist.refl _
  | cons c h ih =>
    cases c with
    | joined other id l =>
      unfold present
      split
      · exact ih.cons_cons l
      · exact ih.cons l
    | left other id => exact ih

/-! The stages of a course, each with its history. -/

namespace Course

def changes : Course → List Change
  | done => []
  | deed s t under later => Change.ofTask s t ++ under.changes ++ later.changes

/-- A task that was done, with all that had changed before it. -/
structure Deed where
  before : List Change
  stage : Stage
  task : Task
  under : Course

def deeds (h : List Change) : Course → List Deed
  | done => []
  | deed s t under later =>
    ⟨h, s, t, under⟩ :: (under.deeds (h ++ Change.ofTask s t) ++
      later.deeds (h ++ Change.ofTask s t ++ under.changes))

end Course

/-- A stage has the listeners that its history tells, and each got a number above those of all who
came before. -/
structure Recorded (count : Nat) (h : List Change) (s : Stage) : Prop where
  width : s.channels.length = count
  listeners : ∀ k < count, (s.channel k).listeners = present k h
  numbered : ∀ l ∈ comers h, l.number < s.turns.length
  rising : (comers h).Pairwise (·.number < ·.number)

theorem Recorded.ofCount (count : Nat) : Recorded count [] (Stage.ofCount count) where
  width := List.length_replicate
  listeners k within := by simp [Stage.ofCount, Stage.channel, present, within]
  numbered _ member := nomatch member
  rising := List.Pairwise.nil

/-- The task leaves listeners and turns as they are, but for the turns taken. -/
theorem Recorded.of_unchanged {count : Nat} {h : List Change} {s s' : Stage}
    (recorded : Recorded count h s) (channels : s'.channels = s.channels)
    (turns : s'.turns.length = s.turns.length) : Recorded count h s' where
  width := by rw [channels, recorded.width]
  listeners k within := by
    rw [← recorded.listeners k within, Stage.channel, Stage.channel, channels]
  numbered l member := turns ▸ recorded.numbered l member
  rising := recorded.rising

variable {count : Nat} {h : List Change} {s last : Stage} {ts : List Task} {c : Course}

theorem Recorded.subscribe (recorded : Recorded count h s) (k : Nat) (name : String)
    (turns : List (List Action)) :
    Recorded count (h ++ [.joined k (s.channel k).nextId ⟨name, s.turns.length⟩])
      (s.subscribe k name turns) := by
  have comer : comers (h ++ [.joined k (s.channel k).nextId ⟨name, s.turns.length⟩]) =
      comers h ++ [⟨name, s.turns.length⟩] := by simp [comers, Change.comer?]
  constructor
  case width => exact (s.step_width (.act (.subscribe k name turns))).trans recorded.width
  case listeners =>
    intro j within
    rw [present_append_joined, ← recorded.listeners j within,
      s.channel_subscribe k name turns (recorded.width ▸ within)]
    split
    case isTrue same => simp [same, Channel.subscribe]
    case isFalse => simp
  case numbered =>
    intro l member
    rw [comer, List.mem_append, List.mem_singleton] at member
    simp only [Stage.subscribe, Stage.write, List.length_append, List.length_singleton]
    rcases member with earlier | rfl
    · exact Nat.lt_succ_of_lt (recorded.numbered l earlier)
    · exact Nat.lt_succ_self _
  case rising =>
    rw [comer, List.pairwise_append]
    refine ⟨recorded.rising, List.pairwise_singleton _ _, fun l earlier l' new => ?_⟩
    rw [List.mem_singleton.1 new]
    exact recorded.numbered l earlier

theorem Recorded.cancel (recorded : Recorded count h s) (k : Nat) (name : String) :
    Recorded count (h ++ (s.ids.lookup name).toList.map (.left k)) (s.cancel k name) := by
  cases found : s.ids.lookup name with
  | none =>
    simp only [Option.toList_none, List.map_nil, List.append_nil]
    simp only [Stage.cancel, found]
    exact recorded.of_unchanged rfl rfl
  | some id =>
    have comer : comers (h ++ [.left k id]) = comers h := by simp [comers, Change.comer?]
    simp only [Option.toList_some, List.map_cons, List.map_nil]
    constructor
    case width => exact (s.step_width (.act (.cancel k name))).trans recorded.width
    case listeners =>
      intro j within
      rw [present_append_left, ← recorded.listeners j within,
        s.channel_cancel k name (recorded.width ▸ within), found]
      split <;> rfl
    case numbered => rw [comer, Stage.cancel_turns]; exact recorded.numbered
    case rising => rw [comer]; exact recorded.rising

/-- Every task adds to the history what it changes, and nothing else comes about. -/
theorem Recorded.step (recorded : Recorded count h s) (t : Task) :
    Recorded count (h ++ Change.ofTask s t) (s.step t).1 := by
  cases t with
  | act a =>
    cases a with
    | subscribe k name turns => exact recorded.subscribe k name turns
    | cancel k name => exact recorded.cancel k name
    | publish k value =>
      simp only [Change.ofTask, List.append_nil]
      exact recorded.of_unchanged rfl rfl
    | describe k =>
      simp only [Change.ofTask, List.append_nil]
      exact recorded.of_unchanged rfl rfl
  | call l value =>
    simp only [Change.ofTask, List.append_nil, Stage.step_call]
    exact recorded.of_unchanged rfl (List.length_modify _ _ _)
  | endPublish value =>
    simp only [Change.ofTask, List.append_nil]
    exact recorded.of_unchanged rfl rfl

theorem Does.recorded (does : Does s ts c last) (recorded : Recorded count h s) :
    Recorded count (h ++ c.changes) last := by
  induction does generalizing h with
  | done s => simpa [Course.changes] using recorded
  | deed leads goesOn inner outer =>
    have whole := outer (inner (recorded.step _))
    simpa only [Course.changes, List.append_assoc] using whole

/-- Every task of a course is done at a stage that its history tells, and so is all under it. -/
theorem Does.deed_recorded (does : Does s ts c last) (recorded : Recorded count h s) :
    ∀ d ∈ c.deeds h, Recorded count d.before d.stage ∧
      ∃ mid, Does (d.stage.step d.task).1 (d.stage.step d.task).2 d.under mid := by
  induction does generalizing h with
  | done s => exact fun d member => nomatch member
  | @deed s mid last t ts under later leads goesOn inner outer =>
    intro d member
    simp only [Course.deeds, List.mem_cons, List.mem_append] at member
    have between := recorded.step t
    rcases member with rfl | within | after
    · exact ⟨recorded, _, leads⟩
    · exact inner between d within
    · exact outer (leads.recorded between) d after

end CodeSearch.Channel
