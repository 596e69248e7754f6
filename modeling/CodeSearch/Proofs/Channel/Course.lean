import CodeSearch.Channel.Script

/-!
The course of a run on channels, as a tree: each task stands with those that it leads to. A run
always does the task that came last, so it goes through the tree in order, and what a task leads to
is over before the tasks beside it go on.
-/
namespace CodeSearch.Channel

namespace Stage

theorem getD_set {channels : List (Channel Listener)} (k j : Nat) (c : Channel Listener) :
    (channels.set k c)[j]?.getD {} =
      if k = j ∧ j < channels.length then c else channels[j]?.getD {} := by
  rw [List.getElem?_set]
  by_cases same : k = j
  · subst same
    by_cases within : k < channels.length <;> simp [within]
  · simp [same]

theorem cancel_turns (s : Stage) (k : Nat) (name : String) :
    (s.cancel k name).turns = s.turns := by
  unfold cancel
  split <;> rfl

theorem channel_subscribe (s : Stage) (j : Nat) (name : String) (turns : List (List Action)) {k : Nat}
    (within : k < s.channels.length) : (s.subscribe j name turns).channel k =
      if j = k then (s.channel k).subscribe ⟨name, s.turns.length⟩ else s.channel k := by
  simp only [channel, subscribe, write, getD_set, within, and_true]
  split
  case isTrue same => rw [same]
  case isFalse => rfl

theorem channel_cancel (s : Stage) (j : Nat) (name : String) {k : Nat}
    (within : k < s.channels.length) : (s.cancel j name).channel k =
      if j = k then ((s.ids.lookup name).map (s.channel k).cancel).getD (s.channel k)
      else s.channel k := by
  unfold cancel
  cases s.ids.lookup name with
  | none => simp [channel, write]
  | some id =>
    simp only [channel, write, getD_set, within, and_true]
    split
    case isTrue same => rw [same]; rfl
    case isFalse => rfl

def nextTurn (s : Stage) (l : Listener) : List Action := (s.turns[l.number]?.getD []).headD []

/-- A call takes the next turn of its listener, and of no other. -/
theorem step_call (s : Stage) (l : Listener) (value : Int) :
    s.step (.call l value) =
      ({ s.write (.called l.name value) with turns := s.turns.modify l.number List.tail },
        (s.nextTurn l).map .act) := by
  simp only [step, nextTurn, write]
  cases found : s.turns[l.number]? with
  | none =>
    rw [List.modify_eq_self (List.getElem?_eq_none_iff.1 found)]
    rfl
  | some turns =>
    rw [List.modify_eq_set, found]
    cases turns with
    | nil =>
      obtain ⟨within, empty⟩ := List.getElem?_eq_some_iff.1 found
      have same : s.turns.set l.number [] = s.turns := empty ▸ List.set_getElem_self within
      simp [same]
    | cons turn later => rfl

theorem step_width (s : Stage) (t : Task) : (s.step t).1.channels.length = s.channels.length := by
  cases t with
  | act a =>
    cases a with
    | subscribe k name turns => exact List.length_set
    | cancel k name =>
      simp only [step, cancel]
      split
      · rfl
      · exact List.length_set
    | publish k value => rfl
    | describe k => rfl
  | call l value => rw [step_call]; rfl
  | endPublish value => rfl

theorem step_log (s : Stage) (t : Task) : ∃ e, (s.step t).1.log = e :: s.log := by
  cases t with
  | act a =>
    cases a with
    | subscribe k name turns => exact ⟨_, rfl⟩
    | cancel k name =>
      simp only [step, cancel]
      split <;> exact ⟨_, rfl⟩
    | publish k value => exact ⟨_, rfl⟩
    | describe k => exact ⟨_, rfl⟩
  | call l value => rw [step_call]; exact ⟨_, rfl⟩
  | endPublish value => exact ⟨_, rfl⟩

end Stage

inductive Course where
  | done
  /-- A task done at a stage, with what it leads to, and what is done after it. -/
  | deed (s : Stage) (t : Task) (under later : Course)

namespace Course

def tasks : Course → List Task
  | done => []
  | deed _ t _ later => t :: later.tasks

def size : Course → Nat
  | done => 0
  | deed _ _ under later => under.size + later.size + 1

end Course

inductive Does : Stage → List Task → Course → Stage → Prop where
  | done (s : Stage) : Does s [] .done s
  | deed {s mid last : Stage} {t : Task} {ts : List Task} {under later : Course}
      (leads : Does (s.step t).1 (s.step t).2 under mid) (goesOn : Does mid ts later last) :
      Does s (t :: ts) (.deed s t under later) last

variable {s last : Stage} {ts : List Task} {c : Course}

theorem Does.tasks (does : Does s ts c last) : c.tasks = ts := by
  induction does with
  | done s => rfl
  | deed leads goesOn _ ih => simp [Course.tasks, ih]

/-- What is done for some tasks and then for others comes apart into the two. -/
theorem Does.split (first : List Task) {second : List Task}
    (does : Does s (first ++ second) c last) :
    ∃ c₁ mid c₂, Does s first c₁ mid ∧ Does mid second c₂ last := by
  induction first generalizing s c with
  | nil => exact ⟨.done, s, c, .done s, does⟩
  | cons t first ih =>
    cases does with
    | deed leads goesOn =>
      obtain ⟨c₁, mid, c₂, done, rest⟩ := ih goesOn
      exact ⟨_, mid, c₂, .deed leads done, rest⟩

theorem Does.log_suffix (does : Does s ts c last) : s.log <:+ last.log := by
  induction does with
  | done s => exact List.suffix_refl s.log
  | @deed s mid last t ts under later leads goesOn inner outer =>
    obtain ⟨e, wrote⟩ := s.step_log t
    have own : s.log <:+ (s.step t).1.log := wrote ▸ List.suffix_cons e s.log
    exact own.trans (inner.trans outer)

theorem Stage.run_nil (s : Stage) (fuel : Nat) : s.run fuel [] = s := by
  cases fuel <;> rfl

/-- A run goes through a course and on to the tasks that were there before. -/
theorem Does.run (does : Does s ts c last) (fuel : Nat) (later : List Task) :
    s.run (c.size + fuel) (ts ++ later) = last.run fuel later := by
  induction does generalizing fuel later with
  | done s => simp [Course.size]
  | @deed s mid last t ts under after leads goesOn inner outer =>
    calc s.run ((Course.deed s t under after).size + fuel) (t :: ts ++ later)
        = s.run (under.size + (after.size + fuel) + 1) (t :: (ts ++ later)) := by
          congr 1
          simp only [Course.size]
          omega
      _ = (s.step t).1.run (under.size + (after.size + fuel)) ((s.step t).2 ++ (ts ++ later)) := rfl
      _ = mid.run (after.size + fuel) (ts ++ later) := inner _ _
      _ = last.run fuel later := outer _ _

theorem Does.run_eq (does : Does s ts c last) {fuel : Nat} (enough : c.size ≤ fuel) :
    s.run fuel ts = last := by
  have whole := does.run (fuel - c.size) []
  rwa [List.append_nil, Nat.add_sub_cancel' enough, Stage.run_nil] at whole

end CodeSearch.Channel
