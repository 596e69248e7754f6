import CodeSearch.Proofs.Channel.Budget
import CodeSearch.Proofs.Channel.Ending

/-!
Who hears a value that is published, in every run: those who were there when it was, each once and
in the order in which they came, whatever listeners do meanwhile.
-/
namespace CodeSearch.Channel

variable {count : Nat} {h : List Change} {s last : Stage} {ts : List Task} {c : Course}

/-- The actions done one after another, each from an empty log, and what is seen after each: what
was written down and the channels as they are then. -/
inductive Plays : Stage → List Action → Course → List (List Entry × List (Channel Listener)) → Prop
    where
  | nil (s : Stage) : Plays s [] .done []
  | cons {s mid : Stage} {a : Action} {actions : List Action} {under later : Course}
      {seen : List (List Entry × List (Channel Listener))}
      (leads : Does (({ s with log := [] } : Stage).step (.act a)).1
        (({ s with log := [] } : Stage).step (.act a)).2 under mid)
      (goesOn : Plays mid actions later seen) :
      Plays s (a :: actions) (.deed { s with log := [] } (.act a) under later)
        ((mid.log.reverse, mid.channels) :: seen)

theorem Within.plays {n bound : Nat} {actions : List Action}
    (within : Within n s (actions.map .act))
    (enough : Action.weight n (s.left (actions.map .act)) ≤ bound)
    (done : List (List Entry × List (Channel Listener))) :
    ∃ course seen, Plays s actions course seen ∧
      (actions.foldl (fun (s, done) a =>
        let (s, log) := Stage.perform s bound a
        (s, (log, s.channels) :: done)) (s, done)).2 = seen.reverse ++ done := by
  induction actions generalizing s done with
  | nil => exact ⟨.done, [], .nil s, rfl⟩
  | cons a actions ih =>
    have cleared : Within n { s with log := [] } ([.act a] ++ actions.map .act) :=
      ⟨within.sizes, within.room⟩
    -- All actions are done from here, though the log is cleared before each: the first part is kept.
    obtain ⟨_, _, all⟩ := cleared.does
    obtain ⟨first, mid, _, does, _⟩ := all.split
    obtain ⟨fits, cost⟩ := does.within cleared
    have same : Stage.left { s with log := [] } ([.act a] ++ actions.map .act) =
        s.left ((a :: actions).map .act) := rfl
    rw [same] at cost
    have ran : s.perform bound a = (mid, mid.log.reverse) := by
      rw [Stage.perform, does.run_eq (by omega)]
    obtain ⟨later, seen, plays, folded⟩ :=
      ih fits (by omega) ((mid.log.reverse, mid.channels) :: done)
    cases does with
    | deed leads goesOn =>
      cases goesOn
      refine ⟨_, _, .cons leads plays, ?_⟩
      simp only [List.foldl_cons, ran, folded, List.reverse_cons, List.append_assoc,
        List.singleton_append]

theorem plays_performAll (count : Nat) (actions : List Action) :
    ∃ course, Plays (.ofCount count) actions course (Stage.performAll count actions) := by
  have nobody : ∀ k, ((Stage.ofCount count).channel k).size = 0 := by
    intro k
    simp only [Stage.ofCount, Stage.channel, List.getElem?_replicate]
    split <;> rfl
  have left : (Stage.ofCount count).left (actions.map .act) = Action.mostOf actions := by
    rw [Stage.left, Task.mostOf_act]
    rfl
  have within : Within (Action.mostOf actions).2.1 (.ofCount count) (actions.map .act) := by
    refine ⟨fun k => Nat.le_of_eq (nobody k), ?_⟩
    rw [left]
    exact Nat.le_of_eq (Nat.zero_add _)
  have enough : Action.weight (Action.mostOf actions).2.1
      ((Stage.ofCount count).left (actions.map .act)) ≤ Action.steps actions := by
    rw [left, Action.steps_eq]
    exact Nat.le_succ _
  obtain ⟨course, seen, plays, folded⟩ := within.plays enough []
  refine ⟨course, ?_⟩
  rw [Stage.performAll, folded]
  simpa using plays

theorem Plays.deed_recorded {actions : List Action}
    {seen : List (List Entry × List (Channel Listener))} (plays : Plays s actions c seen)
    (recorded : Recorded count h s) :
    ∀ d ∈ c.deeds h, Recorded count d.before d.stage ∧
      ∃ mid, Does (d.stage.step d.task).1 (d.stage.step d.task).2 d.under mid := by
  induction plays generalizing h with
  | nil s => exact fun d member => nomatch member
  | @cons s mid a actions under later seen leads goesOn ih =>
    intro d member
    simp only [Course.deeds, List.mem_cons, List.mem_append] at member
    have start : Recorded count h { s with log := [] } := recorded.of_unchanged rfl rfl
    have between := start.step (.act a)
    rcases member with rfl | within | after
    · exact ⟨start, mid, leads⟩
    · exact leads.deed_recorded between d within
    · exact ih (leads.recorded between) d after

/-- What is written down from the first call with a value to its end: each call, and behind it what
its listener did. -/
def heardLog (value : Int) (heard : List (Listener × List Entry)) : List Entry :=
  heard.flatMap (fun p => .called p.1.name value :: p.2) ++ [.published value]

theorem Does.calls_written {listeners : List Listener} {value : Int}
    (does : Does s (listeners.map (.call · value) ++ [.endPublish value]) c last) :
    ∃ heard, heard.map (·.1) = listeners ∧
      last.log.reverse = s.log.reverse ++ heardLog value heard := by
  induction listeners generalizing s c with
  | nil =>
    cases does with
    | deed leads goesOn =>
      cases leads
      cases goesOn
      exact ⟨[], rfl, List.reverse_cons⟩
  | cons l listeners ih =>
    cases does with
    | @deed _ mid _ _ _ under _ leads goesOn =>
      obtain ⟨heard, named, rest⟩ := ih goesOn
      obtain ⟨did, kept⟩ := leads.log_suffix
      have called : (s.step (.call l value)).1.log = .called l.name value :: s.log := by
        rw [Stage.step_call]
        rfl
      refine ⟨(l, did.reverse) :: heard, by rw [List.map_cons, named], ?_⟩
      rw [rest, ← kept, called]
      simp [heardLog]

def Course.Deed.audience (d : Course.Deed) (k : Nat) : List Listener :=
  (present k d.before).map (·.2)

/-- A value goes to the listeners of the moment at which it is published, and to nobody else. -/
structure Dispatched (count : Nat) (d : Course.Deed) (k : Nat) (value : Int) : Prop where
  recorded : Recorded count d.before d.stage
  calls : d.under.tasks = (d.audience k).map (.call · value) ++ [.endPublish value]
  /-- Each of them is written down with the value, in the same order. -/
  written : ∃ mid heard, Does (d.stage.step d.task).1 (d.stage.step d.task).2 d.under mid ∧
    heard.map (·.1) = d.audience k ∧
    mid.log.reverse = d.stage.log.reverse ++ .publishing value :: heardLog value heard
  once : (d.audience k).Nodup
  size : (d.audience k).length = (d.stage.channel k).size
  newcomers : ∀ l ∈ comers d.under.changes, ∀ heard, .call l heard ∉ d.under.tasks
  leavers : ∀ id l, (id, l) ∈ present k d.before → .left k id ∈ d.under.changes →
    .call l value ∈ d.under.tasks

theorem Recorded.dispatched {d : Course.Deed} {k : Nat} {value : Int} {mid : Stage}
    (recorded : Recorded count d.before d.stage) (publishes : d.task = .act (.publish k value))
    (within : k < count)
    (does : Does (d.stage.step d.task).1 (d.stage.step d.task).2 d.under mid) :
    Dispatched count d k value := by
  have listeners : d.audience k = (d.stage.channel k).listeners.map (·.2) := by
    rw [Course.Deed.audience, recorded.listeners k within]
  have calls : d.under.tasks = (d.audience k).map (.call · value) ++ [.endPublish value] := by
    rw [does.tasks, publishes, Stage.step, listeners, List.map_map]
    rfl
  have came : (d.audience k).Sublist (comers d.before) := present_sublist k d.before
  have whole := does.recorded (recorded.step d.task)
  simp only [publishes, Change.ofTask, List.append_nil] at whole
  have rising := whole.rising
  rw [comers, List.filterMap_append, List.pairwise_append] at rising
  constructor
  case recorded => exact recorded
  case calls => exact calls
  case written =>
    have started : (d.stage.step d.task).1.log = .publishing value :: d.stage.log := by
      rw [publishes]
      rfl
    obtain ⟨heard, named, log⟩ := Does.calls_written (calls ▸ does.tasks ▸ does)
    refine ⟨mid, heard, does, named, ?_⟩
    rw [log, started, List.reverse_cons, List.append_assoc]
    rfl
  case once =>
    rw [listeners]
    exact (recorded.apart within).1.imp fun below same => by simp [same] at below
  case size => rw [listeners, List.length_map, Channel.size]
  case newcomers =>
    -- Numbers rise through all that comes meanwhile, so a newcomer has none of the audience.
    intro l new heard called
    rw [calls, List.mem_append, List.mem_singleton, List.mem_map] at called
    rcases called with ⟨l', old, same⟩ | ends
    · cases same
      exact Nat.lt_irrefl _ (rising.2.2 l (came.subset old) l new)
    · cases ends
  case leavers =>
    intro id l there _
    rw [calls]
    exact List.mem_append_left _ (List.mem_map_of_mem (List.mem_map_of_mem there))

/-- In every run each value goes to those who listen when it is published, at whatever depth that
is; and if these publish nothing themselves, it is over after a step for each of them and for each
action of theirs, whatever comes with the listeners that they subscribe. -/
theorem Stage.performAll_dispatches (count : Nat) :
    (∀ actions, ∃ course, Plays (.ofCount count) actions course (Stage.performAll count actions) ∧
      ∀ d ∈ course.deeds [], ∀ k value, d.task = .act (.publish k value) → k < count →
        Dispatched count d k value) ∧
    ∀ (h : List Change) (s : Stage) (k : Nat) (value : Int), Recorded count h s → k < count →
      (∀ a ∈ ((s.channel k).listeners.map (·.2)).flatMap s.nextTurn, a.publishes = false) →
      ∃ last : Stage, ∀ fuel later, s.run ((s.channel k).size +
          (((s.channel k).listeners.map (·.2)).flatMap s.nextTurn).length + 2 + fuel)
        (.act (.publish k value) :: later) = last.run fuel later := by
  constructor
  · intro actions
    obtain ⟨course, plays⟩ := plays_performAll count actions
    refine ⟨course, plays, fun d member k value publishes within => ?_⟩
    obtain ⟨recorded, mid, does⟩ := plays.deed_recorded (Recorded.ofCount count) d member
    exact recorded.dispatched publishes within does
  · exact fun h s k value recorded within quiet => recorded.publish_ends within value quiet

/-- While 1 is on its way, `a` cancels `b`, subscribes `c` and publishes 2: `b` hears 1 only and
`c` hears 2 only. With nothing published meanwhile, 1 takes a step, two calls, two actions and its
end, whatever `c` would do. -/
theorem Stage.performAll_dispatches_nested :
    let meddling : List Action := [.cancel 0 "b", .subscribe 0 "c" [[.publish 0 9]]]
    let actions : List Action :=
      [.subscribe 0 "a" [meddling ++ [.publish 0 2]], .subscribe 0 "b" [], .publish 0 1]
    ((Stage.performAll 1 actions).map (·.1) =
      [[.subscribed "a" 1], [.subscribed "b" 2],
        [.publishing 1, .called "a" 1, .cancelled "b" (some true) 1, .subscribed "c" 2,
          .publishing 2, .called "a" 2, .called "c" 2, .publishing 9, .called "a" 9,
          .called "c" 9, .published 9, .published 2, .called "b" 1, .published 1]] ∧
      ∃ course, Plays (.ofCount 1) actions course (Stage.performAll 1 actions) ∧
        ∀ d ∈ course.deeds [], ∀ value, d.task = .act (.publish 0 value) →
          Dispatched 1 d 0 value) ∧
      ∃ last : Stage, ∀ fuel later, (((Stage.ofCount 1).subscribe 0 "a" [meddling]).subscribe 0 "b" []).run
        (6 + fuel) (.act (.publish 0 1) :: later) = last.run fuel later := by
  intro meddling actions
  obtain ⟨runs, ends⟩ := Stage.performAll_dispatches 1
  refine ⟨⟨by decide +kernel, ?_⟩, ?_⟩
  · obtain ⟨course, plays, dispatched⟩ := runs actions
    exact ⟨course, plays, fun d member value publishes =>
      dispatched d member 0 value publishes Nat.one_pos⟩
  · have recorded := ((Recorded.ofCount 1).subscribe 0 "a" [meddling]).subscribe 0 "b" []
    exact ends _ _ 0 1 recorded Nat.one_pos (by decide)

end CodeSearch.Channel
