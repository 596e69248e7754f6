import CodeSearch.Proofs.Channel.Dispatch
import CodeSearch.Proofs.Channel.Handles

/-!
A run of channels in the order of time. Calls that listeners make while a value is on its way come
in their turn like all others, so what a channel answers depends on the calls before and not on who
makes them.
-/
namespace CodeSearch.Channel

structure Moment where
  stage : Stage
  task : Task

def Moment.after (m : Moment) : Stage := (m.stage.step m.task).1

/-- What a task is done to first, what it leads to next. -/
def Course.moments : Course → List Moment
  | done => []
  | deed s t under later => ⟨s, t⟩ :: (under.moments ++ later.moments)

/-- Each moment is at the stage that the one before leaves, but for what is written down. -/
inductive Goes : Stage → List Moment → Stage → Prop where
  | done (s : Stage) : Goes s [] s
  | next {s last : Stage} {t : Task} {later : List Moment} (goesOn : Goes (s.step t).1 later last) :
      Goes s (⟨s, t⟩ :: later) last
  | cleared {s last : Stage} {moments : List Moment}
      (goesOn : Goes { s with log := [] } moments last) : Goes s moments last

variable {count k : Nat} {s mid last : Stage} {ts : List Task} {c : Course}
  {past earlier later : List Moment} {m : Moment}

theorem Goes.append (goes : Goes s earlier mid) (goesOn : Goes mid later last) :
    Goes s (earlier ++ later) last := by
  induction goes with
  | done s => exact goesOn
  | next _ ih => exact .next (ih goesOn)
  | cleared _ ih => exact .cleared (ih goesOn)

theorem Does.goes (does : Does s ts c last) : Goes s c.moments last := by
  induction does with
  | done s => exact .done s
  | deed _ _ inner outer => exact .next (inner.append outer)

theorem Plays.goes {actions : List Action} {seen : List (List Entry × List (Channel Listener))}
    (plays : Plays s actions c seen) : ∃ last, Goes s c.moments last := by
  induction plays with
  | nil s => exact ⟨s, .done s⟩
  | cons leads _ ih =>
    obtain ⟨last, goesOn⟩ := ih
    exact ⟨last, .cleared (.next (leads.goes.append goesOn))⟩

theorem Plays.exists_moment {actions : List Action}
    {seen : List (List Entry × List (Channel Listener))} (plays : Plays s actions c seen)
    {a : Action} (member : a ∈ actions) :
    ∃ earlier m later, c.moments = earlier ++ m :: later ∧ m.task = .act a := by
  induction plays with
  | nil s => cases member
  | @cons s mid first actions under after seen leads _ ih =>
    rcases List.mem_cons.1 member with rfl | further
    · exact ⟨[], _, _, rfl, rfl⟩
    · obtain ⟨earlier, m, later, apart, task⟩ := ih further
      refine ⟨⟨{ s with log := [] }, .act first⟩ :: (under.moments ++ earlier), m, later, ?_, task⟩
      simp [Course.moments, apart]

namespace Moment

/-- The call that a task makes on a channel: the number is the one that stands under the name, and
whether there was a listener is what was written down. -/
def call? (k : Nat) (m : Moment) : Option (Call Listener) :=
  match m.task with
  | .act (.subscribe channel name _) =>
    if channel = k then
      (m.after.ids.lookup name).map (.subscribed · ⟨name, m.stage.turns.length⟩)
    else none
  | .act (.cancel channel name) =>
    if channel = k then
      match m.stage.ids.lookup name, m.after.log with
      | some id, .cancelled _ (some found) _ :: _ => some (.cancelled id found)
      | _, _ => none
    else none
  | _ => none

inductive Calls (k : Nat) (m : Moment) : Prop where
  | nothing (call : m.call? k = none) (same : m.after.channel k = m.stage.channel k)
  | subscribed (listener : Listener)
      (call : m.call? k = some (.subscribed (m.stage.channel k).nextId listener))
      (joined : m.after.channel k = (m.stage.channel k).subscribe listener)
  | cancelled (id : Nat) (call : m.call? k = some (.cancelled id ((m.stage.channel k).has id)))
      (left : m.after.channel k = (m.stage.channel k).cancel id)

theorem calls (m : Moment) (within : k < m.stage.channels.length) : m.Calls k := by
  obtain ⟨s, t⟩ := m
  cases t with
  | act a =>
    cases a with
    | subscribe channel name turns =>
      have joined : Stage.channel (s.subscribe channel name turns) k = _ :=
        s.channel_subscribe channel name turns within
      by_cases here : channel = k
      · rw [if_pos here] at joined
        subst here
        refine .subscribed ⟨name, s.turns.length⟩ ?_ joined
        simp [call?, after, Stage.step, Stage.subscribe, Stage.write]
      · rw [if_neg here] at joined
        exact .nothing (if_neg here) joined
    | cancel channel name =>
      have left : Stage.channel (s.cancel channel name) k = _ :=
        s.channel_cancel channel name within
      by_cases here : channel = k
      · rw [if_pos here] at left
        subst here
        cases known : s.ids.lookup name with
        | none =>
          rw [known] at left
          refine .nothing ?_ left
          simp [call?, known]
        | some id =>
          rw [known] at left
          refine .cancelled id ?_ left
          simp [call?, after, Stage.step, Stage.cancel, Stage.write, known]
      · rw [if_neg here] at left
        exact .nothing (if_neg here) left
    | publish channel value => exact .nothing rfl rfl
    | describe channel => exact .nothing rfl rfl
  | call l value =>
    refine .nothing rfl ?_
    rw [after, Stage.step_call]
    rfl
  | endPublish value => exact .nothing rfl rfl

end Moment

def callsOn (k : Nat) (moments : List Moment) : List (Call Listener) :=
  moments.filterMap (Moment.call? k)

structure Kept (count : Nat) (past : List Moment) (s : Stage) : Prop where
  width : s.channels.length = count
  served : ∀ k < count, Served (callsOn k past) (s.channel k)

theorem Kept.ofCount (count : Nat) : Kept count [] (Stage.ofCount count) where
  width := List.length_replicate
  served k within := by
    have fresh : (Stage.ofCount count).channel k = {} := by
      simp [Stage.ofCount, Stage.channel, within]
    rw [fresh]
    exact .fresh

theorem Kept.next (kept : Kept count past m.stage) : Kept count (past ++ [m]) m.after := by
  refine ⟨(m.stage.step_width m.task).trans kept.width, fun k within => ?_⟩
  have served := kept.served k within
  have apart : callsOn k (past ++ [m]) = callsOn k past ++ (m.call? k).toList := by
    rw [callsOn, List.filterMap_append]
    cases found : m.call? k <;> simp [callsOn, found]
  rw [apart]
  cases m.calls (kept.width ▸ within) with
  | nothing call same =>
    rw [call, same, Option.toList_none, List.append_nil]
    exact served
  | subscribed listener call joined =>
    rw [call, joined]
    exact served.subscribed listener
  | cancelled id call left =>
    rw [call, left]
    exact served.cancelled id

theorem Goes.kept {moments : List Moment} (goes : Goes s moments last) (kept : Kept count past s)
    (apart : moments = earlier ++ m :: later) : Kept count (past ++ earlier) m.stage := by
  induction goes generalizing past earlier with
  | done s => simp at apart
  | @next s last t moments _ ih =>
    cases earlier with
    | nil =>
      obtain ⟨rfl, -⟩ := List.cons.inj apart
      rw [List.append_nil]
      exact kept
    | cons first earlier =>
      rw [List.cons_append] at apart
      obtain ⟨rfl, behind⟩ := List.cons.inj apart
      have begun : Kept count (past ++ [⟨s, t⟩]) (Moment.after ⟨s, t⟩) := Kept.next kept
      have whole := ih begun behind
      rwa [List.append_assoc] at whole
  | cleared _ ih => exact ih ⟨kept.width, kept.served⟩ apart

structure Settled (k : Nat) (past : List Moment) (m : Moment) : Prop where
  before : Accounted (callsOn k past) (m.stage.channel k)
  calls : m.Calls k
  after : Accounted (callsOn k (past ++ [m])) (m.after.channel k)

theorem Kept.settled (kept : Kept count past m.stage) (within : k < count) : Settled k past m where
  before := (kept.served k within).accounted
  calls := m.calls (kept.width ▸ within)
  after := (kept.next.served k within).accounted

/-- The calls on a channel tell who listens and what the next call returns, whatever they were; and
in every run, at whatever depth, each channel answers for all calls that were made on it before. -/
theorem handles_exact :
    (∀ (L : Type) (calls : List (Call L)) (c : Channel L), Served calls c → Accounted calls c) ∧
    ∀ count actions, ∃ course,
      Plays (.ofCount count) actions course (Stage.performAll count actions) ∧
      ∀ k < count, ∀ earlier m later, course.moments = earlier ++ m :: later →
        Settled k earlier m := by
  refine ⟨fun L calls c served => served.accounted, fun count actions => ?_⟩
  obtain ⟨course, plays⟩ := plays_performAll count actions
  refine ⟨course, plays, fun k within earlier m later apart => ?_⟩
  obtain ⟨last, goes⟩ := plays.goes
  exact (goes.kept (Kept.ofCount count) apart).settled within

/-- While 1 is on its way, `a` takes itself and `b` out and `c` comes; `b` is not there any more when
it is cancelled again after that. -/
theorem handles_exact_nested :
    let meddling : List Action := [.cancel 0 "a", .cancel 0 "b", .subscribe 0 "c" []]
    let actions : List Action :=
      [.subscribe 0 "a" [meddling], .subscribe 0 "b" [], .publish 0 1, .cancel 0 "b"]
    (Stage.performAll 1 actions).map (·.1) =
      [[.subscribed "a" 1], [.subscribed "b" 2],
        [.publishing 1, .called "a" 1, .cancelled "a" (some true) 1, .cancelled "b" (some true) 0,
          .subscribed "c" 1, .called "b" 1, .published 1],
        [.cancelled "b" (some false) 1]] ∧
      (∃ course earlier m later, Plays (.ofCount 1) actions course (Stage.performAll 1 actions) ∧
        course.moments = earlier ++ m :: later ∧ m.task = .act (.cancel 0 "b") ∧
        Settled 0 earlier m) ∧
      Accounted [.subscribed 0 "x", .subscribed 1 "y", .cancelled 0 true, .cancelled 0 false]
        ⟨[(1, "y")], 2⟩ := by
  intro meddling actions
  obtain ⟨calls, runs⟩ := handles_exact
  refine ⟨by decide +kernel, ?_, ?_⟩
  · obtain ⟨course, plays, settled⟩ := runs 1 actions
    obtain ⟨earlier, m, later, apart, task⟩ :=
      plays.exists_moment (a := .cancel 0 "b") (by simp [actions])
    exact ⟨course, earlier, m, later, plays, apart, task,
      settled 0 Nat.one_pos earlier m later apart⟩
  · have served : Served [] ({} : Channel String) := .fresh
    exact calls String _ _ ((((served.subscribed "x").subscribed "y").cancelled 0).cancelled 0)

end CodeSearch.Channel
