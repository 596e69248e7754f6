import CodeSearch.Proofs.Channel.Course
import Mathlib.Algebra.Group.Nat.Defs
import Mathlib.Algebra.Group.Prod

/-!
Every action comes to its end. A listener does each of its turns once, so what a run can still do
is among the tasks at hand and the turns that its listeners have left, and every task takes its
share of them.
-/
namespace CodeSearch.Channel

namespace Action

theorem mostTurns_cons (turn : List Action) (turns : List (List Action)) :
    mostTurns (turn :: turns) = mostOf turn + mostTurns turns := by
  simp [mostTurns, Prod.ext_iff]

theorem mostOf_cons (a : Action) (as : List Action) : mostOf (a :: as) = most a + mostOf as := by
  simp [mostOf, Prod.ext_iff]

theorem most_subscribe (k : Nat) (name : String) (turns : List (List Action)) :
    most (.subscribe k name turns) = (1, 1, 0) + mostTurns turns := by
  simp [most, Prod.ext_iff, Nat.add_comm]

theorem mostTurns_append (turns more : List (List Action)) :
    mostTurns (turns ++ more) = mostTurns turns + mostTurns more := by
  induction turns with
  | nil => simp [mostTurns, Prod.ext_iff]
  | cons turn turns ih => rw [List.cons_append, mostTurns_cons, mostTurns_cons, ih, add_assoc]

/-- A turn that is taken is left no more. -/
theorem mostTurns_modify (table : List (List (List Action))) (i : Nat) :
    mostTurns table.flatten =
      mostOf ((table[i]?.getD []).headD []) + mostTurns (table.modify i List.tail).flatten := by
  induction table generalizing i with
  | nil => simp [mostOf, mostTurns]
  | cons turns table ih =>
    cases i with
    | zero =>
      cases turns with
      | nil => simp [mostOf, Prod.ext_iff]
      | cons turn later => simp [mostTurns_cons]
    | succ i =>
      rw [List.modify_succ_cons, List.flatten_cons, List.flatten_cons, mostTurns_append,
        mostTurns_append, ih i, add_left_comm]
      rfl

/-- The steps for these many actions and values, with at most `n` listeners. -/
def weight (n : Nat) (m : Nat × Nat × Nat) : Nat := m.1 + m.2.2 * (n + 1)

theorem weight_add (n : Nat) (m m' : Nat × Nat × Nat) :
    weight n (m + m') = weight n m + weight n m' := by
  simp only [weight, Prod.fst_add, Prod.snd_add, Nat.add_mul]
  omega

theorem steps_eq (actions : List Action) :
    steps actions = weight (mostOf actions).2.1 (mostOf actions) + 1 := rfl

end Action

open Channel.Action

namespace Task

/-- The most that a task can lead to; a call leads to the turns that its listener has left, which
are counted with the stage. -/
def most : Task → Nat × Nat × Nat
  | .act a => a.most
  | .call _ _ => (1, 0, 0)
  | .endPublish _ => (1, 0, 0)

def mostOf : List Task → Nat × Nat × Nat
  | [] => (0, 0, 0)
  | t :: ts => t.most + mostOf ts

theorem mostOf_append (ts more : List Task) : mostOf (ts ++ more) = mostOf ts + mostOf more := by
  induction ts with
  | nil => simp [mostOf, Prod.ext_iff]
  | cons t ts ih => rw [List.cons_append, mostOf, mostOf, ih, add_assoc]

theorem mostOf_act (actions : List Action) :
    mostOf (actions.map .act) = Action.mostOf actions := by
  induction actions with
  | nil => rfl
  | cons a actions ih => rw [List.map_cons, mostOf, ih, mostOf_cons, most]

theorem mostOf_calls (listeners : List (Nat × Listener)) (value : Int) :
    mostOf (listeners.map (fun l => .call l.2 value) ++ [.endPublish value]) =
      (listeners.length + 1, 0, 0) := by
  induction listeners with
  | nil => rfl
  | cons l listeners ih =>
    rw [List.map_cons, List.cons_append, mostOf, ih, most, List.length_cons]
    simp [Nat.add_comm]

end Task

def Stage.left (s : Stage) (ts : List Task) : Nat × Nat × Nat :=
  Task.mostOf ts + mostTurns s.turns.flatten

/-- No channel has more listeners than ever came, and not more than `n` will ever have come. -/
structure Within (n : Nat) (s : Stage) (ts : List Task) : Prop where
  sizes : ∀ k, (s.channel k).size ≤ s.turns.length
  room : s.turns.length + (s.left ts).2.1 ≤ n

variable {n : Nat} {s last : Stage} {t : Task} {ts later : List Task} {c : Course}

theorem Stage.step_sizes (sizes : ∀ k, (s.channel k).size ≤ s.turns.length) (t : Task) (k : Nat) :
    ((s.step t).1.channel k).size ≤ (s.step t).1.turns.length := by
  cases t with
  | act a =>
    cases a with
    | subscribe j name turns =>
      have here := sizes j
      have there := sizes k
      simp only [Stage.channel, Channel.size] at here there
      simp only [Stage.step, Stage.subscribe, Stage.write, Stage.channel, Stage.getD_set,
        List.length_append, List.length_singleton]
      split
      · simp only [Channel.subscribe, Channel.size, List.length_append, List.length_singleton]
        omega
      · exact Nat.le_succ_of_le there
    | cancel j name =>
      simp only [Stage.step, Stage.cancel]
      split
      · exact sizes k
      · simp only [Stage.write, Stage.channel, Stage.getD_set]
        split
        · exact Nat.le_trans (List.length_filter_le _ _) (sizes j)
        · exact sizes k
    | publish j value => exact sizes k
    | describe j => exact sizes k
  | call l value =>
    rw [Stage.step_call, List.length_modify]
    exact sizes k
  | endPublish value => exact sizes k

/-- What a task leads to weighs less than the task, and whoever comes was counted with it. -/
theorem Stage.step_left (few : ∀ k, (s.channel k).size ≤ n) (t : Task) :
    weight n ((s.step t).1.left (s.step t).2) < weight n (s.left [t]) ∧
      (s.step t).1.turns.length + ((s.step t).1.left (s.step t).2).2.1 ≤
        s.turns.length + (s.left [t]).2.1 := by
  simp only [Stage.left, Task.mostOf, weight, Prod.fst_add, Prod.snd_add, Nat.add_mul,
    Nat.zero_mul]
  cases t with
  | act a =>
    cases a with
    | subscribe j name turns =>
      simp only [Stage.step, Stage.subscribe, Stage.write, Task.most, most_subscribe, Task.mostOf,
        List.flatten_append, List.flatten_singleton, mostTurns_append, Prod.fst_add, Prod.snd_add,
        List.length_append, List.length_singleton, Nat.add_mul]
      omega
    | cancel j name =>
      simp only [Stage.step, Stage.cancel_turns, Task.most, Action.most, Task.mostOf,
        Nat.zero_mul]
      omega
    | publish j value =>
      have size := few j
      simp only [Stage.step, Stage.write, Task.mostOf_calls, Task.most, Action.most]
      simp only [Channel.size] at size
      omega
    | describe j =>
      simp only [Stage.step, Stage.write, Task.most, Action.most, Task.mostOf,
        Nat.zero_mul]
      omega
  | call l value =>
    simp only [Stage.step_call, Task.mostOf_act, List.length_modify, Task.most]
    rw [mostTurns_modify s.turns l.number]
    simp only [Stage.nextTurn, Prod.fst_add, Prod.snd_add, Nat.add_mul]
    omega
  | endPublish value =>
    simp only [Stage.step, Stage.write, Task.most, Task.mostOf, Nat.zero_mul]
    omega

theorem Stage.left_append (s : Stage) (ts later : List Task) :
    s.left (ts ++ later) = s.left ts + Task.mostOf later := by
  rw [Stage.left, Stage.left, Task.mostOf_append, add_right_comm]

theorem Within.step (within : Within n s (t :: later)) :
    Within n (s.step t).1 ((s.step t).2 ++ later) ∧
      weight n ((s.step t).1.left ((s.step t).2 ++ later)) < weight n (s.left (t :: later)) := by
  have room := within.room
  have few : ∀ k, (s.channel k).size ≤ n := fun k =>
    Nat.le_trans (within.sizes k) (Nat.le_trans (Nat.le_add_right _ _) room)
  obtain ⟨lighter, fits⟩ := s.step_left few t
  have apart : t :: later = [t] ++ later := rfl
  rw [apart, Stage.left_append] at room ⊢
  rw [Stage.left_append, weight_add, weight_add]
  refine ⟨⟨s.step_sizes within.sizes t, ?_⟩, Nat.add_lt_add_right lighter _⟩
  rw [Stage.left_append]
  simp only [Prod.snd_add, Prod.fst_add] at room ⊢
  omega

/-- A course takes no more steps than its tasks weigh, and the rest still fits after it. -/
theorem Does.within (does : Does s ts c last) (within : Within n s (ts ++ later)) :
    Within n last later ∧ c.size + weight n (last.left later) ≤ weight n (s.left (ts ++ later)) := by
  induction does generalizing later with
  | done s => exact ⟨within, by simp [Course.size]⟩
  | @deed s mid last t ts under after leads goesOn inner outer =>
    rw [List.cons_append] at within ⊢
    obtain ⟨fits, lighter⟩ := within.step
    obtain ⟨fits, led⟩ := inner fits
    obtain ⟨fits, went⟩ := outer fits
    refine ⟨fits, ?_⟩
    rw [Course.size]
    omega

theorem Within.does (within : Within n s ts) : ∃ c last, Does s ts c last := by
  -- On the weight, as what a task leads to is no part of the tasks at hand.
  generalize bound : weight n (s.left ts) = w
  induction w using Nat.strongRecOn generalizing s ts with
  | _ w ih =>
    cases ts with
    | nil => exact ⟨.done, s, .done s⟩
    | cons t later =>
      obtain ⟨fits, lighter⟩ := within.step
      obtain ⟨c, last, does⟩ := ih _ (bound ▸ lighter) fits rfl
      obtain ⟨under, mid, after, leads, goesOn⟩ := does.split
      exact ⟨_, last, .deed leads goesOn⟩

end CodeSearch.Channel
