import Mathlib.Data.List.Induction
import Telecontrol.Outstation.Run

/-!
# Interleavings

What an outstation does in the course of time. A step of `Outstation.apply` is made of moves, between
which other tasks and the application may make moves of their own.

* `Outstation.history`: one step after the other, and `Outstation.history_induction`: what the first
  state has and every step keeps, every state has.
* `Outstation.Move`, `Outstation.interleave`: moves in any order. `Outstation.Turn`, `Outstation.run`: no
  task is interrupted before it waits.
* `Outstation.run_eq_interleave`: a run is an interleaving.
-/

namespace Telecontrol

namespace Outstation

/-! ## Histories -/

/-- One step after the other. -/
def history {α : Type} (step : Outstation → α → Step) : List α → Outstation → Step
  | [], o => (o, [])
  | a :: later, o => andThen (step o a) (history step later)

section History

variable {α : Type} {step : Outstation → α → Step} {o : Outstation}

theorem history_append (as bs : List α) :
    history step (as ++ bs) o = andThen (history step as o) (history step bs) := by
  induction as generalizing o with
  | nil => rfl
  | cons a as ih =>
    simp only [List.cons_append, history, andThen, after, ih, List.append_assoc]

theorem history_concat (as : List α) (a : α) :
    history step (as ++ [a]) o = andThen (history step as o) (step · a) := by
  rw [history_append]
  simp only [history, andThen, after, List.append_nil]

/-- What holds at the beginning and is kept by every step, holds in the end. -/
theorem history_induction {P : List α → Outstation → List StationEffect → Prop} (h : P [] o [])
    (hs : ∀ as o effects a, P as o effects → P (as ++ [a]) (step o a).1 (effects ++ (step o a).2))
    (as : List α) : P as (history step as o).1 (history step as o).2 := by
  induction as using List.reverseRecOn with
  | nil => exact h
  | append_singleton as a ih =>
    rw [history_concat]
    exact hs as _ _ a ih

end History

/-! ## Runs and interleavings -/

/-- What happens between two moments at which anyone else may do something. -/
inductive Move where
  | begin (input : Input)
  | proceed (id : Nat)
  | lookUp
  | wake (id : Nat)

def move (o : Outstation) (now : Millis) : Move → Step
  | .begin input => o.begin now input
  | .proceed id => o.proceed id now
  | .lookUp => (o.lookUp, [])
  | .wake id => (o.wake id, [])

/-- Moves in the order in which they are made, each at its time. -/
def interleave (o : Outstation) (moves : List (Millis × Move)) : Step :=
  history (fun o move => o.move move.1 move.2) moves o

/-- What happens when no one does anything before a task waits again. The queue may still get an ASDU
some time before a connection is looked up and woken for it. -/
inductive Turn where
  | whole (input : Input)
  | push (asdu : Asdu)
  | lookUp
  | wake (id : Nat)

def turn (o : Outstation) (now : Millis) : Turn → Step
  | .whole input => o.apply now input
  | .push asdu => o.push asdu
  | .lookUp => (o.lookUp, [])
  | .wake id => (o.wake id, [])

/-- Turns, each at its time. -/
def run (o : Outstation) (turns : List (Millis × Turn)) : Step :=
  history (fun o turn => o.turn turn.1 turn.2) turns o

/-- The ASDUs that the application puts into the queue. -/
def Input.enqueued : Input → List Asdu
  | .enqueue asdu => [asdu]
  | _ => []

/-- The ASDUs that the queue gets in a move. -/
def Move.enqueued : Move → List Asdu
  | .begin input => input.enqueued
  | _ => []

/-- The ASDUs that the queue gets in a turn. -/
def Turn.enqueued : Turn → List Asdu
  | .whole input => input.enqueued
  | .push asdu => [asdu]
  | _ => []

theorem interleave_append (o : Outstation) (moves more : List (Millis × Move)) :
    o.interleave (moves ++ more) = andThen (o.interleave moves) (·.interleave more) :=
  history_append moves more

theorem interleave_concat (o : Outstation) (moves : List (Millis × Move)) (m : Millis × Move) :
    o.interleave (moves ++ [m]) = andThen (o.interleave moves) (·.move m.1 m.2) :=
  history_concat moves m

theorem iterate_proceed (id : Nat) (now : Millis) (n : Nat) (o : Outstation) :
    iterate (·.proceed id now) n o = o.interleave (List.replicate n (now, .proceed id)) := by
  induction n generalizing o with
  | zero => rfl
  | succ n ih =>
    rw [iterate, funext ih]
    rfl

theorem settle_eq_interleave (o : Outstation) (id : Nat) (now : Millis) :
    ∃ moves, o.settle id now = o.interleave moves ∧ moves.flatMap (·.2.enqueued) = [] := by
  refine ⟨_, iterate_proceed id now _ o, List.flatMap_eq_nil_iff.2 fun m hm => ?_⟩
  rw [List.eq_of_mem_replicate hm]
  rfl

theorem wakeActive_eq_interleave (o : Outstation) (now : Millis) :
    ∃ moves, (o.wakeActive, []) = o.interleave moves ∧ moves.flatMap (·.2.enqueued) = [] := by
  unfold wakeActive
  cases o.activeConnection with
  | none => exact ⟨[(now, .lookUp)], rfl, rfl⟩
  | some c => exact ⟨[(now, .lookUp), (now, .wake c.id)], rfl, rfl⟩

theorem complete_eq_interleave (o : Outstation) (now : Millis) (input : Input) :
    ∃ moves, o.complete now input = o.interleave moves ∧ moves.flatMap (·.2.enqueued) = [] := by
  cases input with
  | handshake id secured => exact settle_eq_interleave o id now
  | readable id => exact settle_eq_interleave o id now
  | command id => exact settle_eq_interleave o id now
  | timer id => exact settle_eq_interleave o id now
  | enqueue asdu => exact wakeActive_eq_interleave o now
  | _ => exact ⟨[], rfl, rfl⟩

theorem turn_eq_interleave (o : Outstation) (now : Millis) (t : Turn) :
    ∃ moves, o.turn now t = o.interleave moves ∧ moves.flatMap (·.2.enqueued) = t.enqueued := by
  cases t with
  | whole input =>
    obtain ⟨moves, h, hq⟩ := complete_eq_interleave (o.begin now input).1 now input
    refine ⟨(now, .begin input) :: moves, ?_, ?_⟩
    · rw [turn, apply, andThen, h]
      rfl
    · rw [List.flatMap_cons, hq, List.append_nil]
      rfl
  | push asdu =>
    refine ⟨[(now, .begin (.enqueue asdu))], ?_, rfl⟩
    simp only [turn, interleave, history, andThen, after, move, begin, List.append_nil]
  | lookUp => exact ⟨[(now, .lookUp)], rfl, rfl⟩
  | wake id => exact ⟨[(now, .wake id)], rfl, rfl⟩

/-- Every run is an interleaving. -/
theorem run_eq_interleave (o : Outstation) (turns : List (Millis × Turn)) :
    ∃ moves, o.run turns = o.interleave moves ∧
      moves.flatMap (·.2.enqueued) = turns.flatMap (·.2.enqueued) := by
  induction turns using List.reverseRecOn with
  | nil => exact ⟨[], rfl, rfl⟩
  | append_singleton turns t ih =>
    obtain ⟨moves, h, hq⟩ := ih
    obtain ⟨more, h', hq'⟩ := turn_eq_interleave (o.run turns).1 t.1 t.2
    refine ⟨moves ++ more, ?_, ?_⟩
    · rw [run, history_concat, ← run, interleave_append, ← h, andThen, andThen, h']
    · rw [List.flatMap_append, List.flatMap_append, hq, hq', List.flatMap_singleton]

end Outstation

end Telecontrol
