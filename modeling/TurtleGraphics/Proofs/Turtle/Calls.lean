/-
  Calls: what a walk asks of a turtle.

  All that a turtle is ever told is to carry out one of its primitive operations.  A walk is
  such a list of calls, and nothing in it waits for an answer: only a pose that is gone back
  to is one that the turtle gave before.

  * `Turtle.Call` is a call, with what it is given, and `Turtle.Call.perform` carries it out;
  * `Turtle.calls` are the calls of a walk, in order;
  * `Turtle.walkFrom_eq_perform`: a walk does to a turtle what its calls do.
-/
import TurtleGraphics.Turtle.Basic

namespace TurtleGraphics

variable {τ α ρ : Type}

/-! ## Calls -/

/-- A call of a primitive operation of a turtle, with what it is given. -/
inductive Turtle.Call (α ρ : Type) where
  | forward (distance : α)
  | backward (distance : α)
  | turnLeft (degrees : α)
  | turnRight (degrees : α)
  | liftPen
  | lowerPen
  /-- Reads the pose. -/
  | pose
  | setPose (target : ρ)
deriving DecidableEq

namespace Turtle.Call

/-- The call asks for a move ahead. -/
def isForward : Call α ρ → Bool
  | forward _ => true
  | _ => false

/-- Carries out a call.  Nobody looks at the outcome of a move. -/
def perform [Turtle τ α ρ] (t : τ) : Call α ρ → τ
  | forward distance => (Turtle.forward t distance).2
  | backward distance => (Turtle.backward t distance).2
  | turnLeft degrees => Turtle.turnLeft t degrees
  | turnRight degrees => Turtle.turnRight t degrees
  | liftPen => Turtle.liftPen t
  | lowerPen => Turtle.lowerPen t
  | pose => t
  | setPose target => Turtle.setPose t target

end Turtle.Call

/-! ## Walks -/

namespace Move

/-- The calls of one move, with the poses that are saved.  There is one, unless the turtle is
    to go back and no pose is left. -/
def calls (saved : List ρ) : Move α → List (Turtle.Call α ρ)
  | forward distance => [.forward distance]
  | backward distance => [.backward distance]
  | left degrees => [.turnLeft degrees]
  | right degrees => [.turnRight degrees]
  | liftPen => [.liftPen]
  | lowerPen => [.lowerPen]
  | save => [.pose]
  | restore => saved.head?.toList.map .setPose

end Move

namespace Turtle

variable [Turtle τ α ρ]

/-- The calls of a walk, in order. -/
def calls (walker : τ × List ρ) : List (Move α) → List (Call α ρ)
  | [] => []
  | move :: rest => move.calls walker.2 ++ calls (move.step walker) rest

theorem calls_append (walker : τ × List ρ) (first second : List (Move α)) :
    calls walker (first ++ second) =
      calls walker first ++ calls (walkFrom walker first) second := by
  induction first generalizing walker with
  | nil => rfl
  | cons move rest ih =>
    rw [List.cons_append, calls, ih, calls, List.append_assoc]
    rfl

theorem step_eq_perform (walker : τ × List ρ) (move : Move α) :
    (move.step walker).1 = (move.calls walker.2).foldl Call.perform walker.1 := by
  obtain ⟨t, saved⟩ := walker
  cases move with
  | restore =>
    cases saved with
    | nil => rfl
    | cons pose saved => rfl
  | _ => rfl

/-- **A walk** does to a turtle what its calls do, one after the other. -/
theorem walkFrom_eq_perform (walker : τ × List ρ) (moves : List (Move α)) :
    (walkFrom walker moves).1 = (calls walker moves).foldl Call.perform walker.1 := by
  induction moves generalizing walker with
  | nil => rfl
  | cons move rest ih =>
    rw [calls, List.foldl_append, ← step_eq_perform, ← ih]
    rfl

end Turtle

end TurtleGraphics
