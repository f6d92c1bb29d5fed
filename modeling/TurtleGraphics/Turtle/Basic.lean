/-
  Turtles and walks.

  A turtle is anything that moves, turns, lifts and lowers its pen, and has a
  pose it can be put back into; these operations are the class `Turtle`.  A
  walk is a list of moves.  It is made before any turtle walks it, so it does
  not depend on what the turtle answers: a move that is ignored is passed over.

  * `Move.step` is one move, with a stack of the poses that were saved;
  * `Turtle.walk` is a walk from the first move to the last;
  * `walkFrom_append`: walking two walks in a row is walking the first and then
    the second.
-/
import TurtleGraphics.Turtle.Outcome

namespace TurtleGraphics

/-- Something that moves and draws.  `ρ` is the type of its poses. -/
class Turtle (τ : Type) (α ρ : outParam Type) where
  /-- Moves ahead by a distance. -/
  forward : τ → α → Outcome α × τ
  /-- Moves back by a distance. -/
  backward : τ → α → Outcome α × τ
  /-- Turns left by degrees. -/
  turnLeft : τ → α → τ
  /-- Turns right by degrees. -/
  turnRight : τ → α → τ
  /-- Lifts the pen: moves leave no line. -/
  liftPen : τ → τ
  /-- Lowers the pen: moves leave a line. -/
  lowerPen : τ → τ
  /-- Where the turtle is, and where it heads. -/
  pose : τ → ρ
  /-- Puts the turtle somewhere, without a line. -/
  setPose : τ → ρ → τ

/-- A move of a walk. -/
inductive Move (α : Type) where
  | forward (distance : α)
  | backward (distance : α)
  | left (degrees : α)
  | right (degrees : α)
  | liftPen
  | lowerPen
  /-- Remembers the pose. -/
  | save
  /-- Goes back to the pose remembered last, and forgets it. -/
  | restore
deriving DecidableEq

variable {τ α ρ : Type} [Turtle τ α ρ]

/-- One move of a turtle.  Beside it stand the poses it has saved, the last
    one first. -/
def Move.step (walker : τ × List ρ) : Move α → τ × List ρ
  | forward distance => ((Turtle.forward walker.1 distance).2, walker.2)
  | backward distance => ((Turtle.backward walker.1 distance).2, walker.2)
  | left degrees => (Turtle.turnLeft walker.1 degrees, walker.2)
  | right degrees => (Turtle.turnRight walker.1 degrees, walker.2)
  | liftPen => (Turtle.liftPen walker.1, walker.2)
  | lowerPen => (Turtle.lowerPen walker.1, walker.2)
  | save => (walker.1, Turtle.pose walker.1 :: walker.2)
  | restore => match walker.2 with
    | [] => walker
    | pose :: saved => (Turtle.setPose walker.1 pose, saved)

/-- Walks on, with the poses saved so far. -/
def Turtle.walkFrom (walker : τ × List ρ) (moves : List (Move α)) : τ × List ρ :=
  moves.foldl Move.step walker

/-- Walks a walk. -/
def Turtle.walk (turtle : τ) (moves : List (Move α)) : τ :=
  (Turtle.walkFrom (turtle, []) moves).1

theorem Turtle.walkFrom_append (walker : τ × List ρ) (first second : List (Move α)) :
    Turtle.walkFrom walker (first ++ second)
      = Turtle.walkFrom (Turtle.walkFrom walker first) second :=
  List.foldl_append

end TurtleGraphics
