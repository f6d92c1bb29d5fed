/-
  Koch curves and snowflakes, as walks.

  * `curve`: one move at level 0; at the next level the middle third gives way
    to two sides of a triangle that points to the left;
  * `planeSnowflake` and `spaceSnowflake`: three curves around a triangle, as
    the turtles of the plane and of space draw it.
-/
import TurtleGraphics.Turtle.Basic

namespace TurtleGraphics.Koch

variable {α : Type} [Scalar α]

/-- A Koch curve of the given length. -/
def curve : Nat → α → List (Move α)
  | 0, length => [.forward length]
  | level + 1, length =>
    let side := curve level (length / (3 : Nat))
    side ++ .left (60 : Nat) :: (side ++ .right (120 : Nat) :: (side ++ .left (60 : Nat) :: side))

/-- Three curves, each followed by a turn of 120 degrees to the right. -/
def triangle (level : Nat) (length : α) : List (Move α) :=
  let side := curve level length ++ [.right (120 : Nat)]
  side ++ (side ++ side)

/-- The snowflake of the plane.  It begins 100 units to the left of the turtle
    and leaves the pen down. -/
def planeSnowflake (level : Nat) (length : α) : List (Move α) :=
  [.liftPen, .left (90 : Nat), .forward (100 : Nat), .right (90 : Nat), .lowerPen]
    ++ triangle level length

/-- The snowflake of space, standing upright: a turn of 30 degrees before it is
    undone after it. -/
def spaceSnowflake (level : Nat) (length : α) : List (Move α) :=
  .right (30 : Nat) :: (triangle level length ++ [.left (30 : Nat)])

end TurtleGraphics.Koch
