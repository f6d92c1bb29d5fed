/-
  Programs for the turtle of the plane.

  The turtle carries out every command but those of space: it cannot turn up
  or down, and its screen is not cleared.
-/
import TurtleGraphics.Fractal.Koch
import TurtleGraphics.Fractal.Sierpinski
import TurtleGraphics.Program.Run
import TurtleGraphics.Turtle.Plane

namespace TurtleGraphics.PlaneTurtle

variable {σ α : Type} [Scalar α] [Surface σ α]

/-- Carries out a command. -/
def apply (t : PlaneTurtle σ α) (command : Command α) : Outcome α × PlaneTurtle σ α :=
  match command with
  | .forward distance => Turtle.forward t distance
  | .backward distance => Turtle.backward t distance
  | .right degrees => (.applied, Turtle.turnRight t degrees)
  | .left degrees => (.applied, Turtle.turnLeft t degrees)
  | .penUp => (.applied, Turtle.liftPen t)
  | .penDown => (.applied, Turtle.lowerPen t)
  | .setColor color => t.setColor color
  | .setWidth width => t.setWidth width
  | .koch level length => (.applied, Turtle.walk t (Koch.planeSnowflake level.toNat length))
  | .sierpinski level side => (.applied, Turtle.walk t (Sierpinski.planeTriangle level.toNat side))
  | .up _ | .down _ | .clearScreen => (.ignored (.unknownCommand command.keyword.name), t)

/-- A session whose state is the turtle.  Nothing happens at the end of a
    batch. -/
def session : Session (PlaneTurtle σ α) α where
  apply := apply
  finish t := t

end TurtleGraphics.PlaneTurtle
