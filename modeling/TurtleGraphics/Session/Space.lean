/-
  Commands for the turtle of space.

  The turtle carries out every command.  Clearing the screen is starting over:
  it is taken back to the origin and its trace is erased.
-/
import TurtleGraphics.Fractal.Koch
import TurtleGraphics.Fractal.Sierpinski
import TurtleGraphics.Program.Command
import TurtleGraphics.Turtle.Space

namespace TurtleGraphics.SpaceTurtle

variable {α : Type} [Scalar α]

/-- Carries out a command. -/
def apply (t : SpaceTurtle α) : Command α → Outcome α × SpaceTurtle α
  | .forward distance => Turtle.forward t distance
  | .backward distance => Turtle.backward t distance
  | .right degrees => (.applied, Turtle.turnRight t degrees)
  | .left degrees => (.applied, Turtle.turnLeft t degrees)
  | .up degrees => (.applied, t.turnUp degrees)
  | .down degrees => (.applied, t.turnDown degrees)
  | .penUp => (.applied, Turtle.liftPen t)
  | .penDown => (.applied, Turtle.lowerPen t)
  | .setColor color => t.setColor color
  | .setWidth width => t.setWidth width
  | .koch level length => (.applied, Turtle.walk t (Koch.spaceSnowflake level.toNat length))
  | .sierpinski level side => (.applied, Turtle.walk t (Sierpinski.spaceTriangle level.toNat side))
  | .clearScreen => (.applied, t.reset)

end TurtleGraphics.SpaceTurtle
