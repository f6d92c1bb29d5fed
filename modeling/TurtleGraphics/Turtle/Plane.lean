/-
  The turtle of the plane.

  It draws straight onto a surface.  A distance counts board units, of which
  the width of the surface has a given number.  The turtle starts in the
  middle, heading up, and stays strictly inside the surface: a move that would
  leave it is ignored.
-/
import TurtleGraphics.Drawing.Surface
import TurtleGraphics.Geometry.Angle
import TurtleGraphics.Turtle.Basic

namespace TurtleGraphics

/-- Where a turtle of the plane is and where it heads: in degrees, clockwise
    from the top. -/
structure PlanePose (α : Type) where
  position : Vec2 α
  heading : α
deriving DecidableEq

/-- A turtle of the plane, with the surface it draws on. -/
structure PlaneTurtle (σ α : Type) where
  surface : σ
  position : Vec2 α
  heading : α
  penDown : Bool
  stroke : Stroke α
  /-- The length of a board unit on the surface. -/
  unit : α
deriving DecidableEq

variable {σ α : Type} [Scalar α]

/-- A point lies strictly inside a surface of the given size. -/
def Vec2.StrictlyInside (p size : Vec2 α) : Prop :=
  (0 : Nat) < p.x ∧ p.x < size.x ∧ (0 : Nat) < p.y ∧ p.y < size.y

instance (p size : Vec2 α) : Decidable (p.StrictlyInside size) :=
  inferInstanceAs (Decidable (_ ∧ _ ∧ _ ∧ _))

namespace PlaneTurtle

/-- The widths a stroke may have. -/
def AllowsWidth (width : α) : Prop := (1 : Nat) ≤ width ∧ width ≤ (7 : Nat)

instance (width : α) : Decidable (AllowsWidth width) := inferInstanceAs (Decidable (_ ∧ _))

/-- Sets the color of the next lines, if it is usable. -/
def setColor (t : PlaneTurtle σ α) (color : String) : Outcome α × PlaneTurtle σ α :=
  if isUsableColor color then (.applied, { t with stroke := { t.stroke with color } })
  else (.ignored (.invalidColor color), t)

/-- Sets the width of the next lines, if it is allowed. -/
def setWidth (t : PlaneTurtle σ α) (width : α) : Outcome α × PlaneTurtle σ α :=
  if AllowsWidth width then (.applied, { t with stroke := { t.stroke with width } })
  else (.ignored (.invalidWidth width), t)

/-- The displacement of a move on the surface, where Y points down. -/
def displacement (t : PlaneTurtle σ α) (distance : α) : Vec2 α :=
  let angle := toRadians t.heading
  (⟨Scalar.sin angle, -Scalar.cos angle⟩ : Vec2 α).scale (distance * t.unit)

/-- Turns by degrees to the left. -/
def turnLeft (t : PlaneTurtle σ α) (degrees : α) : PlaneTurtle σ α :=
  { t with heading := wrapHeading (t.heading - degrees) }

/-- Turns by degrees to the right. -/
def turnRight (t : PlaneTurtle σ α) (degrees : α) : PlaneTurtle σ α :=
  { t with heading := wrapHeading (t.heading + degrees) }

/-- The pose of the turtle. -/
def pose (t : PlaneTurtle σ α) : PlanePose α := ⟨t.position, t.heading⟩

/-- Puts the turtle into a pose. -/
def setPose (t : PlaneTurtle σ α) (pose : PlanePose α) : PlaneTurtle σ α :=
  { t with position := pose.position, heading := pose.heading }

variable [Surface σ α]

/-- A turtle at the start: in the middle of the surface, heading up, with the
    pen down.  The board has `extent` units across. -/
def start (surface : σ) (extent : α) (stroke : Stroke α) : PlaneTurtle σ α :=
  let size := Surface.size surface
  { surface, position := size.half, heading := (0 : Nat), penDown := true, stroke
    unit := size.x / extent }

/-- Starts over in the middle of a blank surface, heading up.  Pen and stroke
    stay as they are. -/
def reset (t : PlaneTurtle σ α) : PlaneTurtle σ α :=
  { t with
    position := (Surface.size t.surface).half
    heading := (0 : Nat)
    surface := Surface.clear t.surface }

/-- Moves to a point of the surface, leaving a line if the pen is down. -/
def moveTo (t : PlaneTurtle σ α) (destination : Vec2 α) : Outcome α × PlaneTurtle σ α :=
  match t with
  | ⟨surface, position, heading, penDown, stroke, unit⟩ =>
    if destination.StrictlyInside (Surface.size surface) then
      let drawn := if penDown then Surface.draw surface ⟨position, destination, stroke⟩ else surface
      (.applied, ⟨drawn, destination, heading, penDown, stroke, unit⟩)
    else (.ignored .outOfBounds, ⟨surface, position, heading, penDown, stroke, unit⟩)

instance : Turtle (PlaneTurtle σ α) α (PlanePose α) where
  forward t distance := t.moveTo (t.position + t.displacement distance)
  backward t distance := t.moveTo (t.position - t.displacement distance)
  turnLeft := turnLeft
  turnRight := turnRight
  liftPen t := { t with penDown := false }
  lowerPen t := { t with penDown := true }
  pose := pose
  setPose := setPose

end PlaneTurtle

end TurtleGraphics
