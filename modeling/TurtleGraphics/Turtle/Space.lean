/-
  The turtle of space.

  It leaves a trace of line shapes.  Its heading has two angles: at zero it
  looks along -Y, a yaw rotates that within the XY plane, and a pitch raises
  it from the plane to the side of +Z.  Its board is the cube of half extent
  1000 around the origin, faces included: a move that would leave it is
  ignored.
-/
import TurtleGraphics.Drawing.Surface
import TurtleGraphics.Geometry.Angle
import TurtleGraphics.Turtle.Basic

namespace TurtleGraphics

/-- Where a turtle of space is and where it heads, in degrees. -/
structure SpacePose (α : Type) where
  position : Vec3 α
  yaw : α
  pitch : α
deriving DecidableEq

/-- A turtle of space, with its trace. -/
structure SpaceTurtle (α : Type) where
  position : Vec3 α
  yaw : α
  pitch : α
  penDown : Bool
  color : String
  thickness : α
  /-- Everything drawn so far, in order. -/
  shapes : Array (Shape α)
deriving DecidableEq

namespace SpaceTurtle

variable {α : Type} [Scalar α]

/-- A turtle at the start: at the origin, level, with the pen down. -/
def initial : SpaceTurtle α :=
  { position := Vec3.zero, yaw := (0 : Nat), pitch := (0 : Nat), penDown := true
    color := defaultColor, thickness := (1 : Nat), shapes := #[] }

/-- A number is at most 1000 in size. -/
def WithinExtent (a : α) : Prop := -((1000 : Nat) : α) ≤ a ∧ a ≤ (1000 : Nat)

instance (a : α) : Decidable (WithinExtent a) := inferInstanceAs (Decidable (_ ∧ _))

/-- A point lies on the board. -/
def OnBoard (p : Vec3 α) : Prop := WithinExtent p.x ∧ WithinExtent p.y ∧ WithinExtent p.z

instance (p : Vec3 α) : Decidable (OnBoard p) := inferInstanceAs (Decidable (_ ∧ _ ∧ _))

/-- The widths a stroke may have. -/
def AllowsWidth (width : α) : Prop := (1 : Nat) ≤ width ∧ width ≤ (6 : Nat)

instance (width : α) : Decidable (AllowsWidth width) := inferInstanceAs (Decidable (_ ∧ _))

/-- Sets the color of the next lines, if it is usable. -/
def setColor (t : SpaceTurtle α) (color : String) : Outcome α × SpaceTurtle α :=
  if isUsableColor color then (.applied, { t with color }) else (.ignored (.invalidColor color), t)

/-- Sets the width of all lines, if it is allowed. -/
def setWidth (t : SpaceTurtle α) (width : α) : Outcome α × SpaceTurtle α :=
  if AllowsWidth width then (.applied, { t with thickness := width })
  else (.ignored (.invalidWidth width), t)

/-- Turns by degrees to the left. -/
def turnLeft (t : SpaceTurtle α) (degrees : α) : SpaceTurtle α :=
  { t with yaw := wrapHeading (t.yaw - degrees) }

/-- Turns by degrees to the right. -/
def turnRight (t : SpaceTurtle α) (degrees : α) : SpaceTurtle α :=
  { t with yaw := wrapHeading (t.yaw + degrees) }

/-- Turns by degrees upwards. -/
def turnUp (t : SpaceTurtle α) (degrees : α) : SpaceTurtle α :=
  { t with pitch := wrapPitch (t.pitch + degrees) }

/-- Turns by degrees downwards. -/
def turnDown (t : SpaceTurtle α) (degrees : α) : SpaceTurtle α :=
  { t with pitch := wrapPitch (t.pitch - degrees) }

/-- Starts over at the origin, level, without a trace.  Pen and style stay as
    they are. -/
def reset (t : SpaceTurtle α) : SpaceTurtle α :=
  { t with position := Vec3.zero, yaw := (0 : Nat), pitch := (0 : Nat), shapes := #[] }

/-- The displacement of a move. -/
def displacement (t : SpaceTurtle α) (distance : α) : Vec3 α :=
  let yaw := toRadians t.yaw
  let pitch := toRadians t.pitch
  (⟨Scalar.sin yaw * Scalar.cos pitch, -Scalar.cos yaw * Scalar.cos pitch, Scalar.sin pitch⟩ :
    Vec3 α).scale distance

/-- Moves to a point of the board, leaving a line if the pen is down. -/
def moveTo (t : SpaceTurtle α) (destination : Vec3 α) : Outcome α × SpaceTurtle α :=
  match t with
  | ⟨position, yaw, pitch, penDown, color, thickness, shapes⟩ =>
    if OnBoard destination then
      let trace := if penDown then shapes.push (.line position destination color) else shapes
      (.applied, ⟨destination, yaw, pitch, penDown, color, thickness, trace⟩)
    else (.ignored .outOfBounds, ⟨position, yaw, pitch, penDown, color, thickness, shapes⟩)

/-- The pose of the turtle. -/
def pose (t : SpaceTurtle α) : SpacePose α := ⟨t.position, t.yaw, t.pitch⟩

/-- Puts the turtle into a pose. -/
def setPose (t : SpaceTurtle α) (pose : SpacePose α) : SpaceTurtle α :=
  { t with position := pose.position, yaw := pose.yaw, pitch := pose.pitch }

instance : Turtle (SpaceTurtle α) α (SpacePose α) where
  forward t distance := t.moveTo (t.position + t.displacement distance)
  backward t distance := t.moveTo (t.position - t.displacement distance)
  turnLeft := turnLeft
  turnRight := turnRight
  liftPen t := { t with penDown := false }
  lowerPen t := { t with penDown := true }
  pose := pose
  setPose := setPose

end SpaceTurtle

end TurtleGraphics
