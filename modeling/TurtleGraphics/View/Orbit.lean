/-
  The orbit of the view: accumulated pointer drags, read as angles.

  A drag of one unit to the side turns the view by half a degree, and a drag
  of one unit up or down by one degree.
-/
import TurtleGraphics.Geometry.Vector

namespace TurtleGraphics

/-- The sum of all drags so far. -/
structure Orbit (α : Type) where
  offset : Vec2 α
deriving DecidableEq

namespace Orbit

variable {α : Type} [Scalar α]

/-- The view at the start: the XY plane is parallel to the screen. -/
def initial : Orbit α := ⟨⟨(0 : Nat), -(90 : Nat)⟩⟩

/-- One more drag. -/
def drag (orbit : Orbit α) (amount : Vec2 α) : Orbit α := ⟨orbit.offset + amount⟩

/-- The angle of the view around the Z axis, in radians. -/
def yaw (orbit : Orbit α) : α := orbit.offset.x * Scalar.pi / (360 : Nat)

/-- The angle of the view around the X axis, in radians. -/
def pitch (orbit : Orbit α) : α := orbit.offset.y * Scalar.pi / (180 : Nat)

end Orbit

end TurtleGraphics
