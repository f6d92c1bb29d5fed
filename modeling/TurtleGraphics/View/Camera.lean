/-
  The perspective camera.

  A camera looks along the Y axis; X points to the right of the screen and Z
  to its top.  A point is projected by similar triangles: its offsets from the
  eye are divided by its depth and multiplied by the focal distance.
-/
import TurtleGraphics.Geometry.Vector

namespace TurtleGraphics

/-- A projected point: where it is on the screen, and how far in front of the
    eye. -/
structure ProjectedPoint (α : Type) where
  screen : Vec2 α
  depth : α
deriving DecidableEq

/-- A camera that looks along the Y axis. -/
structure Camera (α : Type) where
  position : Vec3 α
  /-- The distance of the screen from the eye: the zoom. -/
  focalDistance : α
deriving DecidableEq

variable {α : Type} [Scalar α]

/-- A point is seen when it lies in front of the eye, not beside or behind
    it. -/
def ProjectedPoint.Visible (p : ProjectedPoint α) : Prop :=
  (0 : Nat) < p.depth

instance (p : ProjectedPoint α) : Decidable p.Visible := inferInstanceAs (Decidable (_ < _))

namespace Camera

/-- The image of a point. -/
def project (camera : Camera α) (point : Vec3 α) : ProjectedPoint α :=
  let d := point - camera.position
  let r := camera.focalDistance / d.y
  ⟨⟨r * d.x, r * d.z⟩, d.y⟩

/-- The camera at another place, with the same zoom. -/
def movedTo (camera : Camera α) (position : Vec3 α) : Camera α :=
  { camera with position }

end Camera

end TurtleGraphics
