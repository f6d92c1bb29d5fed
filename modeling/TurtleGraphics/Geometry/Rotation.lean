/-
  Rotations of space.

  A `Matrix3` is given by its columns, the images of the three axes.
  `orbitMatrix` turns space by a pitch around the X axis and then by a yaw
  around the Z axis, and `rotate` does so about a given centre.
-/
import TurtleGraphics.Geometry.Vector

namespace TurtleGraphics

/-- A linear map of space, by its columns: the images of the axes. -/
structure Matrix3 (α : Type) where
  xAxis : Vec3 α
  yAxis : Vec3 α
  zAxis : Vec3 α
deriving DecidableEq

variable {α : Type} [Scalar α]

namespace Matrix3

/-- The image of a vector. -/
def apply (m : Matrix3 α) (v : Vec3 α) : Vec3 α :=
  (m.xAxis.scale v.x + m.yAxis.scale v.y) + m.zAxis.scale v.z

/-- First `n`, then `m`. -/
def comp (m n : Matrix3 α) : Matrix3 α :=
  ⟨m.apply n.xAxis, m.apply n.yAxis, m.apply n.zAxis⟩

/-- The rotation around the X axis by an angle in radians. -/
def rotationX (angle : α) : Matrix3 α :=
  let sin := Scalar.sin angle
  let cos := Scalar.cos angle
  ⟨⟨(1 : Nat), (0 : Nat), (0 : Nat)⟩, ⟨(0 : Nat), cos, sin⟩, ⟨(0 : Nat), -sin, cos⟩⟩

/-- The rotation around the Z axis by an angle in radians. -/
def rotationZ (angle : α) : Matrix3 α :=
  let sin := Scalar.sin angle
  let cos := Scalar.cos angle
  ⟨⟨cos, sin, (0 : Nat)⟩, ⟨-sin, cos, (0 : Nat)⟩, ⟨(0 : Nat), (0 : Nat), (1 : Nat)⟩⟩

end Matrix3

/-- The rotation by `pitch` radians around X, then by `yaw` radians around
    Z. -/
def orbitMatrix (yaw pitch : α) : Matrix3 α :=
  (Matrix3.rotationZ yaw).comp (Matrix3.rotationX pitch)

/-- The image of a point under a linear map about a centre. -/
def Matrix3.applyAbout (m : Matrix3 α) (center point : Vec3 α) : Vec3 α :=
  m.apply (point - center) + center

/-- Rotates a point about a centre: by `pitch` radians around X, then by `yaw`
    radians around Z. -/
def rotate (point center : Vec3 α) (yaw pitch : α) : Vec3 α :=
  (orbitMatrix yaw pitch).applyAbout center point

end TurtleGraphics
