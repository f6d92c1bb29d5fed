/-
  Angles in degrees.

  A heading lies in `[0, 360)` and a pitch in `[-180, 180)`.  Turning adds or
  subtracts degrees and wraps the result, with these two functions:

  * `wrapHeading` reduces an angle into `[0, 360)`;
  * `wrapPitch` reduces an angle into `[-180, 180)`.
-/
import TurtleGraphics.Scalar

namespace TurtleGraphics

variable {α : Type} [Scalar α]

/-- The remainder by a positive number that is not negative itself. -/
def wrap (a modulus : α) : α :=
  let r := Scalar.rem a modulus
  if r < (0 : Nat) then r + modulus else r

/-- Reduces an angle into `[0, 360)`.  A tiny negative angle may be rounded up
    to a full turn, which is no turn. -/
def wrapHeading (degrees : α) : α :=
  let wrapped := wrap degrees (360 : Nat)
  if (360 : Nat) ≤ wrapped then (0 : Nat) else wrapped

/-- Reduces an angle into `[-180, 180)`. -/
def wrapPitch (degrees : α) : α :=
  wrapHeading (degrees + (180 : Nat)) - (180 : Nat)

/-- The same angle in radians. -/
def toRadians (degrees : α) : α :=
  degrees * (Scalar.pi / (180 : Nat))

end TurtleGraphics
