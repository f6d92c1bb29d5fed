/-
  Scalars: the numbers that drawings are computed with.

  Everything between the program text and the drawn lines (turtles, fractals,
  rotations, projections) is written over an arbitrary `Scalar`.  A program
  runs with the IEEE doubles of `TurtleGraphics.Binary64`; geometry is
  reasoned about over any other instance with the same operations.

  * `Scalar α` holds the operations and nothing about them: a law that an
    argument needs is a law of the instance it is used at;
  * `NumberText α` is how a number is written in messages and in markup.
-/
namespace TurtleGraphics

/-- The operations a drawing is computed with.  Small constants are casts of
    natural numbers, so that they mean the same in every instance. -/
class Scalar (α : Type) extends Add α, Sub α, Mul α, Div α, Neg α, NatCast α,
    OfScientific α, LT α, LE α where
  /-- Comparisons are decided by the instance. -/
  decidableLT (a b : α) : Decidable (a < b)
  /-- Comparisons are decided by the instance. -/
  decidableLE (a b : α) : Decidable (a ≤ b)
  /-- Half the circumference of the unit circle. -/
  pi : α
  /-- The square root of a number that is not negative. -/
  sqrt : α → α
  /-- The sine of an angle in radians. -/
  sin : α → α
  /-- The cosine of an angle in radians. -/
  cos : α → α
  /-- The remainder of the division that is cut off towards zero: it has the
      sign of the dividend. -/
  rem : α → α → α
  /-- Whether the value is an actual number, neither infinite nor undefined. -/
  isFinite : α → Bool

instance Scalar.decideLT {α : Type} [Scalar α] (a b : α) : Decidable (a < b) := Scalar.decidableLT a b

instance Scalar.decideLE {α : Type} [Scalar α] (a b : α) : Decidable (a ≤ b) := Scalar.decidableLE a b

/-- How a number is written. -/
class NumberText (α : Type) where
  /-- The written form of a number. -/
  text : α → String

end TurtleGraphics
