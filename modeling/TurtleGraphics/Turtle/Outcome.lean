/-
  Outcomes: what becomes of a statement.

  A statement is either applied or ignored, and an ignored one has a reason.
  `Ignored.message` is the wording of the reasons, all in one place.
-/
import TurtleGraphics.Scalar

namespace TurtleGraphics

/-- Why a statement has no effect. -/
inductive Ignored (α : Type) where
  /-- A move would leave the board. -/
  | outOfBounds
  /-- The text cannot be used as a color. -/
  | invalidColor (color : String)
  /-- The number cannot be used as the width of a stroke. -/
  | invalidWidth (width : α)
  /-- There is no such command, or this turtle does not know it. -/
  | unknownCommand (keyword : String)
  /-- The level of a fractal is higher than allowed. -/
  | levelAboveCeiling (level ceiling : UInt32)
  /-- A command lacks an argument. -/
  | missingArgument
  /-- An argument of a command is not of the right form. -/
  | invalidArgument (word : String)
  /-- An end without an open block. -/
  | strayEnd
  /-- A block is nested in too many others. -/
  | nestingTooDeep (ceiling : UInt32)
  /-- A block would be run too often, counting the blocks around it. -/
  | tooManyIterations (iterations : UInt64) (ceiling : UInt32)
deriving DecidableEq

namespace Ignored

/-- A natural number in digits. -/
def digits (n : Nat) : String := String.ofList (Nat.toDigits 10 n)

/-- The wording of a reason. -/
def message {α : Type} [NumberText α] : Ignored α → String
  | outOfBounds => "the destination is outside of the board"
  | invalidColor color => "unusable style value: " ++ color
  | invalidWidth width => "unusable style value: " ++ NumberText.text width
  | unknownCommand keyword => "unknown command: " ++ keyword
  | levelAboveCeiling level ceiling =>
    "level " ++ digits level.toNat ++ " is above the ceiling of " ++ digits ceiling.toNat
  | missingArgument => "missing argument"
  | invalidArgument word => "invalid argument: " ++ word
  | strayEnd => "'end' without a matching 'repeat'"
  | nestingTooDeep ceiling => "'repeat' blocks nested deeper than " ++ digits ceiling.toNat
  | tooManyIterations iterations ceiling =>
    digits iterations.toNat ++ " iterations are above the ceiling of " ++ digits ceiling.toNat

end Ignored

/-- What becomes of a statement. -/
inductive Outcome (α : Type) where
  | applied
  | ignored (reason : Ignored α)
deriving DecidableEq

/-- Whether the statement had an effect. -/
def Outcome.isApplied {α : Type} : Outcome α → Bool
  | applied => true
  | ignored _ => false

end TurtleGraphics
