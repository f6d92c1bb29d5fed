/-
  Limits: how high the levels of fractals may be, and how far repeating may
  go.
-/
import TurtleGraphics.Program.Command

namespace TurtleGraphics

/-- The limits that a program runs under. -/
structure Limits where
  /-- The highest level of a Koch snowflake. -/
  koch : UInt32
  /-- The highest level of a Sierpinski triangle. -/
  sierpinski : UInt32
  /-- How deep blocks may be nested. -/
  repeatDepth : UInt32
  /-- How often a block may be run, counting the blocks around it. -/
  repeatIterations : UInt32
deriving DecidableEq

namespace Limits

/-- The limits where none are given. -/
def standard : Limits :=
  { koch := 5, sierpinski := 6, repeatDepth := 64, repeatIterations := 10000 }

/-- Why a level is refused, if it is. -/
def refusalOfLevel? {α : Type} (level ceiling : UInt32) : Option (Ignored α) :=
  if ceiling < level then some (.levelAboveCeiling level ceiling) else none

/-- Why a command is refused, if it is: only fractals have a limit. -/
def refusal? {α : Type} (limits : Limits) : Command α → Option (Ignored α)
  | .koch level _ => refusalOfLevel? level limits.koch
  | .sierpinski level _ => refusalOfLevel? level limits.sierpinski
  | _ => none

end Limits

end TurtleGraphics
