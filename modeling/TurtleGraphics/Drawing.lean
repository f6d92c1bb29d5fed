/-
  Drawings: from a configuration to lines.

  * `Settings.draw` runs a program with given settings on a fresh turtle;
  * `Drawing.ofConfiguration` takes settings and program from a configuration.
-/
import TurtleGraphics.Configuration
import TurtleGraphics.Drawing.Svg
import TurtleGraphics.Session.Plane
import TurtleGraphics.Session.Scene

namespace TurtleGraphics

/-- What a program drew. -/
structure Drawing (α : Type) where
  /-- The lines on the surface, in order. -/
  lines : Array (Line α)
  /-- The complete document, for the variant that makes one. -/
  markup : Option String
  /-- One entry for every statement that was run. -/
  reports : List (Report α)

/-- The number of statements that had no effect. -/
def Drawing.ignored {α : Type} (d : Drawing α) : Nat :=
  d.reports.countP fun r => !r.outcome.isApplied

namespace Settings

variable {α : Type} [Scalar α] [NumberText α]

/-- The stroke that lines of SVG markup start with. -/
def svgStroke : Stroke α := ⟨"black", (2 : Nat)⟩

/-- The drawing of a program in the plane. -/
def drawPlane (s : Settings α) (program : String) : Drawing α :=
  let turtle := PlaneTurtle.start (LineBuffer.empty s.surfaceSize) s.boardExtent .initial
  let (reports, turtle) := s.limits.run PlaneTurtle.session program turtle
  { lines := turtle.surface.lines, markup := none, reports }

/-- The drawing of a program in the plane, with its markup. -/
def drawSvg (s : Settings α) (program : String) : Drawing α :=
  let turtle := PlaneTurtle.start (SvgDocument.empty s.surfaceSize) s.boardExtent svgStroke
  let (reports, turtle) := s.limits.run PlaneTurtle.session program turtle
  { lines := turtle.surface.lines, markup := some turtle.surface.markup, reports }

/-- A drag that is not zero turns the view. -/
def Drags (s : Settings α) : Prop :=
  s.drag.x < (0 : Nat) ∨ (0 : Nat) < s.drag.x ∨ s.drag.y < (0 : Nat) ∨ (0 : Nat) < s.drag.y

instance (s : Settings α) : Decidable s.Drags := inferInstanceAs (Decidable (_ ∨ _ ∨ _ ∨ _))

/-- The drawing of a program in space, as it is seen after the drag. -/
def drawSpace (s : Settings α) (program : String) : Drawing α :=
  let scene := Scene.start (LineBuffer.empty s.surfaceSize) s.cameraDistance
  let (reports, scene) := s.limits.run Scene.session program scene
  let scene := if s.Drags then (scene.drag s.drag).2 else scene
  { lines := scene.surface.lines, markup := none, reports }

/-- The drawing of a program. -/
def draw (s : Settings α) (program : String) : Drawing α :=
  match s.variant with
  | .plane => s.drawPlane program
  | .svg => s.drawSvg program
  | .space => s.drawSpace program

end Settings

/-- The drawing that a configuration describes: its settings, and the program
    under the key `program`. -/
def Drawing.ofConfiguration (c : Configuration) : Except ConfigurationError (Drawing Float) := do
  let settings ← Settings.ofConfiguration c
  let program ← c.required "program"
  return settings.draw program

end TurtleGraphics
