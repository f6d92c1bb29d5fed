/-
  Surfaces: what lines are drawn on.

  Whatever draws can draw on any surface.  It needs three things of it, the
  operations of the class `Surface`: its size, clearing it, and drawing a line.
  A `LineBuffer` remembers what was drawn and nothing else.

  * `LineBuffer.foldl_draw`: drawing lines appends them, in order.
-/
import TurtleGraphics.Geometry.Shape

namespace TurtleGraphics

/-- The style of a drawn line. -/
structure Stroke (α : Type) where
  color : String
  width : α
deriving DecidableEq

/-- A color is usable when it is not empty and cannot end the quoted value of
    an attribute or begin an element. -/
def isUsableColor (color : String) : Bool :=
  !color.isEmpty && color.toList.all fun c =>
    c != '<' && c != '>' && c != '"' && c != '\'' && c != '&'

/-- The stroke that turtles start with. -/
def Stroke.initial {α : Type} [NatCast α] : Stroke α := ⟨defaultColor, (1 : Nat)⟩

/-- A line on a surface. -/
structure Line (α : Type) where
  start : Vec2 α
  stop : Vec2 α
  stroke : Stroke α
deriving DecidableEq

/-- Something that lines are drawn on. -/
class Surface (σ : Type) (α : outParam Type) where
  /-- Width and height. -/
  size : σ → Vec2 α
  /-- The surface without anything drawn on it. -/
  clear : σ → σ
  /-- The surface with one more line. -/
  draw : σ → Line α → σ

/-- A surface that remembers the lines drawn on it, in order. -/
structure LineBuffer (α : Type) where
  size : Vec2 α
  lines : Array (Line α)
deriving DecidableEq

namespace LineBuffer

/-- A buffer without lines. -/
def empty {α : Type} (size : Vec2 α) : LineBuffer α := ⟨size, #[]⟩

instance (α : Type) : Surface (LineBuffer α) α where
  size := LineBuffer.size
  clear b := empty b.size
  draw b l := { b with lines := b.lines.push l }

/-- Drawing on a buffer appends to its lines, and keeps its size. -/
theorem foldl_draw {α : Type} (lines : List (Line α)) (b : LineBuffer α) :
    lines.foldl Surface.draw b = ⟨b.size, b.lines ++ lines⟩ := by
  induction lines generalizing b with
  | nil => simp
  | cons line lines ih =>
    rw [List.foldl_cons, ih]
    simp [Surface.draw]

end LineBuffer

end TurtleGraphics
