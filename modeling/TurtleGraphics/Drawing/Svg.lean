/-
  Drawing to SVG markup.

  An `SvgDocument` is a surface that appends one `line` element to its body for
  every line drawn on it.  `SvgDocument.markup` is the complete document: the
  body inside an `svg` element of the size of the surface.

  * `SvgDocument.foldl_draw`: drawing lines appends their elements, in order.
-/
import TurtleGraphics.Drawing.Surface

namespace TurtleGraphics

/-- A surface that writes one element for every line. -/
structure SvgDocument (α : Type) where
  size : Vec2 α
  /-- The elements of the lines, in order. -/
  body : String
  lines : Array (Line α)
deriving DecidableEq

namespace SvgDocument

variable {α : Type} [NumberText α]

/-- An attribute of an element: a blank, the name and the quoted value. -/
def attr (name value : String) : String :=
  " " ++ name ++ "=\"" ++ value ++ "\""

/-- The style of a stroke. -/
def style (stroke : Stroke α) : String :=
  "stroke: " ++ stroke.color ++ "; stroke-width: " ++ NumberText.text stroke.width

/-- The element of a line. -/
def element (line : Line α) : String :=
  "<line" ++ attr "x1" (NumberText.text line.start.x)
    ++ attr "y1" (NumberText.text line.start.y)
    ++ attr "x2" (NumberText.text line.stop.x)
    ++ attr "y2" (NumberText.text line.stop.y)
    ++ attr "style" (style line.stroke) ++ "/>"

/-- The tag that opens a document of the given size. -/
def openingTag (size : Vec2 α) : String :=
  let w := NumberText.text size.x
  let h := NumberText.text size.y
  "<svg" ++ attr "xmlns" "http://www.w3.org/2000/svg" ++ attr "width" w
    ++ attr "height" h ++ attr "viewBox" ("0 0 " ++ w ++ " " ++ h) ++ ">"

/-- The tag that closes a document. -/
def closingTag : String := "</svg>"

/-- A document without lines. -/
def empty (size : Vec2 α) : SvgDocument α := ⟨size, "", #[]⟩

instance : Surface (SvgDocument α) α where
  size := SvgDocument.size
  clear d := empty d.size
  draw d line := { d with body := d.body ++ element line, lines := d.lines.push line }

/-- Drawing on a document appends the elements of the lines to its body. -/
theorem foldl_draw (lines : List (Line α)) (d : SvgDocument α) :
    lines.foldl Surface.draw d
      = ⟨d.size, d.body ++ String.join (lines.map element), d.lines ++ lines⟩ := by
  induction lines generalizing d with
  | nil => simp
  | cons line lines ih =>
    rw [List.foldl_cons, ih]
    simp [Surface.draw, String.append_assoc]

/-- The complete, standalone document. -/
def markup (d : SvgDocument α) : String :=
  openingTag d.size ++ d.body ++ closingTag

end SvgDocument

end TurtleGraphics
