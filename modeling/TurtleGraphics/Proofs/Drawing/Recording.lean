/-
  Recordings: surfaces that remember what is drawn on them.

  Of a `Surface` in general nothing is known.  A `Recording` is one that keeps
  its size and knows its lines, in order: clearing leaves none, and drawing adds
  one at the end.  Line buffers and SVG documents are recordings.
-/
import TurtleGraphics.Drawing.Svg

namespace TurtleGraphics

/-- A surface that remembers the lines drawn on it. -/
class Recording (σ : Type) {α : outParam Type} [Surface σ α] where
  lines : σ → Array (Line α)
  size_clear (s : σ) : Surface.size (Surface.clear s) = Surface.size s
  size_draw (s : σ) (line : Line α) : Surface.size (Surface.draw s line) = Surface.size s
  lines_clear (s : σ) : lines (Surface.clear s) = #[]
  lines_draw (s : σ) (line : Line α) : lines (Surface.draw s line) = (lines s).push line

instance (α : Type) : Recording (LineBuffer α) where
  lines := LineBuffer.lines
  size_clear _ := rfl
  size_draw _ _ := rfl
  lines_clear _ := rfl
  lines_draw _ _ := rfl

instance (α : Type) [NumberText α] : Recording (SvgDocument α) where
  lines := SvgDocument.lines
  size_clear _ := rfl
  size_draw _ _ := rfl
  lines_clear _ := rfl
  lines_draw _ _ := rfl

end TurtleGraphics
