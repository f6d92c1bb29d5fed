/-
  Rendering wireframes.

  A `Renderer` draws shapes onto a surface as a camera sees them.  The center of
  the screen is the center of the surface, whose vertical axis points down.
  An edge is drawn when both of its ends are visible.

  * `frame` is the list of lines of a picture, edge by edge;
  * `render` clears a surface and draws the edges on it, counting them;
  * `render_eq`: what is drawn, and counted, is the frame.
-/
import TurtleGraphics.Drawing.Surface
import TurtleGraphics.View.Camera

namespace TurtleGraphics

/-- What wireframes are drawn with: a line width for all shapes. -/
structure Renderer (α : Type) where
  lineWidth : α
deriving DecidableEq

variable {α σ : Type} [Scalar α]

/-- The place of a projected point on a surface with the given center. -/
def ProjectedPoint.onSurface (p : ProjectedPoint α) (center : Vec2 α) : Vec2 α :=
  ⟨p.screen.x + center.x, -p.screen.y + center.y⟩

namespace Renderer

/-- The renderer of lines of width one. -/
def initial : Renderer α := ⟨(1 : Nat)⟩

/-- The line of an edge, if both of its ends are visible. -/
def edgeLine? (camera : Camera α) (center : Vec2 α) (stroke : Stroke α)
    (edge : Vec3 α × Vec3 α) : Option (Line α) :=
  let p := camera.project edge.1
  let q := camera.project edge.2
  if p.Visible ∧ q.Visible then some ⟨p.onSurface center, q.onSurface center, stroke⟩ else none

/-- The lines of a picture on a surface of the given size: those of the
    visible edges, shape by shape, in the color of the shape. -/
def frame (renderer : Renderer α) (camera : Camera α) (size : Vec2 α) (shapes : List (Shape α)) :
    List (Line α) :=
  shapes.flatMap fun shape =>
    shape.segments.filterMap (edgeLine? camera size.half ⟨shape.color, renderer.lineWidth⟩)

/-- Draws an edge if it is visible, and counts it. -/
def drawEdge [Surface σ α] (camera : Camera α) (center : Vec2 α) (stroke : Stroke α)
    (drawn : Nat × σ) (edge : Vec3 α × Vec3 α) : Nat × σ :=
  match edgeLine? camera center stroke edge with
  | some line => (drawn.1 + 1, Surface.draw drawn.2 line)
  | none => drawn

/-- Draws the visible edges of a shape, and counts them. -/
def drawShape [Surface σ α] (renderer : Renderer α) (camera : Camera α) (center : Vec2 α)
    (drawn : Nat × σ) (shape : Shape α) : Nat × σ :=
  shape.segments.foldl (drawEdge camera center ⟨shape.color, renderer.lineWidth⟩) drawn

/-- Clears a surface and draws the visible edges of the shapes on it.  The
    answer is the number of lines, and the surface. -/
def render [Surface σ α] (renderer : Renderer α) (shapes : List (Shape α)) (camera : Camera α)
    (surface : σ) : Nat × σ :=
  let center := (Surface.size surface).half
  shapes.foldl (drawShape renderer camera center) (0, Surface.clear surface)

/-! ## What is rendered -/

variable [Surface σ α]

theorem foldl_drawEdge (camera : Camera α) (center : Vec2 α) (stroke : Stroke α)
    (edges : List (Vec3 α × Vec3 α)) (count : Nat) (surface : σ) :
    edges.foldl (drawEdge camera center stroke) (count, surface)
      = (count + (edges.filterMap (edgeLine? camera center stroke)).length,
          (edges.filterMap (edgeLine? camera center stroke)).foldl Surface.draw surface) := by
  induction edges generalizing count surface with
  | nil => rfl
  | cons edge edges ih =>
    rw [List.foldl_cons, drawEdge, List.filterMap_cons]
    cases edgeLine? camera center stroke edge with
    | none => exact ih count surface
    | some line => rw [ih, List.length_cons, List.foldl_cons, Nat.add_right_comm, Nat.add_assoc]

theorem foldl_drawShape (renderer : Renderer α) (camera : Camera α) (size : Vec2 α)
    (shapes : List (Shape α)) (count : Nat) (surface : σ) :
    shapes.foldl (drawShape renderer camera size.half) (count, surface)
      = (count + (renderer.frame camera size shapes).length,
          (renderer.frame camera size shapes).foldl Surface.draw surface) := by
  induction shapes generalizing count surface with
  | nil => rfl
  | cons shape shapes ih =>
    rw [List.foldl_cons, drawShape, foldl_drawEdge, ih]
    simp only [frame, List.flatMap_cons, List.length_append, List.foldl_append, Nat.add_assoc]

/-- Rendering draws the lines of the frame on a blank surface, in order, and
    counts them. -/
theorem render_eq (renderer : Renderer α) (shapes : List (Shape α)) (camera : Camera α)
    (surface : σ) :
    renderer.render shapes camera surface
      = ((renderer.frame camera (Surface.size surface) shapes).length,
          (renderer.frame camera (Surface.size surface) shapes).foldl Surface.draw
            (Surface.clear surface)) := by
  rw [render, foldl_drawShape, Nat.zero_add]

end Renderer

end TurtleGraphics
