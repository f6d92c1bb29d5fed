/-
  Rendering: the picture of shapes is the list of their visible edges.

  What is on a surface after rendering does not depend on what was there before: one line for
  every edge with both ends in front of the camera, shape by shape, and edge by edge.

  * `Shape.allEdges` are the edges of shapes, in order, and `Shape.Built.forall₂_segments`:
    no edge of a shape that can be built is without its ends;
  * `Camera.Sees` and `Renderer.image`: the edges that are drawn, and their lines;
  * `Renderer.frame_eq`: the lines of a frame, edge by edge;
  * `Renderer.render_lineBuffer`, `Renderer.render_svgDocument`: what rendering leaves on a
    surface, and `Renderer.frame_append`: the picture of shapes is put together from those
    of some of them;
  * `rendering_draws_visible_edges`: so it is with doubles.
-/
import TurtleGraphics.Drawing.Svg
import TurtleGraphics.Proofs.Decimal.Doubles
import TurtleGraphics.View.Wireframe

namespace TurtleGraphics

variable {α : Type} [Scalar α]

/-! ## Edges -/

/-- An edge of a shape, in the color of the shape. -/
structure Edge (α : Type) where
  start : Vec3 α
  stop : Vec3 α
  color : String
deriving DecidableEq

namespace Shape

/-- The edges of shapes: shape by shape, and in the order that they have there. -/
def allEdges (shapes : List (Shape α)) : List (Edge α) :=
  shapes.flatMap fun shape =>
    shape.segments.map fun segment => ⟨segment.1, segment.2, shape.color⟩

/-- The shapes that can be built. -/
inductive Built : Shape α → Prop where
  | cube (center : Vec3 α) (size : α) (color : String) : Built (cube center size color)
  | line (p q : Vec3 α) (color : String) : Built (line p q color)
  | moved (f : Vec3 α → Vec3 α) {s : Shape α} (h : Built s) : Built (s.mapVertices f)

theorem Built.edges_lt {s : Shape α} (h : s.Built) :
    ∀ edge ∈ s.edges, edge.1 < s.vertices.size ∧ edge.2 < s.vertices.size := by
  induction h with
  | cube center size color =>
    have hnumbers : ∀ edge ∈ cubeEdges, edge.1 < 8 ∧ edge.2 < 8 := by decide
    exact hnumbers
  | line p q color =>
    have hnumbers : ∀ edge ∈ [(0, 1)], edge.1 < 2 ∧ edge.2 < 2 := by decide
    exact hnumbers
  | moved f h ih => simpa [mapVertices] using ih

/-- **No edge is without its ends**: there is one segment for every edge, between the vertices
    with its numbers. -/
theorem Built.forall₂_segments {s : Shape α} (h : s.Built) :
    List.Forall₂ (fun edge (segment : Vec3 α × Vec3 α) =>
      s.vertices[edge.1]? = some segment.1 ∧ s.vertices[edge.2]? = some segment.2)
      s.edges s.segments := by
  have hnumbers := h.edges_lt
  unfold segments
  generalize s.edges = edges at hnumbers ⊢
  induction edges with
  | nil => exact .nil
  | cons edge edges ih =>
    obtain ⟨⟨hfirst, hsecond⟩, hedges⟩ := List.forall_mem_cons.1 hnumbers
    have hp := Array.getElem?_eq_getElem hfirst
    have hq := Array.getElem?_eq_getElem hsecond
    rw [List.filterMap_cons]
    simp only [hp, hq]
    exact .cons ⟨hp, hq⟩ (ih hedges)

end Shape

/-! ## Lines -/

/-- A camera sees an edge if both of its ends are in front of it. -/
def Camera.Sees (camera : Camera α) (edge : Edge α) : Prop :=
  (0 : Nat) < (camera.project edge.start).depth ∧ (0 : Nat) < (camera.project edge.stop).depth

instance (camera : Camera α) (edge : Edge α) : Decidable (camera.Sees edge) :=
  inferInstanceAs (Decidable (_ ∧ _))

namespace Renderer

variable {renderer : Renderer α} {camera : Camera α} {size : Vec2 α} {shapes : List (Shape α)}

/-- The line of an edge on a surface of the given size: the images of its ends, from the middle
    of the surface on, and with the vertical axis pointing down. -/
def image (renderer : Renderer α) (camera : Camera α) (size : Vec2 α) (edge : Edge α) : Line α :=
  let p := (camera.project edge.start).screen
  let q := (camera.project edge.stop).screen
  { start := ⟨p.x + size.x / (2 : Nat), -p.y + size.y / (2 : Nat)⟩
    stop := ⟨q.x + size.x / (2 : Nat), -q.y + size.y / (2 : Nat)⟩
    stroke := ⟨edge.color, renderer.lineWidth⟩ }

/-- **A frame** has one line for every edge that is seen, in their order. -/
theorem frame_eq (renderer : Renderer α) (camera : Camera α) (size : Vec2 α)
    (shapes : List (Shape α)) :
    renderer.frame camera size shapes =
      ((Shape.allEdges shapes).filter fun edge => camera.Sees edge).map
        (renderer.image camera size) := by
  unfold frame Shape.allEdges
  rw [List.filter_flatMap, List.map_flatMap]
  congr 1
  funext shape
  induction shape.segments with
  | nil => rfl
  | cons segment segments ih =>
    have hline : edgeLine? camera size.half ⟨shape.color, renderer.lineWidth⟩ segment =
        if camera.Sees ⟨segment.1, segment.2, shape.color⟩ then
          some (renderer.image camera size ⟨segment.1, segment.2, shape.color⟩) else none := rfl
    rw [List.filterMap_cons, hline, List.map_cons]
    by_cases hsees : camera.Sees ⟨segment.1, segment.2, shape.color⟩
    · simp [hsees, ih]
    · simp [hsees, ih]

theorem frame_append (first second : List (Shape α)) :
    renderer.frame camera size (first ++ second) =
      renderer.frame camera size first ++ renderer.frame camera size second :=
  List.flatMap_append ..

theorem render_lineBuffer (b : LineBuffer α) :
    renderer.render shapes camera b =
      ((renderer.frame camera b.size shapes).length,
        ⟨b.size, (renderer.frame camera b.size shapes).toArray⟩) := by
  rw [render_eq, LineBuffer.foldl_draw]
  simp [Surface.clear, Surface.size, LineBuffer.empty]

theorem render_svgDocument [NumberText α] (d : SvgDocument α) :
    renderer.render shapes camera d =
      ((renderer.frame camera d.size shapes).length,
        ⟨d.size, String.join ((renderer.frame camera d.size shapes).map SvgDocument.element),
          (renderer.frame camera d.size shapes).toArray⟩) := by
  rw [render_eq, SvgDocument.foldl_draw]
  simp [Surface.clear, Surface.size, SvgDocument.empty]

end Renderer

/-! ## Doubles -/

theorem Binary64.of_pos {depth : Float} (h : (0 : Nat) < depth) :
    depth.isNaN = false ∧ depth ≠ 0 ∧ depth ≠ -0 := by
  -- zeros of both signs are not above zero
  refine ⟨(isNaN_of_lt h).2, ?_, ?_⟩
  · rintro rfl
    exact absurd h (by decide +kernel)
  · rintro rfl
    exact absurd h (by decide +kernel)

/-- **Rendering draws the visible edges**: it leaves one line for each of them on a surface, in
    the order of the shapes and of their edges, whatever was there before, and the answer is how
    many there are.  An edge is visible if both of its ends have a positive depth, so neither
    zero nor undefined.  Edges have ends, and the picture of shapes is put together from those of
    some of them. -/
theorem rendering_draws_visible_edges (renderer : Renderer Float) (camera : Camera Float)
    (shapes : List (Shape Float)) :
    let lines (size : Vec2 Float) : List (Line Float) :=
      ((Shape.allEdges shapes).filter fun edge => camera.Sees edge).map
        (renderer.image camera size)
    (∀ b : LineBuffer Float, renderer.render shapes camera b =
      ((lines b.size).length, ⟨b.size, (lines b.size).toArray⟩)) ∧
    (∀ d : SvgDocument Float, renderer.render shapes camera d =
      ((lines d.size).length, ⟨d.size, String.join ((lines d.size).map SvgDocument.element),
        (lines d.size).toArray⟩)) ∧
    (∀ (more : List (Shape Float)) (b : LineBuffer Float),
      let first := renderer.render shapes camera b
      let second := renderer.render more camera b
      renderer.render (shapes ++ more) camera b =
        (first.1 + second.1, ⟨b.size, first.2.lines ++ second.2.lines⟩)) ∧
    (∀ (more : List (Shape Float)) (d : SvgDocument Float),
      let first := renderer.render shapes camera d
      let second := renderer.render more camera d
      renderer.render (shapes ++ more) camera d =
        (first.1 + second.1,
          ⟨d.size, first.2.body ++ second.2.body, first.2.lines ++ second.2.lines⟩)) ∧
    (∀ edge, camera.Sees edge → ∀ point ∈ [edge.start, edge.stop],
      (camera.project point).depth.isNaN = false ∧ (camera.project point).depth ≠ 0 ∧
        (camera.project point).depth ≠ -0) ∧
    ∀ shape : Shape Float, shape.Built →
      List.Forall₂ (fun edge (segment : Vec3 Float × Vec3 Float) =>
        shape.vertices[edge.1]? = some segment.1 ∧ shape.vertices[edge.2]? = some segment.2)
        shape.edges shape.segments := by
  intro lines
  have hlines : ∀ size, renderer.frame camera size shapes = lines size :=
    fun size => Renderer.frame_eq renderer camera size shapes
  refine ⟨?_, ?_, ?_, ?_, ?_, fun shape hshape => hshape.forall₂_segments⟩
  · intro b
    rw [Renderer.render_lineBuffer, hlines]
  · intro d
    rw [Renderer.render_svgDocument, hlines]
  · intro more b
    simp only [Renderer.render_lineBuffer, Renderer.frame_append, List.length_append,
      List.append_toArray]
  · intro more d
    simp only [Renderer.render_svgDocument, Renderer.frame_append, List.length_append,
      List.append_toArray, List.map_append, String.join_append]
  · rintro edge ⟨hstart, hstop⟩ point hpoint
    rcases List.mem_pair.1 hpoint with rfl | rfl
    · exact Binary64.of_pos hstart
    · exact Binary64.of_pos hstop

theorem rendering_draws_one_edge_of_three :
    let camera : Camera Float := ⟨⟨0, -2000, 0⟩, 350⟩
    let seen : Shape Float := .line ⟨0, 0, 0⟩ ⟨1, 0, 0⟩ "blue"
    let shapes : List (Shape Float) := [.line ⟨0, 0, 0⟩ ⟨0, -2500, 0⟩ defaultColor,
      .line ⟨0, 0, 0⟩ ⟨0, -2000, 0⟩ defaultColor, seen]
    let b : LineBuffer Float := ⟨⟨800, 600⟩, #[⟨⟨0, 0⟩, ⟨1, 1⟩, .initial⟩]⟩
    let edge : Edge Float := ⟨⟨0, 0, 0⟩, ⟨1, 0, 0⟩, "blue"⟩
    (camera.Sees edge ∧ seen.Built) ∧
      (Renderer.mk 3).render shapes camera b =
        (1, ⟨⟨800, 600⟩, #[(Renderer.mk 3).image camera ⟨800, 600⟩ edge]⟩) ∧
      (camera.project edge.stop).depth.isNaN = false ∧
      seen.segments.length = seen.edges.length := by
  -- the first edge leads behind the camera, and the second one to its place
  intro camera seen shapes b edge
  have hsees : camera.Sees edge := by decide +kernel
  have hbuilt : seen.Built := .line ..
  obtain ⟨hbuffer, -, -, -, hdepth, hsegments⟩ :=
    rendering_draws_visible_edges (Renderer.mk 3) camera shapes
  have hedges : ((Shape.allEdges shapes).filter fun edge => camera.Sees edge) = [edge] := by
    decide +kernel
  refine ⟨⟨hsees, hbuilt⟩, ?_, (hdepth edge hsees _ (by simp)).1,
    (hsegments seen hbuilt).length_eq.symm⟩
  rw [hbuffer, hedges]
  rfl

end TurtleGraphics
