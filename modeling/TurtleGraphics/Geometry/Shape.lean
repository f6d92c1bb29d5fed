/-
  Wireframe shapes: vertices, edges as pairs of vertex numbers, and a color.

  Shapes are built as a `cube` or a `line` and transformed by `mapVertices`,
  which keeps edges and color.  `segments` are the end points of the edges.  A
  cube knows the box it fills; `Contains` is membership in that box, and a
  transformed shape contains nothing.

  * `Shape.segments_mapVertices`: the segments are moved with the vertices.
-/
import TurtleGraphics.Geometry.Rotation

namespace TurtleGraphics

/-- The color of everything drawn without a color of its own. -/
def defaultColor : String := "rgba(0,0,0,1)"

/-- A wireframe. -/
structure Shape (α : Type) where
  vertices : Array (Vec3 α)
  /-- Pairs of vertex numbers. -/
  edges : List (Nat × Nat)
  color : String
  /-- The smallest and the largest corner of the solid, if there is one. -/
  box : Option (Vec3 α × Vec3 α)
deriving DecidableEq

namespace Shape

/-- The edges of a cube whose vertices are numbered as in `cube`: around the
    one face, around the other, and across. -/
def cubeEdges : List (Nat × Nat) :=
  [(0, 1), (1, 2), (2, 3), (3, 0), (4, 5), (5, 6), (6, 7), (7, 4), (1, 6), (2, 5), (3, 4), (0, 7)]

variable {α : Type} [Scalar α]

/-- The cube with edges along the axes around a center. -/
def cube (center : Vec3 α) (size : α) (color : String) : Shape α :=
  let d := Vec3.splat (size / (2 : Nat))
  let low := center - d
  let high := center + d
  { vertices := #[⟨low.x, low.y, high.z⟩, ⟨low.x, low.y, low.z⟩, ⟨high.x, low.y, low.z⟩,
      ⟨high.x, low.y, high.z⟩, ⟨high.x, high.y, high.z⟩, ⟨high.x, high.y, low.z⟩,
      ⟨low.x, high.y, low.z⟩, ⟨low.x, high.y, high.z⟩]
    edges := cubeEdges
    color
    box := some (low, high) }

/-- The segment between two points. -/
def line (p q : Vec3 α) (color : String) : Shape α :=
  { vertices := #[p, q], edges := [(0, 1)], color, box := none }

/-- The end points of the edges, in order. -/
def segments (s : Shape α) : List (Vec3 α × Vec3 α) :=
  s.edges.filterMap fun (a, b) =>
    match s.vertices[a]?, s.vertices[b]? with
    | some p, some q => some (p, q)
    | _, _ => none

/-- A point lies in the box of a cube, its faces included. -/
def Contains (s : Shape α) (point : Vec3 α) : Prop :=
  match s.box with
  | some (low, high) => low.AtMost point ∧ point.AtMost high
  | none => False

instance (s : Shape α) (point : Vec3 α) : Decidable (s.Contains point) := by
  unfold Contains
  split <;> infer_instance

/-- The shape with every vertex moved by `f`. -/
def mapVertices (f : Vec3 α → Vec3 α) (s : Shape α) : Shape α :=
  { s with vertices := s.vertices.map f, box := none }

/-- The shapes rotated about a center: by `pitch` radians around X, then by
    `yaw` radians around Z. -/
def rotateAll (shapes : List (Shape α)) (center : Vec3 α) (yaw pitch : α) : List (Shape α) :=
  let m := orbitMatrix yaw pitch
  shapes.map (mapVertices (m.applyAbout center))

end Shape

/-- The segments of a shape are moved with its vertices. -/
theorem Shape.segments_mapVertices {α : Type} (f : Vec3 α → Vec3 α) (s : Shape α) :
    (s.mapVertices f).segments = s.segments.map (Prod.map f f) := by
  rw [segments, segments, List.map_filterMap]
  congr 1
  funext edge
  simp only [mapVertices, Array.getElem?_map]
  cases s.vertices[edge.1]? <;> cases s.vertices[edge.2]? <;> rfl

end TurtleGraphics
