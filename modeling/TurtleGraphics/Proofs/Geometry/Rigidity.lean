/-
  Rigidity: shapes are turned as a whole.

  A rotation moves the vertices of a shape and nothing else.  So edges stay between
  vertices that there are, whatever is done to a shape, and segments are moved with their
  ends.  Where there are no rounding errors, nothing gets longer or shorter by it.

  * `Shape.Derived`: the shapes that are made from cubes and lines by moving vertices and
    by rotations, and `Shape.Derived.built`: a rotation only moves vertices;
  * `Shape.Rotated` and `Shape.rotateAll_rotated`: what a rotation does to every shape;
  * `Vec3.distance_rotate`, `rotate_center`: rotations keep distances, and the centre;
  * `Shape.lengths_rotateAll`: so every edge keeps its length;
  * `rotations_are_rigid`: all of this.
-/
import TurtleGraphics.Proofs.Geometry.Reals
import TurtleGraphics.Proofs.View.Rendering

namespace TurtleGraphics

variable {α : Type} [Scalar α]

/-! ## Shapes -/

namespace Shape

/-- The shapes that are made from cubes and lines, by moving all vertices of one of them or
    by rotating some of them together, as often as one likes. -/
inductive Derived : Shape α → Prop where
  | cube (center : Vec3 α) (size : α) (color : String) : Derived (cube center size color)
  | line (p q : Vec3 α) (color : String) : Derived (line p q color)
  | moved (f : Vec3 α → Vec3 α) {s : Shape α} (h : Derived s) : Derived (s.mapVertices f)
  | rotated (center : Vec3 α) (yaw pitch : α) {shapes : List (Shape α)}
      (h : ∀ s ∈ shapes, Derived s) {t : Shape α} (ht : t ∈ rotateAll shapes center yaw pitch) :
      Derived t

theorem Derived.built {s : Shape α} (h : s.Derived) : s.Built := by
  induction h with
  | cube center size color => exact .cube center size color
  | line p q color => exact .line p q color
  | moved f h ih => exact .moved f ih
  | rotated center yaw pitch h ht ih =>
    -- a rotated shape is one of the shapes with its vertices moved
    obtain ⟨s, hs, rfl⟩ := List.mem_map.1 ht
    exact .moved _ (ih s hs)

/-- The second shape is the first one, rotated: vertices and segments are moved, and nothing
    else is different. -/
structure Rotated (center : Vec3 α) (yaw pitch : α) (s t : Shape α) : Prop where
  vertices : t.vertices = s.vertices.map fun p => rotate p center yaw pitch
  edges : t.edges = s.edges
  color : t.color = s.color
  segments : t.segments =
    s.segments.map fun (p, q) => (rotate p center yaw pitch, rotate q center yaw pitch)

variable {center : Vec3 α} {yaw pitch : α}

theorem mapVertices_rotated (s : Shape α) :
    Rotated center yaw pitch s (s.mapVertices fun p => rotate p center yaw pitch) where
  vertices := rfl
  edges := rfl
  color := rfl
  segments := segments_mapVertices _ s

/-- **Shapes are rotated one by one**, with one matrix for all of them. -/
theorem rotateAll_rotated (shapes : List (Shape α)) :
    List.Forall₂ (Rotated center yaw pitch) shapes (rotateAll shapes center yaw pitch) := by
  refine List.forall₂_map_right_iff.2 (List.forall₂_same.2 ?_)
  intro s _
  exact mapVertices_rotated s

end Shape

/-! ## Distances -/

/-- The distance of two points. -/
noncomputable def Vec3.distance (p q : Vec3 ℝ) : ℝ := √(q - p).normSq

namespace Matrix3

variable (m : Matrix3 ℝ)

theorem apply_sub (v w : Vec3 ℝ) : m.apply (v - w) = m.apply v - m.apply w := by
  simp only [apply_eq]
  ext <;> simp only [Vec3.sub_x, Vec3.sub_y, Vec3.sub_z] <;> ring

theorem applyAbout_sub (center p q : Vec3 ℝ) :
    m.applyAbout center q - m.applyAbout center p = m.apply (q - p) := by
  have hcenter : (q - center) - (p - center) = q - p := by
    ext <;> simp
  rw [← hcenter, apply_sub, applyAbout, applyAbout]
  ext <;> simp

theorem applyAbout_center (center : Vec3 ℝ) : m.applyAbout center center = center := by
  rw [applyAbout, apply_eq]
  ext <;> simp

end Matrix3

/-- **Rotations keep distances**, with any angles. -/
theorem Vec3.distance_rotate (center : Vec3 ℝ) (yaw pitch : ℝ) (p q : Vec3 ℝ) :
    distance (rotate p center yaw pitch) (rotate q center yaw pitch) = distance p q := by
  rw [distance, rotate, rotate, Matrix3.applyAbout_sub, normSq_orbitMatrix, distance]

theorem rotate_center (center : Vec3 ℝ) (yaw pitch : ℝ) :
    rotate center center yaw pitch = center := Matrix3.applyAbout_center _ center

/-! ## Lengths -/

namespace Shape

/-- The lengths of the edges, in order. -/
noncomputable def lengths (s : Shape ℝ) : List ℝ := s.segments.map fun (p, q) => p.distance q

theorem Rotated.lengths_eq {center : Vec3 ℝ} {yaw pitch : ℝ} {s t : Shape ℝ}
    (h : Rotated center yaw pitch s t) : t.lengths = s.lengths := by
  rw [lengths, lengths, h.segments, List.map_map]
  refine List.map_congr_left ?_
  rintro ⟨p, q⟩ _
  exact Vec3.distance_rotate center yaw pitch p q

/-- **Every edge keeps its length** when shapes are rotated. -/
theorem lengths_rotateAll (center : Vec3 ℝ) (yaw pitch : ℝ) (shapes : List (Shape ℝ)) :
    (rotateAll shapes center yaw pitch).map lengths = shapes.map lengths := by
  rw [rotateAll, List.map_map]
  refine List.map_congr_left ?_
  intro s _
  exact (mapVertices_rotated s).lengths_eq

end Shape

/-- **Shapes are rotated as rigid wireframes.**  However a shape is made from cubes and lines, all
    of its edges are between vertices that it has, and so there is a segment for every edge.
    Rotating shapes together keeps how many there are, their order, edges and colors, and moves
    every segment by moving its ends as single points are rotated.  With real numbers a rotation
    keeps all distances and its center, so every edge keeps its length. -/
theorem rotations_are_rigid :
    (∀ (α : Type) [Scalar α] (s : Shape α), s.Derived →
      (∀ edge ∈ s.edges, edge.1 < s.vertices.size ∧ edge.2 < s.vertices.size) ∧
      List.Forall₂ (fun edge (segment : Vec3 α × Vec3 α) =>
        s.vertices[edge.1]? = some segment.1 ∧ s.vertices[edge.2]? = some segment.2)
        s.edges s.segments) ∧
    (∀ (α : Type) [Scalar α] (shapes : List (Shape α)) (center : Vec3 α) (yaw pitch : α),
      List.Forall₂ (Shape.Rotated center yaw pitch) shapes
        (Shape.rotateAll shapes center yaw pitch)) ∧
    ∀ (center : Vec3 ℝ) (yaw pitch : ℝ),
      (∀ p q, Vec3.distance (rotate p center yaw pitch) (rotate q center yaw pitch) =
        Vec3.distance p q) ∧
      rotate center center yaw pitch = center ∧
      ∀ shapes : List (Shape ℝ),
        (Shape.rotateAll shapes center yaw pitch).map Shape.lengths = shapes.map Shape.lengths := by
  refine ⟨?_, ?_, ?_⟩
  · intro α _ s hs
    exact ⟨hs.built.edges_lt, hs.built.forall₂_segments⟩
  · intro α _ shapes center yaw pitch
    exact Shape.rotateAll_rotated shapes
  · intro center yaw pitch
    exact ⟨Vec3.distance_rotate center yaw pitch, rotate_center center yaw pitch,
      Shape.lengths_rotateAll center yaw pitch⟩

theorem stretched_cube_and_line_stay_rigid :
    let stretched : Shape ℝ := (Shape.cube Vec3.zero 2 "red").mapVertices fun p => p.scale 3
    let line : Shape ℝ := .line ⟨0, 0, 0⟩ ⟨3, 0, 4⟩ "blue"
    let once := Shape.rotateAll [stretched, line] ⟨1, 2, 3⟩ 1 2
    let twice := Shape.rotateAll once Vec3.zero 4 (-5)
    (∀ s ∈ twice, s.Derived) ∧
      (∀ s ∈ twice, ∀ edge ∈ s.edges, edge.1 < s.vertices.size ∧ edge.2 < s.vertices.size) ∧
      List.Forall₂ (Shape.Rotated Vec3.zero 4 (-5)) once twice ∧
      twice.map Shape.lengths = [stretched.lengths, [5]] := by
  -- a cube that is stretched and a line of length five, rotated together twice
  intro stretched line once twice
  obtain ⟨hnumbers, hrotated, hreal⟩ := rotations_are_rigid
  have honce : ∀ s ∈ once, s.Derived := by
    intro s hs
    refine .rotated _ _ _ ?_ hs
    intro s hs
    rcases List.mem_pair.1 hs with rfl | rfl
    · exact .moved _ (.cube ..)
    · exact .line ..
  have htwice : ∀ s ∈ twice, s.Derived := fun s hs => .rotated _ _ _ honce hs
  have hlength : line.lengths = [5] := by
    have hnorm : (⟨3 - 0, 0 - 0, 4 - 0⟩ : Vec3 ℝ).normSq = 5 ^ 2 := by
      norm_num [Vec3.normSq]
    have hdistance : Vec3.distance ⟨0, 0, 0⟩ ⟨3, 0, 4⟩ = 5 := by
      refine (congrArg Real.sqrt hnorm).trans ?_
      exact Real.sqrt_sq (by norm_num)
    exact congrArg (fun length => [length]) hdistance
  refine ⟨htwice, fun s hs => (hnumbers ℝ s (htwice s hs)).1, hrotated ℝ once _ _ _, ?_⟩
  rw [(hreal Vec3.zero 4 (-5)).2.2, (hreal ⟨1, 2, 3⟩ 1 2).2.2, ← hlength]
  rfl

end TurtleGraphics
