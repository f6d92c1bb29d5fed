/-
  Cubes: a solid and its wireframe.

  A cube knows its vertices, the pairs of them that are joined by an edge, and the box that it
  fills.  These are three descriptions of one solid.  Every vertex is on one side, low or high,
  along each of the three axes.

  * `Vec3.corner`: the corner of a cube on given sides;
  * `Vec3.InHull.of_corners`: what is between the corners of a cube is an average of them;
  * `Shape.cube_vertices`: the vertices of a cube are its corners, in the order of
    `Shape.cubeSides`;
  * `Shape.cube_contains_iff`: a cube contains the averages of its vertices;
  * `Vec3.differences` and `Shape.timesJoined`: in what two points differ, and how often an edge
    between two vertices is listed;
  * `Shape.cube_timesJoined`: edges are between vertices that differ in one coordinate;
  * `cube_is_solid_of_its_wireframe`: all of this.

  The numbers are real here.
-/
import TurtleGraphics.Proofs.Geometry.Averages
import TurtleGraphics.Proofs.Geometry.Reals
import TurtleGraphics.Geometry.Shape

namespace TurtleGraphics

/-! ## Sides -/

/-- The coordinate of the low or the high side, half a size away from the center. -/
noncomputable def onSide (center size : ℝ) (high : Bool) : ℝ :=
  if high then center + size / (2 : Nat) else center - size / (2 : Nat)

section OnSide

variable (center : ℝ) {size : ℝ} (h : 0 < size) (a b : Bool)

theorem onSide_width (size : ℝ) : onSide center size true - onSide center size false = size := by
  simp [onSide]

include h

theorem onSide_between :
    onSide center size false ≤ onSide center size a ∧
      onSide center size a ≤ onSide center size true := by
  have hwidth : onSide center size false ≤ onSide center size true := by
    rw [← sub_nonneg, onSide_width]
    exact h.le
  cases a with
  | false => exact ⟨le_rfl, hwidth⟩
  | true => exact ⟨hwidth, le_rfl⟩

theorem abs_onSide_sub :
    |onSide center size a - onSide center size b| = if a = b then 0 else size := by
  by_cases hsame : a = b
  · rw [if_pos hsame, hsame, sub_self, abs_zero]
  · rw [if_neg hsame]
    cases Bool.eq_not.2 hsame
    cases b with
    | false => rw [Bool.not_false, onSide_width, abs_of_pos h]
    | true => rw [Bool.not_true, abs_sub_comm, onSide_width, abs_of_pos h]

theorem onSide_sub_eq_zero_iff : onSide center size a - onSide center size b = 0 ↔ a = b := by
  rw [← abs_eq_zero, abs_onSide_sub center h]
  by_cases hsame : a = b
  · simp [hsame]
  · simp [hsame, h.ne']

end OnSide

/-! ## Corners -/

/-- Low or high along every axis. -/
@[ext] structure Sides where
  x : Bool
  y : Bool
  z : Bool
deriving DecidableEq

/-- How many of the sides are different ones. -/
def Sides.apart (s t : Sides) : Nat := [s.x != t.x, s.y != t.y, s.z != t.z].count true

namespace Vec3

/-- The corner of a cube on given sides. -/
noncomputable def corner (center : Vec3 ℝ) (size : ℝ) (sides : Sides) : Vec3 ℝ :=
  ⟨onSide center.x size sides.x, onSide center.y size sides.y, onSide center.z size sides.z⟩

/-- The differences of the coordinates in which two points differ. -/
noncomputable def differences (p q : Vec3 ℝ) : List ℝ :=
  [p.x - q.x, p.y - q.y, p.z - q.z].filter fun d => d ≠ 0

variable {center p : Vec3 ℝ} {size : ℝ}

theorem corner_between (h : 0 < size) (sides : Sides) :
    (corner center size ⟨false, false, false⟩).AtMost (corner center size sides) ∧
      (corner center size sides).AtMost (corner center size ⟨true, true, true⟩) := by
  obtain ⟨hx, hx'⟩ := onSide_between center.x h sides.x
  obtain ⟨hy, hy'⟩ := onSide_between center.y h sides.y
  obtain ⟨hz, hz'⟩ := onSide_between center.z h sides.z
  exact ⟨⟨hx, hy, hz⟩, ⟨hx', hy', hz'⟩⟩

/-- **What is between the corners** is an average of them: first on an edge, then on a face, and
    then in the cube. -/
theorem InHull.of_corners {points : Array (Vec3 ℝ)}
    (hcorners : ∀ sides, InHull points (corner center size sides))
    (hlow : (corner center size ⟨false, false, false⟩).AtMost p)
    (hhigh : p.AtMost (corner center size ⟨true, true, true⟩)) : InHull points p := by
  obtain ⟨hx, hy, hz⟩ := hlow
  obtain ⟨hx', hy', hz'⟩ := hhigh
  have hedge : ∀ a b, InHull points ⟨onSide center.x size a, onSide center.y size b, p.z⟩ := by
    intro a b
    refine (hcorners ⟨a, b, false⟩).segment (hcorners ⟨a, b, true⟩)
      (mem_segment_of_between (fun z => ⟨onSide center.x size a, onSide center.y size b, z⟩)
        ?_ hz hz')
    intro s t hsum
    ext <;> simp [← mul_add, hsum]
  have hface : ∀ a, InHull points ⟨onSide center.x size a, p.y, p.z⟩ := by
    intro a
    refine (hedge a false).segment (hedge a true)
      (mem_segment_of_between (fun y => ⟨onSide center.x size a, y, p.z⟩) ?_ hy hy')
    intro s t hsum
    ext <;> simp [← mul_add, hsum]
  refine (hface false).segment (hface true)
    (mem_segment_of_between (fun x => ⟨x, p.y, p.z⟩) ?_ hx hx')
  intro s t hsum
  ext <;> simp [← mul_add, hsum]

theorem corner_injective (h : 0 < size) : Function.Injective (corner center size) := by
  intro s t heq
  have hx : s.x = t.x := (onSide_sub_eq_zero_iff center.x h _ _).1 (sub_eq_zero.2 (congrArg x heq))
  have hy : s.y = t.y := (onSide_sub_eq_zero_iff center.y h _ _).1 (sub_eq_zero.2 (congrArg y heq))
  have hz : s.z = t.z := (onSide_sub_eq_zero_iff center.z h _ _).1 (sub_eq_zero.2 (congrArg z heq))
  exact Sides.ext hx hy hz

theorem length_differences_corner (h : 0 < size) (s t : Sides) :
    (differences (corner center size s) (corner center size t)).length = s.apart t := by
  rw [differences, ← List.countP_eq_length_filter]
  simp [corner, Sides.apart, List.countP_cons, List.count_cons, onSide_sub_eq_zero_iff _ h]

theorem abs_differences_corner (h : 0 < size) (s t : Sides) :
    ∀ d ∈ differences (corner center size s) (corner center size t), |d| = size := by
  intro d hd
  obtain ⟨hcoordinate, hne⟩ := List.mem_filter.1 hd
  have hzero : |d| ≠ 0 := abs_ne_zero.2 (of_decide_eq_true hne)
  have hside : ∀ c a b, |onSide c size a - onSide c size b| = 0 ∨
      |onSide c size a - onSide c size b| = size := by
    intro c a b
    rw [abs_onSide_sub c h]
    exact ite_eq_or_eq ..
  simp only [List.mem_cons, List.not_mem_nil, or_false] at hcoordinate
  rcases hcoordinate with rfl | rfl | rfl
  · exact (hside center.x s.x t.x).resolve_left hzero
  · exact (hside center.y s.y t.y).resolve_left hzero
  · exact (hside center.z s.z t.z).resolve_left hzero

end Vec3

/-! ## Wireframes -/

namespace Shape

/-- How often an edge between two vertices is listed, from either end. -/
def timesJoined {α : Type} (s : Shape α) (i j : Nat) : Nat :=
  s.edges.countP fun edge => edge = (i, j) ∨ edge = (j, i)

/-- The sides of the vertices of a cube, in order. -/
def cubeSides : List Sides :=
  [⟨false, false, true⟩, ⟨false, false, false⟩, ⟨true, false, false⟩, ⟨true, false, true⟩,
    ⟨true, true, true⟩, ⟨true, true, false⟩, ⟨false, true, false⟩, ⟨false, true, true⟩]

theorem mem_cubeSides (s : Sides) : s ∈ cubeSides := by
  rcases s with ⟨_ | _, _ | _, _ | _⟩ <;> decide

/-- The edges are those between vertices with one side that is a different one. -/
theorem cubeEdges_join : ∀ i j : Fin cubeSides.length,
    (cubeEdges.countP fun edge => edge = (i.val, j.val) ∨ edge = (j.val, i.val)) =
      if cubeSides[i].apart cubeSides[j] = 1 then 1 else 0 := by
  decide

variable (center : Vec3 ℝ) {size : ℝ} (color : String)

theorem cube_vertices : (cube center size color).vertices =
    (cubeSides.map (Vec3.corner center size)).toArray := rfl

/-- **A cube contains the averages of its vertices**, and nothing else. -/
theorem cube_contains_iff (h : 0 < size) (p : Vec3 ℝ) :
    (cube center size color).Contains p ↔ Vec3.InHull (cube center size color).vertices p := by
  rw [cube_vertices]
  constructor
  · rintro ⟨hlow, hhigh⟩
    refine Vec3.InHull.of_corners ?_ hlow hhigh
    intro sides
    exact .of_mem (List.mem_toArray.2 (List.mem_map_of_mem (mem_cubeSides sides)))
  · intro hhull
    refine hhull.inBox ?_
    intro q hq
    obtain ⟨sides, -, rfl⟩ := List.mem_map.1 (List.mem_toArray.1 hq)
    exact Vec3.corner_between h sides

theorem cube_nodup (h : 0 < size) : (cube center size color).vertices.toList.Nodup := by
  have hsides : cubeSides.Nodup := by decide
  exact hsides.map (Vec3.corner_injective h)

/-- **Two vertices of a cube are joined** by an edge, which is listed once, if they differ in one
    coordinate, and by none otherwise.  Where they differ, they do so by the size. -/
theorem cube_timesJoined (h : 0 < size) (i j : Fin (cube center size color).vertices.size) :
    let apart := Vec3.differences (cube center size color).vertices[i]
      (cube center size color).vertices[j]
    (cube center size color).timesJoined i j = (if apart.length = 1 then 1 else 0) ∧
      ∀ d ∈ apart, |d| = size := by
  intro apart
  -- the vertices are given by their sides, so that a table of the sides is all there is to check
  have hvertex : ∀ k : Fin cubeSides.length, (cube center size color).vertices[k.val] =
      Vec3.corner center size cubeSides[k] := by
    intro k
    simp [cube_vertices]
  have hapart : apart = Vec3.differences (Vec3.corner center size (cubeSides.get i))
      (Vec3.corner center size (cubeSides.get j)) :=
    congrArg₂ Vec3.differences (hvertex i) (hvertex j)
  rw [hapart, Vec3.length_differences_corner h]
  exact ⟨cubeEdges_join i j, Vec3.abs_differences_corner h _ _⟩

end Shape

/-- **A cube is the solid of its wireframe.**  It contains the convex combinations of its vertices
    and no other points.  It has eight vertices, all of them different, and an edge between two of
    them is listed once if they differ in one coordinate, and not at all otherwise; they differ by
    the size of the cube.  A line, and a shape with vertices that were moved, contains no points,
    whatever the numbers are. -/
theorem cube_is_solid_of_its_wireframe :
    (∀ (center : Vec3 ℝ) (size : ℝ) (color : String), 0 < size →
      let cube := Shape.cube center size color
      (∀ p, cube.Contains p ↔ Vec3.InHull cube.vertices p) ∧
        cube.vertices.size = 8 ∧ cube.vertices.toList.Nodup ∧
        ∀ i j : Fin cube.vertices.size,
          let apart := Vec3.differences cube.vertices[i] cube.vertices[j]
          cube.timesJoined i j = (if apart.length = 1 then 1 else 0) ∧
            ∀ d ∈ apart, |d| = size) ∧
    ∀ (α : Type) [Scalar α] (point : Vec3 α),
      (∀ p q color, ¬ (Shape.line p q color).Contains point) ∧
        ∀ (f : Vec3 α → Vec3 α) (s : Shape α), ¬ (s.mapVertices f).Contains point := by
  refine ⟨?_, ?_⟩
  · intro center size color h cube
    exact ⟨Shape.cube_contains_iff center color h, rfl, Shape.cube_nodup center color h,
      Shape.cube_timesJoined center color h⟩
  · intro α _ point
    exact ⟨fun _ _ _ => id, fun _ _ => id⟩

/-- A cube with a point on one of its faces and a point in front of it, and two of its vertices
    that are joined. -/
theorem cube_of_size_four_is_solid :
    let cube := Shape.cube (⟨10, 20, 30⟩ : Vec3 ℝ) 4 "blue"
    let first : Fin cube.vertices.size := ⟨0, by decide⟩
    let second : Fin cube.vertices.size := ⟨1, by decide⟩
    let apart := Vec3.differences cube.vertices[first] cube.vertices[second]
    (0 : ℝ) < 4 ∧
      Vec3.InHull cube.vertices ⟨12, 19, 30⟩ ∧ ¬ Vec3.InHull cube.vertices ⟨13, 19, 30⟩ ∧
      cube.timesJoined first second = 1 ∧ apart.length = 1 ∧ (∀ d ∈ apart, |d| = 4) ∧
      ∀ p, ¬ (cube.mapVertices fun v => v.scale 2).Contains p := by
  intro cube first second apart
  have hsize : (0 : ℝ) < 4 := by norm_num
  obtain ⟨hcubes, hothers⟩ := cube_is_solid_of_its_wireframe
  obtain ⟨hhull, -, -, hedges⟩ := hcubes ⟨10, 20, 30⟩ 4 "blue" hsize
  obtain ⟨htimes, hapart⟩ := hedges first second
  have hinside : cube.Contains ⟨12, 19, 30⟩ := by
    constructor
    · norm_num [Vec3.AtMost, Vec3.splat]
    · norm_num [Vec3.AtMost, Vec3.splat]
  have houtside : ¬ cube.Contains ⟨13, 19, 30⟩ := by
    rintro ⟨-, hx, -⟩
    norm_num [Vec3.splat] at hx
  have hjoined : cube.timesJoined first second = 1 := rfl
  have hlength : apart.length = 1 := by
    by_contra hne
    rw [if_neg hne] at htimes
    exact absurd (hjoined.symm.trans htimes) Nat.one_ne_zero
  refine ⟨hsize, (hhull _).1 hinside, mt (hhull _).2 houtside, hjoined, hlength, hapart, ?_⟩
  intro p
  exact (hothers ℝ p).2 _ cube

end TurtleGraphics
