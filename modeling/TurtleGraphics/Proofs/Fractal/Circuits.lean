/-
  Circuits: fractals that lead back to where they begin.

  A Koch curve leads where a single move leads, and so does a smaller triangle with an edge behind
  it.  Three of them, each with a turn of 120 degrees behind it, lead back.  Along the ground, that
  is: a turtle that does not look level is raised by every move, and stays there.

  * `Koch.straight_curve`, `Koch.straight_triangle`, `Sierpinski.straight_edges`: curves and
    triangles as straight walks;
  * `Koch.distance_curve`, `Sierpinski.distance_edges`: how long their paths are;
  * `Walk.Straight.position_walk`, `PlaneTurtle.position_planeSnowflake`: where a turtle is
    behind walks that lead back;
  * `closed_fractals`: what snowflakes and triangles make of a turtle.

  The numbers are real here.
-/
import Mathlib.Analysis.SpecialFunctions.Trigonometric.Basic
import TurtleGraphics.Proofs.Turtle.Leeway

namespace TurtleGraphics

/-! ## Fractals as straight walks -/

namespace Koch

/-- **A curve** leads where a single move leads. -/
theorem straight_curve (level : Nat) (length : ℝ) : Walk.Straight length (curve level length) := by
  induction level generalizing length with
  | zero => exact .forward length
  | succ level ih =>
    have hthree : 3 * (length / ((3 : Nat) : ℝ)) = length := by
      push_cast
      ring
    simpa only [curve, hthree] using (ih (length / (3 : Nat))).bump

theorem straight_triangle (level : Nat) (length : ℝ) : Walk.Straight 0 (triangle level length) :=
  (straight_curve level length).triangle

theorem straight_spaceSnowflake (level : Nat) (length : ℝ) :
    Walk.Straight 0 (spaceSnowflake level length) :=
  (straight_triangle level length).turned _

theorem aligned_planeSnowflake (level : Nat) (length : ℝ) :
    Walk.Aligned (planeSnowflake level length) where
  onward := by simp [planeSnowflake, (straight_triangle level length).onward]
  turn := by simpa [planeSnowflake, Move.turn] using (straight_triangle level length).turn

theorem travel_planeSnowflake (level : Nat) (length : ℝ) {rate : ℝ → ℝ} (hwave : Wave rate)
    (heading : ℝ) :
    Walk.travel rate heading (planeSnowflake level length) = 100 * rate (heading - 90) := by
  simp [planeSnowflake, Walk.travel, Move.turn, Move.distance,
    (straight_triangle level length).travel hwave, sub_eq_add_neg]

theorem penBehind_planeSnowflake (down : Bool) (level : Nat) (length : ℝ) :
    Walk.penBehind down (planeSnowflake level length) = true := by
  simp [planeSnowflake, triangle, Walk.penBehind_append, penBehind_curve, Move.penBehind]

theorem distance_curve (level : Nat) (length : ℝ) :
    Walk.distance (curve level length) = (4 / 3) ^ level * length := by
  induction level generalizing length with
  | zero => simp [curve, Move.distance]
  | succ level ih =>
    simp only [curve, Walk.distance_append, Walk.distance_cons, Move.distance, ih, Nat.cast_ofNat]
    ring

theorem distance_spaceSnowflake (level : Nat) (length : ℝ) :
    Walk.distance (spaceSnowflake level length) = 3 * (4 / 3) ^ level * length := by
  simp only [spaceSnowflake, triangle, Walk.distance_append, Walk.distance_cons, Walk.distance_nil,
    Move.distance, distance_curve]
  ring

end Koch

namespace Sierpinski

/-- **All triangles** lead back: those of the next level are made of triangles that lead back, and
    of edges. -/
theorem straight_edges (level : Nat) (side : ℝ) : Walk.Straight 0 (edges level side) := by
  induction level generalizing side with
  | zero => exact .nil
  | succ level ih =>
    have hedge := ((ih (side / (2 : Nat))).append (.forward side)).triangle
    simpa only [edges, List.append_assoc, List.cons_append, List.nil_append] using hedge

theorem straight_spaceTriangle (level : Nat) (side : ℝ) :
    Walk.Straight 0 (spaceTriangle level side) :=
  (straight_edges level side).turned _

theorem distance_edges (level : Nat) (side : ℝ) :
    Walk.distance (edges level side) = 6 * ((3 / 2) ^ level - 1) * side := by
  induction level generalizing side with
  | zero => simp [edges]
  | succ level ih =>
    simp only [edges, Walk.distance_append, Walk.distance_cons, Walk.distance_nil,
      Move.distance, ih, Nat.cast_ofNat]
    ring

theorem distance_spaceTriangle (level : Nat) (side : ℝ) :
    Walk.distance (spaceTriangle level side) = 6 * ((3 / 2) ^ level - 1) * side := by
  simp [spaceTriangle, Move.distance, distance_edges]

end Sierpinski

/-! ## Turtles -/

/-- **A walk that leads back** along the ground raises a turtle of space with every move, if none is
    dropped. -/
theorem Walk.Straight.position_walk {moves : List (Move ℝ)} (h : Straight 0 moves)
    {t : SpaceTurtle ℝ} (hmade : Turtle.Unhindered (t, []) moves) :
    (Turtle.walk t moves).position =
      ⟨t.position.x, t.position.y,
        t.position.z + Real.sin (toRadians t.pitch) * Walk.distance moves⟩ := by
  have hx := SpaceTurtle.tracks_x.walkFrom h.onward hmade
  have hy := SpaceTurtle.tracks_y.walkFrom h.onward hmade
  have hz := SpaceTurtle.tracks_z.walkFrom h.onward hmade
  rw [h.travel Vec2.wave_x, zero_mul, zero_mul, add_zero] at hx
  rw [h.travel Vec2.wave_y, zero_mul, zero_mul, add_zero] at hy
  rw [Walk.travel_one, mul_comm] at hz
  exact Vec3.ext hx hy hz

namespace PlaneTurtle

variable {σ : Type}

/-- Where a move behind a turn leads: that the heading is reduced does not matter. -/
theorem displacement_turnLeft (t : PlaneTurtle σ ℝ) (degrees distance : ℝ) :
    (t.turnLeft degrees).displacement distance =
      (Vec2.direction (t.heading - degrees)).scale (distance * t.unit) :=
  congrArg (Vec2.scale · (distance * t.unit)) (Vec2.direction_wrapHeading _)

variable [Surface σ ℝ]

theorem penDown_step (walker : PlaneTurtle σ ℝ × List (PlanePose ℝ)) (move : Move ℝ) :
    (move.step walker).1.penDown = move.penBehind walker.1.penDown := by
  obtain ⟨t, saved⟩ := walker
  cases move with
  | forward | backward => exact (t.rest_moveTo _).2.1
  | left | right | liftPen | lowerPen | save => rfl
  | restore => cases saved <;> rfl

theorem penDown_walkFrom (moves : List (Move ℝ)) (walker : PlaneTurtle σ ℝ × List (PlanePose ℝ)) :
    (Turtle.walkFrom walker moves).1.penDown = Walk.penBehind walker.1.penDown moves := by
  induction moves generalizing walker with
  | nil => rfl
  | cons move rest ih =>
    rw [Walk.penBehind_cons, ← penDown_step]
    exact ih (move.step walker)

/-- **A snowflake of the plane** ends where it begins, to the left of the turtle, if no move is
    dropped. -/
theorem position_planeSnowflake {level : Nat} {length : ℝ} {t : PlaneTurtle σ ℝ}
    (hmade : Turtle.Unhindered (t, []) (Koch.planeSnowflake level length)) :
    (Turtle.walk t (Koch.planeSnowflake level length)).position =
      t.position + (t.turnLeft 90).displacement 100 := by
  have honward := (Koch.aligned_planeSnowflake level length).onward
  have hx := tracks_x.walkFrom honward hmade
  have hy := tracks_y.walkFrom honward hmade
  rw [Koch.travel_planeSnowflake level length Vec2.wave_x] at hx
  rw [Koch.travel_planeSnowflake level length Vec2.wave_y] at hy
  rw [displacement_turnLeft]
  refine Vec2.ext (hx.trans ?_) (hy.trans ?_)
  · rw [Vec2.add_x, Vec2.scale_x]
    ring
  · rw [Vec2.add_y, Vec2.scale_y]
    ring

end PlaneTurtle

/-- **Snowflakes and triangles lead back**, at every level and for every turtle.

    A turtle heads as before when they are walked, whatever moves are dropped at the border.  If
    none is, the snowflake of the plane ends 100 board units to the left of its start.  A turtle
    of space is back over its start, and raised by the sine of its pitch times the length
    of the path: so the path closes only if that is nothing. -/
theorem closed_fractals (level : Nat) (length : ℝ) :
    let flat := Koch.planeSnowflake level length
    let upright := Koch.spaceSnowflake level length
    let triangle := Sierpinski.spaceTriangle level length
    (∀ moves ∈ [flat, upright, triangle],
      (∀ {σ : Type} [Surface σ ℝ] {t : PlaneTurtle σ ℝ}, t.heading ∈ Set.Ico (0 : ℝ) 360 →
        (Turtle.walk t moves).heading = t.heading) ∧
      ∀ {t : SpaceTurtle ℝ}, t.yaw ∈ Set.Ico (0 : ℝ) 360 → (Turtle.walk t moves).yaw = t.yaw) ∧
    (∀ {σ : Type} [Surface σ ℝ] (t : PlaneTurtle σ ℝ),
      (Turtle.walk t flat).penDown = true ∧
        (Turtle.Unhindered (t, []) flat →
          (Turtle.walk t flat).position = t.position + (t.turnLeft 90).displacement 100)) ∧
    ∀ path ∈ [(upright, 3 * (4 / 3) ^ level * length),
        (triangle, 6 * ((3 / 2) ^ level - 1) * length)],
      Walk.distance path.1 = path.2 ∧ ∀ t : SpaceTurtle ℝ,
        let t' := Turtle.walk t path.1
        let rise := Real.sin (toRadians t.pitch) * path.2
        t'.pitch = t.pitch ∧
          (Turtle.Unhindered (t, []) path.1 →
            t'.position = ⟨t.position.x, t.position.y, t.position.z + rise⟩ ∧
              (t'.position = t.position ↔ rise = 0)) := by
  intro flat upright triangle
  -- both paths of space lead back along the ground
  have hstraight : ∀ path ∈ [(upright, 3 * (4 / 3) ^ level * length),
      (triangle, 6 * ((3 / 2) ^ level - 1) * length)],
      Walk.Straight 0 path.1 ∧ Walk.distance path.1 = path.2 := by
    intro path hpath
    simp only [List.mem_cons, List.not_mem_nil, or_false] at hpath
    rcases hpath with rfl | rfl
    · exact ⟨Koch.straight_spaceSnowflake level length, Koch.distance_spaceSnowflake level length⟩
    · exact ⟨Sierpinski.straight_spaceTriangle level length,
        Sierpinski.distance_spaceTriangle level length⟩
  refine ⟨?_, ?_, ?_⟩
  · intro moves hmoves
    have haligned : Walk.Aligned moves := by
      simp only [List.mem_cons, List.not_mem_nil, or_false] at hmoves
      rcases hmoves with rfl | rfl | rfl
      · exact Koch.aligned_planeSnowflake level length
      · exact (Koch.straight_spaceSnowflake level length).toAligned
      · exact (Sierpinski.straight_spaceTriangle level length).toAligned
    exact ⟨haligned.heading_walk, haligned.yaw_walk⟩
  · intro σ _ t
    have hpen := PlaneTurtle.penDown_walkFrom flat (t, [])
    rw [Koch.penBehind_planeSnowflake] at hpen
    exact ⟨hpen, PlaneTurtle.position_planeSnowflake⟩
  · intro path hpath
    obtain ⟨hwalk, hdistance⟩ := hstraight path hpath
    refine ⟨hdistance, ?_⟩
    intro t t' rise
    refine ⟨SpaceTurtle.retains_pitch.walkFrom hwalk.onward (t, []), ?_⟩
    intro hmade
    have hposition := hwalk.position_walk hmade
    rw [hdistance] at hposition
    refine ⟨hposition, ?_⟩
    rw [hposition]
    simp [Vec3.ext_iff, rise]

/-- Fractals that no border is near: a snowflake around a point to the left of the middle, and two
    by a turtle that looks up by 30 degrees, of which each ends half as high as its path is long. -/
theorem closed_fractals_upwards :
    let t : PlaneTurtle (LineBuffer ℝ) ℝ := .start (.empty ⟨1000, 1000⟩) 1000 .initial
    let s : SpaceTurtle ℝ := SpaceTurtle.initial.turnUp 30
    let flat := Koch.planeSnowflake 1 30
    let upright := Koch.spaceSnowflake 1 30
    let triangle := Sierpinski.spaceTriangle 2 100
    (t.heading ∈ Set.Ico (0 : ℝ) 360 ∧ s.yaw ∈ Set.Ico (0 : ℝ) 360 ∧
      Turtle.Unhindered (t, []) flat ∧ Turtle.Unhindered (s, []) upright ∧
      Turtle.Unhindered (s, []) triangle) ∧
    (Turtle.walk t flat).heading = 0 ∧ (Turtle.walk s triangle).yaw = 0 ∧
    (Turtle.walk t flat).position = ⟨400, 500⟩ ∧
    (Turtle.walk s upright).position = ⟨0, 0, 60⟩ ∧
    (Turtle.walk s triangle).position = ⟨0, 0, 375⟩ := by
  intro t s flat upright triangle
  have hheading : t.heading = 0 := by simp [t, PlaneTurtle.start]
  have hmiddle : t.position = ⟨500, 500⟩ := by
    ext <;> norm_num [t, PlaneTurtle.start, Vec2.half, Surface.size, LineBuffer.empty]
  have hunit : t.unit = 1 := by norm_num [t, PlaneTurtle.start, Surface.size, LineBuffer.empty]
  have hyaw : s.yaw = 0 := by simp [s, SpaceTurtle.turnUp, SpaceTurtle.initial]
  have horigin : s.position = ⟨0, 0, 0⟩ := by
    ext <;> norm_num [s, SpaceTurtle.turnUp, SpaceTurtle.initial, Vec3.zero, Vec3.splat]
  have hsin : Real.sin (toRadians s.pitch) = 1 / 2 := by
    have hpitch : s.pitch = wrapPitch 30 := by
      simp [s, SpaceTurtle.turnUp, SpaceTurtle.initial]
    have hrange : (30 : ℝ) ∈ Set.Ico (-180) (-180 + 360) := by norm_num
    rw [hpitch, wrapPitch_eq, (toIcoMod_eq_self fullTurn_pos).2 hrange, toRadians_thirty,
      Real.sin_pi_div_six]
  -- there is more room on all sides than the walks are long
  have hflat : Turtle.Unhindered (t, []) flat := by
    have hroom : t.Room 220 := by
      simp only [PlaneTurtle.Room, hmiddle, hunit]
      norm_num [t, PlaneTurtle.start, Surface.size, LineBuffer.empty]
    refine PlaneTurtle.roomy.unhindered (Koch.aligned_planeSnowflake 1 30).onward ?_ hroom
    norm_num [flat, Koch.planeSnowflake, Koch.triangle, Koch.curve, Walk.length, Move.distance]
  have hroom : s.Room 1000 := by simp [SpaceTurtle.Room, horigin]
  have hupright : Turtle.Unhindered (s, []) upright := by
    refine SpaceTurtle.roomy.unhindered (Koch.straight_spaceSnowflake 1 30).onward ?_ hroom
    norm_num [upright, Koch.spaceSnowflake, Koch.triangle, Koch.curve, Walk.length, Move.distance]
  have htriangle : Turtle.Unhindered (s, []) triangle := by
    refine SpaceTurtle.roomy.unhindered (Sierpinski.straight_spaceTriangle 2 100).onward ?_ hroom
    norm_num [triangle, Sierpinski.spaceTriangle, Sierpinski.edges, Walk.length, Move.distance]
  have hrange : t.heading ∈ Set.Ico (0 : ℝ) 360 ∧ s.yaw ∈ Set.Ico (0 : ℝ) 360 := by
    norm_num [hheading, hyaw]
  obtain ⟨hturned, hleft, hrisen⟩ := closed_fractals 1 30
  obtain ⟨hturned', -, hrisen'⟩ := closed_fractals 2 100
  have hstop := (hleft t).2 hflat
  have hup := ((hrisen (upright, _) (.head _)).2 s).2 hupright
  have hup' := ((hrisen' (triangle, _) (.tail _ (.head _))).2 s).2 htriangle
  refine ⟨⟨hrange.1, hrange.2, hflat, hupright, htriangle⟩, ?_, ?_, ?_, ?_, ?_⟩
  · exact ((hturned flat (.head _)).1 hrange.1).trans hheading
  · exact ((hturned' triangle (.tail _ (.tail _ (.head _)))).2 hrange.2).trans hyaw
  · rw [hstop, PlaneTurtle.displacement_turnLeft, hmiddle, hunit, hheading,
      Vec2.direction_zero_sub_ninety]
    ext <;> norm_num
  · rw [hup.1, hsin, horigin]
    norm_num
  · rw [hup'.1, hsin, horigin]
    norm_num

end TurtleGraphics
