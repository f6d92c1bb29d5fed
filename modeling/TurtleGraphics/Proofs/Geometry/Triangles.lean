/-
  Triangles and directions of the plane.

  A closed triangle is what can be made of its corners with weights that are not negative and
  add up to one.  A triangle with corners in another one is a part of it, and a triangle with
  corners strictly inside a surface is strictly inside.

  * `Vec2.InTriangle`: a point lies in the closed triangle of three points;
  * `Vec2.InTriangle.trans`, `Vec2.InTriangle.strictlyInside`: triangles in triangles, and
    triangles in surfaces;
  * `Vec2.direction` is the direction of a heading, and `Vec2.direction_sub` what becomes of it
    by a turn; full turns do not matter for it (`Vec2.direction_wrapHeading`).

  The numbers are real here.
-/
import Mathlib.Analysis.SpecialFunctions.Trigonometric.Basic
import TurtleGraphics.Proofs.Geometry.Angles
import TurtleGraphics.Turtle.Plane

namespace TurtleGraphics

/-! ## Triangles -/

namespace Vec2

@[simp] theorem scale_x (v : Vec2 ℝ) (factor : ℝ) : (v.scale factor).x = v.x * factor := rfl
@[simp] theorem scale_y (v : Vec2 ℝ) (factor : ℝ) : (v.scale factor).y = v.y * factor := rfl

/-- The point that is made of three others with weights. -/
noncomputable def mix (a b c : Vec2 ℝ) (x y z : ℝ) : Vec2 ℝ := a.scale x + b.scale y + c.scale z

@[simp] theorem mix_x (a b c : Vec2 ℝ) (x y z : ℝ) :
    (mix a b c x y z).x = a.x * x + b.x * y + c.x * z := rfl

@[simp] theorem mix_y (a b c : Vec2 ℝ) (x y z : ℝ) :
    (mix a b c x y z).y = a.y * x + b.y * y + c.y * z := rfl

/-- A point lies in the closed triangle of `a`, `b` and `c`. -/
def InTriangle (a b c q : Vec2 ℝ) : Prop :=
  ∃ x y z : ℝ, 0 ≤ x ∧ 0 ≤ y ∧ 0 ≤ z ∧ x + y + z = 1 ∧ q = mix a b c x y z

variable {a b c a' b' c' q size : Vec2 ℝ}

theorem inTriangle_mix {x y z : ℝ} (h : 0 ≤ x ∧ 0 ≤ y ∧ 0 ≤ z ∧ x + y + z = 1) :
    InTriangle a b c (mix a b c x y z) := ⟨x, y, z, h.1, h.2.1, h.2.2.1, h.2.2.2, rfl⟩

theorem inTriangle_corners (a b c : Vec2 ℝ) :
    InTriangle a b c a ∧ InTriangle a b c b ∧ InTriangle a b c c := by
  refine ⟨⟨1, 0, 0, ?_⟩, ⟨0, 1, 0, ?_⟩, ⟨0, 0, 1, ?_⟩⟩ <;>
    exact ⟨by norm_num, by norm_num, by norm_num, by norm_num, by ext <;> simp⟩

theorem inTriangle_middles (a b c : Vec2 ℝ) :
    InTriangle a b c (mix a b c 0 (1 / 2) (1 / 2)) ∧
      InTriangle a b c (mix a b c (1 / 2) 0 (1 / 2)) ∧
      InTriangle a b c (mix a b c (1 / 2) (1 / 2) 0) :=
  ⟨inTriangle_mix (by norm_num), inTriangle_mix (by norm_num), inTriangle_mix (by norm_num)⟩

/-- **A triangle with its corners in another one** is a part of it. -/
theorem InTriangle.trans (ha : InTriangle a b c a') (hb : InTriangle a b c b')
    (hc : InTriangle a b c c') (hq : InTriangle a' b' c' q) : InTriangle a b c q := by
  obtain ⟨x₁, y₁, z₁, hx₁, hy₁, hz₁, hsum₁, rfl⟩ := ha
  obtain ⟨x₂, y₂, z₂, hx₂, hy₂, hz₂, hsum₂, rfl⟩ := hb
  obtain ⟨x₃, y₃, z₃, hx₃, hy₃, hz₃, hsum₃, rfl⟩ := hc
  obtain ⟨x, y, z, hx, hy, hz, hsum, rfl⟩ := hq
  refine ⟨x * x₁ + y * x₂ + z * x₃, x * y₁ + y * y₂ + z * y₃, x * z₁ + y * z₂ + z * z₃,
    by positivity, by positivity, by positivity, ?_, ?_⟩
  · linear_combination x * hsum₁ + y * hsum₂ + z * hsum₃ + hsum
  · ext <;> simp only [mix_x, mix_y] <;> ring

theorem mix_pos {u v w x y z : ℝ} (hu : 0 < u) (hv : 0 < v) (hw : 0 < w) (hx : 0 ≤ x)
    (hy : 0 ≤ y) (hz : 0 ≤ z) (hsum : x + y + z = 1) : 0 < u * x + v * y + w * z := by
  have hleast : 0 < min u (min v w) := lt_min hu (lt_min hv hw)
  calc 0 < min u (min v w) * (x + y + z) := by rwa [hsum, mul_one]
    _ = min u (min v w) * x + min u (min v w) * y + min u (min v w) * z := by ring
    _ ≤ u * x + v * y + w * z := by
      have hv' : min u (min v w) ≤ v := (min_le_right _ _).trans (min_le_left _ _)
      have hw' : min u (min v w) ≤ w := (min_le_right _ _).trans (min_le_right _ _)
      gcongr
      exact min_le_left _ _

/-- **A triangle with its corners strictly inside a surface** is strictly inside it. -/
theorem InTriangle.strictlyInside (hq : InTriangle a b c q) (ha : a.StrictlyInside size)
    (hb : b.StrictlyInside size) (hc : c.StrictlyInside size) : q.StrictlyInside size := by
  obtain ⟨x, y, z, hx, hy, hz, hsum, rfl⟩ := hq
  simp only [StrictlyInside, Nat.cast_zero] at ha hb hc ⊢
  obtain ⟨hax, hax', hay, hay'⟩ := ha
  obtain ⟨hbx, hbx', hby, hby'⟩ := hb
  obtain ⟨hcx, hcx', hcy, hcy'⟩ := hc
  have hright := mix_pos (sub_pos.2 hax') (sub_pos.2 hbx') (sub_pos.2 hcx') hx hy hz hsum
  have hbottom := mix_pos (sub_pos.2 hay') (sub_pos.2 hby') (sub_pos.2 hcy') hx hy hz hsum
  refine ⟨mix_pos hax hbx hcx hx hy hz hsum, ?_, mix_pos hay hby hcy hx hy hz hsum, ?_⟩
  · rw [mix_x]
    linear_combination hright + size.x * hsum
  · rw [mix_y]
    linear_combination hbottom + size.y * hsum

/-! ## Directions -/

/-- The direction of a heading, which is clockwise from the top while Y points down. -/
noncomputable def direction (degrees : ℝ) : Vec2 ℝ :=
  ⟨Real.sin (toRadians degrees), -Real.cos (toRadians degrees)⟩

end Vec2

theorem toRadians_real (degrees : ℝ) : toRadians degrees = degrees * (Real.pi / 180) := by
  simp [toRadians, Scalar.pi]

theorem toRadians_sub (degrees more : ℝ) :
    toRadians (degrees - more) = toRadians degrees - toRadians more := by
  simp only [toRadians_real, sub_mul]

theorem toRadians_ninety : toRadians (90 : ℝ) = Real.pi / 2 := by
  rw [toRadians_real]
  ring

theorem toRadians_zsmul (n : ℤ) : toRadians (n • (360 : ℝ)) = n * (2 * Real.pi) := by
  rw [toRadians_real, zsmul_eq_mul]
  ring

namespace Vec2

theorem direction_zero : direction 0 = ⟨0, -1⟩ := by
  ext <;> simp [direction, toRadians_real]

theorem direction_zero_sub_ninety : direction (0 - 90) = ⟨-1, 0⟩ := by
  rw [direction, toRadians_sub, toRadians_ninety, toRadians_real, zero_mul, zero_sub]
  simp

theorem direction_sub_zsmul (degrees : ℝ) (n : ℤ) :
    direction (degrees - n • (360 : ℝ)) = direction degrees := by
  simp only [direction, toRadians_sub, toRadians_zsmul, Real.sin_sub_int_mul_two_pi,
    Real.cos_sub_int_mul_two_pi]

theorem direction_fullTurns {degrees next : ℝ} (n : ℤ) (h : next = degrees - n * 360) :
    direction next = direction degrees := by
  rw [h, ← zsmul_eq_mul, direction_sub_zsmul]

/-- **Full turns** do not change a direction. -/
theorem direction_wrapHeading (degrees : ℝ) :
    direction (wrapHeading degrees) = direction degrees := by
  rw [wrapHeading_eq, ← self_sub_toIcoDiv_zsmul, direction_sub_zsmul]

/-- **Turning left** by some degrees mixes a direction with the one to the left of it. -/
theorem direction_sub (degrees turn : ℝ) :
    direction (degrees - turn) =
      (direction degrees).scale (Real.cos (toRadians turn)) +
        (direction (degrees - 90)).scale (Real.sin (toRadians turn)) := by
  ext
  · simp only [direction, toRadians_sub, toRadians_ninety, add_x, scale_x, Real.sin_sub,
      Real.sin_pi_div_two, Real.cos_pi_div_two]
    ring
  · simp only [direction, toRadians_sub, toRadians_ninety, add_y, scale_y, Real.cos_sub,
      Real.sin_pi_div_two, Real.cos_pi_div_two]
    ring

/-- **Turning right**, likewise. -/
theorem direction_add (degrees turn : ℝ) :
    direction (degrees + turn) =
      (direction degrees).scale (Real.cos (toRadians turn)) +
        (direction (degrees - 90)).scale (-Real.sin (toRadians turn)) := by
  have hneg : toRadians (-turn) = -toRadians turn := by simp only [toRadians_real, neg_mul]
  rw [← sub_neg_eq_add degrees, direction_sub, hneg, Real.cos_neg, Real.sin_neg]

end Vec2

/-! ### The turns of triangles -/

theorem toRadians_thirty : toRadians (30 : ℝ) = Real.pi / 6 := by
  rw [toRadians_real]
  ring

theorem toRadians_sixty : toRadians (60 : ℝ) = Real.pi / 3 := by
  rw [toRadians_real]
  ring

theorem toRadians_oneFifty : toRadians (150 : ℝ) = Real.pi - Real.pi / 6 := by
  rw [toRadians_real]
  ring

theorem toRadians_oneEighty : toRadians (180 : ℝ) = Real.pi := by
  rw [toRadians_real]
  ring

namespace Vec2

variable (degrees : ℝ)

theorem direction_sub_thirty :
    direction (degrees - 30) =
      (direction degrees).scale (√3 / 2) + (direction (degrees - 90)).scale (1 / 2) := by
  rw [direction_sub degrees 30, toRadians_thirty, Real.cos_pi_div_six, Real.sin_pi_div_six]

theorem direction_add_thirty :
    direction (degrees + 30) =
      (direction degrees).scale (√3 / 2) + (direction (degrees - 90)).scale (-(1 / 2)) := by
  rw [direction_add degrees 30, toRadians_thirty, Real.cos_pi_div_six, Real.sin_pi_div_six]

theorem direction_sub_sixty :
    direction (degrees - 60) =
      (direction degrees).scale (1 / 2) + (direction (degrees - 90)).scale (√3 / 2) := by
  rw [direction_sub degrees 60, toRadians_sixty, Real.cos_pi_div_three, Real.sin_pi_div_three]

theorem direction_add_sixty :
    direction (degrees + 60) =
      (direction degrees).scale (1 / 2) + (direction (degrees - 90)).scale (-(√3 / 2)) := by
  rw [direction_add degrees 60, toRadians_sixty, Real.cos_pi_div_three, Real.sin_pi_div_three]

theorem direction_add_ninety :
    direction (degrees + 90) = (direction (degrees - 90)).scale (-1) := by
  rw [direction_add degrees 90, toRadians_ninety, Real.cos_pi_div_two, Real.sin_pi_div_two]
  ext <;> simp

theorem direction_sub_oneFifty :
    direction (degrees - 150) =
      (direction degrees).scale (-(√3 / 2)) + (direction (degrees - 90)).scale (1 / 2) := by
  rw [direction_sub degrees 150, toRadians_oneFifty, Real.cos_pi_sub, Real.sin_pi_sub,
    Real.cos_pi_div_six, Real.sin_pi_div_six]

theorem direction_add_oneFifty :
    direction (degrees + 150) =
      (direction degrees).scale (-(√3 / 2)) + (direction (degrees - 90)).scale (-(1 / 2)) := by
  rw [direction_add degrees 150, toRadians_oneFifty, Real.cos_pi_sub, Real.sin_pi_sub,
    Real.cos_pi_div_six, Real.sin_pi_div_six]

theorem direction_sub_oneEighty : direction (degrees - 180) = (direction degrees).scale (-1) := by
  rw [direction_sub degrees 180, toRadians_oneEighty, Real.cos_pi, Real.sin_pi]
  ext <;> simp

end Vec2

end TurtleGraphics
