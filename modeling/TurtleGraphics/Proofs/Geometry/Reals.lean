/-
  Real geometry: drawings without rounding errors.

  The real numbers are scalars as doubles are, but their arithmetic is exact.
  What is true of them is what a drawing is meant to be.

  * `Scalar.real`: the real numbers as scalars;
  * `Vec3.normSq`: the squared length of a vector;
  * `Matrix3.apply_comp`: a product of linear maps is applied factor by factor;
  * `Vec3.normSq_orbitMatrix`: the rotations of the view keep lengths.
-/
import Mathlib.Analysis.SpecialFunctions.Trigonometric.Basic
import TurtleGraphics.Geometry.Rotation

namespace TurtleGraphics

/-! ## Real numbers -/

/-- The real numbers as scalars.  All of them are finite, and a remainder is what
    is left of the dividend when it is divided as often as it goes. -/
noncomputable instance Scalar.real : Scalar ℝ where
  decidableLT := inferInstance
  decidableLE := inferInstance
  pi := Real.pi
  sqrt := Real.sqrt
  sin := Real.sin
  cos := Real.cos
  rem a b := a - b * (if 0 ≤ a / b then ⌊a / b⌋ else ⌈a / b⌉ : ℤ)
  isFinite _ := true

@[simp] theorem Scalar.sin_real (angle : ℝ) : Scalar.sin angle = Real.sin angle := rfl
@[simp] theorem Scalar.cos_real (angle : ℝ) : Scalar.cos angle = Real.cos angle := rfl

/-! ## Lengths -/

/-- The squared length of a vector. -/
def Vec3.normSq (v : Vec3 ℝ) : ℝ := v.x ^ 2 + v.y ^ 2 + v.z ^ 2

theorem Vec3.abs_y_le {v : Vec3 ℝ} {length : ℝ} (hlength : 0 ≤ length)
    (h : v.normSq ≤ length ^ 2) : |v.y| ≤ length := by
  refine abs_le_of_sq_le_sq ?_ hlength
  calc v.y ^ 2 ≤ v.normSq := by
        rw [normSq]
        linarith [sq_nonneg v.x, sq_nonneg v.z]
    _ ≤ length ^ 2 := h

/-! ## Linear maps -/

namespace Matrix3

theorem apply_eq (m : Matrix3 ℝ) (v : Vec3 ℝ) :
    m.apply v =
      ⟨m.xAxis.x * v.x + m.yAxis.x * v.y + m.zAxis.x * v.z,
        m.xAxis.y * v.x + m.yAxis.y * v.y + m.zAxis.y * v.z,
        m.xAxis.z * v.x + m.yAxis.z * v.y + m.zAxis.z * v.z⟩ := rfl

theorem apply_comp (m n : Matrix3 ℝ) (v : Vec3 ℝ) : (m.comp n).apply v = m.apply (n.apply v) := by
  simp only [apply_eq, comp]
  ext <;> dsimp only <;> ring

theorem applyAbout_zero (m : Matrix3 ℝ) (v : Vec3 ℝ) : m.applyAbout Vec3.zero v = m.apply v := by
  have hzero : v - Vec3.zero = v := by
    ext <;> simp [Vec3.zero, Vec3.splat]
  rw [applyAbout, hzero]
  ext <;> simp [Vec3.zero, Vec3.splat]

theorem rotationX_apply (angle : ℝ) (v : Vec3 ℝ) :
    (rotationX angle).apply v =
      ⟨v.x, Real.cos angle * v.y - Real.sin angle * v.z,
        Real.sin angle * v.y + Real.cos angle * v.z⟩ := by
  rw [apply_eq]
  ext
  · simp [rotationX]
  · simp [rotationX, sub_eq_add_neg]
  · simp [rotationX]

theorem rotationZ_apply (angle : ℝ) (v : Vec3 ℝ) :
    (rotationZ angle).apply v =
      ⟨Real.cos angle * v.x - Real.sin angle * v.y,
        Real.sin angle * v.x + Real.cos angle * v.y, v.z⟩ := by
  rw [apply_eq]
  ext
  · simp [rotationZ, sub_eq_add_neg]
  · simp [rotationZ]
  · simp [rotationZ]

end Matrix3

/-! ## Rotations -/

namespace Vec3

theorem normSq_rotationX (angle : ℝ) (v : Vec3 ℝ) :
    ((Matrix3.rotationX angle).apply v).normSq = v.normSq := by
  rw [Matrix3.rotationX_apply]
  simp only [normSq]
  linear_combination (v.y ^ 2 + v.z ^ 2) * Real.sin_sq_add_cos_sq angle

theorem normSq_rotationZ (angle : ℝ) (v : Vec3 ℝ) :
    ((Matrix3.rotationZ angle).apply v).normSq = v.normSq := by
  rw [Matrix3.rotationZ_apply]
  simp only [normSq]
  linear_combination (v.x ^ 2 + v.y ^ 2) * Real.sin_sq_add_cos_sq angle

/-- **The rotations of the view** keep the length of every vector. -/
theorem normSq_orbitMatrix (yaw pitch : ℝ) (v : Vec3 ℝ) :
    ((orbitMatrix yaw pitch).apply v).normSq = v.normSq := by
  rw [orbitMatrix, Matrix3.apply_comp, normSq_rotationZ, normSq_rotationX]

end Vec3

end TurtleGraphics
