/-
  Angles: full turns do not matter.

  A reduced angle differs from the angle by full turns, and lies in its range.  There is
  only one such angle, so that turning back leads to where a turtle was heading, however
  often its angles have been reduced on the way.

  * `wrapHeading_eq`, `wrapPitch_eq`: reducing an angle is taking it modulo a full turn;
    `wrapHeading_modEq`, `wrapPitch_modEq`: it makes full turns;
  * `toIcoMod_turn_back`: a turn and the opposite turn, in any range of a full turn;
    `wrapHeading_add_sub`, `wrapPitch_add_sub` and their companions are the cases of it.

  The numbers are real here.
-/
import Mathlib.Algebra.Order.ToIntervalMod
import TurtleGraphics.Geometry.Angle
import TurtleGraphics.Proofs.Geometry.Reals

namespace TurtleGraphics

/-! ## Remainders -/

/-- A remainder is smaller than the divisor, and differs from the dividend by a multiple of
    it. -/
theorem rem_spec (a : ℝ) {modulus : ℝ} (hmodulus : 0 < modulus) :
    |Scalar.rem a modulus| < modulus ∧ ∃ n : ℤ, a = Scalar.rem a modulus + n • modulus := by
  obtain ⟨n, hn, hrem⟩ : ∃ n : ℤ, |a / modulus - n| < 1 ∧
      Scalar.rem a modulus = a - modulus * n := by
    by_cases hsign : 0 ≤ a / modulus
    · refine ⟨⌊a / modulus⌋, ?_, by simp only [Scalar.rem, if_pos hsign]⟩
      have hlow := Int.floor_le (a / modulus)
      have hhigh := Int.lt_floor_add_one (a / modulus)
      exact abs_lt.2 ⟨by linarith, by linarith⟩
    · refine ⟨⌈a / modulus⌉, ?_, by simp only [Scalar.rem, if_neg hsign]⟩
      have hlow := Int.ceil_lt_add_one (a / modulus)
      have hhigh := Int.le_ceil (a / modulus)
      exact abs_lt.2 ⟨by linarith, by linarith⟩
  refine ⟨?_, n, by rw [hrem, zsmul_eq_mul]; ring⟩
  calc |Scalar.rem a modulus| = |modulus * (a / modulus - n)| := by
        rw [hrem, mul_sub, mul_div_cancel₀ a hmodulus.ne']
    _ = modulus * |a / modulus - n| := by rw [abs_mul, abs_of_pos hmodulus]
    _ < modulus := mul_lt_of_lt_one_right hmodulus hn

theorem wrap_eq (a : ℝ) {modulus : ℝ} (hmodulus : 0 < modulus) :
    wrap a modulus = toIcoMod hmodulus 0 a := by
  obtain ⟨hsize, n, hn⟩ := rem_spec a hmodulus
  obtain ⟨hlow, hhigh⟩ := abs_lt.1 hsize
  rw [eq_comm, toIcoMod_eq_iff, zero_add]
  unfold wrap
  by_cases hsign : Scalar.rem a modulus < 0
  · simp only [Nat.cast_zero, if_pos hsign]
    refine ⟨⟨by linarith, by linarith⟩, n - 1, ?_⟩
    rw [sub_zsmul, one_zsmul]
    linarith
  · simp only [Nat.cast_zero, if_neg hsign]
    exact ⟨⟨not_lt.1 hsign, hhigh⟩, n, hn⟩

/-! ## Reduced angles -/

theorem fullTurn_pos : (0 : ℝ) < 360 := by norm_num

theorem wrapHeading_eq (degrees : ℝ) : wrapHeading degrees = toIcoMod fullTurn_pos 0 degrees := by
  have hwrap : wrap degrees ((360 : ℕ) : ℝ) = toIcoMod fullTurn_pos 0 degrees := by
    exact_mod_cast wrap_eq degrees fullTurn_pos
  have hbelow : ¬ ((360 : ℕ) : ℝ) ≤ toIcoMod fullTurn_pos 0 degrees := by
    simpa using toIcoMod_lt_right fullTurn_pos 0 degrees
  simp only [wrapHeading, hwrap, if_neg hbelow]

theorem wrapPitch_eq (degrees : ℝ) :
    wrapPitch degrees = toIcoMod fullTurn_pos (-180) degrees := by
  have hshift := toIcoMod_add_right_eq_add fullTurn_pos 0 degrees 180
  rw [wrapPitch, wrapHeading_eq]
  norm_num at hshift ⊢
  rw [hshift]
  ring

/-- **Turning back**: what is reduced on the way differs by full turns, and these do not
    matter in the end. -/
theorem toIcoMod_turn_back {turn : ℝ} (hturn : 0 < turn) (low angle degrees : ℝ)
    (hangle : angle ∈ Set.Ico low (low + turn)) :
    toIcoMod hturn low (toIcoMod hturn low (angle + degrees) - degrees) = angle := by
  calc toIcoMod hturn low (toIcoMod hturn low (angle + degrees) - degrees)
      = toIcoMod hturn low (angle - toIcoDiv hturn low (angle + degrees) • turn) := by
        rw [← self_sub_toIcoDiv_zsmul hturn low (angle + degrees), sub_right_comm,
          add_sub_cancel_right]
    _ = toIcoMod hturn low angle := toIcoMod_sub_zsmul hturn low angle _
    _ = angle := (toIcoMod_eq_self hturn).2 hangle

/-! ### Headings -/

theorem wrapHeading_mem (degrees : ℝ) : wrapHeading degrees ∈ Set.Ico (0 : ℝ) 360 := by
  rw [wrapHeading_eq]
  exact toIcoMod_mem_Ico' fullTurn_pos degrees

variable {heading pitch : ℝ}

theorem wrapHeading_modEq (degrees : ℝ) : wrapHeading degrees ≡ degrees [PMOD 360] := by
  rw [wrapHeading_eq, ← toIcoMod_inj fullTurn_pos (c := 0), toIcoMod_toIcoMod]

theorem eq_of_modEq_of_mem {other : ℝ} (h : heading ≡ other [PMOD 360])
    (hheading : heading ∈ Set.Ico (0 : ℝ) 360) (hother : other ∈ Set.Ico (0 : ℝ) 360) :
    heading = other := by
  rw [← zero_add (360 : ℝ)] at hheading hother
  rw [← (toIcoMod_eq_self fullTurn_pos).2 hheading, ← (toIcoMod_eq_self fullTurn_pos).2 hother]
  exact h.toIcoMod_eq_toIcoMod fullTurn_pos

theorem wrapHeading_add_sub (hheading : heading ∈ Set.Ico (0 : ℝ) 360) (degrees : ℝ) :
    wrapHeading (wrapHeading (heading + degrees) - degrees) = heading := by
  rw [wrapHeading_eq, wrapHeading_eq]
  exact toIcoMod_turn_back fullTurn_pos 0 heading degrees (by rwa [zero_add])

theorem wrapHeading_sub_add (hheading : heading ∈ Set.Ico (0 : ℝ) 360) (degrees : ℝ) :
    wrapHeading (wrapHeading (heading - degrees) + degrees) = heading := by
  simpa [sub_eq_add_neg] using wrapHeading_add_sub hheading (-degrees)

/-! ### Pitches -/

theorem wrapPitch_mem (degrees : ℝ) : wrapPitch degrees ∈ Set.Ico (-180 : ℝ) 180 := by
  rw [wrapPitch_eq]
  have hhigh := toIcoMod_lt_right fullTurn_pos (-180) degrees
  exact ⟨left_le_toIcoMod .., by linarith⟩

theorem wrapPitch_modEq (degrees : ℝ) : wrapPitch degrees ≡ degrees [PMOD 360] := by
  rw [wrapPitch_eq, ← toIcoMod_inj fullTurn_pos (c := -180), toIcoMod_toIcoMod]

theorem wrapPitch_add_sub (hpitch : pitch ∈ Set.Ico (-180 : ℝ) 180) (degrees : ℝ) :
    wrapPitch (wrapPitch (pitch + degrees) - degrees) = pitch := by
  rw [wrapPitch_eq, wrapPitch_eq]
  have hrange : pitch < -180 + 360 := by linarith [hpitch.2]
  exact toIcoMod_turn_back fullTurn_pos (-180) pitch degrees ⟨hpitch.1, hrange⟩

theorem wrapPitch_sub_add (hpitch : pitch ∈ Set.Ico (-180 : ℝ) 180) (degrees : ℝ) :
    wrapPitch (wrapPitch (pitch - degrees) + degrees) = pitch := by
  simpa [sub_eq_add_neg] using wrapPitch_add_sub hpitch (-degrees)

end TurtleGraphics
