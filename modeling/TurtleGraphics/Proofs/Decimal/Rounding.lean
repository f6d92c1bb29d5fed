/-
  Rounding: which numbers are read as which double.

  The numbers that are rounded to a double are an interval around it, and the
  intervals of different doubles have no number in common.  The shortest decimal
  of a double is in its interval.

  * `Binary64.RoundsTo` are the numbers that are rounded to `m · 2 ^ q`;
  * `Decimal.roundsTo_of_onGrid?`, `Decimal.roundsTo_shortest`: the decimals that
    are written of a double are rounded to it;
  * `Binary64.RoundsTo.unique`: a number is rounded to one double only.
-/
import Mathlib.Tactic.Linarith
import Mathlib.Tactic.Ring
import TurtleGraphics.Decimal.Shortest
import TurtleGraphics.Proofs.Decimal.Positional

namespace TurtleGraphics

/-! ## Intervals -/

namespace Binary64

/-- How far below a double its interval reaches, in quarters of its unit: half
    as far as above it, if the doubles are twice as close there. -/
def reach (m : Nat) (q : Int) : Nat := if m = minNormal ∧ minExponent < q then 1 else 2

theorem reach_le (m : Nat) (q : Int) : 1 ≤ reach m q ∧ reach m q ≤ 2 := by
  unfold reach
  split <;> decide

/-- The lower end of the interval of `m · 2 ^ q`. -/
def low (m : Nat) (q : Int) : ℚ := (4 * m - reach m q) * 2 ^ (q - 2)

/-- The upper end of the interval of `m · 2 ^ q`. -/
def high (m : Nat) (q : Int) : ℚ := (4 * m + 2) * 2 ^ (q - 2)

/-- A number is rounded to `m · 2 ^ q`.  The ends of the interval belong to it
    when `m` is even. -/
def RoundsTo (m : Nat) (q : Int) (v : ℚ) : Prop :=
  if m % 2 = 0 then low m q ≤ v ∧ v ≤ high m q else low m q < v ∧ v < high m q

variable {m m' : Nat} {q q' : Int} {v : ℚ}

theorem RoundsTo.le (h : RoundsTo m q v) : low m q ≤ v ∧ v ≤ high m q := by
  unfold RoundsTo at h
  split at h
  · exact h
  · exact ⟨h.1.le, h.2.le⟩

theorem RoundsTo.lt (h : RoundsTo m q v) (hodd : m % 2 = 1) : low m q < v ∧ v < high m q := by
  rwa [RoundsTo, if_neg (by omega)] at h

theorem roundsTo_of_lt (h : low m q < v ∧ v < high m q) : RoundsTo m q v := by
  unfold RoundsTo
  split
  · exact ⟨h.1.le, h.2.le⟩
  · exact h

theorem quarter_pos (q : Int) : (0 : ℚ) < 2 ^ (q - 2) := zpow_pos (by norm_num) _

theorem roundsTo_self (m : Nat) (q : Int) : RoundsTo m q (m * 2 ^ q) := by
  have hunit : (2 : ℚ) ^ q = 4 * 2 ^ (q - 2) := by
    rw [show q = q - 2 + 2 by omega, zpow_add₀ (by norm_num)]
    norm_num
    ring
  have hreach : (1 : ℚ) ≤ reach m q := by exact_mod_cast (reach_le m q).1
  have hpos := quarter_pos q
  refine roundsTo_of_lt ⟨?_, ?_⟩
  · rw [low, hunit]
    nlinarith
  · rw [high, hunit]
    nlinarith

end Binary64

/-! ## Decimals in intervals -/

namespace Decimal

variable {m : Nat} {q k : Int} {d : Decimal}

open Binary64

/-- Whether a multiple of `10 ^ k` is rounded to `m · 2 ^ q`, as it is counted in
    natural numbers. -/
def roundsOnGrid (m : Nat) (q k : Int) (c : Nat) : Bool :=
  let scale := Nat.pow 2 (q - 2).toNat * Nat.pow 10 (-k).toNat
  let step := Nat.pow 2 (2 - q).toNat * Nat.pow 10 k.toNat
  let low := (4 * m - reach m q) * scale
  let high := (4 * m + 2) * scale
  if m % 2 = 0 then low ≤ c * step && c * step ≤ high else low < c * step && c * step < high

theorem of_onGrid? (h : onGrid? m q k = some d) :
    d.exponent = k ∧ roundsOnGrid m q k d.significand = true := by
  unfold onGrid? at h
  dsimp only at h
  split at h
  · next hfirst hsecond =>
    split at h
    · obtain rfl := Option.some.inj h
      exact ⟨rfl, hfirst⟩
    · obtain rfl := Option.some.inj h
      exact ⟨rfl, hsecond⟩
  · next hfirst _ =>
    obtain rfl := Option.some.inj h
    exact ⟨rfl, hfirst⟩
  · next _ hsecond =>
    obtain rfl := Option.some.inj h
    exact ⟨rfl, hsecond⟩
  · cases h

theorem pow_toNat {b : ℚ} (hb : b ≠ 0) (a : Int) : b ^ a.toNat = b ^ (-a).toNat * b ^ a := by
  rw [← zpow_natCast, ← zpow_natCast, ← zpow_add₀ hb]
  congr 1
  omega

theorem le_iff_of_units {a b a' b' unit unit' : ℚ} (hunit : 0 < unit) (hunit' : 0 < unit')
    (ha : a * unit = a' * unit') (hb : b * unit = b' * unit') : a ≤ b ↔ a' ≤ b' := by
  rw [← mul_le_mul_iff_of_pos_right hunit, ha, hb, mul_le_mul_iff_of_pos_right hunit']

theorem lt_iff_of_units {a b a' b' unit unit' : ℚ} (hunit : 0 < unit) (hunit' : 0 < unit')
    (ha : a * unit = a' * unit') (hb : b * unit = b' * unit') : a < b ↔ a' < b' := by
  rw [← not_le, ← not_le, le_iff_of_units hunit hunit' hb ha]

/-- **Counting in natural numbers** decides about rational numbers. -/
theorem roundsTo_of_roundsOnGrid (hm : 0 < m) {c : Nat} (h : roundsOnGrid m q k c = true) :
    RoundsTo m q (c * 10 ^ k) := by
  have htwo := pow_toNat (b := 2) (by norm_num) (q - 2)
  have hten := pow_toNat (b := 10) (by norm_num) k
  rw [show -(q - 2) = 2 - q by omega] at htwo
  obtain ⟨scale, step, hscale, hstep, h⟩ : ∃ scale step : Nat, (0 : ℚ) < scale ∧
      (step : ℚ) * 2 ^ (q - 2) = scale * 10 ^ k ∧
      (if m % 2 = 0 then (4 * m - reach m q) * scale ≤ c * step && c * step ≤ (4 * m + 2) * scale
        else (4 * m - reach m q) * scale < c * step && c * step < (4 * m + 2) * scale) = true := by
    refine ⟨2 ^ (q - 2).toNat * 10 ^ (-k).toNat, 2 ^ (2 - q).toNat * 10 ^ k.toNat, ?_, ?_, h⟩
    · push_cast
      positivity
    · push_cast
      rw [htwo, hten]
      ring
  -- the ends and the point, with and without the factors that make them natural
  have hlow : (((4 * m - reach m q) * scale : Nat) : ℚ) * 2 ^ (q - 2) = low m q * scale := by
    have hreach := (reach_le m q).2
    rw [low, Nat.cast_mul, Nat.cast_sub (by omega)]
    push_cast
    ring
  have hhigh : (((4 * m + 2) * scale : Nat) : ℚ) * 2 ^ (q - 2) = high m q * scale := by
    rw [high]
    push_cast
    ring
  have hpoint : ((c * step : Nat) : ℚ) * 2 ^ (q - 2) = c * 10 ^ k * scale := by
    rw [Nat.cast_mul, mul_assoc, hstep]
    ring
  have hunit := quarter_pos q
  unfold RoundsTo
  split at h
  · next heven =>
    obtain ⟨hl, hh⟩ := Bool.and_eq_true_iff.1 h
    rw [decide_eq_true_eq, ← Nat.cast_le (α := ℚ)] at hl hh
    rw [if_pos heven]
    exact ⟨(le_iff_of_units hunit hscale hlow hpoint).1 hl,
      (le_iff_of_units hunit hscale hpoint hhigh).1 hh⟩
  · next hodd =>
    obtain ⟨hl, hh⟩ := Bool.and_eq_true_iff.1 h
    rw [decide_eq_true_eq, ← Nat.cast_lt (α := ℚ)] at hl hh
    rw [if_neg hodd]
    exact ⟨(lt_iff_of_units hunit hscale hlow hpoint).1 hl,
      (lt_iff_of_units hunit hscale hpoint hhigh).1 hh⟩

/-- **The point of a grid** is rounded to the double. -/
theorem roundsTo_of_onGrid? (hm : 0 < m) (h : onGrid? m q k = some d) : RoundsTo m q d.value := by
  obtain ⟨hexponent, hrounds⟩ := of_onGrid? h
  rw [value, hexponent]
  exact roundsTo_of_roundsOnGrid hm hrounds

theorem value_exact (m : Nat) (q : Int) : (exact m q).value = m * 2 ^ q := by
  unfold exact value
  split
  · next h =>
    obtain ⟨n, rfl⟩ := Int.eq_ofNat_of_zero_le h
    simp
  · next h =>
    obtain ⟨n, hn⟩ := Int.eq_ofNat_of_zero_le (show 0 ≤ -q by omega)
    have hfive : (5 : ℚ) ^ n * 5 ^ q = 1 := by
      rw [← zpow_natCast, ← zpow_add₀ (by norm_num), show (n : Int) + q = 0 by omega, zpow_zero]
    have hten : (10 : ℚ) ^ q = 2 ^ q * 5 ^ q := by
      rw [← mul_zpow]
      norm_num
    rw [hn, Int.toNat_natCast, hten, Nat.pow_eq]
    push_cast
    calc (m : ℚ) * 5 ^ n * (2 ^ q * 5 ^ q) = m * 2 ^ q * (5 ^ n * 5 ^ q) := by ring
      _ = m * 2 ^ q := by rw [hfive, mul_one]

/-- **The shortest decimal** of a double is rounded to it. -/
theorem roundsTo_shortest (hm : 0 < m) (q : Int) : RoundsTo m q (shortest m q).value := by
  unfold shortest
  cases hfind : (List.range 24).findSome? fun i =>
      onGrid? m q (exponentAbove m q - Int.ofNat i) with
  | none =>
    simp only [hfind, Option.getD_none, value_exact]
    exact roundsTo_self m q
  | some d =>
    obtain ⟨i, -, hgrid⟩ := List.exists_of_findSome?_eq_some hfind
    simp only [hfind, Option.getD_some]
    exact roundsTo_of_onGrid? hm hgrid

end Decimal

/-! ## Different doubles -/

namespace Binary64

/-- The significands and exponents that doubles have: a significand is as large
    as it may be, unless the exponent is the smallest there is. -/
structure Canonical (m : Nat) (q : Int) : Prop where
  fits : m < 2 * minNormal
  least : minExponent ≤ q
  normal : minNormal ≤ m ∨ q = minExponent

variable {m m' : Nat} {q q' : Int} {v : ℚ}

theorem RoundsTo.not_lt (h : RoundsTo m q v) (h' : RoundsTo m' q v) : ¬ m < m' := by
  intro hlt
  have hpos := quarter_pos q
  have hreach : (reach m' q : ℚ) ≤ 2 := by exact_mod_cast (reach_le m' q).2
  -- the upper end of the one is at most the lower end of the other
  have hends : low m' q ≤ high m q := h'.le.1.trans h.le.2
  have hle : (4 * m' - reach m' q : ℚ) ≤ 4 * m + 2 := le_of_mul_le_mul_right hends hpos
  have hnext : m' = m + 1 := by
    have : (m' : ℚ) ≤ m + 1 := by linarith
    have : m' ≤ m + 1 := by exact_mod_cast this
    omega
  -- of two significands in a row, one is odd, and has not got its ends
  have hstrict : low m' q < high m q := by
    rcases Nat.mod_two_eq_zero_or_one m with heven | hodd
    · exact (h'.lt (by omega)).1.trans_le h.le.2
    · exact h'.le.1.trans_lt (h.lt hodd).2
  have hlt : (4 * m' - reach m' q : ℚ) < 4 * m + 2 := lt_of_mul_lt_mul_right hstrict hpos.le
  rw [hnext] at hlt hreach
  push_cast at hlt
  linarith

theorem quarter_le (hlt : q < q') : 2 * (2 : ℚ) ^ (q - 2) ≤ 2 ^ (q' - 2) := by
  have htwo : 2 * (2 : ℚ) ^ (q - 2) = 2 ^ (q - 2 + 1) := by
    rw [zpow_add_one₀ (by norm_num)]
    ring
  rw [htwo]
  exact zpow_le_zpow_right₀ (by norm_num) (by omega)

/-- With a larger exponent, a double reaches only as far down as the largest one
    with a smaller exponent reaches up. -/
theorem Canonical.le_low (hc : Canonical m q) (hc' : Canonical m' q') (hlt : q < q') :
    (8 * minNormal - 2) * 2 ^ (q - 2) ≤ low m' q' := by
  have hmin : minExponent < q' := hc.least.trans_lt hlt
  have hnormal : minNormal ≤ m' := hc'.normal.resolve_right (by omega)
  have hsignificand : (4 * minNormal - 1 : ℚ) ≤ 4 * m' - reach m' q' := by
    rcases hnormal.eq_or_lt with rfl | hmore
    · rw [reach, if_pos ⟨rfl, hmin⟩, Nat.cast_one]
    · have hreach : (reach m' q' : ℚ) ≤ 2 := by exact_mod_cast (reach_le m' q').2
      have hnext : (minNormal + 1 : ℚ) ≤ m' := by exact_mod_cast hmore
      linarith
  have hpositive : (0 : ℚ) ≤ 4 * minNormal - 1 := by
    have : (1 : ℚ) ≤ minNormal := by exact_mod_cast (show 1 ≤ minNormal by decide)
    linarith
  calc (8 * minNormal - 2 : ℚ) * 2 ^ (q - 2)
      = (4 * minNormal - 1) * (2 * 2 ^ (q - 2)) := by ring
    _ ≤ (4 * minNormal - 1) * 2 ^ (q' - 2) :=
      mul_le_mul_of_nonneg_left (quarter_le hlt) hpositive
    _ ≤ low m' q' := mul_le_mul_of_nonneg_right hsignificand (quarter_pos q').le

theorem RoundsTo.not_exponent_lt (h : RoundsTo m q v) (hc : Canonical m q)
    (h' : RoundsTo m' q' v) (hc' : Canonical m' q') : ¬ q < q' := by
  intro hlt
  have hv := (hc.le_low hc' hlt).trans h'.le.1
  have hpos := quarter_pos q
  have hfits : m ≤ 2 * minNormal - 1 := Nat.le_sub_one_of_lt hc.fits
  -- the largest significand is odd, so that its upper end is not its own
  have hbelow : v < (8 * minNormal - 2) * 2 ^ (q - 2) := by
    rcases hfits.eq_or_lt with rfl | hless
    · have hlargest : ((2 * minNormal - 1 : Nat) : ℚ) = 2 * minNormal - 1 := by
        rw [Nat.cast_sub (by decide)]
        push_cast
        rfl
      have hhigh := (h.lt (by decide)).2
      rw [high, hlargest] at hhigh
      linarith
    · have hless' : (m : ℚ) + 1 < 2 * minNormal := by
        have : m + 1 < 2 * minNormal := by omega
        exact_mod_cast this
      refine h.le.2.trans_lt (mul_lt_mul_of_pos_right ?_ hpos)
      linarith
  exact hv.not_gt hbelow

/-- **A number is rounded to one double only**. -/
theorem RoundsTo.unique (h : RoundsTo m q v) (hc : Canonical m q) (h' : RoundsTo m' q' v)
    (hc' : Canonical m' q') : m = m' ∧ q = q' := by
  have hq : q = q' := le_antisymm (Int.not_lt.1 (h'.not_exponent_lt hc' h hc))
    (Int.not_lt.1 (h.not_exponent_lt hc h' hc'))
  subst hq
  exact ⟨le_antisymm (Nat.not_lt.1 (h'.not_lt h)) (Nat.not_lt.1 (h.not_lt h')), rfl⟩

end Binary64

end TurtleGraphics
