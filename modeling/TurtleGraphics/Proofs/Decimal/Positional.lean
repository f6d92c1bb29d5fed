/-
  Positional notation: decimals written out, and read as numbers again.

  * `Numeral.read?_whole`, `Numeral.read?_point`: rows of digits are read as
    numbers, without and with a point;
  * `Decimal.value` is the rational number that a decimal stands for;
  * `Decimal.read?_positional`: what is written of a decimal is read as a number
    of the same value;
  * `Decimal.value_eq_of_positional_eq`: decimals of different values are written
    differently;
  * `Decimal.positional_digits`: they are written with digits and a point.
-/
import Mathlib.Algebra.Order.Field.Rat
import Mathlib.Data.List.TakeWhile
import Mathlib.Tactic.FieldSimp
import TurtleGraphics.Decimal.Basic
import TurtleGraphics.Decimal.Numeral

namespace TurtleGraphics

/-! ## Rows of digits -/

/-- A row of decimal digits. -/
def IsDigits (text : List Char) : Prop := ∀ c ∈ text, c.isDigit = true

namespace IsDigits

variable {text whole fraction : List Char}

theorem append (hwhole : IsDigits whole) (hfraction : IsDigits fraction) :
    IsDigits (whole ++ fraction) := by
  intro c hc
  rcases List.mem_append.1 hc with hc | hc
  · exact hwhole c hc
  · exact hfraction c hc

theorem toDigits (n : Nat) : IsDigits (Nat.toDigits 10 n) := fun _ hc =>
  Nat.isDigit_of_mem_toDigits (by decide) (by decide) hc

theorem replicate_zero (n : Nat) : IsDigits (List.replicate n '0') := by
  intro c hc
  rw [List.eq_of_mem_replicate hc]
  decide

theorem take (h : IsDigits text) (n : Nat) : IsDigits (text.take n) := fun c hc =>
  h c (List.mem_of_mem_take hc)

theorem drop (h : IsDigits text) (n : Nat) : IsDigits (text.drop n) := fun c hc =>
  h c (List.mem_of_mem_drop hc)

theorem splitSign_append (h : IsDigits text) (hne : text ≠ []) (rest : List Char) :
    splitSign (text ++ rest) = (false, text ++ rest) := by
  obtain ⟨c, others, rfl⟩ := List.exists_cons_of_ne_nil hne
  have hc : c.isDigit = true := h c (List.mem_cons_self ..)
  rw [List.cons_append]
  unfold splitSign
  split
  · next heq =>
    obtain ⟨rfl, -⟩ := List.cons.inj heq
    exact absurd hc (by decide)
  · next heq =>
    obtain ⟨rfl, -⟩ := List.cons.inj heq
    exact absurd hc (by decide)
  · rfl

end IsDigits

theorem digitsValue_zeros_append (count n : Nat) :
    digitsValue (List.replicate count '0' ++ Nat.toDigits 10 n) = n := by
  have h := Nat.ofDigitChars_append (b := 10) (l := List.replicate count '0')
    (m := Nat.toDigits 10 n) 0
  rw [Nat.ofDigitChars_replicate_zero, Nat.mul_zero, Nat.ofDigitChars_ten_toDigits] at h
  exact h

theorem digitsValue_append_zeros (n count : Nat) :
    digitsValue (Nat.toDigits 10 n ++ List.replicate count '0') = n * 10 ^ count := by
  have h := Nat.ofDigitChars_append (b := 10) (l := Nat.toDigits 10 n)
    (m := List.replicate count '0') 0
  rw [Nat.ofDigitChars_ten_toDigits, Nat.ofDigitChars_replicate_zero, Nat.mul_comm] at h
  exact h

namespace Numeral

theorem read?_whole {text : List Char} (h : IsDigits text) (hne : text ≠ []) :
    read? text = some ⟨false, digitsValue text, 0⟩ := by
  have hsign := h.splitSign_append hne []
  have htake : text.takeWhile Char.isDigit = text := List.takeWhile_eq_self_iff.2 h
  have hdrop : text.dropWhile Char.isDigit = [] := List.dropWhile_eq_nil_iff.2 h
  rw [List.append_nil] at hsign
  rw [read?, hsign]
  simp only [htake, hdrop, List.isEmpty_eq_false_iff.2 hne, Bool.false_eq_true, if_false]

/-- Digits with a point between them are read as a number with as many places
    as there are digits behind the point. -/
theorem read?_point {whole fraction : List Char} (hwhole : IsDigits whole) (hne : whole ≠ [])
    (hfraction : IsDigits fraction) (hplaces : fraction ≠ []) :
    read? (whole ++ '.' :: fraction) =
      some ⟨false, digitsValue (whole ++ fraction), fraction.length⟩ := by
  have htake : (whole ++ '.' :: fraction).takeWhile Char.isDigit = whole := by
    rw [List.takeWhile_append_of_pos hwhole, List.takeWhile_cons_of_neg (by decide),
      List.append_nil]
  have hdrop : (whole ++ '.' :: fraction).dropWhile Char.isDigit = '.' :: fraction := by
    rw [List.dropWhile_append_of_pos hwhole, List.dropWhile_cons_of_neg (by decide)]
  have hall : fraction.all Char.isDigit = true := List.all_eq_true.2 hfraction
  rw [read?, hwhole.splitSign_append hne]
  simp only [htake, hdrop, hall, List.isEmpty_eq_false_iff.2 hne,
    List.isEmpty_eq_false_iff.2 hplaces, Bool.false_eq_true, if_false, Bool.not_false,
    Bool.and_self, if_true]

end Numeral

/-! ## Decimals -/

namespace Decimal

variable {d d' : Decimal}

/-- The number that a decimal stands for. -/
def value (d : Decimal) : ℚ := d.significand * 10 ^ d.exponent

/-- The number that a decimal is read as. -/
def numeral (d : Decimal) : Numeral :=
  if 0 ≤ d.exponent then ⟨false, d.significand * 10 ^ d.exponent.toNat, 0⟩
  else ⟨false, d.significand, (-d.exponent).toNat⟩

theorem value_eq (d : Decimal) : d.value = d.numeral.digits / 10 ^ d.numeral.places := by
  unfold value numeral
  split
  · next h =>
    obtain ⟨n, hn⟩ := Int.eq_ofNat_of_zero_le h
    rw [hn, zpow_natCast]
    simp
  · next h =>
    obtain ⟨n, hn⟩ := Int.eq_ofNat_of_zero_le (show 0 ≤ -d.exponent by omega)
    rw [hn, show d.exponent = -(n : Int) by omega, zpow_neg, zpow_natCast]
    simp [div_eq_mul_inv]

theorem positional_whole (h : 0 ≤ d.exponent) :
    IsDigits d.positional ∧ d.positional ≠ [] ∧
      digitsValue d.positional = d.significand * 10 ^ d.exponent.toNat := by
  rw [positional, if_pos h]
  exact ⟨(IsDigits.toDigits _).append (.replicate_zero _), by simp, digitsValue_append_zeros ..⟩

theorem positional_point (h : d.exponent < 0) :
    ∃ whole fraction, d.positional = whole ++ '.' :: fraction ∧ IsDigits whole ∧
      IsDigits fraction ∧ whole ≠ [] ∧ fraction.length = (-d.exponent).toNat ∧
      digitsValue (whole ++ fraction) = d.significand := by
  generalize hpadded : List.replicate
    ((-d.exponent).toNat + 1 - (Nat.toDigits 10 d.significand).length) '0' ++
      Nat.toDigits 10 d.significand = padded
  have hdigits : IsDigits padded := hpadded ▸ (IsDigits.replicate_zero _).append (.toDigits _)
  have hvalue : digitsValue padded = d.significand := hpadded ▸ digitsValue_zeros_append ..
  have hlength : (-d.exponent).toNat < padded.length := by
    rw [← hpadded, List.length_append, List.length_replicate]
    omega
  refine ⟨padded.take (padded.length - (-d.exponent).toNat),
    padded.drop (padded.length - (-d.exponent).toNat), ?_, hdigits.take _, hdigits.drop _, ?_, ?_,
    ?_⟩
  · rw [positional, if_neg (by omega)]
    simp only [hpadded]
  · rw [← List.length_pos_iff, List.length_take]
    omega
  · rw [List.length_drop]
    omega
  · rw [List.take_append_drop, hvalue]

/-- **What is written of a decimal is read** as a number of the same value. -/
theorem read?_positional (d : Decimal) : Numeral.read? d.positional = some d.numeral := by
  by_cases h : 0 ≤ d.exponent
  · obtain ⟨hdigits, hne, hvalue⟩ := positional_whole h
    rw [Numeral.read?_whole hdigits hne, hvalue, numeral, if_pos h]
  · obtain ⟨whole, fraction, hpositional, hwhole, hfraction, hne, hlength, hvalue⟩ :=
      positional_point (Int.not_le.1 h)
    have hplaces : fraction ≠ [] := by
      rw [← List.length_pos_iff, hlength]
      omega
    rw [hpositional, Numeral.read?_point hwhole hne hfraction hplaces, hvalue, hlength, numeral,
      if_neg h]

/-- **Decimals of different values** are written differently. -/
theorem value_eq_of_positional_eq (h : d.positional = d'.positional) : d.value = d'.value := by
  have hnumeral := d.read?_positional
  rw [h, d'.read?_positional] at hnumeral
  rw [value_eq, value_eq, Option.some.inj hnumeral]

theorem positional_digits (d : Decimal) :
    ∃ c rest, d.positional = c :: rest ∧ c.isDigit = true ∧
      ∀ e ∈ rest, e.isDigit = true ∨ e = '.' := by
  by_cases h : 0 ≤ d.exponent
  · obtain ⟨hdigits, hne, -⟩ := positional_whole h
    obtain ⟨c, rest, hcons⟩ := List.exists_cons_of_ne_nil hne
    rw [hcons] at hdigits
    obtain ⟨hc, hrest⟩ := List.forall_mem_cons.1 hdigits
    exact ⟨c, rest, hcons, hc, fun e he => .inl (hrest e he)⟩
  · obtain ⟨whole, fraction, hpositional, hwhole, hfraction, hne, -⟩ :=
      positional_point (Int.not_le.1 h)
    obtain ⟨c, rest, rfl⟩ := List.exists_cons_of_ne_nil hne
    obtain ⟨hc, hrest⟩ := List.forall_mem_cons.1 hwhole
    refine ⟨c, rest ++ '.' :: fraction, hpositional, hc, ?_⟩
    intro e he
    rcases List.mem_append.1 he with he | he
    · exact .inl (hrest e he)
    · rcases List.mem_cons.1 he with rfl | he
      · exact .inr rfl
      · exact .inl (hfraction e he)

end Decimal

end TurtleGraphics
