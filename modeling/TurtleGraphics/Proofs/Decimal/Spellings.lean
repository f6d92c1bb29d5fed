/-
  Spellings: the words that are numbers of programs, and those that are counts.

  A number is written with an optional sign, digits, and optionally a point with more digits
  behind it; a count with an optional plus and digits.  The readers take these words and no
  others.

  * `Numeral.Spelling` and `CountSpelling` are the two forms, with the number that a word of
    the form spells;
  * `Numeral.read?_eq_some_iff`: what is read as a number is what spells it;
  * `readCount?_eq_some_iff`: so it is with counts.
-/
import TurtleGraphics.Proofs.Decimal.Positional

namespace TurtleGraphics

/-! ## Signs -/

/-- The signs that a number may have, and whether they are a minus. -/
def signs : List (List Char × Bool) := [([], false), (['+'], false), (['-'], true)]

theorem splitSign_spec (text : List Char) :
    ∃ sign, (sign, (splitSign text).1) ∈ signs ∧ text = sign ++ (splitSign text).2 := by
  unfold splitSign
  split
  · exact ⟨['-'], by simp [signs], rfl⟩
  · exact ⟨['+'], by simp [signs], rfl⟩
  · exact ⟨[], by simp [signs], rfl⟩

theorem splitSign_signed {sign digits : List Char} {negative : Bool}
    (hsign : (sign, negative) ∈ signs) (hdigits : IsDigits digits) (hne : digits ≠ [])
    (rest : List Char) : splitSign (sign ++ (digits ++ rest)) = (negative, digits ++ rest) := by
  simp only [signs, List.mem_cons, Prod.mk.injEq, List.not_mem_nil, or_false] at hsign
  rcases hsign with ⟨rfl, rfl⟩ | ⟨rfl, rfl⟩ | ⟨rfl, rfl⟩
  · exact hdigits.splitSign_append hne rest
  · rfl
  · rfl

theorem isDigits_takeWhile (text : List Char) : IsDigits (text.takeWhile Char.isDigit) :=
  fun _ hc => List.mem_takeWhile_imp hc

/-! ## Numbers -/

namespace Numeral

/-- **The numbers of programs**: words of the form `[+-]?[0-9]+(\.[0-9]+)?`, with the number
    that such a word spells. -/
inductive Spelling : List Char → Numeral → Prop where
  | whole {sign digits : List Char} {negative : Bool} (hsign : (sign, negative) ∈ signs)
      (hdigits : IsDigits digits) (hne : digits ≠ []) :
      Spelling (sign ++ digits) ⟨negative, digitsValue digits, 0⟩
  | point {sign whole fraction : List Char} {negative : Bool} (hsign : (sign, negative) ∈ signs)
      (hwhole : IsDigits whole) (hne : whole ≠ []) (hfraction : IsDigits fraction)
      (hplaces : fraction ≠ []) :
      Spelling (sign ++ (whole ++ '.' :: fraction))
        ⟨negative, digitsValue (whole ++ fraction), fraction.length⟩

variable {text unsigned : List Char} {n : Numeral}

theorem read?_of_splitSign {negative : Bool} (h : splitSign text = (negative, unsigned))
    (hunsigned : splitSign unsigned = (false, unsigned)) :
    read? text = (read? unsigned).map fun n => { n with negative } := by
  unfold read?
  rw [h, hunsigned]
  dsimp only
  split
  · rfl
  · split
    · rfl
    · split <;> rfl
    · rfl

theorem spelling_of_read? (h : read? text = some n) : Spelling text n := by
  obtain ⟨sign, hsign, htext⟩ := splitSign_spec text
  unfold read? at h
  generalize splitSign text = split at h hsign htext
  obtain ⟨negative, unsigned⟩ := split
  dsimp only at h hsign htext
  have hsplit : unsigned.takeWhile Char.isDigit ++ unsigned.dropWhile Char.isDigit = unsigned :=
    List.takeWhile_append_dropWhile
  have hwhole := isDigits_takeWhile unsigned
  generalize unsigned.takeWhile Char.isDigit = whole at h hsplit hwhole
  generalize unsigned.dropWhile Char.isDigit = rest at h hsplit
  subst hsplit htext
  split at h
  · cases h
  · next hempty =>
    have hne : whole ≠ [] := by simpa using hempty
    split at h
    · obtain rfl := Option.some.inj h
      rw [List.append_nil]
      exact .whole hsign hwhole hne
    · next fraction =>
      split at h
      · next hfraction =>
        obtain ⟨hplaces, hdigits⟩ := Bool.and_eq_true_iff.1 hfraction
        obtain rfl := Option.some.inj h
        exact .point hsign hwhole hne (List.all_eq_true.1 hdigits) (by simpa using hplaces)
      · cases h
    · cases h

theorem Spelling.read? (h : Spelling text n) : Numeral.read? text = some n := by
  cases h with
  | @whole sign digits negative hsign hdigits hne =>
    have hsplit := splitSign_signed hsign hdigits hne []
    have hnone := hdigits.splitSign_append hne []
    rw [List.append_nil] at hsplit hnone
    rw [read?_of_splitSign hsplit hnone, read?_whole hdigits hne]
    rfl
  | point hsign hwhole hne hfraction hplaces =>
    rw [read?_of_splitSign (splitSign_signed hsign hwhole hne _) (hwhole.splitSign_append hne _),
      read?_point hwhole hne hfraction hplaces]
    rfl

/-- **The numbers of programs** are the words of their form, and no others. -/
theorem read?_eq_some_iff : Numeral.read? text = some n ↔ Spelling text n :=
  ⟨spelling_of_read?, Spelling.read?⟩

end Numeral

/-! ## Counts -/

/-- **The counts of programs**: words of the form `\+?[0-9]+` whose value is below `2 ^ 32`,
    with the count that such a word spells. -/
inductive CountSpelling : List Char → UInt32 → Prop where
  | plain {digits : List Char} {n : UInt32} (hdigits : IsDigits digits) (hne : digits ≠ [])
      (hvalue : digitsValue digits = n.toNat) : CountSpelling digits n
  | plus {digits : List Char} {n : UInt32} (hdigits : IsDigits digits) (hne : digits ≠ [])
      (hvalue : digitsValue digits = n.toNat) : CountSpelling ('+' :: digits) n

theorem countOfDigits_eq_some_iff {digits : List Char} {n : UInt32} :
    (if !digits.isEmpty && digits.all Char.isDigit then
        if digitsValue digits < UInt32.size then some (UInt32.ofNat (digitsValue digits)) else none
      else none) = some n ↔
      IsDigits digits ∧ digits ≠ [] ∧ digitsValue digits = n.toNat := by
  have hform : (!digits.isEmpty && digits.all Char.isDigit) = true ↔
      IsDigits digits ∧ digits ≠ [] := by
    rw [Bool.and_eq_true_iff, List.all_eq_true, Bool.not_eq_true', List.isEmpty_eq_false_iff,
      and_comm]
    rfl
  rw [ite_eq_iff]
  simp only [hform, reduceCtorEq, and_false, or_false, and_assoc, Option.ite_none_right_eq_some,
    Option.some.injEq]
  refine and_congr_right fun _ => and_congr_right fun _ => ⟨?_, fun hvalue => ⟨?_, ?_⟩⟩
  · rintro ⟨hsize, rfl⟩
    exact (UInt32.toNat_ofNat_of_lt hsize).symm
  · exact hvalue ▸ n.toNat_lt
  · rw [hvalue, UInt32.ofNat_toNat]

/-- **The counts of programs** are the words of their form, and no others. -/
theorem readCount?_eq_some_iff {text : List Char} {n : UInt32} :
    readCount? text = some n ↔ CountSpelling text n := by
  constructor
  · intro h
    unfold readCount? at h
    split at h
    · obtain ⟨hdigits, hne, hvalue⟩ := countOfDigits_eq_some_iff.1 h
      exact .plus hdigits hne hvalue
    · obtain ⟨hdigits, hne, hvalue⟩ := countOfDigits_eq_some_iff.1 h
      exact .plain hdigits hne hvalue
  · intro h
    cases h with
    | plain hdigits hne hvalue =>
      rw [readCount?]
      · exact countOfDigits_eq_some_iff.2 ⟨hdigits, hne, hvalue⟩
      · rintro rest rfl
        exact absurd (hdigits '+' (List.mem_cons_self ..)) (by decide)
    | plus hdigits hne hvalue => exact countOfDigits_eq_some_iff.2 ⟨hdigits, hne, hvalue⟩

end TurtleGraphics
