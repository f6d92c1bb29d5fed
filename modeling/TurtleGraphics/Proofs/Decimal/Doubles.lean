/-
  Doubles: what is written of them.

  * `Binary64.ofFloat_injective`: a double is taken apart without loss, as there
    is only one that is not a number;
  * `Binary64.ofFloat_wellFormed`: its significand and exponent are canonical;
  * `Binary64.text_injective`: different doubles are written differently;
  * `Binary64.text_plain`: they are written with letters, digits, signs and
    points;
  * `Binary64.isNaN_of_lt`, `Binary64.isNaN_half`: where numbers come from;
  * `Binary64.unpack_of_not_lt`: what is neither below nor above zero is a zero.
-/
import TurtleGraphics.Proofs.Decimal.Rounding

namespace TurtleGraphics.Binary64

open Float.Model Float.Model.UnpackedFloat

/-! ## Bits -/

theorem toNat_unpackExponent (b : BitVec Format.binary64.numBits) :
    (unpackExponent b).toNat = b.toNat / 2 ^ 52 % 2 ^ 11 := by
  simp [unpackExponent, BitVec.extractLsb_toNat, Nat.shiftRight_eq_div_pow]

theorem toNat_unpackMantissa (b : BitVec Format.binary64.numBits) :
    (unpackMantissa b).toNat = b.toNat % 2 ^ 52 := by
  simp [unpackMantissa, BitVec.extractLsb_toNat]

/-- There is only one double that is not a number. -/
theorem toBits_of_undefined {x : Float} (hexponent : x.toBits.toNat / 2 ^ 52 % 2 ^ 11 = 2047)
    (hfraction : x.toBits.toNat % 2 ^ 52 ≠ 0) :
    x.toBits.toBitVec = packedNaN Format.binary64 := by
  refine x.toModel.valid.eq_packedNaN ?_ ?_
  · refine BitVec.eq_of_toNat_eq ?_
    rw [toNat_unpackExponent]
    exact hexponent
  · intro hzero
    have hzero := congrArg BitVec.toNat hzero
    rw [toNat_unpackMantissa] at hzero
    exact hfraction hzero

/-- The bits of a double. -/
def bits : Binary64 → Nat
  | .undefined => (packedNaN Format.binary64).toNat
  | .infinite negative => (if negative then 2 ^ 63 else 0) + 2047 * 2 ^ 52
  | .finite negative m q =>
    (if negative then 2 ^ 63 else 0) +
      if m < minNormal then m else (q + 1075).toNat * 2 ^ 52 + (m - minNormal)

theorem bits_ofFloat (x : Float) : (ofFloat x).bits = x.toBits.toNat := by
  have hsize : x.toBits.toNat < 2 ^ 64 := x.toBits.toNat_lt
  have hmin : minNormal = 2 ^ 52 := rfl
  have hsign : (if decide (2 ^ 63 ≤ x.toBits.toNat) = true then 2 ^ 63 else 0) =
      x.toBits.toNat / 2 ^ 63 * 2 ^ 63 := by
    simp only [decide_eq_true_eq]
    split <;> omega
  simp only [ofFloat, Nat.pow_eq]
  split
  · next hexponent =>
    split
    · next hfraction =>
      rw [bits, hsign]
      omega
    · next hfraction =>
      rw [bits, ← toBits_of_undefined hexponent hfraction]
      rfl
  · split
    · next hexponent =>
      rw [bits, hsign, if_pos (by omega)]
      omega
    · next hexponent =>
      rw [bits, hsign, if_neg (by omega)]
      simp only [Int.ofNat_eq_natCast]
      omega

theorem ofFloat_injective : Function.Injective ofFloat := by
  intro x y h
  have hbits : x.toBits.toNat = y.toBits.toNat := by rw [← bits_ofFloat, h, bits_ofFloat]
  obtain ⟨⟨b, hb⟩⟩ := x
  obtain ⟨⟨b', hb'⟩⟩ := y
  obtain rfl : b = b' := UInt64.toNat_inj.1 hbits
  rfl

/-- A finite double has a canonical significand and exponent. -/
def WellFormed : Binary64 → Prop
  | .undefined => True
  | .infinite _ => True
  | .finite _ m q => Canonical m q

theorem ofFloat_wellFormed (x : Float) : (ofFloat x).WellFormed := by
  have hmin : minNormal = 2 ^ 52 := rfl
  have hexponent : minExponent = -1074 := rfl
  have hfraction : x.toBits.toNat % 2 ^ 52 < 2 ^ 52 := Nat.mod_lt _ (by decide)
  simp only [ofFloat, Nat.pow_eq]
  split
  · split <;> trivial
  · split
    · exact ⟨by omega, le_refl _, .inr rfl⟩
    · refine ⟨by omega, ?_, .inl (by omega)⟩
      simp only [Int.ofNat_eq_natCast]
      omega

/-! ## Texts -/

/-- Whether a double is written with a minus. -/
def isNegative : Binary64 → Bool
  | .undefined => false
  | .infinite negative => negative
  | .finite negative _ _ => negative

/-- What is written of a double behind its sign. -/
def magnitude : Binary64 → List Char
  | .undefined => "NaN".toList
  | .infinite _ => "inf".toList
  | .finite _ m q => if m = 0 then ['0'] else (Decimal.shortest m q).positional

theorem toList_text (x : Binary64) :
    x.text.toList = if x.isNegative then '-' :: x.magnitude else x.magnitude := by
  cases x with
  | undefined => rfl
  | infinite negative => cases negative <;> rfl
  | finite negative m q => exact String.toList_ofList

/-- A finite double is written as a decimal that is rounded to it. -/
theorem magnitude_finite (negative : Bool) (m : Nat) (q : Int) :
    ∃ d : Decimal, (finite negative m q).magnitude = d.positional ∧ RoundsTo m q d.value := by
  by_cases hm : m = 0
  · subst hm
    refine ⟨⟨0, 0⟩, rfl, ?_⟩
    have hzero := roundsTo_self 0 q
    rw [Nat.cast_zero, zero_mul] at hzero
    rw [Decimal.value, Nat.cast_zero, zero_mul]
    exact hzero
  · exact ⟨Decimal.shortest m q, if_neg hm, Decimal.roundsTo_shortest (Nat.pos_of_ne_zero hm) q⟩

theorem magnitude_head (x : Binary64) :
    ∃ c rest, x.magnitude = c :: rest ∧ c.isAlphanum = true ∧
      ∀ e ∈ rest, e.isAlphanum = true ∨ e = '.' := by
  cases x with
  | undefined => exact ⟨'N', ['a', 'N'], rfl, by decide, by simp [Char.isAlphanum]⟩
  | infinite negative => exact ⟨'i', ['n', 'f'], rfl, by decide, by simp [Char.isAlphanum]⟩
  | finite negative m q =>
    obtain ⟨d, hd, -⟩ := magnitude_finite negative m q
    obtain ⟨c, rest, hcons, hc, hrest⟩ := d.positional_digits
    refine ⟨c, rest, hd.trans hcons, by simp [Char.isAlphanum, hc], ?_⟩
    intro e he
    exact (hrest e he).imp_left fun h => by simp [Char.isAlphanum, h]

/-- **Doubles are written with letters, digits, signs and points**. -/
theorem text_plain (x : Binary64) :
    ∀ c ∈ x.text.toList, c.isAlphanum = true ∨ c = '-' ∨ c = '.' := by
  obtain ⟨first, rest, hcons, hfirst, hrest⟩ := x.magnitude_head
  have hmagnitude : ∀ c ∈ x.magnitude, c.isAlphanum = true ∨ c = '-' ∨ c = '.' := by
    rw [hcons]
    exact List.forall_mem_cons.2 ⟨.inl hfirst, fun c hc => (hrest c hc).imp_right .inr⟩
  rw [toList_text]
  split
  · exact List.forall_mem_cons.2 ⟨.inr (.inl rfl), hmagnitude⟩
  · exact hmagnitude

theorem of_text_eq {x y : Binary64} (h : x.text = y.text) :
    x.isNegative = y.isNegative ∧ x.magnitude = y.magnitude := by
  obtain ⟨c, rest, hx, hc, -⟩ := x.magnitude_head
  obtain ⟨d, rest', hy, hd, -⟩ := y.magnitude_head
  have htexts := congrArg String.toList h
  rw [toList_text, toList_text] at htexts
  cases hnx : x.isNegative <;> cases hny : y.isNegative <;> rw [hnx, hny] at htexts
  · exact ⟨rfl, htexts⟩
  · rw [hx] at htexts
    obtain ⟨rfl, -⟩ := List.cons.inj htexts
    exact absurd hc (by decide)
  · rw [hy] at htexts
    obtain ⟨rfl, -⟩ := List.cons.inj htexts
    exact absurd hd (by decide)
  · exact ⟨rfl, (List.cons.inj htexts).2⟩

theorem not_isDigit_of_magnitude_eq {x : Binary64} {c : Char} {rest : List Char} {negative : Bool}
    {m : Nat} {q : Int} (hx : x.magnitude = c :: rest)
    (h : x.magnitude = (finite negative m q).magnitude) : c.isDigit = true := by
  obtain ⟨d, hd, -⟩ := magnitude_finite negative m q
  obtain ⟨e, others, hcons, he, -⟩ := d.positional_digits
  rw [hx, hd, hcons] at h
  rw [(List.cons.inj h).1]
  exact he

/-- **Different doubles are written differently**. -/
theorem text_injective {x y : Binary64} (hx : x.WellFormed) (hy : y.WellFormed)
    (h : x.text = y.text) : x = y := by
  obtain ⟨hsign, hmagnitude⟩ := of_text_eq h
  cases x with
  | undefined =>
    cases y with
    | undefined => rfl
    | infinite negative => exact absurd (List.cons.inj hmagnitude).1 (by decide)
    | finite negative m q => exact absurd (not_isDigit_of_magnitude_eq rfl hmagnitude) (by decide)
  | infinite negative =>
    cases y with
    | undefined => exact absurd (List.cons.inj hmagnitude).1 (by decide)
    | infinite negative' => exact congrArg infinite hsign
    | finite negative' m q => exact absurd (not_isDigit_of_magnitude_eq rfl hmagnitude) (by decide)
  | finite negative m q =>
    cases y with
    | undefined => exact absurd (not_isDigit_of_magnitude_eq rfl hmagnitude.symm) (by decide)
    | infinite negative' =>
      exact absurd (not_isDigit_of_magnitude_eq rfl hmagnitude.symm) (by decide)
    | finite negative' m' q' =>
      -- equal digits are rounded to one double
      obtain ⟨d, hd, hrounds⟩ := magnitude_finite negative m q
      obtain ⟨d', hd', hrounds'⟩ := magnitude_finite negative' m' q'
      rw [hd, hd'] at hmagnitude
      rw [Decimal.value_eq_of_positional_eq hmagnitude] at hrounds
      obtain ⟨rfl, rfl⟩ := hrounds.unique hx hrounds' hy
      obtain rfl : negative = negative' := hsign
      rfl

/-! ## What is a number -/

theorem isNaN_of_compare {x y : Float} {order : Ordering}
    (h : x.toModel.compare y.toModel = some order) : x.isNaN = false ∧ y.isNaN = false := by
  have hcompare : x.toModel.unpack.compare y.toModel.unpack = some order := h
  have hx : x.isNaN = x.toModel.unpack.isNaN := rfl
  have hy : y.isNaN = y.toModel.unpack.isNaN := rfl
  rw [hx, hy]
  generalize x.toModel.unpack = u at hcompare
  generalize y.toModel.unpack = w at hcompare
  cases u with
  | notANumber => cases hcompare
  | _ =>
    cases w with
    | notANumber => cases hcompare
    | _ => exact ⟨rfl, rfl⟩

theorem isNaN_of_lt {x y : Float} (h : x < y) : x.isNaN = false ∧ y.isNaN = false := by
  have hlt : x.toModel < y.toModel := of_decide_eq_true h
  exact isNaN_of_compare (beq_iff_eq.1 hlt)

theorem isNaN_of_le {x y : Float} (h : x ≤ y) : x.isNaN = false ∧ y.isNaN = false := by
  have hle : x.toModel ≤ y.toModel := of_decide_eq_true h
  obtain ⟨order, horder, -⟩ := (Option.any_eq_true _ _).1 hle
  exact isNaN_of_compare horder

/-- What is packed with the largest exponent is an infinity, if it was a number
    before. -/
theorem unpackMantissa_pack {u : Float.Model.UnpackedFloat} (h : u ≠ .notANumber)
    (hexponent : unpackExponent (UnpackedFloat.pack Format.binary64 u) = -1#_) :
    unpackMantissa (UnpackedFloat.pack Format.binary64 u) = 0#_ := by
  cases u with
  | notANumber => exact absurd rfl h
  | infinity sign => exact unpackMantissa_packComponents
  | zero sign => exact unpackMantissa_packComponents
  | finite sign m e hm =>
    unfold UnpackedFloat.pack at hexponent ⊢
    dsimp only at hexponent ⊢
    split
    · exact unpackMantissa_packComponents
    · next hroom =>
      rw [if_neg hroom] at hexponent
      split at hexponent
      · rw [unpackExponent_packComponents] at hexponent
        have hlargest := congrArg BitVec.toNat hexponent
        have hones : (-1#11).toNat = 2047 := rfl
        rw [BitVec.toNat_ofNat, hones] at hlargest
        -- there is room for the exponent, so that it is smaller
        omega
      · rw [unpackExponent_packComponents] at hexponent
        exact absurd hexponent (by decide)

theorem isNaN_pack {u : Float.Model.UnpackedFloat} (h : u ≠ .notANumber) :
    (Float.ofModel (Float.Model.pack u)).isNaN = false := by
  have hunpack : (Float.ofModel (Float.Model.pack u)).isNaN =
      (UnpackedFloat.unpack Format.binary64 (UnpackedFloat.pack Format.binary64 u)).isNaN := rfl
  have hinfinity := unpackMantissa_pack h
  rw [hunpack]
  generalize UnpackedFloat.pack Format.binary64 u = packed at hinfinity
  unfold UnpackedFloat.unpack
  by_cases hlargest : unpackExponent packed = -1#_
  · rw [if_pos hlargest, if_pos (hinfinity hlargest)]
    rfl
  · rw [if_neg hlargest]
    by_cases hsubnormal : unpackExponent packed = 0#_
    · rw [if_pos hsubnormal]
      by_cases hzero : unpackMantissa packed = 0#_
      · rw [dif_pos hzero]
        rfl
      · rw [dif_neg hzero]
        rfl
    · rw [if_neg hsubnormal]
      rfl

theorem roundWithAccuracy_ne (sign : Sign) (m : Nat) (e : Int) (accuracy : Accuracy) :
    roundWithAccuracy Format.binary64 sign m e accuracy ≠ .notANumber := by
  let first := shiftToTargetExponent Format.binary64 m e accuracy
  let final := shiftToTargetExponent Format.binary64 first.1.roundedMantissa first.2 .exact
  have hround : roundWithAccuracy Format.binary64 sign m e accuracy =
      if h : final.1.mantissa = 0 then .zero sign
      else .finite sign final.1.mantissa final.2 (Nat.pos_of_ne_zero h) := rfl
  rw [hround]
  by_cases hzero : final.1.mantissa = 0
  · rw [dif_pos hzero]
    intro h
    cases h
  · rw [dif_neg hzero]
    intro h
    cases h

theorem isNaN_half {x : Float} (h : x.isFinite = true) : (x / Float.ofNat 2).isNaN = false := by
  have hfinite : x.toModel.unpack.isFinite = true := h
  obtain ⟨sign, m, e, hm, htwo⟩ : ∃ sign m e hm,
      (Float.ofNat 2).toModel.unpack = .finite sign m e hm := ⟨_, _, _, _, rfl⟩
  refine @isNaN_pack (UnpackedFloat.div Format.binary64 x.toModel.unpack
    (Float.ofNat 2).toModel.unpack) ?_
  rw [htwo]
  cases hx : x.toModel.unpack with
  | notANumber | infinity => rw [hx] at hfinite; cases hfinite
  | zero =>
    intro hdiv
    cases hdiv
  | finite => exact roundWithAccuracy_ne _ _ _ _

/-! ## Zero -/

theorem unpack_of_not_lt {x : Float} (hfinite : x.isFinite = true) (hbelow : ¬ x < Float.ofNat 0)
    (habove : ¬ Float.ofNat 0 < x) : ∃ sign, x.toModel.unpack = .zero sign := by
  have hunpacked : x.toModel.unpack.isFinite = true := hfinite
  have hlt : x.toModel.unpack.compare (.zero .positive) ≠ some .lt := fun h =>
    hbelow (decide_eq_true (beq_iff_eq.2 h))
  have hgt : (UnpackedFloat.zero .positive).compare x.toModel.unpack ≠ some .lt := fun h =>
    habove (decide_eq_true (beq_iff_eq.2 h))
  cases hx : x.toModel.unpack with
  | zero sign => exact ⟨sign, rfl⟩
  | notANumber | infinity => rw [hx] at hunpacked; cases hunpacked
  | finite sign m e hm =>
    rw [hx] at hlt hgt
    cases sign with
    | negative => exact absurd rfl hlt
    | positive => exact absurd rfl hgt

theorem add_of_unpack_eq_zero {x : Float} {sign : Sign} (h : x.toModel.unpack = .zero sign) :
    Float.ofNat 0 + x = Float.ofNat 0 ∧ -Float.ofNat 90 + x = -Float.ofNat 90 := by
  have hadd : ∀ y : Float, y + x =
      .ofModel (Float.Model.pack (UnpackedFloat.add Format.binary64 y.toModel.unpack (.zero sign))) :=
    fun y => by rw [← h]; rfl
  rw [hadd, hadd]
  cases sign with
  | negative => exact ⟨rfl, rfl⟩
  | positive => exact ⟨rfl, rfl⟩

end TurtleGraphics.Binary64
