/-
  Lowercased text: what lowercasing gives, and what it leaves alone.

  * `IsLower`: a character that lowercasing leaves as it is;
  * `mem_lowercase`: a lowercased text has no other characters, and the new ones
    among them are letters or marks (`IsLetterCode`);
  * `lowercase_eq_self`: a text of such characters is left as it is;
  * `Tight.lowercase`: lowercasing keeps blanks away from the ends of a text.

  The table of letters is checked by intervals: the counterparts of a range
  never meet the letters of a range (`CaseRange.avoids`).
-/
import TurtleGraphics.Text.Blank
import TurtleGraphics.Text.Lowercase

namespace TurtleGraphics

/-! ## The table of letters -/

namespace CaseRange

/-- The largest counterpart of a range. -/
def lastTarget (r : CaseRange) : Nat := r.target + (r.last - r.first)

/-- No counterpart of `r` is a letter of `q`: they lie apart, or they
    alternate. -/
def avoids (r q : CaseRange) : Bool :=
  Nat.blt r.lastTarget q.first || Nat.blt q.last r.target ||
    ((Nat.beq (r.step % q.step) 0 || Nat.beq r.first r.last) &&
      !Nat.beq (r.target % q.step) (q.first % q.step))

theorem avoids_iff {r q : CaseRange} :
    r.avoids q = true ↔ r.lastTarget < q.first ∨ q.last < r.target ∨
      ((r.step % q.step = 0 ∨ r.first = r.last) ∧ r.target % q.step ≠ q.first % q.step) := by
  simp only [avoids, Bool.or_eq_true, Bool.and_eq_true, Bool.not_eq_true', Nat.blt_eq, Nat.beq_eq,
    ← Bool.not_eq_true, or_assoc, ne_eq]

theorem target_eq {r : CaseRange} {code t : Nat} (h : r.apply? code = some t) :
    r.first ≤ code ∧ code ≤ r.last ∧ (code - r.first) % r.step = 0 ∧
      t = r.target + (code - r.first) := by
  unfold CaseRange.apply? at h
  split at h
  · next hin => exact ⟨hin.1, hin.2.1, hin.2.2, (Option.some.inj h).symm⟩
  · cases h

theorem not_hit_of_avoids {r q : CaseRange} {code t : Nat} (h : r.apply? code = some t)
    (havoids : r.avoids q = true) : q.apply? t = none := by
  obtain ⟨hfirst, hlast, hstep, rfl⟩ := target_eq h
  refine if_neg ?_
  intro hin
  rcases avoids_iff.1 havoids with hbelow | habove | ⟨halternate, hparity⟩
  · unfold lastTarget at hbelow
    omega
  · omega
  · refine hparity ?_
    have hdvd : q.step ∣ code - r.first := by
      rcases halternate with hdvd | hsingle
      · exact Nat.dvd_trans (Nat.dvd_of_mod_eq_zero hdvd) (Nat.dvd_of_mod_eq_zero hstep)
      · exact ⟨0, by omega⟩
    obtain ⟨a, ha⟩ := hdvd
    obtain ⟨b, hb⟩ := Nat.dvd_of_mod_eq_zero hin.2.2
    have hmod : (r.target + q.step * a) % q.step = (q.first + q.step * b) % q.step := by
      congr 1
      omega
    rwa [Nat.add_mul_mod_self_left, Nat.add_mul_mod_self_left] at hmod

end CaseRange

/-- The code points between the blanks, from the small letters on. -/
def letterRanges : List (Nat × Nat) :=
  [(0x61, 0x7A), (0xA1, 0x167F), (0x1681, 0x1FFF), (0x2060, 0x2FFF), (0x3001, 0xD7FF),
    (0xE000, 0x10FFFF)]

/-- A code point that can be the counterpart of a letter. -/
def IsLetterCode (code : Nat) : Prop := inRanges letterRanges code = true

instance (code : Nat) : Decidable (IsLetterCode code) := inferInstanceAs (Decidable (_ = true))

theorem isLetterCode_iff {code : Nat} :
    IsLetterCode code ↔ (0x61 ≤ code ∧ code ≤ 0x7A) ∨ (0xA1 ≤ code ∧ code ≤ 0x167F) ∨
      (0x1681 ≤ code ∧ code ≤ 0x1FFF) ∨ (0x2060 ≤ code ∧ code ≤ 0x2FFF) ∨
      (0x3001 ≤ code ∧ code ≤ 0xD7FF) ∨ (0xE000 ≤ code ∧ code ≤ 0x10FFFF) := by
  simp [IsLetterCode, inRanges, letterRanges]

theorem isBlank_eq_false_of_isLetterCode {c : Char} (h : IsLetterCode c.toNat) :
    isBlank c = false := by
  rw [isLetterCode_iff] at h
  simp only [isBlank, Bool.or_eq_false_iff, Bool.and_eq_false_iff, decide_eq_false_iff_not]
  omega

theorem toNat_ofNat_of_isLetterCode {code : Nat} (h : IsLetterCode code) :
    (Char.ofNat code).toNat = code := by
  rw [isLetterCode_iff] at h
  have hvalid : code.isValidChar := by
    unfold Nat.isValidChar
    omega
  have hchar : Char.ofNat code = Char.ofNatAux code hvalid := dif_pos hvalid
  rw [hchar]
  rfl

/-- The two letters that are not lowercased by the table, as ranges. -/
def specialRanges : List CaseRange := [⟨0x3A3, 0x3A3, 1, 0x3C3⟩, ⟨0x130, 0x130, 1, 0x69⟩]

theorem lowercaseRanges_avoid :
    (lowercaseRanges.all fun r => (specialRanges ++ lowercaseRanges).all r.avoids) = true := by
  decide +kernel

theorem lowercaseRanges_between_blanks :
    ∀ r ∈ lowercaseRanges, ∃ i ∈ letterRanges, i.1 ≤ r.target ∧ r.lastTarget ≤ i.2 := by
  decide +kernel

/-- The counterparts in the table are new letters, which are in no range of it. -/
theorem isLetterCode_of_target {r : CaseRange} (hr : r ∈ lowercaseRanges) {code t : Nat}
    (h : r.apply? code = some t) : IsLetterCode t := by
  obtain ⟨i, hi, hlow, hhigh⟩ := lowercaseRanges_between_blanks r hr
  obtain ⟨hfirst, hlast, -, rfl⟩ := CaseRange.target_eq h
  unfold CaseRange.lastTarget at hhigh
  refine List.any_eq_true.2 ⟨i, hi, ?_⟩
  simp only [Bool.and_eq_true, decide_eq_true_eq]
  omega

theorem target_not_hit {r q : CaseRange} (hr : r ∈ lowercaseRanges)
    (hq : q ∈ specialRanges ++ lowercaseRanges) {code t : Nat} (h : r.apply? code = some t) :
    q.apply? t = none :=
  CaseRange.not_hit_of_avoids h
    (List.all_eq_true.1 (List.all_eq_true.1 lowercaseRanges_avoid r hr) q hq)

/-! ## Single characters -/

/-- A character that lowercasing leaves as it is. -/
def IsLower (c : Char) : Prop := c ≠ 'Σ' ∧ lowercaseChar c = [c]

instance (c : Char) : Decidable (IsLower c) := inferInstanceAs (Decidable (_ ∧ _))

theorem ascii_forall {P : Char → Prop} (h : ∀ n < 0x80, P (Char.ofNat n)) (c : Char)
    (hc : c.toNat < 0x80) : P c := by
  have := h c.toNat hc
  rwa [Char.ofNat_toNat] at this

theorem toLower_spec {c : Char} (hc : c.toNat < 0x80) :
    IsLower c.toLower ∧ (c.toLower = c ∨ IsLetterCode c.toLower.toNat) := by
  refine ascii_forall (P := fun c => IsLower c.toLower ∧
    (c.toLower = c ∨ IsLetterCode c.toLower.toNat)) ?_ c hc
  decide +kernel

theorem toLower_eq_self {c : Char} (hc : c.toNat < 0x80) (h : 0x61 ≤ c.toNat) : c.toLower = c := by
  refine ascii_forall (P := fun c => 0x61 ≤ c.toNat → c.toLower = c) ?_ c hc h
  decide +kernel

theorem isLower_of_target {r : CaseRange} (hr : r ∈ lowercaseRanges) {code t : Nat}
    (h : r.apply? code = some t) : IsLower (Char.ofNat t) := by
  have hnat := toNat_ofNat_of_isLetterCode (isLetterCode_of_target hr h)
  have hsigma : t ≠ 0x3A3 := by
    rintro rfl
    have := target_not_hit hr (q := ⟨0x3A3, 0x3A3, 1, 0x3C3⟩)
      (List.mem_append_left _ (by simp [specialRanges])) h
    simp [ CaseRange.apply?] at this
  have hdot : t ≠ 0x130 := by
    rintro rfl
    have := target_not_hit hr (q := ⟨0x130, 0x130, 1, 0x69⟩)
      (List.mem_append_left _ (by simp [specialRanges])) h
    simp [ CaseRange.apply?] at this
  have hnone : lowercaseRanges.findSome? (fun q => q.apply? t) = none := by
    rw [List.findSome?_eq_none_iff]
    intro q hq
    exact target_not_hit hr (List.mem_append_right _ hq) h
  constructor
  · intro heq
    apply hsigma
    rw [← hnat, heq]
    decide
  · unfold lowercaseChar
    rw [hnat, hnone]
    split
    · next hascii =>
      have hletter := isLetterCode_iff.1 (isLetterCode_of_target hr h)
      rw [toLower_eq_self (by omega) (by omega)]
    · rw [if_neg]
      intro heq
      exact hdot (by rw [← hnat, heq]; decide)

theorem mem_lowercaseChar {c d : Char} (hc : c ≠ 'Σ') (h : d ∈ lowercaseChar c) :
    IsLower d ∧ (d = c ∨ IsLetterCode d.toNat) := by
  unfold lowercaseChar at h
  split at h
  · next hascii =>
    obtain rfl := List.mem_singleton.1 h
    exact toLower_spec hascii
  · next hascii =>
    split at h
    · rcases List.mem_cons.1 h with rfl | h
      · exact ⟨by decide +kernel, .inr (by decide)⟩
      · obtain rfl := List.mem_singleton.1 h
        exact ⟨by decide +kernel, .inr (by decide)⟩
    · next hdot =>
      split at h
      · next code hfound =>
        obtain rfl := List.mem_singleton.1 h
        obtain ⟨r, hr, hcode⟩ := List.exists_of_findSome?_eq_some hfound
        have hletter := isLetterCode_of_target hr hcode
        have hnat := toNat_ofNat_of_isLetterCode hletter
        refine ⟨isLower_of_target hr hcode, .inr ?_⟩
        rwa [hnat]
      · next hnone =>
        obtain rfl := List.mem_singleton.1 h
        exact ⟨⟨hc, by simp [lowercaseChar, hascii, hdot, hnone]⟩, .inl rfl⟩

theorem lowercaseChar_ne_nil (c : Char) : lowercaseChar c ≠ [] := by
  unfold lowercaseChar
  split
  · simp
  · split
    · simp
    · split <;> simp

theorem smallSigma_spec (before after : List Char) :
    IsLower (smallSigma before after) ∧ IsLetterCode (smallSigma before after).toNat := by
  unfold smallSigma
  split
  · exact ⟨by decide +kernel, by decide⟩
  · exact ⟨by decide +kernel, by decide⟩

/-! ## Texts -/

/-- What a character becomes between `before`, read backwards, and `after`. -/
def counterpart (before : List Char) (c : Char) (after : List Char) : List Char :=
  if c = 'Σ' then [smallSigma before after] else lowercaseChar c

theorem lowercaseAfter_cons (before : List Char) (c : Char) (text : List Char) :
    lowercaseAfter before (c :: text)
      = counterpart before c text ++ lowercaseAfter (c :: before) text := rfl

theorem counterpart_ne_nil (before : List Char) (c : Char) (after : List Char) :
    counterpart before c after ≠ [] := by
  unfold counterpart
  split
  · simp
  · exact lowercaseChar_ne_nil c

theorem mem_counterpart {before after : List Char} {c d : Char}
    (h : d ∈ counterpart before c after) : IsLower d ∧ (d = c ∨ IsLetterCode d.toNat) := by
  unfold counterpart at h
  split at h
  · obtain rfl := List.mem_singleton.1 h
    exact ⟨(smallSigma_spec before after).1, .inr (smallSigma_spec before after).2⟩
  · next hc => exact mem_lowercaseChar hc h

theorem isBlank_of_mem_counterpart {before after : List Char} {c d : Char}
    (hc : isBlank c = false) (h : d ∈ counterpart before c after) : isBlank d = false := by
  rcases (mem_counterpart h).2 with rfl | hletter
  · exact hc
  · exact isBlank_eq_false_of_isLetterCode hletter

theorem mem_lowercaseAfter {d : Char} : ∀ {text before : List Char},
    d ∈ lowercaseAfter before text → IsLower d ∧ (d ∈ text ∨ IsLetterCode d.toNat)
  | [], _, h => by simp [lowercaseAfter] at h
  | c :: text, before, h => by
    rw [lowercaseAfter_cons] at h
    rcases List.mem_append.1 h with h | h
    · obtain ⟨hlower, rfl | hletter⟩ := mem_counterpart h
      · exact ⟨hlower, .inl (List.mem_cons_self ..)⟩
      · exact ⟨hlower, .inr hletter⟩
    · obtain ⟨hlower, hmem | hletter⟩ := mem_lowercaseAfter h
      · exact ⟨hlower, .inl (List.mem_cons_of_mem _ hmem)⟩
      · exact ⟨hlower, .inr hletter⟩

/-- **The characters of a lowercased text** are left as they are when it is
    lowercased once more; those that are not from the text are letters. -/
theorem mem_lowercase {d : Char} {text : List Char} (h : d ∈ lowercase text) :
    IsLower d ∧ (d ∈ text ∨ IsLetterCode d.toNat) := mem_lowercaseAfter h

theorem lowercaseAfter_eq_self : ∀ {text before : List Char}, (∀ c ∈ text, IsLower c) →
    lowercaseAfter before text = text
  | [], _, _ => rfl
  | c :: text, before, h => by
    obtain ⟨hsigma, hself⟩ := h c (List.mem_cons_self ..)
    rw [lowercaseAfter_cons, counterpart, if_neg hsigma, hself,
      lowercaseAfter_eq_self fun d hd => h d (List.mem_cons_of_mem _ hd)]
    rfl

theorem lowercase_eq_self {text : List Char} (h : ∀ c ∈ text, IsLower c) :
    lowercase text = text := lowercaseAfter_eq_self h

/-! ## The ends of a text -/

/-- A text with blanks at neither end. -/
structure Tight (text : List Char) : Prop where
  head : ∀ c, text.head? = some c → isBlank c = false
  last : ∀ c, text.getLast? = some c → isBlank c = false

theorem head?_lowercaseAfter {before text : List Char}
    (h : ∀ c, text.head? = some c → isBlank c = false) {d : Char}
    (hd : (lowercaseAfter before text).head? = some d) : isBlank d = false := by
  cases text with
  | nil => simp [lowercaseAfter] at hd
  | cons c text =>
    obtain ⟨e, rest, he⟩ := List.exists_cons_of_ne_nil (counterpart_ne_nil before c text)
    rw [lowercaseAfter_cons, he] at hd
    obtain rfl : e = d := by simpa using hd
    have hmem : e ∈ counterpart before c text := he ▸ List.mem_cons_self ..
    exact isBlank_of_mem_counterpart (h c rfl) hmem

theorem getLast?_lowercaseAfter : ∀ {text before : List Char},
    (∀ c, text.getLast? = some c → isBlank c = false) → ∀ {d : Char},
      (lowercaseAfter before text).getLast? = some d → isBlank d = false
  | [], _, _, _, hd => by simp [lowercaseAfter] at hd
  | [c], before, h, d, hd => by
    rw [lowercaseAfter_cons, lowercaseAfter, List.append_nil] at hd
    exact isBlank_of_mem_counterpart (h c rfl) (List.mem_of_getLast? hd)
  | c :: c' :: text, before, h, d, hd => by
    have hrest : ∀ e, (c' :: text).getLast? = some e → isBlank e = false := by
      intro e he
      exact h e (by rwa [List.getLast?_cons_cons])
    rw [lowercaseAfter_cons, List.getLast?_append] at hd
    cases hlast : (lowercaseAfter (c :: before) (c' :: text)).getLast? with
    | none =>
      rw [List.getLast?_eq_none_iff, lowercaseAfter_cons, List.append_eq_nil_iff] at hlast
      exact absurd hlast.1 (counterpart_ne_nil _ _ _)
    | some e =>
      obtain rfl : e = d := by simpa [hlast] using hd
      exact getLast?_lowercaseAfter hrest hlast

theorem Tight.lowercase {text : List Char} (h : Tight text) :
    Tight (TurtleGraphics.lowercase text) :=
  ⟨fun _ => head?_lowercaseAfter h.head, fun _ => getLast?_lowercaseAfter h.last⟩

end TurtleGraphics
