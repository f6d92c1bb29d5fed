/-
  Layout: what does not matter in a text.

  A text is made of words.  How far these lie apart does not matter, nor whether the
  letters of ASCII are large or small: after trimming and lowercasing, the words are the
  same.

  * `words_induction`: texts are without separators, or cut at one;
  * `words_trim`: the words of a trimmed text, from the words of the text;
  * `words_lowercase`: the words of a lowercased text are the lowercased words, as the
    final form of a sigma does not depend on what is behind a separator;
  * `foldCase` has the letters of ASCII in lower case, and `lowercase_foldCase`: lowercasing
    does not tell the difference;
  * `normalWords_foldCase`: so the words that are read do not depend on either.
-/
import Mathlib.Data.List.Basic
import Mathlib.Data.List.TakeWhile
import TurtleGraphics.Proofs.Text.Words

namespace TurtleGraphics

/-! ## Words from words -/

/-- **Induction along the separators of a text.**  A text has none, or it is cut at
    one of them. -/
theorem words_induction {motive : List Char → Prop}
    (letters : ∀ text, (∀ c ∈ text, isSeparator c = false) → motive text)
    (cut : ∀ before c after, isSeparator c = true → motive before → motive after →
      motive (before ++ c :: after)) (text : List Char) : motive text := by
  by_cases hletters : ∀ c ∈ text, isSeparator c = false
  · exact letters text hletters
  · push Not at hletters
    obtain ⟨c, hc, hseparator⟩ := hletters
    obtain ⟨before, after, htext⟩ := List.append_of_mem hc
    have hlength : text.length = before.length + (after.length + 1) := by
      rw [htext, List.length_append, List.length_cons]
    rw [htext]
    exact cut before c after (by simpa using hseparator) (words_induction letters cut before)
      (words_induction letters cut after)
termination_by text.length
decreasing_by all_goals omega

theorem words_letters {text : List Char} (h : ∀ c ∈ text, isSeparator c = false) :
    words text = if text = [] then [] else [text] := by
  split
  · next hempty => rw [hempty]; rfl
  · next hne => exact words_of_letters hne h

theorem words_reverse (text : List Char) :
    words text.reverse = ((words text).map List.reverse).reverse := by
  induction text using words_induction with
  | letters text h =>
    rw [words_letters h, words_letters fun c hc => h c (List.mem_reverse.1 hc)]
    by_cases hempty : text = [] <;> simp [hempty]
  | cut before c after hc ihbefore ihafter =>
    have hreverse : (before ++ c :: after).reverse = after.reverse ++ c :: before.reverse := by simp
    rw [hreverse, words_append_separator hc, words_append_separator hc, ihbefore, ihafter]
    simp

/-! ## Trimming -/

/-- Words without the blanks in front of the first character that is not blank. -/
def trimFront : List (List Char) → List (List Char)
  | [] => []
  | word :: rest => match word.dropWhile isBlank with
    | [] => trimFront rest
    | c :: letters => (c :: letters) :: rest

/-- Words without the blanks at both ends. -/
def trimWords (ws : List (List Char)) : List (List Char) :=
  (((trimFront (((trimFront ws).map List.reverse).reverse)).map List.reverse)).reverse

/-- A blank in front of the first word is cut off, and the word with it if there is
    nothing else to it. -/
theorem trimFront_blank {c : Char} (hc : isBlank c = true) (word : List Char)
    (rest : List (List Char)) : trimFront ((c :: word) :: rest) = trimFront (word :: rest) := by
  rw [trimFront, List.dropWhile_cons_of_pos hc, trimFront]

theorem words_dropWhile_isBlank (text : List Char) :
    words (text.dropWhile isBlank) = trimFront (words text) := by
  induction text with
  | nil => rfl
  | cons c text ih =>
    cases hseparator : isSeparator c with
    | true =>
      rw [List.dropWhile_cons_of_pos (isBlank_of_isSeparator hseparator), ih,
        words_cons_separator hseparator]
    | false =>
      obtain ⟨word, rest, hwords, hrest⟩ := words_cons_letter hseparator text
      cases hblank : isBlank c with
      | false =>
        rw [List.dropWhile_cons_of_neg (by simp [hblank]), hwords, trimFront,
          List.dropWhile_cons_of_neg (by simp [hblank])]
      | true =>
        rw [List.dropWhile_cons_of_pos hblank, ih, hwords, trimFront_blank hblank]
        obtain ⟨rfl, hrest⟩ | ⟨-, hrest⟩ := hrest
        · rw [hrest]
          rfl
        · rw [hrest]

theorem words_trim (text : List Char) : words (trim text) = trimWords (words text) := by
  rw [trim, words_reverse, words_dropWhile_isBlank, words_reverse, words_dropWhile_isBlank,
    trimWords]

theorem trim_eq_nil_iff {text : List Char} : trim text = [] ↔ text.all isBlank = true := by
  rw [trim, List.reverse_eq_nil_iff, List.dropWhile_eq_nil_iff, List.all_eq_true]
  constructor
  · intro h c hc
    by_contra hblank
    -- a character that is not blank is not dropped from the front
    have hkept : c ∈ text.dropWhile isBlank := by
      rw [← List.takeWhile_append_dropWhile (p := isBlank) (l := text)] at hc
      rcases List.mem_append.1 hc with hfront | hkept
      · exact absurd (List.mem_takeWhile_imp hfront) hblank
      · exact hkept
    exact hblank (h c (List.mem_reverse.2 hkept))
  · intro h c hc
    exact h c ((List.dropWhile_suffix _).subset (List.mem_reverse.1 hc))

/-! ## Lowercasing -/

theorem case_of_isSeparator {c : Char} (h : isSeparator c = true) :
    isCased c = false ∧ isCaseIgnorable c = false ∧ c ≠ 'Σ' ∧ lowercaseChar c = [c] := by
  simp only [isSeparator, Bool.or_eq_true, decide_eq_true_eq] at h
  rcases h with (((rfl | rfl) | rfl) | rfl) | rfl <;> decide +kernel

theorem meetsCased_separator {c : Char} (hc : isSeparator c = true) (text behind : List Char) :
    meetsCased (text ++ c :: behind) = meetsCased text := by
  obtain ⟨hcased, hignorable, -, -⟩ := case_of_isSeparator hc
  induction text with
  | nil => simp [meetsCased, hcased, hignorable]
  | cons d text ih =>
    unfold meetsCased at ih ⊢
    rw [List.cons_append, List.dropWhile_cons, List.dropWhile_cons]
    cases isCaseIgnorable d with
    | true => exact ih
    | false => rfl

theorem lowercaseAfter_separator {c : Char} (hc : isSeparator c = true) (before : List Char) :
    ∀ (text front : List Char),
      lowercaseAfter (front ++ c :: before) text = lowercaseAfter front text
  | [], _ => rfl
  | d :: text, front => by
    have hrest := lowercaseAfter_separator hc before text (d :: front)
    rw [List.cons_append] at hrest
    rw [lowercaseAfter_cons, lowercaseAfter_cons, hrest, counterpart, counterpart, smallSigma,
      smallSigma, meetsCased_separator hc]

/-- **Lowercasing at a separator**: both sides are lowercased on their own. -/
theorem lowercaseAfter_append_separator {c : Char} (hc : isSeparator c = true)
    (after : List Char) : ∀ (text before : List Char),
      lowercaseAfter before (text ++ c :: after) =
        lowercaseAfter before text ++ c :: lowercase after
  | [], before => by
    obtain ⟨-, -, hsigma, hself⟩ := case_of_isSeparator hc
    have hbehind : lowercaseAfter (c :: before) after = lowercase after :=
      lowercaseAfter_separator hc before after []
    rw [List.nil_append, lowercaseAfter_cons, counterpart, if_neg hsigma, hself, hbehind]
    rfl
  | d :: text, before => by
    rw [List.cons_append, lowercaseAfter_cons, lowercaseAfter_cons,
      lowercaseAfter_append_separator hc after text, counterpart, counterpart, smallSigma,
      smallSigma, meetsCased_separator hc, List.append_assoc]

theorem isSeparator_of_mem_lowercase {text : List Char}
    (h : ∀ c ∈ text, isSeparator c = false) {d : Char} (hd : d ∈ lowercase text) :
    isSeparator d = false := by
  rcases (mem_lowercase hd).2 with hmem | hletter
  · exact h d hmem
  · exact isSeparator_eq_false (isBlank_eq_false_of_isLetterCode hletter)

theorem lowercase_eq_nil_iff {text : List Char} : lowercase text = [] ↔ text = [] := by
  cases text with
  | nil => simp [lowercase, lowercaseAfter]
  | cons c text =>
    rw [lowercase, lowercaseAfter_cons]
    simp [counterpart_ne_nil]

/-- **The words of a lowercased text** are the lowercased words. -/
theorem words_lowercase (text : List Char) :
    words (lowercase text) = (words text).map lowercase := by
  induction text using words_induction with
  | letters text h =>
    rw [words_letters h, words_letters fun c hc => isSeparator_of_mem_lowercase h hc]
    by_cases hempty : text = []
    · simp [hempty, lowercase, lowercaseAfter]
    · simp [hempty, lowercase_eq_nil_iff]
  | cut before c after hc ihbefore ihafter =>
    rw [lowercase, lowercaseAfter_append_separator hc, words_append_separator hc,
      words_append_separator hc, List.map_append, ← ihbefore, ← ihafter]
    rfl

/-! ## Large and small letters -/

/-- A text with the letters of ASCII in lower case. -/
def foldCase (text : List Char) : List Char := text.map Char.toLower

theorem toLower_of_not_capital {c : Char} (hc : ¬ (0x41 ≤ c.toNat ∧ c.toNat ≤ 0x5A)) :
    c.toLower = c :=
  dif_neg hc

theorem caseIgnorableRanges_between_letters :
    ∀ r ∈ caseIgnorableRanges, r.2 < 0x41 ∨ 0x5A < r.1 ∧ r.2 < 0x61 ∨ 0x7A < r.1 := by
  decide +kernel

theorem isCaseIgnorable_letter {c : Char}
    (hc : 0x41 ≤ c.toNat ∧ c.toNat ≤ 0x5A ∨ 0x61 ≤ c.toNat ∧ c.toNat ≤ 0x7A) :
    isCaseIgnorable c = false := by
  rw [isCaseIgnorable, inRanges, List.any_eq_false]
  intro r hr
  have hapart := caseIgnorableRanges_between_letters r hr
  simp only [Bool.and_eq_true, decide_eq_true_eq]
  omega

/-- **The letters of ASCII** may be large or small: nothing that lowercasing or trimming
    asks about a character tells the difference. -/
theorem case_toLower (c : Char) :
    isBlank c.toLower = isBlank c ∧ isCased c.toLower = isCased c ∧
      isCaseIgnorable c.toLower = isCaseIgnorable c ∧ (c.toLower = 'Σ' ↔ c = 'Σ') ∧
      lowercaseChar c.toLower = lowercaseChar c := by
  by_cases hcapital : 0x41 ≤ c.toNat ∧ c.toNat ≤ 0x5A
  · have hcheck : ∀ n < 26, let c := Char.ofNat (0x41 + n)
        isBlank c.toLower = isBlank c ∧ isCased c.toLower = isCased c ∧
          (0x61 ≤ c.toLower.toNat ∧ c.toLower.toNat ≤ 0x7A) ∧ (c.toLower = 'Σ' ↔ c = 'Σ') ∧
          lowercaseChar c.toLower = lowercaseChar c := by
      decide +kernel
    have hc : Char.ofNat (0x41 + (c.toNat - 0x41)) = c := by
      rw [Nat.add_sub_cancel' hcapital.1, Char.ofNat_toNat]
    have hletter := hcheck (c.toNat - 0x41) (by omega)
    rw [hc] at hletter
    obtain ⟨hblank, hcased, hsmall, hsigma, hlower⟩ := hletter
    refine ⟨hblank, hcased, ?_, hsigma, hlower⟩
    rw [isCaseIgnorable_letter (.inl hcapital), isCaseIgnorable_letter (.inr hsmall)]
  · rw [toLower_of_not_capital hcapital]
    simp

theorem meetsCased_foldCase (text : List Char) : meetsCased (foldCase text) = meetsCased text := by
  induction text with
  | nil => rfl
  | cons c text ih =>
    obtain ⟨-, hcased, hignorable, -⟩ := case_toLower c
    unfold meetsCased foldCase at ih ⊢
    rw [List.map_cons, List.dropWhile_cons, List.dropWhile_cons, hignorable]
    cases isCaseIgnorable c with
    | true => exact ih
    | false => exact hcased

theorem lowercaseAfter_foldCase : ∀ text before : List Char,
    lowercaseAfter (foldCase before) (foldCase text) = lowercaseAfter before text
  | [], _ => rfl
  | c :: text, before => by
    obtain ⟨-, -, -, hsigma, hself⟩ := case_toLower c
    have hrest := lowercaseAfter_foldCase text (c :: before)
    have hcounterpart : counterpart (foldCase before) c.toLower (foldCase text) =
        counterpart before c text := by
      simp only [counterpart, smallSigma, hsigma, hself, meetsCased_foldCase]
    exact congrArg₂ (· ++ ·) hcounterpart hrest

/-- **Lowercasing does not tell the difference** between large and small letters of
    ASCII. -/
theorem lowercase_foldCase (text : List Char) : lowercase (foldCase text) = lowercase text :=
  lowercaseAfter_foldCase text []

theorem trimFront_foldCase (ws : List (List Char)) :
    trimFront (ws.map foldCase) = (trimFront ws).map foldCase := by
  have hdrop : ∀ word : List Char,
      (foldCase word).dropWhile isBlank = foldCase (word.dropWhile isBlank) := by
    intro word
    have hblank : isBlank ∘ Char.toLower = isBlank := funext fun c => (case_toLower c).1
    rw [foldCase, List.dropWhile_map, hblank, foldCase]
  induction ws with
  | nil => rfl
  | cons word rest ih =>
    rw [List.map_cons, trimFront, trimFront, hdrop]
    cases word.dropWhile isBlank with
    | nil => exact ih
    | cons c letters => rfl

theorem trimWords_foldCase (ws : List (List Char)) :
    trimWords (ws.map foldCase) = (trimWords ws).map foldCase := by
  have hreverse : ∀ ws : List (List Char),
      ((ws.map foldCase).map List.reverse).reverse =
        ((ws.map List.reverse).reverse).map foldCase := by
    intro ws
    simp [foldCase]
  rw [trimWords, trimFront_foldCase, hreverse, trimFront_foldCase, hreverse, trimWords]

/-! ## The words that are read -/

/-- The words that are read of a text with the given words: trimmed and in lower
    case. -/
def normalWords (ws : List (List Char)) : List (List Char) := (trimWords ws).map lowercase

/-- **What is read of a text** depends on its words alone. -/
theorem words_lowercase_trim (text : List Char) :
    words (lowercase (trim text)) = normalWords (words text) := by
  rw [words_lowercase, words_trim, normalWords]

theorem normalWords_foldCase (ws : List (List Char)) :
    normalWords (ws.map foldCase) = normalWords ws := by
  rw [normalWords, trimWords_foldCase, List.map_map, normalWords]
  congr 1
  exact funext lowercase_foldCase

end TurtleGraphics
