/-
  Words: cutting a text up, and putting it together again.

  * `splitOn_eq_splitOnP`: cutting a text is the cutting of lists;
  * `words_append_separator`, `words_cons_letter`: the words of a text, from its
    first character on;
  * `words_spaced`: words with spaces between them are read back;
  * `trim_eq_self`, `tight_trim`: trimming leaves alone what has no blanks at its
    ends, and gives nothing else;
  * `Tight.spaced_words`: the words of such a text, with spaces between them,
    are such a text;
  * `Runs` are the longest runs of characters between separators, and `runs_iff`:
    `words` finds them.
-/
import TurtleGraphics.Proofs.Text.Letters

namespace TurtleGraphics

/-! ## Cutting -/

theorem splitOn_eq_splitOnP (cut : Char → Bool) (text : List Char) :
    splitOn cut text = text.splitOnP cut := by
  induction text with
  | nil => rfl
  | cons c text ih =>
    obtain ⟨piece, rest, hrest⟩ := List.exists_cons_of_ne_nil (List.splitOnP_ne_nil cut text)
    unfold splitOn at ih ⊢
    rw [List.foldr_cons, List.splitOnP_cons_eq_if_modifyHead, ih, hrest]
    rfl

theorem of_mem_splitOn {cut : Char → Bool} : ∀ {text piece : List Char},
    piece ∈ splitOn cut text → ∀ c ∈ piece, cut c = false ∧ c ∈ text
  | [], piece, h, c, hc => by
    obtain rfl : piece = [] := by simpa [splitOn] using h
    simp at hc
  | d :: text, piece, h, c, hc => by
    simp only [splitOn_eq_splitOnP, List.splitOnP_cons_eq_if_modifyHead] at h
    obtain ⟨first, rest, hrest⟩ := List.exists_cons_of_ne_nil (List.splitOnP_ne_nil cut text)
    have hmem : ∀ {p : List Char}, p ∈ first :: rest → ∀ e ∈ p, cut e = false ∧ e ∈ text := by
      intro p hp
      rw [← hrest, ← splitOn_eq_splitOnP] at hp
      exact of_mem_splitOn hp
    by_cases hd : cut d = true
    · rw [if_pos hd, hrest] at h
      rcases List.mem_cons.1 h with rfl | h
      · simp at hc
      · exact ⟨(hmem h c hc).1, List.mem_cons_of_mem _ (hmem h c hc).2⟩
    · rw [if_neg hd, hrest, List.modifyHead_cons] at h
      rcases List.mem_cons.1 h with rfl | h
      · rcases List.mem_cons.1 hc with rfl | hc
        · exact ⟨by simpa using hd, List.mem_cons_self ..⟩
        · have := hmem (List.mem_cons_self ..) c hc
          exact ⟨this.1, List.mem_cons_of_mem _ this.2⟩
      · have := hmem (List.mem_cons_of_mem _ h) c hc
        exact ⟨this.1, List.mem_cons_of_mem _ this.2⟩

/-! ## Words -/

theorem isSeparator_eq_false {c : Char} (h : isBlank c = false) : isSeparator c = false := by
  rw [← Bool.not_eq_true] at h ⊢
  intro hc
  exact h (isBlank_of_isSeparator hc)

theorem of_mem_words {text word : List Char} (h : word ∈ words text) :
    word ≠ [] ∧ ∀ c ∈ word, isSeparator c = false ∧ c ∈ text := by
  obtain ⟨hmem, hne⟩ := List.mem_filter.1 h
  exact ⟨by simpa using hne, of_mem_splitOn hmem⟩

theorem words_append_separator {c : Char} (hc : isSeparator c = true) (before after : List Char) :
    words (before ++ c :: after) = words before ++ words after := by
  simp only [words, splitOn_eq_splitOnP]
  rw [List.splitOnP_append_cons before after hc, List.filter_append]

theorem words_cons_separator {c : Char} (hc : isSeparator c = true) (text : List Char) :
    words (c :: text) = words text := words_append_separator hc [] text

theorem words_cons_letter {c : Char} (hc : isSeparator c = false) (text : List Char) :
    ∃ word rest, words (c :: text) = (c :: word) :: rest ∧
      (word = [] ∧ words text = rest ∨ word ≠ [] ∧ words text = word :: rest) := by
  obtain ⟨word, rest, hrest⟩ :=
    List.exists_cons_of_ne_nil (List.splitOnP_ne_nil isSeparator text)
  refine ⟨word, rest.filter fun w => !w.isEmpty, ?_, ?_⟩
  · simp [words, splitOn_eq_splitOnP, List.splitOnP_cons_eq_if_modifyHead, hc, hrest]
  · by_cases hword : word = []
    · exact .inl ⟨hword, by simp [words, splitOn_eq_splitOnP, hrest, hword]⟩
    · exact .inr ⟨hword, by simp [words, splitOn_eq_splitOnP, hrest, hword]⟩

theorem words_of_letters {word : List Char} (hne : word ≠ [])
    (h : ∀ c ∈ word, isSeparator c = false) : words word = [word] := by
  simp [words, splitOn_eq_splitOnP, List.splitOnP_eq_singleton h, hne]

/-- Words with one space between them. -/
def spaced (words : List (List Char)) : List Char := [' '].intercalate words

theorem spaced_cons {word : List Char} {words : List (List Char)} (h : words ≠ []) :
    spaced (word :: words) = word ++ ' ' :: spaced words := by
  rw [spaced, List.intercalate_cons_of_ne_nil h, List.append_assoc]
  rfl

/-- **Words with spaces between them are read back.** -/
theorem words_spaced : ∀ {ws : List (List Char)},
    (∀ w ∈ ws, w ≠ [] ∧ ∀ c ∈ w, isSeparator c = false) → words (spaced ws) = ws
  | [], _ => rfl
  | [w], h => by
    obtain ⟨hne, hw⟩ := h w (List.mem_cons_self ..)
    rw [spaced, List.intercalate_singleton, words_of_letters hne hw]
  | w :: v :: ws, h => by
    obtain ⟨hne, hw⟩ := h w (List.mem_cons_self ..)
    rw [spaced_cons (List.cons_ne_nil v ws), words_append_separator (by decide),
      words_of_letters hne hw, words_spaced fun u hu => h u (List.mem_cons_of_mem _ hu)]
    rfl

theorem mem_spaced {c : Char} : ∀ {ws : List (List Char)}, c ∈ spaced ws →
    c = ' ' ∨ ∃ w ∈ ws, c ∈ w
  | [], h => by simp [spaced] at h
  | [w], h => by
    rw [spaced, List.intercalate_singleton] at h
    exact .inr ⟨w, List.mem_cons_self .., h⟩
  | w :: v :: ws, h => by
    rw [spaced_cons (List.cons_ne_nil v ws)] at h
    rcases List.mem_append.1 h with h | h
    · exact .inr ⟨w, List.mem_cons_self .., h⟩
    · rcases List.mem_cons.1 h with h | h
      · exact .inl h
      · exact (mem_spaced h).imp id fun ⟨u, hu, hc⟩ => ⟨u, List.mem_cons_of_mem _ hu, hc⟩

/-! ## Trimming -/

theorem dropWhile_isBlank_eq_self {text : List Char}
    (h : ∀ c, text.head? = some c → isBlank c = false) : text.dropWhile isBlank = text := by
  cases text with
  | nil => rfl
  | cons c text => rw [List.dropWhile_cons_of_neg (by simp [h c rfl])]

theorem trim_eq_self {text : List Char} (h : Tight text) : trim text = text := by
  have hlast : ∀ c, text.reverse.head? = some c → isBlank c = false := by
    intro c hc
    rw [List.head?_reverse] at hc
    exact h.last c hc
  rw [trim, dropWhile_isBlank_eq_self h.head, dropWhile_isBlank_eq_self hlast,
    List.reverse_reverse]

theorem head?_dropWhile_isBlank {text : List Char} {c : Char}
    (h : (text.dropWhile isBlank).head? = some c) : isBlank c = false := by
  have := List.head?_dropWhile_not isBlank text
  rw [h] at this
  simpa using this

theorem tight_trim (text : List Char) : Tight (trim text) := by
  constructor
  · -- what the second pass leaves of the text begins as the text does
    intro c hc
    have hfront : trim text <+: text.dropWhile isBlank := by
      rw [trim, ← List.reverse_suffix, List.reverse_reverse]
      exact List.dropWhile_suffix _
    obtain ⟨rest, hrest⟩ := hfront
    refine @head?_dropWhile_isBlank text c ?_
    rw [← hrest, List.head?_append, hc]
    rfl
  · intro c hc
    rw [trim, List.getLast?_reverse] at hc
    exact head?_dropWhile_isBlank hc

theorem mem_of_mem_trim {text : List Char} {c : Char} (h : c ∈ trim text) : c ∈ text := by
  have hreverse : c ∈ (text.dropWhile isBlank).reverse.dropWhile isBlank := List.mem_reverse.1 h
  have hfront := List.mem_reverse.1 ((List.dropWhile_suffix _).subset hreverse)
  exact (List.dropWhile_suffix _).subset hfront

/-! ## The words of a text without blanks at its ends -/

theorem words_ne_nil {text : List Char} (h : Tight text) (hne : text ≠ []) : words text ≠ [] := by
  obtain ⟨c, rest, rfl⟩ := List.exists_cons_of_ne_nil hne
  obtain ⟨word, others, hwords, -⟩ :=
    words_cons_letter (isSeparator_eq_false (h.head c rfl)) rest
  rw [hwords]
  exact List.cons_ne_nil _ _

theorem words_concat_letter {c : Char} (hc : isSeparator c = false) :
    ∀ text : List Char, ∃ ws word, words (text ++ [c]) = ws ++ [word ++ [c]]
  | [] => ⟨[], [], words_of_letters (by simp) (by simpa using hc)⟩
  | d :: text => by
    obtain ⟨ws, word, hwords⟩ := words_concat_letter hc text
    rw [List.cons_append]
    cases hd : isSeparator d with
    | true => exact ⟨ws, word, by rw [words_cons_separator hd, hwords]⟩
    | false =>
      obtain ⟨first, rest, hfirst, ⟨rfl, hrest⟩ | ⟨-, hrest⟩⟩ := words_cons_letter hd (text ++ [c])
      · exact ⟨[d] :: ws, word, by rw [hfirst, ← hrest, hwords]; rfl⟩
      · rw [hwords] at hrest
        cases ws with
        | nil =>
          obtain ⟨rfl, rfl⟩ := List.cons.inj hrest
          exact ⟨[], d :: word, by rw [hfirst]; rfl⟩
        | cons v ws =>
          obtain ⟨rfl, rfl⟩ := List.cons.inj hrest
          exact ⟨(d :: v) :: ws, word, by rw [hfirst]; rfl⟩

theorem getLast?_spaced {word : List Char} {c : Char} :
    ∀ ws : List (List Char), (spaced (ws ++ [word ++ [c]])).getLast? = some c
  | [] => by simp [spaced]
  | w :: ws => by
    rw [List.cons_append, spaced_cons (by simp), List.getLast?_append, List.getLast?_cons,
      getLast?_spaced ws]
    rfl

theorem head?_spaced {word : List Char} {c : Char} (ws : List (List Char)) :
    (spaced ((c :: word) :: ws)).head? = some c := by
  cases ws with
  | nil => simp [spaced]
  | cons w ws =>
    rw [spaced_cons (List.cons_ne_nil w ws)]
    rfl

/-- **The words of a text without blanks at its ends**, with spaces between
    them, have no blanks at their ends. -/
theorem Tight.spaced_words {text : List Char} (h : Tight text) :
    Tight (spaced (words text)) := by
  constructor
  · intro d hd
    cases text with
    | nil => simp [words, splitOn, spaced] at hd
    | cons c rest =>
      have hc := h.head c rfl
      obtain ⟨word, others, hwords, -⟩ := words_cons_letter (isSeparator_eq_false hc) rest
      rw [hwords, head?_spaced] at hd
      exact Option.some.inj hd ▸ hc
  · intro d hd
    rcases List.eq_nil_or_concat text with rfl | ⟨front, c, rfl⟩
    · simp [words, splitOn, spaced] at hd
    · have hc := h.last c (by simp)
      obtain ⟨ws, word, hwords⟩ := words_concat_letter (isSeparator_eq_false hc) front
      rw [List.concat_eq_append, hwords, getLast?_spaced] at hd
      exact Option.some.inj hd ▸ hc

/-! ## Longest runs -/

/-- The words of a text: its longest runs of characters that are no separators, in order. -/
inductive Runs : List Char → List (List Char) → Prop where
  | none {gap : List Char} (hgap : ∀ c ∈ gap, isSeparator c = true) : Runs gap []
  | run {gap word rest : List Char} {ws : List (List Char)} (hgap : ∀ c ∈ gap, isSeparator c = true)
      (hne : word ≠ []) (hword : ∀ c ∈ word, isSeparator c = false)
      (hend : ∀ c, rest.head? = some c → isSeparator c = true) (hrest : Runs rest ws) :
      Runs (gap ++ (word ++ rest)) (word :: ws)

section

variable {text : List Char} {ws : List (List Char)} {c : Char}

theorem words_append_of_separators {gap : List Char} (hgap : ∀ c ∈ gap, isSeparator c = true)
    (text : List Char) : words (gap ++ text) = words text := by
  induction gap with
  | nil => rfl
  | cons c gap ih =>
    obtain ⟨hc, hgap⟩ := List.forall_mem_cons.1 hgap
    rw [List.cons_append, words_cons_separator hc, ih hgap]

theorem Runs.words_eq (h : Runs text ws) : words text = ws := by
  induction h with
  | @none gap hgap =>
    have hwords := words_append_of_separators hgap []
    rwa [List.append_nil] at hwords
  | @run gap word rest ws hgap hne hword hend hrest ih =>
    rw [words_append_of_separators hgap]
    cases rest with
    | nil =>
      obtain rfl : [] = ws := ih
      rw [List.append_nil, words_of_letters hne hword]
    | cons c rest =>
      have hc := hend c rfl
      rw [words_append_separator hc, words_of_letters hne hword, ← ih, words_cons_separator hc]
      rfl

theorem Runs.separator (hc : isSeparator c = true) (h : Runs text ws) : Runs (c :: text) ws := by
  cases h with
  | none hgap => exact .none (List.forall_mem_cons.2 ⟨hc, hgap⟩)
  | run hgap hne hword hend hrest =>
    exact Runs.run (List.forall_mem_cons.2 ⟨hc, hgap⟩) hne hword hend hrest

theorem Runs.letter (hc : isSeparator c = false) (h : Runs text ws) :
    ∃ ws', Runs (c :: text) ws' := by
  have hnone : ∀ d ∈ ([] : List Char), isSeparator d = true := by simp
  -- a gap behind the character ends its word
  have halone (hend : ∀ d, text.head? = some d → isSeparator d = true) :
      Runs ([] ++ ([c] ++ text)) ([c] :: ws) :=
    .run hnone (by simp) (by simpa using hc) hend h
  cases h with
  | none hgap => exact ⟨_, halone fun d hd => hgap d (List.mem_of_head? hd)⟩
  | @run gap word rest ws hgap hne hword hend hrest =>
    cases gap with
    | nil =>
      have hcword : ∀ d ∈ c :: word, isSeparator d = false :=
        List.forall_mem_cons.2 ⟨hc, hword⟩
      exact ⟨_, Runs.run hnone (by simp) hcword hend hrest⟩
    | cons d gap =>
      refine ⟨_, halone ?_⟩
      rintro _ ⟨⟩
      exact hgap d (List.mem_cons_self ..)

theorem Runs.exists (text : List Char) : ∃ ws, Runs text ws := by
  induction text with
  | nil => exact ⟨[], .none (by simp)⟩
  | cons c text ih =>
    obtain ⟨ws, hws⟩ := ih
    cases hc : isSeparator c with
    | true => exact ⟨ws, hws.separator hc⟩
    | false => exact hws.letter hc

/-- **The words of a text**, and no others, are found. -/
theorem runs_iff : Runs text ws ↔ words text = ws := by
  refine ⟨Runs.words_eq, ?_⟩
  rintro rfl
  obtain ⟨ws, hws⟩ := Runs.exists text
  exact hws.words_eq ▸ hws

end

end TurtleGraphics
