/-
  Pieces: the texts of the segments of a program, read once and read again.

  The text of a report is made of the words of a piece.  A program that is put
  together from such texts is cut into the same words again.

  * `pieces` are the texts between semicolons, trimmed and in lower case;
  * `Segment.ofWords?` is the segment of a piece, given its words, and
    `Segment.Reads` are the ways in which words are read;
  * `segments_eq_filterMap`: every piece is one segment;
  * `segments_append`: a program is cut at its semicolons, and nowhere else;
  * `Normal`: what the words of a piece are like;
  * `wordLists_joinWords`: their text has these words, and `wordLists_joined`: so
    has a program that is put together from such texts.
-/
import Mathlib.Data.List.Basic
import TurtleGraphics.Program.Segment
import TurtleGraphics.Proofs.Text.Words

namespace TurtleGraphics

/-! ## The pieces of a program -/

/-- The pieces of a program between semicolons, trimmed and in lower case, but
    for the empty ones. -/
def pieces (program : String) : List (List Char) :=
  ((splitOn (· = ';') program.toList).map fun piece => lowercase (trim piece)).filter
    fun piece => !piece.isEmpty

theorem of_mem_pieces {program : String} {piece : List Char} (h : piece ∈ pieces program) :
    piece ≠ [] ∧ Tight piece ∧ ∀ c ∈ piece, IsLower c ∧ c ≠ ';' := by
  obtain ⟨hmem, hne⟩ := List.mem_filter.1 h
  obtain ⟨raw, hraw, rfl⟩ := List.mem_map.1 hmem
  refine ⟨by simpa using hne, (tight_trim raw).lowercase, ?_⟩
  intro c hc
  obtain ⟨hlower, hfrom⟩ := mem_lowercase hc
  refine ⟨hlower, ?_⟩
  rintro rfl
  rcases hfrom with hfrom | hletter
  · simpa using (of_mem_splitOn hraw ';' (mem_of_mem_trim hfrom)).1
  · exact absurd hletter (by decide)

theorem wordLists_eq (program : String) : wordLists program = (pieces program).map words := by
  unfold wordLists pieces
  induction splitOn (· = ';') program.toList with
  | nil => rfl
  | cons raw rest ih =>
    rw [List.filterMap_cons, List.map_cons, List.filter_cons, ih]
    by_cases hempty : lowercase (trim raw) = []
    · simp [hempty, words, splitOn]
    · obtain ⟨head, arguments, hwords⟩ :=
        List.exists_cons_of_ne_nil (words_ne_nil (tight_trim raw).lowercase hempty)
      simp [hempty, hwords]

/-- **A program is cut at its semicolons**: what is before one and what is
    behind it have nothing to do with each other. -/
theorem wordLists_append (before after : String) :
    wordLists (before ++ ";" ++ after) = wordLists before ++ wordLists after := by
  have htext : (before ++ ";" ++ after).toList = before.toList ++ ';' :: after.toList := by simp
  simp only [wordLists, splitOn_eq_splitOnP, htext]
  rw [List.splitOnP_append_cons before.toList after.toList (by simp), List.filterMap_append]

theorem wordLists_space (program : String) : wordLists (" " ++ program) = wordLists program := by
  obtain ⟨piece, rest, hpieces⟩ : ∃ piece rest, splitOn (· = ';') program.toList = piece :: rest :=
    List.exists_cons_of_ne_nil (splitOn_eq_splitOnP _ _ ▸ List.splitOnP_ne_nil _ _)
  have hspace : splitOn (· = ';') (" " ++ program).toList = (' ' :: piece) :: rest := by
    rw [splitOn_eq_splitOnP] at hpieces ⊢
    rw [String.toList_append, show " ".toList = [' '] from rfl, List.singleton_append,
      List.splitOnP_cons_eq_if_modifyHead, hpieces]
    rfl
  have htrim : trim (' ' :: piece) = trim piece := by
    rw [trim, trim, List.dropWhile_cons_of_pos (by decide)]
  rw [wordLists, wordLists, hpieces, hspace, List.filterMap_cons, List.filterMap_cons, htrim]

/-! ## Segments -/

section

variable {α : Type} [Scalar α]

/-- The segment with the given words, if there are any. -/
def Segment.ofWords? : List Word → Option (Segment α)
  | [] => none
  | head :: arguments => some (.ofWords head arguments)

theorem segments_eq_filterMap (program : String) :
    (segments program : List (Segment α)) =
      ((pieces program).map words).filterMap Segment.ofWords? := by
  rw [← wordLists_eq]
  rfl

theorem segments_append (before after : String) :
    (segments (before ++ ";" ++ after) : List (Segment α)) = segments before ++ segments after := by
  rw [segments, wordLists_append, List.filterMap_append]
  rfl

theorem segments_space (program : String) :
    (segments (" " ++ program) : List (Segment α)) = segments program := by
  rw [segments, wordLists_space]
  rfl

/-- The text of a segment. -/
def Segment.text : Segment α → String
  | .close text => text
  | .opening text _ => text
  | .single text _ => text

/-- What words are read as, by the first of them. -/
inductive Segment.Reads (head : Word) (arguments : List Word) : Segment α → Prop where
  | close (h : head = "end".toList) : Reads head arguments (.close (joinWords (head :: arguments)))
  | opening (h : head = "repeat".toList) :
      Reads head arguments
        (.opening (joinWords (head :: arguments)) (countArgument arguments[0]?))
  | command {keyword : Keyword} (h : head ≠ "repeat".toList)
      (hkeyword : Keyword.ofWord? head = some keyword) :
      Reads head arguments
        (.single (joinWords (head :: arguments)) (Command.read keyword arguments))
  | unknown (h : head ≠ "repeat".toList) :
      Reads head arguments
        (.single (joinWords (head :: arguments)) (.error (.unknownCommand (String.ofList head))))

theorem Segment.reads_of_ofWords? {ws : List Word} {segment : Segment α}
    (h : ofWords? ws = some segment) :
    ∃ head arguments, ws = head :: arguments ∧ Reads head arguments segment := by
  cases ws with
  | nil => cases h
  | cons head arguments =>
    refine ⟨head, arguments, rfl, ?_⟩
    obtain rfl := Option.some.inj h
    unfold ofWords
    dsimp only
    split
    · next hend => exact .close hend
    · split
      · next hrepeat => exact .opening hrepeat
      · next hrepeat =>
        split
        · next hkeyword => exact .command hrepeat hkeyword
        · exact .unknown hrepeat

theorem Segment.text_ofWords? {ws : List Word} {segment : Segment α}
    (h : ofWords? ws = some segment) : segment.text = joinWords ws := by
  obtain ⟨head, arguments, rfl, hreads⟩ := reads_of_ofWords? h
  cases hreads <;> rfl

theorem length_segments_le (program : String) :
    (segments program : List (Segment α)).length ≤ (pieces program).length := by
  rw [segments_eq_filterMap, ← List.length_map words]
  exact List.length_filterMap_le ..

end

/-! ## Reading texts again -/

/-- What the words of a piece are like. -/
structure Normal (ws : List Word) : Prop where
  ne_nil : ws ≠ []
  words : ∀ w ∈ ws, w ≠ [] ∧ ∀ c ∈ w, isSeparator c = false
  letters : ∀ w ∈ ws, ∀ c ∈ w, IsLower c ∧ c ≠ ';'
  tight : Tight (spaced ws)

theorem normal_of_mem_wordLists {program : String} {ws : List Word} (h : ws ∈ wordLists program) :
    Normal ws := by
  rw [wordLists_eq] at h
  obtain ⟨piece, hpiece, rfl⟩ := List.mem_map.1 h
  obtain ⟨hne, htight, hletters⟩ := of_mem_pieces hpiece
  exact {
    ne_nil := words_ne_nil htight hne
    words := fun w hw => ⟨(of_mem_words hw).1, fun c hc => ((of_mem_words hw).2 c hc).1⟩
    letters := fun w hw c hc => hletters c ((of_mem_words hw).2 c hc).2
    tight := htight.spaced_words }

namespace Normal

variable {ws : List Word}

theorem mem_spaced (h : Normal ws) {c : Char} (hc : c ∈ spaced ws) : IsLower c ∧ c ≠ ';' := by
  rcases TurtleGraphics.mem_spaced hc with rfl | ⟨w, hw, hcw⟩
  · exact ⟨by decide, by decide⟩
  · exact h.letters w hw c hcw

theorem words_normalized (h : Normal ws) :
    TurtleGraphics.words (lowercase (trim (spaced ws))) = ws := by
  rw [trim_eq_self h.tight, lowercase_eq_self fun c hc => (h.mem_spaced hc).1,
    words_spaced h.words]

end Normal

/-- **The text of the words of a piece** is read as these words. -/
theorem wordLists_joinWords {ws : List Word} (h : Normal ws) :
    wordLists (joinWords ws) = [ws] := by
  have hcut : splitOn (· = ';') (spaced ws) = [spaced ws] := by
    rw [splitOn_eq_splitOnP, List.splitOnP_eq_singleton]
    intro c hc
    simpa using (h.mem_spaced hc).2
  obtain ⟨head, arguments, rfl⟩ := List.exists_cons_of_ne_nil h.ne_nil
  rw [wordLists, joinWords, String.toList_ofList, ← spaced, hcut, List.filterMap_cons,
    h.words_normalized]
  rfl

/-- **Texts of pieces are read back**: a program put together from them has
    their words. -/
theorem wordLists_joined {wss : List (List Word)} (h : ∀ ws ∈ wss, Normal ws) :
    wordLists (";".intercalate (wss.map joinWords)) = wss := by
  induction wss with
  | nil => decide +kernel
  | cons ws rest ih =>
    have hws := wordLists_joinWords (h ws (List.mem_cons_self ..))
    have hrest := ih fun vs hvs => h vs (List.mem_cons_of_mem _ hvs)
    cases rest with
    | nil => rw [List.map_singleton, String.intercalate_singleton, hws]
    | cons vs rest =>
      rw [List.map_cons, List.map_cons, String.intercalate_cons_cons, wordLists_append, hws]
      exact congrArg _ hrest

end TurtleGraphics
