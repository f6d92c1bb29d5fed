/-
  Layout: programs that are written differently and mean the same.

  Two programs may differ in how far their words lie apart, and in what lies between
  them, in pieces between semicolons that are blank, and in whether the letters of ASCII
  are large or small.

  * `content` is what is left of a program when none of this is looked at, and programs
    with the same content have the `SameLayout`;
  * `wordLists_eq_content`: what is read of a program depends on its content alone;
  * `layout_and_case_do_not_matter`: so do its tree, and its runs.
-/
import TurtleGraphics.Proofs.Program.Execution
import TurtleGraphics.Proofs.Text.Layout
import TurtleGraphics.Session.Plane

namespace TurtleGraphics

/-! ## What a program is made of -/

/-- The pieces of a program between semicolons, but for the blank ones, each as the list
    of its words: the longest pieces of it without a separator.  The letters of ASCII are
    in lower case. -/
def content (program : String) : List (List Word) :=
  ((splitOn (· = ';') program.toList).filter fun piece => !piece.all isBlank).map
    fun piece => (words piece).map foldCase

/-- Programs that differ in nothing but
    * the separators between words and at the ends of pieces, as long as there is one
      between two words;
    * pieces that are empty or blank;
    * the case of letters of ASCII. -/
def SameLayout (first second : String) : Prop := content first = content second

instance (first second : String) : Decidable (SameLayout first second) :=
  inferInstanceAs (Decidable (_ = _))

theorem wordLists_eq_content (program : String) :
    wordLists program = (content program).map normalWords := by
  -- the pieces that are dropped are the blank ones
  have hblank : (fun piece : List Char => !(lowercase (trim piece)).isEmpty) =
      fun piece => !piece.all isBlank := by
    funext piece
    rw [Bool.not_inj_iff, Bool.eq_iff_iff, List.isEmpty_iff, lowercase_eq_nil_iff,
      trim_eq_nil_iff]
  have hread : ∀ piece : List Char,
      normalWords ((words piece).map foldCase) = words (lowercase (trim piece)) := by
    intro piece
    rw [normalWords_foldCase, words_lowercase_trim]
  rw [wordLists_eq, pieces, content, List.filter_map, List.map_map, List.map_map]
  simp only [Function.comp_def, hblank, hread]

/-! ## Reading and running -/

/-- **Layout and letter case do not matter.**  Programs of the same layout have the same
    tree, texts included, for every depth of blocks; so every session is given the same
    calls by both, and gives the same reports on both and ends in the same state. -/
theorem layout_and_case_do_not_matter {α : Type} [Scalar α] {first second : String}
    (h : SameLayout first second) :
    (∀ maxDepth : UInt32, (parse maxDepth first : List (Statement α)) = parse maxDepth second) ∧
      ∀ {σ : Type} (limits : Limits) (session : Session σ α) (state : σ),
        (limits.run session.logged first (state, [])).2.2 =
            (limits.run session.logged second (state, [])).2.2 ∧
          limits.run session first state = limits.run session second state := by
  have hsegments : (segments first : List (Segment α)) = segments second := by
    have hcontent : content first = content second := h
    rw [segments, segments, wordLists_eq_content, wordLists_eq_content, hcontent]
  have hparse : ∀ maxDepth : UInt32,
      (parse maxDepth first : List (Statement α)) = parse maxDepth second := by
    intro maxDepth
    rw [parse, parse, hsegments]
  refine ⟨hparse, ?_⟩
  intro σ limits session state
  simp only [Limits.run, hparse, and_self]

theorem layout_and_case_do_not_matter_blanks :
    let first := "repeat 2;fd 10;sc ΑÉΣ;end;rt 5"
    let second := " \t; REPEAT\r\n2 ; Fd\t \u000c10\n;;sC  ΑÉΣ ;END \t;rt 5;\u2003"
    SameLayout first second ∧
      (parse 64 first : List (Statement Float)) = parse 64 second ∧
      ∀ t : PlaneTurtle (LineBuffer Float) Float,
        Limits.standard.run PlaneTurtle.session first t =
          Limits.standard.run PlaneTurtle.session second t := by
  -- with a final sigma and a letter that is not of ASCII
  intro first second
  have hlayout : SameLayout first second := by decide +kernel
  obtain ⟨hparse, hrun⟩ := layout_and_case_do_not_matter (α := Float) hlayout
  exact ⟨hlayout, hparse 64, fun t => (hrun .standard PlaneTurtle.session t).2⟩

end TurtleGraphics
