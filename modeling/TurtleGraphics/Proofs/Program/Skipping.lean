/-
  Skipping: where a block ends, found without reading it.

  A block that is dropped is passed over by counting.  That leads just behind the
  first end that is not the end of a block in it, and so does reading the block,
  however deep it is, and whether or not the blocks in it are read.

  * `Segment.Exceeds`: there are more ends among some segments than blocks that are
    opened there, and some more;
  * `Statement.StopsAt`: what follows the first end with which that is so;
  * `Statement.StopsAt.cons`: it does not depend on segments that are counted for
    more, or fewer, blocks;
  * `Statement.skip_stopsAt`: passing over blocks stops there;
  * `Statement.block_stops_where_skipped`: so does reading a block.
-/
import TurtleGraphics.Proofs.Program.Blocks

namespace TurtleGraphics

variable {α : Type}

/-! ## Counting -/

namespace Segment

/-- A segment is the end of a block. -/
def isClose : Segment α → Bool
  | close _ => true
  | _ => false

/-- A segment opens a block. -/
def isOpening : Segment α → Bool
  | opening .. => true
  | _ => false

/-- There are more ends among some segments than blocks that are opened there, and
    `nested` more. -/
def Exceeds (nested : Nat) (segments : List (Segment α)) : Prop :=
  segments.countP isOpening + nested < segments.countP isClose

variable {nested : Nat} {text : String} {segments : List (Segment α)}

theorem not_exceeds_nil : ¬ Exceeds nested ([] : List (Segment α)) := Nat.not_lt_zero _

theorem exceeds_close_zero : Exceeds 0 [(close text : Segment α)] := Nat.zero_lt_one

theorem exceeds_close_succ :
    Exceeds (nested + 1) (close text :: segments) ↔ Exceeds nested segments := by
  simp only [Exceeds, List.countP_cons, isOpening, isClose, if_true, Bool.false_eq_true, if_false]
  omega

theorem exceeds_opening {count : Except (Ignored α) UInt32} :
    Exceeds nested (opening text count :: segments) ↔ Exceeds (nested + 1) segments := by
  simp only [Exceeds, List.countP_cons, isOpening, isClose, if_true, Bool.false_eq_true, if_false]
  omega

theorem exceeds_single {c : Except (Ignored α) (Command α)} :
    Exceeds nested (single text c :: segments) ↔ Exceeds nested segments := by
  simp only [Exceeds, List.countP_cons, isOpening, isClose, Bool.false_eq_true, if_false]
  omega

end Segment

/-! ## Stopping -/

namespace Statement

open Segment

/-- `rest` is what follows the first end with which there are more ends than blocks
    that are opened, and `nested` more; nothing does if there is no such end. -/
def StopsAt (nested : Nat) (segments rest : List (Segment α)) : Prop :=
  (∃ before text, segments = before ++ .close text :: rest ∧
      Exceeds nested (before ++ [.close text]) ∧
      ∀ first, first <+: before → ¬ Exceeds nested first) ∨
    rest = [] ∧ ∀ first, first <+: segments → ¬ Exceeds nested first

namespace StopsAt

variable {nested inside : Nat} {segment : Segment α} {segments rest : List (Segment α)}

theorem not_exceeds_cons
    (hcount : ∀ first, Exceeds nested (segment :: first) ↔ Exceeds inside first)
    (h : ∀ first, first <+: segments → ¬ Exceeds inside first) :
    ∀ first, first <+: segment :: segments → ¬ Exceeds nested first := by
  intro first hfirst
  cases first with
  | nil => exact not_exceeds_nil
  | cons head first =>
    obtain ⟨rfl, hrest⟩ := List.cons_prefix_cons.1 hfirst
    rw [hcount]
    exact h first hrest

/-- **One more segment** in front, which is counted for the blocks that are closed
    behind it. -/
theorem cons (h : StopsAt inside segments rest)
    (hcount : ∀ first, Exceeds nested (segment :: first) ↔ Exceeds inside first) :
    StopsAt nested (segment :: segments) rest := by
  rcases h with ⟨before, text, rfl, hexceeds, hbefore⟩ | ⟨hrest, hnone⟩
  · refine Or.inl ⟨segment :: before, text, rfl, ?_, not_exceeds_cons hcount hbefore⟩
    rw [List.cons_append, hcount]
    exact hexceeds
  · exact Or.inr ⟨hrest, not_exceeds_cons hcount hnone⟩

end StopsAt

/-- **Passing over blocks** stops behind the end of the outermost one. -/
theorem skip_stopsAt (nested : Nat) (segments : List (Segment α)) :
    StopsAt nested segments (skip nested segments) := by
  -- every segment is counted for the blocks that the rest of the segments has to close
  induction segments generalizing nested with
  | nil =>
    refine Or.inr ⟨rfl, ?_⟩
    intro first hfirst
    rw [List.prefix_nil.1 hfirst]
    exact not_exceeds_nil
  | cons segment rest ih =>
    cases segment with
    | close text =>
      cases nested with
      | zero =>
        refine Or.inl ⟨[], text, rfl, exceeds_close_zero, ?_⟩
        intro first hfirst
        rw [List.prefix_nil.1 hfirst]
        exact not_exceeds_nil
      | succ nested => exact (ih nested).cons fun _ => exceeds_close_succ
    | opening text count => exact (ih (nested + 1)).cons fun _ => exceeds_opening
    | single text c => exact (ih nested).cons fun _ => exceeds_single

/-- **Reading a block stops where passing over it does**, at any depth and whatever
    the greatest depth is: just behind the first end with which there are more ends
    than blocks that are opened, or behind all segments if there is no such end. -/
theorem block_stops_where_skipped (maxDepth : UInt32) {depth : Nat} (hdepth : 0 < depth)
    (segments : List (Segment α)) :
    (block maxDepth depth segments).val.2 = skip 0 segments ∧
      StopsAt 0 segments (block maxDepth depth segments).val.2 := by
  have hafter : (block maxDepth depth segments).val.2 = skip 0 segments :=
    blockAt_after maxDepth depth segments hdepth
  refine ⟨hafter, ?_⟩
  rw [hafter]
  exact skip_stopsAt 0 segments

/-- A block with a block in it, and in that one another without a count: all of them
    are read, or the inner ones are nested too deep. -/
theorem block_stops_behind_third_end :
    let lift : Segment Float := .single "pu" (.ok .penUp)
    let segments := [.opening "repeat 2" (.ok 2), .opening "repeat" (.error .missingArgument),
      .close "end", .close "end", lift, .close "end", lift, .close "end"]
    0 < 2 ∧ (block 9 2 segments).val.2 = [lift, .close "end"] ∧
      (block 2 2 segments).val.2 = [lift, .close "end"] ∧
      StopsAt 0 segments [lift, .close "end"] := by
  intro lift segments
  have hdepth : 0 < 2 := by decide
  obtain ⟨hread, hstops⟩ := block_stops_where_skipped 9 hdepth segments
  obtain ⟨hdropped, -⟩ := block_stops_where_skipped 2 hdepth segments
  refine ⟨hdepth, hread, hdropped, ?_⟩
  rw [hread] at hstops
  exact hstops

end Statement

end TurtleGraphics
