/-
  Endings: the ends that are missing may be written out.

  A program that leaves blocks open means what it means with an end for each of
  them behind it, whether they are kept or dropped.  Behind these ends any other
  program is read as it is on its own.

  * `Segment.ended` are segments with the ends that they lack;
  * `Statement.skip_ended`: a block that is passed over is ended by the first of
    these, and the blocks around it by the others;
  * `Statement.blockAt_ended`: with its ends written out, a block has the same
    statements;
  * `ends` are ends as the text of a program, and `segments_ends` their segments;
  * `parse_ended`: so it is with programs.
-/
import TurtleGraphics.Proofs.Program.Closing
import TurtleGraphics.Proofs.Program.Printing

namespace TurtleGraphics

variable {α : Type}

/-! ## Missing ends -/

namespace Segment

/-- Segments, with an end for every block that is open behind them if `outer` are
    open before them. -/
def ended (outer : Nat) (segments : List (Segment α)) : List (Segment α) :=
  segments ++ List.replicate (openBlocks outer segments) (.close "end")

theorem openBlocks_append (outer : Nat) (first second : List (Segment α)) :
    openBlocks outer (first ++ second) = openBlocks (openBlocks outer first) second := by
  induction first generalizing outer with
  | nil => rfl
  | cons segment rest ih =>
    cases segment with
    | close text => exact ih (outer - 1)
    | opening text count => exact ih (outer + 1)
    | single text c => exact ih outer

theorem openBlocks_replicate (n : Nat) (text : String) :
    openBlocks n (List.replicate n (.close text : Segment α)) = 0 := by
  induction n with
  | zero => rfl
  | succ n ih => rwa [List.replicate_succ, openBlocks, Nat.add_sub_cancel]

theorem openBlocks_ended (outer : Nat) (segments : List (Segment α)) :
    openBlocks outer (ended outer segments) = 0 := by
  rw [ended, openBlocks_append, openBlocks_replicate]

end Segment

namespace Statement

open Segment

/-- **A block that is passed over** is ended by the first of the missing ends, if it
    was open, and the others are left for the blocks around it. -/
theorem skip_ended (nested outer : Nat) (segments : List (Segment α)) :
    skip nested (ended (nested + outer + 1) segments) = ended outer (skip nested segments) := by
  -- ends are missing for the blocks passed over, for this one, and for `outer` blocks around it
  induction segments generalizing nested with
  | nil =>
    rw [ended, List.nil_append, openBlocks]
    induction nested with
    | zero => rw [Nat.zero_add, List.replicate_succ]; rfl
    | succ nested ih =>
      rw [show nested + 1 + outer + 1 = nested + outer + 1 + 1 by omega, List.replicate_succ]
      exact ih
  | cons segment rest ih =>
    cases segment with
    | close text =>
      cases nested with
      | zero => rw [Nat.zero_add]; rfl
      | succ nested =>
        rw [show nested + 1 + outer + 1 = nested + outer + 1 + 1 by omega]
        exact ih nested
    | opening text count =>
      have h := ih (nested + 1)
      rw [show nested + 1 + outer + 1 = nested + outer + 1 + 1 by omega] at h
      exact h
    | single text c => exact ih nested

/-- **A block with its ends written out** has the same statements.  Where there is no
    block, no end may be counted for it, which would be stray. -/
theorem blockAt_ended (maxDepth : UInt32) {depth outer : Nat} (segments : List (Segment α))
    (houter : 0 < depth ↔ 0 < outer) :
    (blockAt maxDepth depth (ended outer segments)).1 = (blockAt maxDepth depth segments).1 := by
  induction depth, segments using blockAt_induction maxDepth generalizing outer with
  | nil depth =>
    rw [ended, List.nil_append, openBlocks]
    cases outer with
    | zero => rfl
    | succ outer =>
      rw [List.replicate_succ, blockAt_close (houter.2 (Nat.succ_pos outer)), blockAt_nil]
  | close depth text rest hdepth =>
    rw [ended, List.cons_append, blockAt_close hdepth, blockAt_close hdepth]
  | stray text rest ih =>
    obtain rfl : outer = 0 := by omega
    have hended : ended 0 (.close text :: rest) = .close text :: ended 0 rest := rfl
    rw [hended, blockAt_stray, blockAt_stray, ih Iff.rfl]
  | deep depth text count rest hdeep ih =>
    have hended : ended outer (.opening text count :: rest) =
      .opening text count :: ended (outer + 1) rest := rfl
    have hskip := skip_ended 0 outer rest
    rw [Nat.zero_add] at hskip
    rw [hended, blockAt_deep hdeep, blockAt_deep hdeep, hskip, ih houter]
  | opening depth text count rest hroom ihbody ih =>
    have hended : ended outer (.opening text count :: rest) =
      .opening text count :: ended (outer + 1) rest := rfl
    -- the block takes the first of the missing ends if it is open
    have hskip := skip_ended 0 outer rest
    have hbody := ihbody (iff_of_true (Nat.succ_pos depth) (Nat.succ_pos outer))
    rw [Nat.zero_add] at hskip
    rw [blockAt_after _ _ _ (Nat.succ_pos depth)] at ih
    rw [hended, blockAt_opening hroom, blockAt_opening hroom]
    dsimp only
    rw [hbody, blockAt_after _ _ _ (Nat.succ_pos depth), blockAt_after _ _ _ (Nat.succ_pos depth),
      hskip, ih houter]
  | single depth text c rest ih =>
    have hended : ended outer (.single text c :: rest) = .single text c :: ended outer rest := rfl
    rw [hended, blockAt_single, blockAt_single, ih houter]

end Statement

/-! ## Programs -/

/-- Several ends, as the text of a program. -/
def ends (n : Nat) : String := String.join (List.replicate n "end;")

section

variable [Scalar α]

theorem segments_ends (n : Nat) (rest : String) :
    (segments (ends n ++ rest) : List (Segment α)) =
      List.replicate n (.close "end") ++ segments rest := by
  induction n with
  | zero => rw [show ends 0 = "" from rfl, String.empty_append]; rfl
  | succ n ih =>
    have hends : ends (n + 1) = "end;" ++ ends n := by
      apply String.toList_inj.1
      simp [ends, List.replicate_succ]
    rw [hends, String.append_assoc, Segment.segments_end, ih]
    rfl

/-- **Missing ends may be written out.**  If as many ends are written behind a program
    as it leaves blocks open, which may be blocks that are run, or that have a bad count
    or are nested too deep, then it is read as before, and so is any program behind
    them. -/
theorem parse_ended (maxDepth : UInt32) (first second : String) :
    (parse maxDepth (first ++ ";" ++
          ends (Segment.openBlocks 0 (segments first : List (Segment α))) ++ second) :
        List (Statement α)) =
      parse maxDepth first ++ parse maxDepth second ∧
    (parse maxDepth (first ++ ";" ++
          ends (Segment.openBlocks 0 (segments first : List (Segment α)))) :
        List (Statement α)) =
      parse maxDepth first := by
  generalize hmissing : Segment.openBlocks 0 (segments first : List (Segment α)) = missing
  have hread : ∀ rest : String,
      (parse maxDepth (first ++ ";" ++ ends missing ++ rest) : List (Statement α)) =
        parse maxDepth first ++ parse maxDepth rest := by
    intro rest
    have hsegments : (segments (first ++ ";" ++ ends missing ++ rest) : List (Segment α)) =
        Segment.ended 0 (segments first) ++ segments rest := by
      rw [String.append_assoc, segments_append, segments_ends, Segment.ended, hmissing,
        List.append_assoc]
    rw [Statement.parse_eq, hsegments, Statement.blockAt_append (Segment.openBlocks_ended 0 _)
      fun hpos => absurd hpos (Nat.lt_irrefl 0), Statement.blockAt_ended maxDepth _ Iff.rfl]
    rfl
  refine ⟨hread second, ?_⟩
  have hend := hread ""
  rwa [String.append_empty, Statement.parse_empty, List.append_nil] at hend

end

/-- Neither a bad count nor an end that ends nothing changes how many ends are missing. -/
example :
    Segment.openBlocks 0 (segments "end; repeat 2; repeat x; pu" : List (Segment Float)) = 2 := by
  decide +kernel

end TurtleGraphics
