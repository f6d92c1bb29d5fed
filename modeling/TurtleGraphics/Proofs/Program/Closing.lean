/-
  Closing: programs that close their blocks.

  A program that leaves no block open may be followed by any other: both are read
  as they are on their own.

  * `Segment.openBlocks` counts the blocks that are open behind some segments, and
    `Segment.strayEnds` the ends among them that close none;
  * `Segment.Balanced`: no block is left open, and no end is stray;
  * `Statement.skip_append`, `Statement.blockAt_append_of_open`: a block that is
    closed ends where it did, whatever follows;
  * `Statement.blockAt_append`: segments that leave no block open are read first,
    and then what follows them;
  * `parse_append`: so it is with programs.
-/
import TurtleGraphics.Proofs.Program.Blocks
import TurtleGraphics.Proofs.Program.Pieces

namespace TurtleGraphics

variable {α : Type}

/-! ## Open blocks -/

namespace Segment

/-- The number of blocks that are open behind some segments, with `outer` open
    before them.  An end where no block is open closes none. -/
def openBlocks (outer : Nat) : List (Segment α) → Nat
  | [] => outer
  | .close _ :: rest => openBlocks (outer - 1) rest
  | .opening .. :: rest => openBlocks (outer + 1) rest
  | .single .. :: rest => openBlocks outer rest

/-- The number of ends among some segments that close no block, with `outer`
    blocks open before them. -/
def strayEnds : Nat → List (Segment α) → Nat
  | _, [] => 0
  | 0, .close _ :: rest => strayEnds 0 rest + 1
  | outer + 1, .close _ :: rest => strayEnds outer rest
  | outer, .opening .. :: rest => strayEnds (outer + 1) rest
  | outer, .single .. :: rest => strayEnds outer rest

/-- Segments that close all blocks that they open, and nothing else. -/
structure Balanced (segments : List (Segment α)) : Prop where
  openBlocks_eq : openBlocks 0 segments = 0
  strayEnds_eq : strayEnds 0 segments = 0

instance (segments : List (Segment α)) : Decidable (Balanced segments) :=
  decidable_of_iff (openBlocks 0 segments = 0 ∧ strayEnds 0 segments = 0)
    ⟨fun h => ⟨h.1, h.2⟩, fun h => ⟨h.1, h.2⟩⟩

end Segment

/-! ## Reading on -/

namespace Statement

open Segment

variable {maxDepth : UInt32} {depth outer : Nat} {first : List (Segment α)}

theorem skip_append (nested outer : Nat) (h : openBlocks (nested + outer + 1) first = 0)
    (second : List (Segment α)) :
    skip nested (first ++ second) = skip nested first ++ second ∧
      openBlocks outer (skip nested first) = 0 := by
  induction first generalizing nested with
  | nil => exact absurd h (Nat.succ_ne_zero _)
  | cons segment rest ih =>
    cases segment with
    | close text =>
      cases nested with
      | zero =>
        rw [openBlocks, Nat.zero_add, Nat.add_sub_cancel] at h
        exact ⟨rfl, h⟩
      | succ nested =>
        rw [show nested + 1 + outer + 1 = nested + outer + 1 + 1 by omega] at h
        exact ih nested h
    | opening text count =>
      rw [openBlocks, show nested + outer + 1 + 1 = nested + 1 + outer + 1 by omega] at h
      exact ih (nested + 1) h
    | single text c => exact ih nested h

theorem strayEnds_skip (nested outer : Nat) (segments : List (Segment α)) :
    strayEnds outer (skip nested segments) = strayEnds (nested + outer + 1) segments := by
  induction segments generalizing nested with
  | nil => cases outer <;> rfl
  | cons segment rest ih =>
    cases segment with
    | close text =>
      cases nested with
      | zero => rw [Nat.zero_add]; rfl
      | succ nested =>
        rw [show nested + 1 + outer + 1 = nested + outer + 1 + 1 by omega]
        exact ih nested
    | opening text count =>
      rw [skip, ih, strayEnds, show nested + outer + 1 + 1 = nested + 1 + outer + 1 by omega]
    | single text c => exact ih nested

theorem blockAt_append_of_open (hdepth : 0 < depth) (h : openBlocks (outer + 1) first = 0)
    (second : List (Segment α)) :
    (blockAt maxDepth depth (first ++ second)).1 = (blockAt maxDepth depth first).1 := by
  induction depth, first using blockAt_induction maxDepth generalizing outer with
  | nil depth => exact absurd h (Nat.succ_ne_zero _)
  | close depth text rest hclose =>
    rw [List.cons_append, blockAt_close hclose, blockAt_close hclose]
  | stray text rest ih => exact absurd hdepth (Nat.lt_irrefl 0)
  | deep depth text count rest hdeep ih =>
    rw [openBlocks, ← Nat.zero_add (outer + 1)] at h
    obtain ⟨hskip, hopen⟩ := skip_append 0 (outer + 1) h second
    rw [List.cons_append, blockAt_deep hdeep, blockAt_deep hdeep, hskip, ih hdepth hopen]
  | opening depth text count rest hroom ihbody ih =>
    rw [openBlocks, ← Nat.zero_add (outer + 1)] at h
    obtain ⟨hskip, hopen⟩ := skip_append 0 (outer + 1) h second
    have hafter := blockAt_after maxDepth (depth + 1) rest (Nat.succ_pos depth)
    rw [hafter] at ih
    rw [List.cons_append, blockAt_opening hroom, blockAt_opening hroom]
    dsimp only
    rw [ihbody (Nat.succ_pos depth) h, hafter, blockAt_after _ _ _ (Nat.succ_pos depth), hskip,
      ih hdepth hopen]
  | single depth text c rest ih =>
    rw [List.cons_append, blockAt_single, blockAt_single, ih hdepth h]

/-- **Segments that leave no block open** are read first, and then what follows
    them.  Inside of a block no end may be stray, as it would close that block. -/
theorem blockAt_append (h : openBlocks 0 first = 0) (hstray : 0 < depth → strayEnds 0 first = 0)
    (second : List (Segment α)) :
    blockAt maxDepth depth (first ++ second) =
      ((blockAt maxDepth depth first).1 ++ (blockAt maxDepth depth second).1,
        (blockAt maxDepth depth second).2) := by
  induction depth, first using blockAt_induction maxDepth with
  | nil depth => rw [blockAt_nil]; rfl
  | close depth text rest hdepth => exact absurd (hstray hdepth) (Nat.succ_ne_zero _)
  | stray text rest ih =>
    rw [List.cons_append, blockAt_stray, blockAt_stray,
      ih h fun hpos => absurd hpos (Nat.lt_irrefl 0)]
    rfl
  | deep depth text count rest hdeep ih =>
    obtain ⟨hskip, hopen⟩ := skip_append 0 0 h second
    rw [strayEnds, ← strayEnds_skip 0 0] at hstray
    rw [List.cons_append, blockAt_deep hdeep, blockAt_deep hdeep, hskip, ih hopen hstray]
    rfl
  | opening depth text count rest hroom ihbody ih =>
    obtain ⟨hskip, hopen⟩ := skip_append 0 0 h second
    -- the block ends among the first segments, so that nothing behind them is read for it
    have hafter := blockAt_after maxDepth (depth + 1) rest (Nat.succ_pos depth)
    rw [strayEnds, ← strayEnds_skip 0 0] at hstray
    rw [hafter] at ih
    rw [List.cons_append, blockAt_opening hroom, blockAt_opening hroom]
    dsimp only
    rw [blockAt_append_of_open (Nat.succ_pos depth) h, hafter,
      blockAt_after _ _ _ (Nat.succ_pos depth), hskip, ih hopen hstray]
    rfl
  | single depth text c rest ih =>
    rw [List.cons_append, blockAt_single, blockAt_single, ih h hstray]
    rfl

end Statement

/-- **A program that leaves no block open** is read as it is on its own, and so is
    what follows it. -/
theorem parse_append [Scalar α] (maxDepth : UInt32) {first : String}
    (h : Segment.openBlocks 0 (segments first : List (Segment α)) = 0) (second : String) :
    (parse maxDepth (first ++ ";" ++ second) : List (Statement α)) =
      parse maxDepth first ++ parse maxDepth second := by
  rw [Statement.parse_eq, segments_append,
    Statement.blockAt_append h fun hpos => absurd hpos (Nat.lt_irrefl 0)]
  rfl

end TurtleGraphics
