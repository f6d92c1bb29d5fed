/-
  Blocks: how segments become a tree.

  * `Statement.blockAt` are the statements of a block and what follows it, with
    one equation for each kind of segment;
  * `Statement.blockAt_induction`: induction along the reading of a block;
  * `Statement.skip_add`: passing over an outer block is passing over the inner
    ones first;
  * `Statement.blockAt_after`: reading a block ends where passing over it does,
    and `Statement.blockAt_zero_after`: outside of blocks it ends with the program.
-/
import TurtleGraphics.Program.Statement

namespace TurtleGraphics.Statement

variable {α : Type} {maxDepth : UInt32} {depth : Nat} {text : String} {rest : List (Segment α)}

/-! ## Equations -/

/-- The statements of the block that is `depth` blocks deep, and the segments
    behind its end. -/
def blockAt (maxDepth : UInt32) (depth : Nat) (segments : List (Segment α)) :
    List (Statement α) × List (Segment α) :=
  (block maxDepth depth segments).val

theorem parse_eq [Scalar α] (maxDepth : UInt32) (program : String) :
    (parse maxDepth program : List (Statement α)) = (blockAt maxDepth 0 (segments program)).1 := rfl

theorem length_blockAt_after_le (maxDepth : UInt32) (depth : Nat) (segments : List (Segment α)) :
    (blockAt maxDepth depth segments).2.length ≤ segments.length :=
  (block maxDepth depth segments).property

@[simp] theorem blockAt_nil : blockAt maxDepth depth ([] : List (Segment α)) = ([], []) := by
  rw [blockAt, block]

theorem parse_empty [Scalar α] (maxDepth : UInt32) :
    (parse maxDepth "" : List (Statement α)) = [] := by
  have hsegments : (segments "" : List (Segment α)) = [] := rfl
  rw [parse_eq, hsegments, blockAt_nil]

theorem blockAt_close (h : 0 < depth) :
    blockAt maxDepth depth (.close text :: rest) = ([], rest) := by
  rw [blockAt, block, if_pos h]

theorem blockAt_stray :
    blockAt maxDepth 0 (.close text :: rest) =
      (.ignored text .strayEnd :: (blockAt maxDepth 0 rest).1, (blockAt maxDepth 0 rest).2) := by
  rw [blockAt, block, if_neg (Nat.lt_irrefl 0)]
  rfl

theorem blockAt_deep (h : maxDepth.toNat ≤ depth) (count : Except (Ignored α) UInt32) :
    blockAt maxDepth depth (.opening text count :: rest) =
      (.ignored text (.nestingTooDeep maxDepth) :: (blockAt maxDepth depth (skip 0 rest)).1,
        (blockAt maxDepth depth (skip 0 rest)).2) := by
  rw [blockAt, block, if_pos h]
  rfl

theorem blockAt_opening (h : ¬ maxDepth.toNat ≤ depth) (count : Except (Ignored α) UInt32) :
    blockAt maxDepth depth (.opening text count :: rest) =
      (ofBlock text (blockAt maxDepth (depth + 1) rest).1 count ::
          (blockAt maxDepth depth (blockAt maxDepth (depth + 1) rest).2).1,
        (blockAt maxDepth depth (blockAt maxDepth (depth + 1) rest).2).2) := by
  rw [blockAt, block, if_neg h]
  rfl

theorem blockAt_single (c : Except (Ignored α) (Command α)) :
    blockAt maxDepth depth (.single text c :: rest) =
      (ofCommand text c :: (blockAt maxDepth depth rest).1, (blockAt maxDepth depth rest).2) := by
  rw [blockAt, block]
  rfl

/-- **Induction along the reading of a block**, with one case for each thing
    that can be read. -/
theorem blockAt_induction {motive : Nat → List (Segment α) → Prop} (maxDepth : UInt32)
    (nil : ∀ depth, motive depth [])
    (close : ∀ depth text rest, 0 < depth → motive depth (.close text :: rest))
    (stray : ∀ text rest, motive 0 rest → motive 0 (.close text :: rest))
    (deep : ∀ depth text count rest, maxDepth.toNat ≤ depth → motive depth (skip 0 rest) →
      motive depth (.opening text count :: rest))
    (opening : ∀ depth text count rest, ¬ maxDepth.toNat ≤ depth → motive (depth + 1) rest →
      motive depth (blockAt maxDepth (depth + 1) rest).2 →
      motive depth (.opening text count :: rest))
    (single : ∀ depth text c rest, motive depth rest → motive depth (.single text c :: rest)) :
    ∀ depth segments, motive depth segments
  | depth, [] => nil depth
  | 0, .close text :: rest =>
    stray text rest (blockAt_induction maxDepth nil close stray deep opening single 0 rest)
  | depth + 1, .close text :: rest => close (depth + 1) text rest (Nat.succ_pos depth)
  | depth, .opening text count :: rest => by
    have hskip : (skip 0 rest).length ≤ rest.length := length_skip_le 0 rest
    have hafter := length_blockAt_after_le maxDepth (depth + 1) rest
    by_cases h : maxDepth.toNat ≤ depth
    · exact deep depth text count rest h
        (blockAt_induction maxDepth nil close stray deep opening single depth (skip 0 rest))
    · exact opening depth text count rest h
        (blockAt_induction maxDepth nil close stray deep opening single (depth + 1) rest)
        (blockAt_induction maxDepth nil close stray deep opening single depth
          (blockAt maxDepth (depth + 1) rest).2)
  | depth, .single text c :: rest =>
    single depth text c rest
      (blockAt_induction maxDepth nil close stray deep opening single depth rest)
termination_by _ segments => segments.length
decreasing_by all_goals simp only [List.length_cons]; omega

/-! ## Passing over blocks -/

theorem skip_suffix (nested : Nat) (segments : List (Segment α)) :
    skip nested segments <:+ segments := by
  induction segments generalizing nested with
  | nil => exact List.suffix_rfl
  | cons segment rest ih =>
    have hrest : ∀ n, skip n rest <:+ segment :: rest := fun n =>
      (ih n).trans (List.suffix_cons ..)
    cases segment with
    | close text =>
      cases nested with
      | zero => exact List.suffix_cons ..
      | succ outer => exact hrest outer
    | opening text count => exact hrest (nested + 1)
    | single text c => exact hrest nested

/-- Passing over an outer block is passing over the inner ones first. -/
theorem skip_add (inner outer : Nat) (segments : List (Segment α)) :
    skip (inner + outer + 1) segments = skip outer (skip inner segments) := by
  induction segments generalizing inner with
  | nil => rfl
  | cons segment rest ih =>
    cases segment with
    | close text =>
      cases inner with
      | zero => simp only [Nat.zero_add, skip]
      | succ inner =>
        rw [show inner + 1 + outer + 1 = inner + outer + 1 + 1 by omega]
        exact ih inner
    | opening text count =>
      simp only [skip]
      rw [show inner + outer + 1 + 1 = inner + 1 + outer + 1 by omega]
      exact ih (inner + 1)
    | single text c => exact ih inner

/-- **Reading a block ends where passing over it does**, however deep it is. -/
theorem blockAt_after (maxDepth : UInt32) (depth : Nat) (segments : List (Segment α))
    (hdepth : 0 < depth) : (blockAt maxDepth depth segments).2 = skip 0 segments := by
  induction depth, segments using blockAt_induction maxDepth with
  | nil depth => rw [blockAt_nil]; rfl
  | close depth text rest h => rw [blockAt_close h]; rfl
  | stray text rest ih => exact absurd hdepth (Nat.lt_irrefl 0)
  | deep depth text count rest h ih =>
    rw [blockAt_deep h, ih hdepth]
    exact (skip_add 0 0 rest).symm
  | opening depth text count rest h ihbody ih =>
    rw [blockAt_opening h]
    dsimp only
    rw [ih hdepth, ihbody (Nat.succ_pos depth)]
    exact (skip_add 0 0 rest).symm
  | single depth text c rest ih =>
    rw [blockAt_single]
    exact ih hdepth

theorem blockAt_zero_after (maxDepth : UInt32) (segments : List (Segment α)) :
    (blockAt maxDepth 0 segments).2 = [] := by
  generalize hdepth : 0 = depth
  induction depth, segments using blockAt_induction maxDepth with
  | nil depth => rw [blockAt_nil]
  | close depth text rest h => exact absurd h (by omega)
  | stray text rest ih =>
    rw [blockAt_stray]
    exact ih rfl
  | deep depth text count rest h ih =>
    rw [blockAt_deep h]
    exact ih hdepth
  | opening depth text count rest h ihbody ih =>
    rw [blockAt_opening h]
    exact ih hdepth
  | single depth text c rest ih =>
    rw [blockAt_single]
    exact ih hdepth

end TurtleGraphics.Statement
