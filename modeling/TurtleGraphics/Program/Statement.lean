/-
  Statements: programs as trees of blocks.

  `parse` puts the segments of a program into blocks, and always succeeds: a
  statement that makes no sense has a place in the tree like any other,
  together with the reason.  A block that is never ended takes in the rest of
  the program.  A block with a bad count, or nested too deep, leaves nothing
  but one ignored statement.

  * `Statement.skip` passes over a block without looking into it;
  * `Statement.block` reads the statements of a block;
  * `parse` reads a program;
  * `Statement.listing` lists a tree in textual order, with depths.
-/
import TurtleGraphics.Program.Segment

namespace TurtleGraphics

/-- A statement, with its normalized text. -/
inductive Statement (α : Type) where
  | command (text : String) (command : Command α)
  /-- A block that is run `count` times. -/
  | loop (text : String) (count : UInt32) (body : List (Statement α))
  /-- A statement without effect. -/
  | ignored (text : String) (reason : Ignored α)

namespace Statement

variable {α : Type}

/-! ## Reading blocks -/

/-- The statement of a block with the given body. -/
def ofBlock (text : String) (body : List (Statement α)) :
    Except (Ignored α) UInt32 → Statement α
  | .ok count => .loop text count body
  | .error reason => .ignored text reason

/-- The statement of a segment outside of blocks. -/
def ofCommand (text : String) : Except (Ignored α) (Command α) → Statement α
  | .ok c => .command text c
  | .error reason => .ignored text reason

/-- What follows the `end` of a block, with `nested` more blocks open inside
    it. -/
def skip (nested : Nat) : List (Segment α) → List (Segment α)
  | [] => []
  | .close _ :: rest => match nested with
    | 0 => rest
    | outer + 1 => skip outer rest
  | .opening .. :: rest => skip (nested + 1) rest
  | .single .. :: rest => skip nested rest

theorem length_skip_le (nested : Nat) (segments : List (Segment α)) :
    (skip nested segments).length ≤ segments.length := by
  fun_induction skip nested segments <;> grind

/-- Reads the statements up to the `end` of the block that is `depth` blocks
    deep, and answers with what follows it.  At depth 0 there is no block to
    end, and everything is read. -/
def block (maxDepth : UInt32) (depth : Nat) (segments : List (Segment α)) :
    { read : List (Statement α) × List (Segment α) // read.2.length ≤ segments.length } :=
  match segments with
  | [] => ⟨([], []), Nat.le_refl _⟩
  | .close text :: rest =>
    if 0 < depth then ⟨([], rest), Nat.le_succ _⟩
    else
      let ⟨(more, after), h⟩ := block maxDepth depth rest
      ⟨(.ignored text .strayEnd :: more, after), Nat.le_succ_of_le h⟩
  | .opening text count :: rest =>
    if maxDepth.toNat ≤ depth then
      have hskip : (skip 0 rest).length ≤ rest.length := length_skip_le 0 rest
      let ⟨(more, after), h⟩ := block maxDepth depth (skip 0 rest)
      ⟨(.ignored text (.nestingTooDeep maxDepth) :: more, after),
        Nat.le_succ_of_le (Nat.le_trans h hskip)⟩
    else
      let ⟨(body, behind), hbody⟩ := block maxDepth (depth + 1) rest
      have hbehind : behind.length ≤ rest.length := hbody
      let ⟨(more, after), h⟩ := block maxDepth depth behind
      ⟨(ofBlock text body count :: more, after), Nat.le_succ_of_le (Nat.le_trans h hbehind)⟩
  | .single text c :: rest =>
    let ⟨(more, after), h⟩ := block maxDepth depth rest
    ⟨(ofCommand text c :: more, after), Nat.le_succ_of_le h⟩
termination_by segments.length
decreasing_by
  · exact Nat.lt_succ_self _
  · exact Nat.lt_succ_of_le hskip
  · exact Nat.lt_succ_self _
  · exact Nat.lt_succ_of_le hbehind
  · exact Nat.lt_succ_self _

/-! ## Listing -/

/-- What is listed of a statement. -/
inductive Kind (α : Type) where
  | command (command : Command α)
  /-- A block with its count and the number of its own statements. -/
  | loop (count : UInt32) (size : Nat)
  | ignored (reason : Ignored α)
deriving DecidableEq

/-- A statement in a listing: the number of blocks around it, its text, and
    what it is. -/
structure Listed (α : Type) where
  depth : Nat
  text : String
  kind : Kind α
deriving DecidableEq

mutual

/-- A statement and the statements in it, in textual order. -/
def listing (depth : Nat) : Statement α → List (Listed α)
  | .command text c => [⟨depth, text, .command c⟩]
  | .loop text count body => ⟨depth, text, .loop count body.length⟩ :: listingAll (depth + 1) body
  | .ignored text reason => [⟨depth, text, .ignored reason⟩]

/-- The listings of statements, one behind the other. -/
def listingAll (depth : Nat) : List (Statement α) → List (Listed α)
  | [] => []
  | s :: rest => listing depth s ++ listingAll depth rest

end

end Statement

/-- Reads a program, with blocks nested at most `maxDepth` deep. -/
def parse {α : Type} [Scalar α] (maxDepth : UInt32) (program : String) : List (Statement α) :=
  (Statement.block maxDepth 0 (segments program)).val.1

end TurtleGraphics
