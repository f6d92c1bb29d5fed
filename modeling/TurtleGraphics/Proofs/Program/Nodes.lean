/-
  Nodes: the statements of a tree, each with the blocks around it.

  * `Statement.nodesAll` are the statements of a tree in textual order, each
    with the counts of the blocks around it;
  * `Statement.rows_nodesAll`: these are the statements of its listing;
  * `Statement.sizeAll_blockAt`: a tree has no more statements than there are
    segments;
  * `Statement.single_of_command`: the commands of a tree come from single
    segments.
-/
import TurtleGraphics.Proofs.Program.Brackets

namespace TurtleGraphics

variable {α : Type}

/-- A statement of a tree, with the counts of the blocks around it, the
    outermost one first. -/
structure Node (α : Type) where
  counts : List UInt32
  statement : Statement α

/-- The row of a statement in a listing. -/
def Node.row (n : Node α) : Row α :=
  match n.statement with
  | .command text c => ⟨n.counts.length, text, .command c⟩
  | .loop text count _ => ⟨n.counts.length, text, .loop count⟩
  | .ignored text reason => ⟨n.counts.length, text, .ignored reason⟩

namespace Statement

mutual

/-- A statement and the statements in it, in textual order, with the counts of
    the blocks around them. -/
def nodes (counts : List UInt32) : Statement α → List (Node α)
  | .command text c => [⟨counts, .command text c⟩]
  | .loop text count body =>
    ⟨counts, .loop text count body⟩ :: nodesAll (counts ++ [count]) body
  | .ignored text reason => [⟨counts, .ignored text reason⟩]

/-- The statements of a tree, in textual order, with the counts of the blocks
    around them. -/
def nodesAll (counts : List UInt32) : List (Statement α) → List (Node α)
  | [] => []
  | s :: rest => nodes counts s ++ nodesAll counts rest

end

mutual

theorem rows_nodes (counts : List UInt32) :
    ∀ s : Statement α, (nodes counts s).map Node.row = (listing counts.length s).map Listed.row
  | .command .. => rfl
  | .loop text count body => by
    have hbody := rows_nodesAll (counts ++ [count]) body
    rw [List.length_append, List.length_singleton] at hbody
    rw [nodes, listing, List.map_cons, List.map_cons, hbody]
    rfl
  | .ignored .. => rfl

theorem rows_nodesAll (counts : List UInt32) :
    ∀ tree : List (Statement α),
      (nodesAll counts tree).map Node.row = (listingAll counts.length tree).map Listed.row
  | [] => rfl
  | s :: rest => by
    rw [nodesAll, listingAll, List.map_append, List.map_append, rows_nodes counts s,
      rows_nodesAll counts rest]

end

mutual

theorem prefix_of_mem_nodes {counts : List UInt32} {n : Node α} :
    ∀ {s : Statement α}, n ∈ nodes counts s → counts <+: n.counts
  | .command .., h => by
    rw [nodes, List.mem_singleton] at h
    exact h ▸ List.prefix_rfl
  | .loop _ count body, h => by
    rw [nodes, List.mem_cons] at h
    rcases h with rfl | h
    · exact List.prefix_rfl
    · exact (List.prefix_append ..).trans (prefix_of_mem_nodesAll h)
  | .ignored .., h => by
    rw [nodes, List.mem_singleton] at h
    exact h ▸ List.prefix_rfl

theorem prefix_of_mem_nodesAll {counts : List UInt32} {n : Node α} :
    ∀ {tree : List (Statement α)}, n ∈ nodesAll counts tree → counts <+: n.counts
  | [], h => by simp [nodesAll] at h
  | s :: rest, h => by
    rcases List.mem_append.1 h with h | h
    · exact prefix_of_mem_nodes h
    · exact prefix_of_mem_nodesAll h

end

mutual

/-- The number of statements in a statement, itself included. -/
def size : Statement α → Nat
  | .command .. => 1
  | .loop _ _ body => sizeAll body + 1
  | .ignored .. => 1

/-- The number of statements of a tree. -/
def sizeAll : List (Statement α) → Nat
  | [] => 0
  | s :: rest => size s + sizeAll rest

end

mutual

theorem length_nodes (counts : List UInt32) :
    ∀ s : Statement α, (nodes counts s).length = size s
  | .command .. => rfl
  | .loop _ count body => by
    rw [nodes, size, List.length_cons, length_nodesAll (counts ++ [count]) body]
  | .ignored .. => rfl

theorem length_nodesAll (counts : List UInt32) :
    ∀ tree : List (Statement α), (nodesAll counts tree).length = sizeAll tree
  | [] => rfl
  | s :: rest => by
    rw [nodesAll, sizeAll, List.length_append, length_nodes counts s, length_nodesAll counts rest]

end

/-! ## The statements of a block -/

/-- **A tree has no more statements than there are segments.** -/
theorem sizeAll_blockAt (maxDepth : UInt32) (depth : Nat) (segments : List (Segment α)) :
    sizeAll (blockAt maxDepth depth segments).1 + (blockAt maxDepth depth segments).2.length
      ≤ segments.length := by
  induction depth, segments using blockAt_induction maxDepth with
  | nil depth => simp [sizeAll]
  | close depth text rest h => simp [blockAt_close h, sizeAll]
  | stray text rest ih =>
    rw [blockAt_stray]
    simp only [sizeAll, size, List.length_cons]
    omega
  | deep depth text count rest h ih =>
    have hskip := length_skip_le 0 rest
    rw [blockAt_deep h]
    simp only [sizeAll, size, List.length_cons]
    omega
  | opening depth text count rest h ihbody ih =>
    have hblock : ∀ body : List (Statement α),
        size (ofBlock text body count) ≤ sizeAll body + 1 := by
      intro body
      cases count with
      | ok count => exact Nat.le_refl _
      | error reason => simp [ofBlock, size]
    have := hblock (blockAt maxDepth (depth + 1) rest).1
    rw [blockAt_opening h]
    simp only [sizeAll, List.length_cons]
    omega
  | single depth text c rest ih =>
    have hsize : size (ofCommand text c) = 1 := by cases c <;> rfl
    rw [blockAt_single]
    simp only [sizeAll, hsize, List.length_cons]
    omega

/-- **The commands of a tree come from single segments**, with their texts. -/
theorem single_of_command (maxDepth : UInt32) (depth : Nat) (segments : List (Segment α))
    {counts outer : List UInt32} {text : String} {c : Command α}
    (h : ⟨outer, .command text c⟩ ∈ nodesAll counts (blockAt maxDepth depth segments).1) :
    .single text (.ok c) ∈ segments := by
  induction depth, segments using blockAt_induction maxDepth generalizing counts with
  | nil depth => simp [nodesAll] at h
  | close depth _ rest hdepth => simp [blockAt_close hdepth, nodesAll] at h
  | stray _ rest ih =>
    simp only [blockAt_stray, nodesAll, nodes, List.singleton_append, List.mem_cons, Node.mk.injEq,
      reduceCtorEq, and_false, false_or] at h
    exact List.mem_cons_of_mem _ (ih h)
  | deep depth _ count rest hdeep ih =>
    simp only [blockAt_deep hdeep, nodesAll, nodes, List.singleton_append, List.mem_cons,
      Node.mk.injEq, reduceCtorEq, and_false, false_or] at h
    exact List.mem_cons_of_mem _ ((skip_suffix 0 rest).subset (ih h))
  | opening depth _ count rest hroom ihbody ih =>
    rw [blockAt_opening hroom, nodesAll] at h
    -- what is behind the block is an end of what is behind its opening
    have hbehind : (blockAt maxDepth (depth + 1) rest).2 <:+ rest := by
      rw [blockAt_after maxDepth (depth + 1) rest (Nat.succ_pos depth)]
      exact skip_suffix 0 rest
    rcases List.mem_append.1 h with h | h
    · cases count with
      | ok count =>
        simp only [ofBlock, nodes, List.mem_cons, Node.mk.injEq, reduceCtorEq, and_false,
          false_or] at h
        exact List.mem_cons_of_mem _ (ihbody h)
      | error reason => simp [ofBlock, nodes] at h
    · exact List.mem_cons_of_mem _ (hbehind.subset (ih h))
  | single depth _ command rest ih =>
    rw [blockAt_single, nodesAll] at h
    rcases List.mem_append.1 h with h | h
    · cases command with
      | ok command =>
        simp only [ofCommand, nodes, List.mem_singleton, Node.mk.injEq,
          Statement.command.injEq] at h
        obtain ⟨-, rfl, rfl⟩ := h
        exact List.mem_cons_self ..
      | error reason => simp [ofCommand, nodes] at h
    · exact List.mem_cons_of_mem _ (ih h)

end Statement

end TurtleGraphics
