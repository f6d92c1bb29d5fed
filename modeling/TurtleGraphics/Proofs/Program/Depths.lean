/-
  Depths: a lower limit cuts the tree of a program off, and does nothing else.

  With a lower limit the blocks that are as deep as it allows are passed over,
  which with a higher one are read.  Either way the reading goes on behind the
  same end, so that all statements that are not deeper are the same.

  * `Statement.cutOffAll` cuts a tree off: at the depth that is allowed nothing
    is left of a block but its text, and `Row.cutOff?` does so with a listing;
  * `Statement.rows_cutOffAll`: the listing of a tree that is cut off is that of
    the tree, cut off;
  * `Statement.blockAt_cutOffAll`: a block that is read with a lower limit is cut
    off from what it is with a higher one;
  * `parse_cutOff`: so it is with programs.
-/
import TurtleGraphics.Proofs.Program.Brackets
import TurtleGraphics.Proofs.Program.Printing

namespace TurtleGraphics

variable {α : Type} {maxDepth lower higher : UInt32} {depth : Nat}

/-! ## Cutting off -/

namespace Statement

mutual

/-- A statement some blocks deep, with no blocks in more than `maxDepth` others: of one
    that is so, whether it is kept or was dropped, only its text is left. -/
def cutOff (maxDepth : UInt32) (depth : Nat) : Statement α → Statement α
  | .command text c => .command text c
  | .loop text count body =>
    if depth = maxDepth.toNat then .ignored text (.nestingTooDeep maxDepth)
    else .loop text count (cutOffAll maxDepth (depth + 1) body)
  | .ignored text reason =>
    if depth = maxDepth.toNat ∧ OpensBlock text then .ignored text (.nestingTooDeep maxDepth)
    else .ignored text reason

/-- Statements some blocks deep, with no blocks in more than `maxDepth` others. -/
def cutOffAll (maxDepth : UInt32) (depth : Nat) : List (Statement α) → List (Statement α)
  | [] => []
  | s :: rest => cutOff maxDepth depth s :: cutOffAll maxDepth depth rest

end

end Statement

namespace Row

/-- The row of a block, which may have been dropped. -/
def IsBlock (row : Row α) : Prop :=
  match row.label with
  | .command _ => False
  | .loop _ => True
  | .ignored _ => OpensBlock row.text

instance (row : Row α) : Decidable row.IsBlock := by
  unfold IsBlock
  split <;> infer_instance

/-- What is left of a row where no blocks are in more than `maxDepth` others: at that
    depth a block is too deep, and below it there is nothing. -/
def cutOff? (maxDepth : UInt32) (row : Row α) : Option (Row α) :=
  if row.depth = maxDepth.toNat ∧ row.IsBlock then
    some { row with label := .ignored (.nestingTooDeep maxDepth) }
  else if row.depth ≤ maxDepth.toNat then some row
  else none

theorem cutOff?_of_isBlock (row : Row α) (hdepth : row.depth = maxDepth.toNat)
    (h : row.IsBlock) :
    row.cutOff? maxDepth = some { row with label := .ignored (.nestingTooDeep maxDepth) } :=
  if_pos ⟨hdepth, h⟩

theorem cutOff?_of_not (row : Row α) (hdepth : row.depth ≤ maxDepth.toNat)
    (h : ¬ (row.depth = maxDepth.toNat ∧ row.IsBlock)) : row.cutOff? maxDepth = some row := by
  rw [cutOff?, if_neg h, if_pos hdepth]

end Row

namespace Statement

/-! ## Listings -/

mutual

theorem depth_le_of_mem_listing {l : Listed α} :
    ∀ {depth : Nat} {s : Statement α}, l ∈ listing depth s → depth ≤ l.depth
  | _, .command .., h | _, .ignored .., h => by
    rw [listing, List.mem_singleton] at h
    exact h ▸ Nat.le_refl _
  | depth, .loop _ _ body, h => by
    rcases List.mem_cons.1 h with rfl | h
    · exact Nat.le_refl _
    · exact Nat.le_of_succ_le (depth_le_of_mem_listingAll h)

theorem depth_le_of_mem_listingAll {l : Listed α} :
    ∀ {depth : Nat} {tree : List (Statement α)}, l ∈ listingAll depth tree → depth ≤ l.depth
  | _, [], h => by simp [listingAll] at h
  | _, s :: rest, h => by
    rcases List.mem_append.1 h with h | h
    · exact depth_le_of_mem_listing h
    · exact depth_le_of_mem_listingAll h

end

theorem filterMap_cutOff?_of_lt (hdepth : maxDepth.toNat < depth) (tree : List (Statement α)) :
    ((listingAll depth tree).map Listed.row).filterMap (Row.cutOff? maxDepth) = [] := by
  rw [List.filterMap_eq_nil_iff]
  intro row hrow
  obtain ⟨l, hl, rfl⟩ := List.mem_map.1 hrow
  have hrowDepth : l.row.depth = l.depth := by
    unfold Listed.row
    split <;> rfl
  have hle := depth_le_of_mem_listingAll hl
  rw [Row.cutOff?, if_neg (by omega), if_neg (by omega)]

mutual

theorem rows_cutOff (maxDepth : UInt32) :
    ∀ {depth : Nat} (s : Statement α), depth ≤ maxDepth.toNat →
      (listing depth (cutOff maxDepth depth s)).map Listed.row =
        ((listing depth s).map Listed.row).filterMap (Row.cutOff? maxDepth)
  | depth, .command text c, hdepth => by
    have hrow := Row.cutOff?_of_not (Listed.row ⟨depth, text, .command c⟩) hdepth fun h => h.2
    rw [cutOff, listing, List.map_singleton, List.filterMap_cons_some hrow]
    rfl
  | depth, .ignored text reason, hdepth => by
    by_cases hblock : depth = maxDepth.toNat ∧ OpensBlock text
    · have hrow := Row.cutOff?_of_isBlock (Listed.row ⟨depth, text, .ignored reason⟩) hblock.1
        hblock.2
      rw [cutOff, if_pos hblock, listing, listing, List.map_singleton, List.map_singleton,
        List.filterMap_cons_some hrow]
      rfl
    · have hrow := Row.cutOff?_of_not (Listed.row ⟨depth, text, .ignored reason⟩) hdepth hblock
      rw [cutOff, if_neg hblock, listing, List.map_singleton, List.filterMap_cons_some hrow]
      rfl
  | depth, .loop text count body, hdepth => by
    by_cases hfull : depth = maxDepth.toNat
    · have hrow := Row.cutOff?_of_isBlock
        (Listed.row (⟨depth, text, .loop count body.length⟩ : Listed α)) hfull trivial
      have hbelow : maxDepth.toNat < depth + 1 := by omega
      rw [cutOff, if_pos hfull, listing, listing, List.map_singleton, List.map_cons,
        List.filterMap_cons_some hrow, filterMap_cutOff?_of_lt hbelow body]
      rfl
    · have hrow := Row.cutOff?_of_not
        (Listed.row (⟨depth, text, .loop count body.length⟩ : Listed α)) hdepth fun h => hfull h.1
      have hbody := rows_cutOffAll maxDepth body (Nat.lt_of_le_of_ne hdepth hfull)
      rw [cutOff, if_neg hfull, listing, listing, List.map_cons, List.map_cons, hbody,
        List.filterMap_cons_some hrow]
      rfl

/-- **A tree that is cut off** is listed as it is listed itself, but for what is cut off:
    the other rows are the same, in the same order. -/
theorem rows_cutOffAll (maxDepth : UInt32) :
    ∀ {depth : Nat} (tree : List (Statement α)), depth ≤ maxDepth.toNat →
      (listingAll depth (cutOffAll maxDepth depth tree)).map Listed.row =
        ((listingAll depth tree).map Listed.row).filterMap (Row.cutOff? maxDepth)
  | _, [], _ => rfl
  | depth, s :: rest, hdepth => by
    rw [cutOffAll, listingAll, listingAll, List.map_append, List.map_append,
      List.filterMap_append, rows_cutOff maxDepth s hdepth, rows_cutOffAll maxDepth rest hdepth]

end

/-! ## Two limits -/

theorem cutOff_ofBlock_of_ne (hroom : depth ≠ maxDepth.toNat) (text : String)
    (body : List (Statement α)) (count : Except (Ignored α) UInt32) :
    cutOff maxDepth depth (ofBlock text body count) =
      ofBlock text (cutOffAll maxDepth (depth + 1) body) count := by
  cases count with
  | ok count => exact if_neg hroom
  | error reason => exact if_neg fun h => hroom h.1

section

variable [Scalar α]

theorem cutOff_ofCommand {text : String} {c : Except (Ignored α) (Command α)}
    (h : (Segment.single text c).Normalized) :
    cutOff maxDepth depth (ofCommand text c) = ofCommand text c := by
  cases c with
  | ok c => rfl
  | error reason =>
    refine if_neg fun hblock => ?_
    obtain ⟨_, _, heq⟩ := h.opensBlock_iff.1 hblock.2
    cases heq

theorem cutOff_ofBlock {text : String} {count : Except (Ignored α) UInt32}
    (h : (Segment.opening text count).Normalized) (hfull : depth = maxDepth.toNat)
    (body : List (Statement α)) :
    cutOff maxDepth depth (ofBlock text body count) = .ignored text (.nestingTooDeep maxDepth) := by
  have hopens : OpensBlock text := h.opensBlock_iff.2 ⟨text, count, rfl⟩
  cases count with
  | ok count => exact if_pos hfull
  | error reason => exact if_pos ⟨hfull, hopens⟩

/-- **A block that is read with a lower limit** is cut off from what is read with a
    higher one. -/
theorem blockAt_cutOffAll (hle : lower.toNat ≤ higher.toNat) (depth : Nat)
    (segments : List (Segment α)) (hdepth : depth ≤ lower.toNat)
    (hsegments : ∀ segment ∈ segments, segment.Normalized) :
    (blockAt lower depth segments).1 = cutOffAll lower depth (blockAt higher depth segments).1 := by
  induction depth, segments using blockAt_induction higher with
  | nil depth => rw [blockAt_nil, blockAt_nil]; rfl
  | close depth text rest h => rw [blockAt_close h, blockAt_close h]; rfl
  | stray text rest ih =>
    obtain ⟨hfirst, hrest⟩ := List.forall_mem_cons.1 hsegments
    have hend : cutOff lower 0 (.ignored text .strayEnd : Statement α) =
        .ignored text .strayEnd := by
      refine if_neg fun hblock => ?_
      obtain ⟨_, _, heq⟩ := hfirst.opensBlock_iff.1 hblock.2
      cases heq
    rw [blockAt_stray, blockAt_stray, cutOffAll, hend, ih hdepth hrest]
  | deep depth text count rest h ih =>
    obtain ⟨hfirst, hrest⟩ := List.forall_mem_cons.1 hsegments
    have hfull : depth = lower.toNat := by omega
    have hopens : OpensBlock text := hfirst.opensBlock_iff.2 ⟨text, count, rfl⟩
    have hblock : cutOff lower depth (.ignored text (.nestingTooDeep higher) : Statement α) =
        .ignored text (.nestingTooDeep lower) := if_pos ⟨hfull, hopens⟩
    rw [blockAt_deep h, blockAt_deep (Nat.le_of_eq hfull.symm), cutOffAll, hblock,
      ih hdepth fun s hs => hrest s ((skip_suffix 0 rest).subset hs)]
  | opening depth text count rest h ihbody ih =>
    obtain ⟨hfirst, hrest⟩ := List.forall_mem_cons.1 hsegments
    rw [blockAt_after higher (depth + 1) rest (Nat.succ_pos depth)] at ih
    have hbehind := ih hdepth fun s hs => hrest s ((skip_suffix 0 rest).subset hs)
    rw [blockAt_opening h, cutOffAll, blockAt_after higher _ _ (Nat.succ_pos depth)]
    by_cases hfull : depth = lower.toNat
    · -- the lower limit passes over the block that the higher one reads
      rw [blockAt_deep (Nat.le_of_eq hfull.symm), cutOff_ofBlock hfirst hfull, hbehind]
    · have hroom : ¬ lower.toNat ≤ depth := by omega
      rw [blockAt_opening hroom, cutOff_ofBlock_of_ne hfull, ihbody (by omega) hrest,
        blockAt_after lower _ _ (Nat.succ_pos depth), hbehind]
  | single depth text c rest ih =>
    obtain ⟨hfirst, hrest⟩ := List.forall_mem_cons.1 hsegments
    rw [blockAt_single, blockAt_single, cutOffAll, cutOff_ofCommand hfirst, ih hdepth hrest]

end

end Statement

/-! ## Programs -/

/-- **A lower limit cuts the tree off.**  At the depth that it allows, blocks that are
    kept or have been dropped with the higher limit are nested too deep; everything else
    that is not deeper is as it is with the higher limit.  So the listing is the same,
    but for the rows of these blocks and of what is in them. -/
theorem parse_cutOff [Scalar α] (h : lower ≤ higher) (program : String) :
    (parse lower program : List (Statement α)) =
        Statement.cutOffAll lower 0 (parse higher program) ∧
      (Statement.listingAll 0 (parse lower program : List (Statement α))).map
          Statement.Listed.row =
        ((Statement.listingAll 0 (parse higher program)).map Statement.Listed.row).filterMap
          (Row.cutOff? lower) := by
  have htree : (parse lower program : List (Statement α)) =
      Statement.cutOffAll lower 0 (parse higher program) :=
    Statement.blockAt_cutOffAll (UInt32.le_iff_toNat_le.1 h) 0 (segments program)
      (Nat.zero_le _) fun _ => Segment.normalized_of_mem
  refine ⟨htree, ?_⟩
  rw [htree]
  exact Statement.rows_cutOffAll lower _ (Nat.zero_le _)

/-- A block that is too deep for the lower limit, with a block in it that is too deep for
    the higher one and an end that is missing, and one with a bad count. -/
theorem parse_cutOff_unended :
    let program :=
      "end; repeat 2; repeat x; fd 1; end; repeat 3; pu; repeat 4; end; end; rt 5; end; repeat"
    (1 : UInt32) ≤ 2 ∧
      (parse 1 program : List (Statement Float)) =
        Statement.cutOffAll 1 0 (parse 2 program) ∧
      Statement.printAll (parse 1 program : List (Statement Float)) =
        "end;repeat 2;repeat x;end;repeat 3;end;rt 5;end;repeat;end;" := by
  intro program
  exact ⟨by decide, (parse_cutOff (by decide) program).1, by decide +kernel⟩

end TurtleGraphics
