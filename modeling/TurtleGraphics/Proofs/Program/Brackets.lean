/-
  Brackets: the listing of a program without its tree.

  The listing of a parsed program comes from one scan of its pieces, from left
  to right, with a stack of the blocks that are open.  A block is kept, or it
  is dropped with everything in it.

  * `Scan.step` reads the words of one piece, and `Scan.rows` those of all;
  * `Scan.rows_dropped`: to the scan, a dropped block is one that is passed over;
  * `Scan.rows_kept`: what is scanned at some depth is the listing of the block
    there, and what is scanned behind it;
  * `Scan.Stack`, the invariant of the scan: the dropped blocks are inside the
    kept ones, which are no more than allowed;
  * `parse_listing`: the listing of a parsed program is what is scanned.
-/
import TurtleGraphics.Proofs.Program.Arguments
import TurtleGraphics.Proofs.Program.Blocks
import TurtleGraphics.Proofs.Program.Pieces

namespace TurtleGraphics

variable {α : Type}

/-! ## Rows -/

/-- What a row of a listing says of a statement. -/
inductive Label (α : Type) where
  | command (command : Command α)
  | loop (count : UInt32)
  | ignored (reason : Ignored α)
deriving DecidableEq

/-- A row of a listing: the number of blocks around a statement, its text, and
    what it is. -/
structure Row (α : Type) where
  depth : Nat
  text : String
  label : Label α
deriving DecidableEq

/-- The row of a listed statement. -/
def Statement.Listed.row (l : Listed α) : Row α :=
  match l.kind with
  | .command c => ⟨l.depth, l.text, .command c⟩
  | .loop count _ => ⟨l.depth, l.text, .loop count⟩
  | .ignored reason => ⟨l.depth, l.text, .ignored reason⟩

/-- What becomes of a statement that is no block. -/
def Label.ofCommand : Except (Ignored α) (Command α) → Label α
  | .ok c => .command c
  | .error reason => .ignored reason

/-! ## The scan -/

/-- A block that is open: it is kept, or dropped with everything in it. -/
inductive Opened where
  | kept
  | dropped
deriving DecidableEq

namespace Scan

/-- An `end` closes the innermost block, or is listed if none is open. -/
def close (text : String) : List Opened → Option (Row α) × List Opened
  | [] => (some ⟨0, text, .ignored .strayEnd⟩, [])
  | _ :: outer => (none, outer)

/-- A `repeat` always opens a block.  It is not listed in a dropped block; the
    new block is dropped if it is in one, or nested too deep, or without a
    count. -/
def opening (maxDepth : UInt32) (text : String) (count : Except (Ignored α) UInt32)
    (stack : List Opened) : Option (Row α) × List Opened :=
  if .dropped ∈ stack then (none, .dropped :: stack)
  else if maxDepth.toNat ≤ stack.length then
    (some ⟨stack.length, text, .ignored (.nestingTooDeep maxDepth)⟩, .dropped :: stack)
  else match count with
    | .ok count => (some ⟨stack.length, text, .loop count⟩, .kept :: stack)
    | .error reason => (some ⟨stack.length, text, .ignored reason⟩, .dropped :: stack)

/-- Any other statement is listed, unless a block is dropped around it. -/
def single (text : String) (c : Except (Ignored α) (Command α)) (stack : List Opened) :
    Option (Row α) × List Opened :=
  if .dropped ∈ stack then (none, stack)
  else (some ⟨stack.length, text, .ofCommand c⟩, stack)

variable [Scalar α]

/-- The command of a statement, or what is wrong with it. -/
def command (head : Word) (arguments : List Word) : Except (Ignored α) (Command α) :=
  match Keyword.ofWord? head with
  | some keyword => Command.read keyword arguments
  | none => .error (.unknownCommand (String.ofList head))

/-- Reads the words of one piece with the given blocks open, the innermost one
    first.  The answer is its row, if it is listed, and the blocks that are
    open behind it. -/
def step (maxDepth : UInt32) (stack : List Opened) : List Word → Option (Row α) × List Opened
  | [] => (none, stack)
  | head :: arguments =>
    let text := joinWords (head :: arguments)
    if head = "end".toList then close text stack
    else if head = "repeat".toList then
      opening maxDepth text (countArgument arguments[0]?) stack
    else single text (command head arguments) stack

/-- The rows of pieces, given by their words. -/
def rows (maxDepth : UInt32) (stack : List Opened) : List (List Word) → List (Row α)
  | [] => []
  | ws :: rest =>
    let scanned : Option (Row α) × List Opened := step maxDepth stack ws
    scanned.1.toList ++ rows maxDepth scanned.2 rest

end Scan

/-! ## Scanning segments -/

namespace Scan

variable {maxDepth : UInt32} {stack : List Opened}

/-- Reads one segment. -/
def stepSegment (maxDepth : UInt32) (stack : List Opened) :
    Segment α → Option (Row α) × List Opened
  | .close text => close text stack
  | .opening text count => opening maxDepth text count stack
  | .single text c => single text c stack

/-- The rows of segments. -/
def rowsOf (maxDepth : UInt32) (stack : List Opened) : List (Segment α) → List (Row α)
  | [] => []
  | segment :: rest =>
    (stepSegment maxDepth stack segment).1.toList ++
      rowsOf maxDepth (stepSegment maxDepth stack segment).2 rest

theorem step_eq [Scalar α] (head : Word) (arguments : List Word) :
    (step maxDepth stack (head :: arguments) : Option (Row α) × List Opened) =
      stepSegment maxDepth stack (Segment.ofWords head arguments) := by
  unfold step Segment.ofWords command
  by_cases hend : head = "end".toList
  · simp only [if_pos hend, stepSegment]
  · by_cases hrepeat : head = "repeat".toList
    · simp only [if_neg hend, if_pos hrepeat, stepSegment]
    · simp only [if_neg hend, if_neg hrepeat]
      cases Keyword.ofWord? head <;> rfl

theorem rows_eq [Scalar α] (wss : List (List Word)) :
    (rows maxDepth stack wss : List (Row α)) =
      rowsOf maxDepth stack (wss.filterMap Segment.ofWords?) := by
  induction wss generalizing stack with
  | nil => rfl
  | cons ws rest ih =>
    cases ws with
    | nil => exact ih
    | cons head arguments =>
      simp only [rows, step_eq, ih, List.filterMap_cons, Segment.ofWords?, rowsOf]

/-- **A dropped block is passed over**: nothing in it is listed. -/
theorem rows_dropped (outer : List Opened) (nested : Nat) (segments : List (Segment α)) :
    rowsOf maxDepth (List.replicate (nested + 1) .dropped ++ outer) segments =
      rowsOf maxDepth outer (Statement.skip nested segments) := by
  induction segments generalizing nested with
  | nil => rfl
  | cons segment rest ih =>
    have hdropped : Opened.dropped ∈ List.replicate (nested + 1) .dropped ++ outer := by
      simp [List.replicate_succ]
    cases segment with
    | close text =>
      cases nested with
      | zero => rfl
      | succ nested => exact ih nested
    | opening text count =>
      simp only [rowsOf, stepSegment, opening, if_pos hdropped, Statement.skip]
      exact ih (nested + 1)
    | single text c =>
      simp only [rowsOf, stepSegment, single, if_pos hdropped, Statement.skip]
      exact ih nested

theorem rows_dropped_cons (outer : List Opened) (segments : List (Segment α)) :
    rowsOf maxDepth (.dropped :: outer) segments =
      rowsOf maxDepth outer (Statement.skip 0 segments) := rows_dropped outer 0 segments

theorem dropped_not_mem_replicate (depth : Nat) :
    Opened.dropped ∉ List.replicate depth Opened.kept := by
  simp

/-- **What is scanned in kept blocks** is the listing of the innermost one, and
    then what is scanned behind it. -/
theorem rows_kept (maxDepth : UInt32) (depth : Nat) (segments : List (Segment α)) :
    rowsOf maxDepth (List.replicate depth .kept) segments =
      (Statement.listingAll depth (Statement.blockAt maxDepth depth segments).1).map
          Statement.Listed.row ++
        rowsOf maxDepth (List.replicate (depth - 1) .kept)
          (Statement.blockAt maxDepth depth segments).2 := by
  induction depth, segments using Statement.blockAt_induction maxDepth with
  | nil depth => simp [rowsOf, Statement.listingAll]
  | close depth text rest h =>
    obtain ⟨outer, rfl⟩ := Nat.exists_eq_add_one.2 h
    rw [Statement.blockAt_close h]
    rfl
  | stray text rest ih =>
    rw [Statement.blockAt_stray]
    simp only [rowsOf, stepSegment, close, List.replicate_zero] at ih ⊢
    rw [ih]
    rfl
  | deep depth text count rest h ih =>
    rw [Statement.blockAt_deep h]
    simp only [rowsOf, stepSegment, opening, if_neg (dropped_not_mem_replicate depth),
      List.length_replicate, if_pos h, rows_dropped_cons, ih]
    rfl
  | opening depth text count rest h ihbody ih =>
    rw [Statement.blockAt_opening h]
    simp only [rowsOf, stepSegment, opening, if_neg (dropped_not_mem_replicate depth),
      List.length_replicate, if_neg h]
    cases count with
    | ok count =>
      simp only [← List.replicate_succ, ihbody, Nat.add_sub_cancel, ih, Statement.listingAll,
        Statement.ofBlock, Statement.listing, List.map_append, List.map_cons, List.append_assoc]
      rfl
    | error reason =>
      -- the body is read and thrown away, which leaves what skipping it leaves
      rw [Statement.blockAt_after maxDepth (depth + 1) rest (Nat.succ_pos depth)] at ih ⊢
      simp only [rows_dropped_cons, ih]
      rfl
  | single depth text c rest ih =>
    rw [Statement.blockAt_single]
    simp only [rowsOf, stepSegment, single, if_neg (dropped_not_mem_replicate depth),
      List.length_replicate, ih]
    cases c <;> rfl

end Scan

/-! ## Faults of arguments -/

/-- An argument is absent, or not of the right form. -/
def Ignored.IsArgumentFault : Ignored α → Prop
  | missingArgument => True
  | invalidArgument _ => True
  | _ => False

section

variable [Scalar α] {reason : Ignored α}

theorem Form.Reads.fault {form : Form} {argument : Option Word}
    (h : form.Reads argument (.error reason : Except _ (Operand α))) : reason.IsArgumentFault := by
  cases h <;> trivial

theorem fault_of_read {keyword : Keyword} {arguments : List Word}
    (h : (Command.read keyword arguments : Except _ (Command α)) = .error reason) :
    reason.IsArgumentFault := by
  obtain ⟨_, form, _, _, behind, -, -, -, hwrong⟩ := Command.read_eq_error_iff.1 h
  exact hwrong.fault

theorem fault_of_countArgument {argument : Option Word}
    (h : countArgument argument = .error reason) : reason.IsArgumentFault :=
  Form.Reads.fault (countArgument_iff.2 h)

end

/-! ## Where rows are -/

/-- Blocks, ends without blocks and blocks that are nested too deep are where
    they ought to be. -/
structure Row.Placed (maxDepth : UInt32) (row : Row α) : Prop where
  loop : ∀ count, row.label = .loop count → row.depth < maxDepth.toNat
  tooDeep : ∀ ceiling, row.label = .ignored (.nestingTooDeep ceiling) →
    ceiling = maxDepth ∧ row.depth = maxDepth.toNat
  stray : row.label = .ignored .strayEnd → row.depth = 0

theorem Row.placed_of_fault {maxDepth : UInt32} {depth : Nat} {text : String} {reason : Ignored α}
    (h : reason.IsArgumentFault) : Row.Placed maxDepth ⟨depth, text, .ignored reason⟩ where
  loop _ hlabel := nomatch hlabel
  tooDeep _ hlabel := by
    cases hlabel
    exact h.elim
  stray hlabel := by
    cases hlabel
    exact h.elim

namespace Scan

variable {maxDepth : UInt32} {stack : List Opened}

/-- **The invariant of the scan**: dropped blocks are inside the kept ones,
    which are no more than allowed. -/
inductive Stack (maxDepth : UInt32) : List Opened → Prop where
  | kept (depth : Nat) (h : depth ≤ maxDepth.toNat) : Stack maxDepth (List.replicate depth .kept)
  | dropped {stack : List Opened} (h : Stack maxDepth stack) : Stack maxDepth (.dropped :: stack)

theorem Stack.tail {block : Opened} {outer : List Opened}
    (h : Stack maxDepth (block :: outer)) : Stack maxDepth outer := by
  generalize hstack : block :: outer = stack at h
  cases h with
  | kept depth hdepth =>
    cases depth with
    | zero => cases hstack
    | succ depth =>
      obtain ⟨rfl, rfl⟩ := List.cons.inj hstack
      exact .kept depth (Nat.le_of_succ_le hdepth)
  | dropped h =>
    obtain ⟨rfl, rfl⟩ := List.cons.inj hstack
    exact h

theorem Stack.eq_replicate (h : Stack maxDepth stack) (hkept : .dropped ∉ stack) :
    ∃ depth ≤ maxDepth.toNat, stack = List.replicate depth .kept := by
  cases h with
  | kept depth hdepth => exact ⟨depth, hdepth, rfl⟩
  | dropped h => exact absurd (List.mem_cons_self ..) hkept

theorem close_placed (h : Stack maxDepth stack) (text : String) :
    (∀ row ∈ (close text stack : Option (Row α) × List Opened).1,
        row.text = text ∧ row.Placed maxDepth) ∧
      Stack maxDepth (close text stack : Option (Row α) × List Opened).2 := by
  cases stack with
  | nil =>
    refine ⟨?_, h⟩
    rintro row ⟨⟩
    exact ⟨rfl, nofun, nofun, fun _ => rfl⟩
  | cons block outer => exact ⟨nofun, h.tail⟩

theorem opening_placed (h : Stack maxDepth stack) (text : String)
    {count : Except (Ignored α) UInt32}
    (hcount : ∀ reason, count = .error reason → reason.IsArgumentFault) :
    (∀ row ∈ (opening maxDepth text count stack).1, row.text = text ∧ row.Placed maxDepth) ∧
      Stack maxDepth (opening maxDepth text count stack).2 := by
  unfold opening
  split
  · exact ⟨nofun, .dropped h⟩
  · next hkept =>
    obtain ⟨depth, hdepth, rfl⟩ := h.eq_replicate hkept
    rw [List.length_replicate]
    split
    · next hdeep =>
      refine ⟨?_, .dropped h⟩
      rintro row ⟨⟩
      refine ⟨rfl, nofun, ?_, nofun⟩
      rintro ceiling ⟨⟩
      exact ⟨rfl, Nat.le_antisymm hdepth hdeep⟩
    · next hroom =>
      have hlt : depth < maxDepth.toNat := Nat.not_le.1 hroom
      cases count with
      | ok count =>
        refine ⟨?_, .kept (depth + 1) hlt⟩
        rintro row ⟨⟩
        exact ⟨rfl, fun _ _ => hlt, nofun, nofun⟩
      | error reason =>
        refine ⟨?_, .dropped h⟩
        rintro row ⟨⟩
        exact ⟨rfl, Row.placed_of_fault (hcount reason rfl)⟩

variable [Scalar α]

theorem single_placed (h : Stack maxDepth stack) (text : String) (head : Word)
    (arguments : List Word) :
    (∀ row ∈ (single text (command head arguments) stack : Option (Row α) × List Opened).1,
        row.text = text ∧ row.Placed maxDepth) ∧
      Stack maxDepth
        (single text (command head arguments) stack : Option (Row α) × List Opened).2 := by
  unfold single
  split
  · exact ⟨nofun, h⟩
  · refine ⟨?_, h⟩
    rintro row ⟨⟩
    refine ⟨rfl, ?_⟩
    unfold command
    split
    · next keyword _ =>
      cases hread : (Command.read keyword arguments : Except (Ignored α) (Command α)) with
      | ok c => exact ⟨nofun, nofun, nofun⟩
      | error reason => exact Row.placed_of_fault (fault_of_read hread)
    · exact ⟨nofun, nofun, nofun⟩

/-- What one piece does: its row has its text and is where it ought to be, and
    the invariant stays. -/
theorem step_placed (h : Stack maxDepth stack) (ws : List Word) :
    (∀ row ∈ (step maxDepth stack ws : Option (Row α) × List Opened).1,
        row.text = joinWords ws ∧ row.Placed maxDepth) ∧
      Stack maxDepth (step maxDepth stack ws : Option (Row α) × List Opened).2 := by
  cases ws with
  | nil => exact ⟨nofun, h⟩
  | cons head arguments =>
    unfold step
    dsimp only
    split
    · exact close_placed h _
    · split
      · exact opening_placed h _ fun _ => fault_of_countArgument
      · exact single_placed h _ head arguments

theorem rows_placed (h : Stack maxDepth stack) (wss : List (List Word)) :
    ∀ row ∈ (rows maxDepth stack wss : List (Row α)), row.Placed maxDepth := by
  induction wss generalizing stack with
  | nil => simp [rows]
  | cons ws rest ih =>
    intro row hrow
    obtain ⟨hplaced, hstack⟩ := step_placed (α := α) h ws
    rcases List.mem_append.1 hrow with hrow | hrow
    · exact (hplaced row (Option.mem_toList.1 hrow)).2
    · exact ih hstack row hrow

theorem texts_sublist (h : Stack maxDepth stack) (wss : List (List Word)) :
    ((rows maxDepth stack wss : List (Row α)).map Row.text).Sublist (wss.map joinWords) := by
  induction wss generalizing stack with
  | nil => exact List.Sublist.slnil
  | cons ws rest ih =>
    obtain ⟨hrows, hstack⟩ := step_placed (α := α) h ws
    rw [rows, List.map_append, List.map_cons, ← List.singleton_append]
    refine List.Sublist.append ?_ (ih hstack)
    cases hrow : (step maxDepth stack ws : Option (Row α) × List Opened).1 with
    | none => exact List.nil_sublist _
    | some row =>
      simp [(hrows row hrow).1]

end Scan

theorem listingAll_parse [Scalar α] (maxDepth : UInt32) (program : String) :
    (Statement.listingAll 0 (parse maxDepth program)).map Statement.Listed.row =
      (Scan.rows maxDepth [] ((pieces program).map words) : List (Row α)) := by
  have hscan := Scan.rows_kept (α := α) maxDepth 0 (segments program)
  rw [Statement.blockAt_zero_after, Scan.rowsOf, List.append_nil] at hscan
  rw [Scan.rows_eq, ← segments_eq_filterMap, Statement.parse_eq]
  exact hscan.symm

/-- **The listing of a parsed program** is what is scanned of its pieces with no
    block open.  Every block in it is less deep than allowed, a block that is
    nested too deep is exactly as deep as allowed, and an end without a block is
    outside of all blocks. -/
theorem parse_listing [Scalar α] (maxDepth : UInt32) (program : String) :
    let rows : List (Row α) := Scan.rows maxDepth [] ((pieces program).map words)
    (Statement.listingAll 0 (parse maxDepth program)).map Statement.Listed.row = rows ∧
      (rows.map Row.text).Sublist ((pieces program).map fun piece => joinWords (words piece)) ∧
      ∀ row ∈ rows, row.Placed maxDepth := by
  have hstack : Scan.Stack maxDepth [] := .kept 0 (Nat.zero_le _)
  refine ⟨listingAll_parse maxDepth program, ?_, Scan.rows_placed hstack _⟩
  have htexts := Scan.texts_sublist (α := α) hstack ((pieces program).map words)
  rwa [List.map_map] at htexts

end TurtleGraphics
