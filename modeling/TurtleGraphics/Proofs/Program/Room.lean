/-
  Room: limits that are not reached do not matter.

  A run that reports no refused block has had room enough: it would have carried
  out the same with more.  There is more room where blocks may be nested deeper,
  or stand in fewer others, and where they may be run more often, or are run less
  often by the blocks around them.

  * `Outcome.RefusesBlock`: a statement is ignored as a block that is nested too
    deep or run too often;
  * `Entry.admitted_of_reports`: if no report says so, no entry of the unrolling
    stands for such a block;
  * `Statement.unroll_loop_admitted`: what a block is then unrolled to;
  * `Statement.Roomier`: the places with more room;
  * `Statement.unrollAll_roomier`: statements that are read and unrolled at such a
    place have the same entries there.
-/
import TurtleGraphics.Proofs.Program.Closing
import TurtleGraphics.Proofs.Program.Unrolling

namespace TurtleGraphics

variable {σ α : Type}

/-! ## Refused blocks -/

/-- The reason why a block is refused: it is nested too deep, or run too often. -/
def Ignored.RefusesBlock : Ignored α → Prop
  | nestingTooDeep _ => True
  | tooManyIterations .. => True
  | _ => False

instance (reason : Ignored α) : Decidable reason.RefusesBlock := by
  unfold Ignored.RefusesBlock
  split <;> infer_instance

/-- The outcome of a block that is refused. -/
def Outcome.RefusesBlock : Outcome α → Prop
  | applied => False
  | ignored reason => reason.RefusesBlock

instance (outcome : Outcome α) : Decidable outcome.RefusesBlock := by
  unfold Outcome.RefusesBlock
  split <;> infer_instance

/-- An entry stands for a block that is refused. -/
def Entry.RefusesBlock (e : Entry α) : Prop :=
  match e.request with
  | .perform _ => False
  | .ignore reason => reason.RefusesBlock
  | .refuse _ => True

namespace Entry

variable {limits : Limits} {session : Session σ α}

theorem refusesBlock_settle {e : Entry α} (h : e.RefusesBlock) (state : σ) :
    (e.settle limits session state).1.RefusesBlock := by
  obtain ⟨text, request⟩ := e
  cases request with
  | perform c => exact h.elim
  | ignore reason => exact h
  | refuse iterations => trivial

theorem admitted_of_reports {entries : List (Entry α)} {state : σ}
    (h : ∀ r ∈ reportsOn limits session state entries, ¬ r.outcome.RefusesBlock) :
    ∀ e ∈ entries, ¬ e.RefusesBlock := by
  induction entries generalizing state with
  | nil => simp
  | cons e rest ih =>
    rw [reportsOn_cons] at h
    obtain ⟨hfirst, hrest⟩ := List.forall_mem_cons.1 h
    exact List.forall_mem_cons.2 ⟨fun he => hfirst (refusesBlock_settle he state), ih hrest⟩

end Entry

namespace Statement

/-- A block of which no entry is refused is unrolled to the entries of its body,
    once for each iteration. -/
theorem unroll_loop_admitted {limits : Limits} {enclosing : Nat} {text : String} {count : UInt32}
    {body : List (Statement α)}
    (h : ∀ e ∈ unroll limits enclosing (.loop text count body), ¬ e.RefusesBlock) :
    enclosing * count.toNat ≤ limits.repeatIterations.toNat ∧
      unroll limits enclosing (.loop text count body) =
        (List.replicate count.toNat
          (unrollAll limits (enclosing * count.toNat) body)).flatten ∧
      (count.toNat ≠ 0 →
        ∀ e ∈ unrollAll limits (enclosing * count.toNat) body, ¬ e.RefusesBlock) := by
  by_cases hrun : enclosing * count.toNat ≤ limits.repeatIterations.toNat
  · have hunroll : unroll limits enclosing (.loop text count body) =
        (List.replicate count.toNat
          (unrollAll limits (enclosing * count.toNat) body)).flatten := by
      simp only [unroll, if_pos hrun]
    refine ⟨hrun, hunroll, ?_⟩
    intro hcount e he
    refine h e ?_
    rw [hunroll]
    exact List.mem_flatten.2 ⟨_, List.mem_replicate.2 ⟨hcount, rfl⟩, he⟩
  · have hunroll : unroll limits enclosing (.loop text count body) =
        [⟨text, .refuse (enclosing * count.toNat)⟩] := by
      simp only [unroll, if_neg hrun]
    rw [hunroll] at h
    exact absurd trivial (h _ (List.mem_singleton_self _))

/-! ## More room -/

/-- There is no less room at the place with a prime: between the depth and the
    greatest depth, and between the iterations and the most of them. -/
structure Roomier (limits limits' : Limits) (depth depth' enclosing enclosing' : Nat) : Prop where
  depth : limits.repeatDepth.toNat + depth' ≤ limits'.repeatDepth.toNat + depth
  ceiling : limits.repeatIterations.toNat ≤ limits'.repeatIterations.toNat
  enclosing : enclosing' ≤ enclosing

namespace Roomier

variable {limits limits' : Limits} {depth depth' enclosing enclosing' : Nat}

theorem inside (h : Roomier limits limits' depth depth' enclosing enclosing') (count : Nat) :
    Roomier limits limits' (depth + 1) (depth' + 1) (enclosing * count) (enclosing' * count) where
  depth := by
    have := h.depth
    omega
  ceiling := h.ceiling
  enclosing := Nat.mul_le_mul_right count h.enclosing

theorem unroll_loop (h : Roomier limits limits' depth depth' enclosing enclosing') {text : String}
    {count : UInt32} {body body' : List (Statement α)}
    (hbody : (∀ e ∈ unrollAll limits (enclosing * count.toNat) body, ¬ e.RefusesBlock) →
      unrollAll limits' (enclosing' * count.toNat) body' =
        unrollAll limits (enclosing * count.toNat) body)
    (hadmitted : ∀ e ∈ unroll limits enclosing (.loop text count body), ¬ e.RefusesBlock) :
    unroll limits' enclosing' (.loop text count body') =
      unroll limits enclosing (.loop text count body) := by
  obtain ⟨hrun, hunroll, hinside⟩ := unroll_loop_admitted hadmitted
  have hrun' : enclosing' * count.toNat ≤ limits'.repeatIterations.toNat :=
    Nat.le_trans (h.inside count.toNat).enclosing (Nat.le_trans hrun h.ceiling)
  rw [hunroll, unroll, if_pos hrun']
  by_cases hcount : count.toNat = 0
  · rw [hcount]
    rfl
  · rw [hbody (hinside hcount)]

end Roomier

open Segment

/-- **With more room the entries are the same**, if no block is refused.  The
    segments are read in blocks at both places, or in none at both, unless there is
    no stray end, which would be taken for the end of a block. -/
theorem unrollAll_roomier {limits limits' : Limits} {depth depth' enclosing enclosing' : Nat}
    (hroom : Roomier limits limits' depth depth' enclosing enclosing')
    (segments : List (Segment α))
    (hstray : (0 < depth ↔ 0 < depth') ∨ strayEnds 0 segments = 0)
    (hadmitted : ∀ e ∈ unrollAll limits enclosing (blockAt limits.repeatDepth depth segments).1,
      ¬ e.RefusesBlock) :
    unrollAll limits' enclosing' (blockAt limits'.repeatDepth depth' segments).1 =
      unrollAll limits enclosing (blockAt limits.repeatDepth depth segments).1 := by
  induction depth, segments using blockAt_induction limits.repeatDepth
    generalizing depth' enclosing enclosing' with
  | nil depth => rw [blockAt_nil, blockAt_nil]; rfl
  | close depth text rest h =>
    rcases hstray with hiff | hnone
    · rw [blockAt_close h, blockAt_close (hiff.1 h)]
      rfl
    · exact absurd hnone (Nat.succ_ne_zero _)
  | stray text rest ih =>
    rcases hstray with hiff | hnone
    · obtain rfl : depth' = 0 := by omega
      rw [blockAt_stray, unrollAll] at hadmitted
      rw [blockAt_stray, blockAt_stray, unrollAll, unrollAll,
        ih hroom (.inl hiff) (List.forall_mem_append.1 hadmitted).2]
      rfl
    · exact absurd hnone (Nat.succ_ne_zero _)
  | deep depth text count rest h ih =>
    -- this block would be refused at the first place
    rw [blockAt_deep h] at hadmitted
    exact absurd trivial (hadmitted _ (List.mem_cons_self ..))
  | opening depth text count rest h ihbody ih =>
    have h' : ¬ limits'.repeatDepth.toNat ≤ depth' := by
      have := hroom.depth
      omega
    have hinside : (0 < depth + 1 ↔ 0 < depth' + 1) ∨ strayEnds 0 rest = 0 :=
      .inl (iff_of_true (Nat.succ_pos _) (Nat.succ_pos _))
    -- both places go on with the same segments behind the block
    rw [strayEnds, ← strayEnds_skip 0 0] at hstray
    rw [blockAt_after _ _ _ (Nat.succ_pos depth)] at ih
    rw [blockAt_opening h, unrollAll, blockAt_after _ _ _ (Nat.succ_pos depth)] at hadmitted
    rw [blockAt_opening h, blockAt_opening h', unrollAll, unrollAll,
      blockAt_after _ _ _ (Nat.succ_pos depth), blockAt_after _ _ _ (Nat.succ_pos depth')]
    obtain ⟨hblock, hrest⟩ := List.forall_mem_append.1 hadmitted
    rw [ih hroom hstray hrest]
    cases count with
    | ok count =>
      have hloop := hroom.unroll_loop (ihbody (hroom.inside count.toNat) hinside) hblock
      rw [ofBlock, ofBlock, hloop]
    | error reason => rfl
  | single depth text c rest ih =>
    rw [blockAt_single, unrollAll] at hadmitted
    rw [blockAt_single, blockAt_single, unrollAll, unrollAll,
      ih hroom hstray (List.forall_mem_append.1 hadmitted).2]
    cases c <;> rfl

end Statement

end TurtleGraphics
