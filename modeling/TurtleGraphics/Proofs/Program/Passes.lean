/-
  Passes: how often a run counts that it runs a block.

  A run passes over the statements of a block once for each iteration, and hands on to
  them how often the blocks around them are run.  It multiplies machine words, but a
  block that is run too often is refused before it hands anything on, so that no product
  wraps around.

  * `Pass`: one pass over some statements, with the blocks around them;
  * `Statement.executeAllLogged` runs statements and keeps a log of the passes, and
    `Statement.executeAllLogged_fst`: otherwise it does the same;
  * `Pass.Covered` and `Statement.continues_executeAllLogged`: no pass is missing in the
    log;
  * `Limits.Tells`: what is handed on is the product of the counts, and no more than
    the limit;
  * `Limits.Tells.execute_loop`: what becomes of a block then, and
    `Limits.Tells.inside`: what is handed on if it is not refused;
  * `Statement.tells_executeAllLogged`: so it is with every pass of a run;
  * `products_are_exact`: no product of a run wraps around.
-/
import TurtleGraphics.Proofs.Program.Visits

namespace TurtleGraphics

variable {σ α : Type}

/-! ## Repetition -/

theorem map_repeat {β γ : Type} {f : β → β} {g : γ → γ} (project : β → γ)
    (h : ∀ b, project (f b) = g (project b)) (n : Nat) (b : β) :
    project (Nat.repeat f n b) = Nat.repeat g n (project b) := by
  induction n with
  | zero => rfl
  | succ n ih =>
    have hstep : Nat.repeat f (n + 1) b = f (Nat.repeat f n b) := rfl
    rw [hstep, h, ih]
    rfl

theorem repeat_induction {β : Type} {f : β → β} (Inv : β → Prop) (h : ∀ b, Inv b → Inv (f b))
    (n : Nat) {b : β} (hb : Inv b) : Inv (Nat.repeat f n b) := by
  induction n with
  | zero => exact hb
  | succ n ih => exact h _ ih

/-! ## Logs -/

/-- One pass over some statements. -/
structure Pass (α : Type) where
  /-- The counts of the blocks around the statements, the outermost one first. -/
  counts : List UInt32
  /-- How often these blocks run the statements, as the run has computed it. -/
  enclosing : UInt64
  statements : List (Statement α)

namespace Statement

mutual

/-- Runs a statement that is in blocks with the given counts, and keeps a log of the
    passes over the statements in it. -/
def executeLogged (limits : Limits) (session : Session σ α) (counts : List UInt32)
    (enclosing : UInt64) :
    Statement α → Progress σ α × List (Pass α) → Progress σ α × List (Pass α)
  | .command text c, (p, log) => (execute limits session enclosing (.command text c) p, log)
  | .loop text count body, (p, log) =>
    let iterations := enclosing * count.toUInt64
    if limits.repeatIterations.toUInt64 < iterations then
      (p.ignore text (.tooManyIterations iterations limits.repeatIterations), log)
    else Nat.repeat (fun (p, log) =>
      executeAllLogged limits session (counts ++ [count]) iterations body
        (p, log ++ [⟨counts ++ [count], iterations, body⟩])) count.toNat (p, log)
  | .ignored text reason, (p, log) =>
    (execute limits session enclosing (.ignored text reason) p, log)

/-- Runs statements in order, and keeps a log of the passes over the statements in
    them. -/
def executeAllLogged (limits : Limits) (session : Session σ α) (counts : List UInt32)
    (enclosing : UInt64) :
    List (Statement α) → Progress σ α × List (Pass α) → Progress σ α × List (Pass α)
  | [], run => run
  | s :: rest, run =>
    executeAllLogged limits session counts enclosing rest
      (executeLogged limits session counts enclosing s run)

end

mutual

theorem executeLogged_fst (limits : Limits) (session : Session σ α) :
    ∀ (s : Statement α) (counts : List UInt32) (enclosing : UInt64)
      (run : Progress σ α × List (Pass α)),
      (executeLogged limits session counts enclosing s run).1 =
        execute limits session enclosing s run.1
  | .command .., _, _, _ => rfl
  | .loop text count body, counts, enclosing, (p, log) => by
    simp only [executeLogged, execute]
    by_cases hrefused : limits.repeatIterations.toUInt64 < enclosing * count.toUInt64
    · rw [if_pos hrefused, if_pos hrefused]
    · rw [if_neg hrefused, if_neg hrefused]
      refine map_repeat Prod.fst ?_ count.toNat (p, log)
      intro run
      exact executeAllLogged_fst limits session body _ _ _
  | .ignored .., _, _, _ => rfl

/-- **Keeping a log** of the passes does not change what is done. -/
theorem executeAllLogged_fst (limits : Limits) (session : Session σ α) :
    ∀ (tree : List (Statement α)) (counts : List UInt32) (enclosing : UInt64)
      (run : Progress σ α × List (Pass α)),
      (executeAllLogged limits session counts enclosing tree run).1 =
        executeAll limits session enclosing tree run.1
  | [], _, _, _ => rfl
  | s :: rest, counts, enclosing, run => by
    rw [executeAllLogged, executeAll, executeAllLogged_fst limits session rest,
      executeLogged_fst limits session s]

end

end Statement

/-! ## Completeness -/

/-- The passes over a block among the statements of a pass. -/
def Pass.inside (pass : Pass α) (count : UInt32) (body : List (Statement α)) : Pass α :=
  ⟨pass.counts ++ [count], pass.enclosing * count.toUInt64, body⟩

/-- A log has a pass over every block among the statements of a pass, unless it is refused
    or has the count zero. -/
def Pass.Covered (limits : Limits) (log : List (Pass α)) (pass : Pass α) : Prop :=
  ∀ text count body, .loop text count body ∈ pass.statements →
    ¬ limits.repeatIterations.toUInt64 < pass.enclosing * count.toUInt64 → 0 < count.toNat →
      pass.inside count body ∈ log

/-- A log is continued, and whatever is new is covered. -/
structure Limits.Continues (limits : Limits) (before after : List (Pass α)) : Prop where
  subset : before ⊆ after
  covered : ∀ pass ∈ after, pass ∈ before ∨ pass.Covered limits after

namespace Limits.Continues

variable {limits : Limits} {first second third : List (Pass α)}

theorem refl (limits : Limits) (log : List (Pass α)) : limits.Continues log log where
  subset := List.Subset.refl log
  covered _ hpass := Or.inl hpass

theorem mono (h : limits.Continues first second) {pass : Pass α}
    (hpass : pass.Covered limits first) : pass.Covered limits second := by
  intro text count body hloop hrun hcount
  exact h.subset (hpass text count body hloop hrun hcount)

theorem trans (h : limits.Continues first second) (h' : limits.Continues second third) :
    limits.Continues first third where
  subset := List.Subset.trans h.subset h'.subset
  covered := by
    intro pass hpass
    rcases h'.covered pass hpass with hsecond | hcovered
    · exact (h.covered pass hsecond).imp_right h'.mono
    · exact Or.inr hcovered

theorem of_append {pass : Pass α} (h : limits.Continues (first ++ [pass]) second)
    (hpass : pass.Covered limits second) : limits.Continues first second where
  subset := List.Subset.trans (List.subset_append_left first [pass]) h.subset
  covered := by
    intro other hother
    rcases h.covered other hother with hmem | hcovered
    · refine (List.mem_append.1 hmem).imp_right ?_
      intro hlast
      rw [List.mem_singleton.1 hlast]
      exact hpass
    · exact Or.inr hcovered

end Limits.Continues

namespace Statement

mutual

theorem continues_executeLogged (limits : Limits) (session : Session σ α) :
    ∀ (s : Statement α) (counts : List UInt32) (enclosing : UInt64)
      (run : Progress σ α × List (Pass α)),
      limits.Continues run.2 (executeLogged limits session counts enclosing s run).2 ∧
        Pass.Covered limits (executeLogged limits session counts enclosing s run).2
          ⟨counts, enclosing, [s]⟩
  | .command .., _, _, (_, log) => by
    refine ⟨.refl limits log, ?_⟩
    intro text count body hloop
    cases List.mem_singleton.1 hloop
  | .loop text count body, counts, enclosing, (p, log) => by
    simp only [executeLogged]
    by_cases hrefused : limits.repeatIterations.toUInt64 < enclosing * count.toUInt64
    · rw [if_pos hrefused]
      refine ⟨.refl limits log, ?_⟩
      intro text' count' body' hloop hrun
      cases List.mem_singleton.1 hloop
      exact absurd hrefused hrun
    · rw [if_neg hrefused]
      -- one pass over the body is logged, and covered when it is over
      have hpass : ∀ run : Progress σ α × List (Pass α),
          let inside : Pass α := ⟨counts ++ [count], enclosing * count.toUInt64, body⟩
          let next := executeAllLogged limits session inside.counts inside.enclosing body
            (run.1, run.2 ++ [inside])
          limits.Continues run.2 next.2 ∧ inside ∈ next.2 := by
        intro run inside next
        obtain ⟨hcontinues, hcovered⟩ :=
          continues_executeAllLogged limits session body inside.counts inside.enclosing
            (run.1, run.2 ++ [inside])
        exact ⟨hcontinues.of_append hcovered,
          hcontinues.subset (List.mem_append_right _ (List.mem_singleton_self inside))⟩
      refine ⟨?_, ?_⟩
      · refine repeat_induction (fun run : Progress σ α × List (Pass α) =>
          limits.Continues log run.2) ?_ count.toNat (.refl limits log)
        intro run hrun
        exact hrun.trans (hpass run).1
      · intro text' count' body' hloop _ hcount
        cases List.mem_singleton.1 hloop
        obtain ⟨n, hn⟩ := Nat.exists_eq_add_of_lt hcount
        rw [Nat.zero_add] at hn
        rw [hn]
        exact (hpass _).2
  | .ignored .., _, _, (_, log) => by
    refine ⟨.refl limits log, ?_⟩
    intro text count body hloop
    cases List.mem_singleton.1 hloop

/-- **No pass is missing**: statements that are run continue the log, and they are covered. -/
theorem continues_executeAllLogged (limits : Limits) (session : Session σ α) :
    ∀ (tree : List (Statement α)) (counts : List UInt32) (enclosing : UInt64)
      (run : Progress σ α × List (Pass α)),
      limits.Continues run.2 (executeAllLogged limits session counts enclosing tree run).2 ∧
        Pass.Covered limits (executeAllLogged limits session counts enclosing tree run).2
          ⟨counts, enclosing, tree⟩
  | [], _, _, (_, log) => by
    refine ⟨.refl limits log, ?_⟩
    intro text count body hloop
    exact absurd hloop List.not_mem_nil
  | s :: rest, counts, enclosing, run => by
    obtain ⟨hfirst, hs⟩ := continues_executeLogged limits session s counts enclosing run
    obtain ⟨hrest, htree⟩ := continues_executeAllLogged limits session rest counts enclosing
      (executeLogged limits session counts enclosing s run)
    rw [executeAllLogged]
    refine ⟨hfirst.trans hrest, ?_⟩
    intro text count body hloop
    rcases List.mem_cons.1 hloop with rfl | hloop
    · exact hrest.mono hs text count body (List.mem_singleton_self _)
    · exact htree text count body hloop

end

end Statement

/-! ## Products -/

/-- What the statements in blocks with the given counts are told of these: the product
    of the counts, which is no more than the limit. -/
structure Limits.Tells (limits : Limits) (counts : List UInt32) (enclosing : UInt64) : Prop where
  enclosing_eq : enclosing.toNat = iterations counts
  enclosing_le : enclosing.toNat ≤ limits.mostRuns

namespace Limits.Tells

variable {limits : Limits} {counts : List UInt32} {enclosing : UInt64}

theorem outside (limits : Limits) : limits.Tells [] 1 where
  enclosing_eq := rfl
  enclosing_le := Nat.le_max_left ..

theorem toNat_iterations (h : limits.Tells counts enclosing) (count : UInt32) :
    (enclosing * count.toUInt64).toNat = iterations (counts ++ [count]) := by
  rw [Statement.toNat_iterations h.enclosing_le, iterations_concat, h.enclosing_eq]

theorem product_lt (h : limits.Tells counts enclosing) (count : UInt32) :
    enclosing.toNat * count.toNat < UInt64.size := by
  rw [← Statement.toNat_iterations h.enclosing_le]
  exact (enclosing * count.toUInt64).toNat_lt

/-- **A block** is run as often as its count says, or it is refused and reported with the
    product, which decides about that. -/
theorem execute_loop (h : limits.Tells counts enclosing) (session : Session σ α) (text : String)
    (count : UInt32) (body : List (Statement α)) (p : Progress σ α) :
    Statement.execute limits session enclosing (.loop text count body) p =
      if iterations (counts ++ [count]) ≤ limits.repeatIterations.toNat then
        Nat.repeat (Statement.executeAll limits session (enclosing * count.toUInt64) body)
          count.toNat p
      else p.ignore text
        (.tooManyIterations (enclosing * count.toUInt64) limits.repeatIterations) := by
  rw [Statement.execute, iterations_concat, ← h.enclosing_eq]
  simp only [Statement.refused_iff h.enclosing_le, ite_not]

theorem inside (h : limits.Tells counts enclosing) {count : UInt32}
    (hrun : ¬ limits.repeatIterations.toUInt64 < enclosing * count.toUInt64) :
    limits.Tells (counts ++ [count]) (enclosing * count.toUInt64) where
  enclosing_eq := h.toNat_iterations count
  enclosing_le := by
    rw [UInt64.lt_iff_toNat_lt, UInt32.toNat_toUInt64] at hrun
    exact (Nat.le_of_not_lt hrun).trans (Nat.le_max_right ..)

end Limits.Tells

/-- Every pass in a log is told the product of the counts. -/
def Limits.TellsAll (limits : Limits) (log : List (Pass α)) : Prop :=
  ∀ pass ∈ log, limits.Tells pass.counts pass.enclosing

namespace Statement

mutual

theorem tells_executeLogged (limits : Limits) (session : Session σ α) :
    ∀ (s : Statement α) {counts : List UInt32} {enclosing : UInt64}
      {run : Progress σ α × List (Pass α)},
      limits.Tells counts enclosing → limits.TellsAll run.2 →
        limits.TellsAll (executeLogged limits session counts enclosing s run).2
  | .command .., _, _, _, _, hlog => hlog
  | .loop text count body, counts, enclosing, (p, log), h, hlog => by
    simp only [executeLogged]
    by_cases hrefused : limits.repeatIterations.toUInt64 < enclosing * count.toUInt64
    · rw [if_pos hrefused]
      exact hlog
    · rw [if_neg hrefused]
      have hinside := h.inside hrefused
      refine repeat_induction (fun run : Progress σ α × List (Pass α) => limits.TellsAll run.2)
        ?_ count.toNat hlog
      intro run hrun
      refine tells_executeAllLogged limits session body hinside ?_
      intro pass hpass
      rcases List.mem_append.1 hpass with hpass | hpass
      · exact hrun pass hpass
      · rw [List.mem_singleton.1 hpass]
        exact hinside
  | .ignored .., _, _, _, _, hlog => hlog

/-- **Every pass of a run** is told the product of the counts, if its first one is. -/
theorem tells_executeAllLogged (limits : Limits) (session : Session σ α) :
    ∀ (tree : List (Statement α)) {counts : List UInt32} {enclosing : UInt64}
      {run : Progress σ α × List (Pass α)},
      limits.Tells counts enclosing → limits.TellsAll run.2 →
        limits.TellsAll (executeAllLogged limits session counts enclosing tree run).2
  | [], _, _, _, _, hlog => hlog
  | s :: rest, _, _, _, h, hlog => by
    rw [executeAllLogged]
    exact tells_executeAllLogged limits session rest h
      (tells_executeLogged limits session s h hlog)

end

/-- A run of statements outside of all blocks, with a log of its passes. -/
def trace (limits : Limits) (session : Session σ α) (tree : List (Statement α)) (state : σ) :
    Progress σ α × List (Pass α) :=
  executeAllLogged limits session [] 1 tree (⟨state, #[]⟩, [⟨[], 1, tree⟩])

theorem trace_fst (limits : Limits) (session : Session σ α) (tree : List (Statement α))
    (state : σ) :
    (trace limits session tree state).1 = executeAll limits session 1 tree ⟨state, #[]⟩ :=
  executeAllLogged_fst limits session tree [] 1 _

/-- A log starts with the run itself, and no pass is missing in it. -/
theorem covered_trace (limits : Limits) (session : Session σ α) (tree : List (Statement α))
    (state : σ) :
    let log := (trace limits session tree state).2
    ⟨[], 1, tree⟩ ∈ log ∧ ∀ pass ∈ log, pass.Covered limits log := by
  intro log
  obtain ⟨hcontinues, hcovered⟩ := continues_executeAllLogged limits session tree [] 1
    (⟨state, #[]⟩, [⟨[], 1, tree⟩])
  have hall : limits.Continues [] log := hcontinues.of_append hcovered
  refine ⟨hcontinues.subset (List.mem_singleton_self _), ?_⟩
  intro pass hpass
  exact (hall.covered pass hpass).resolve_left List.not_mem_nil

theorem tells_trace (limits : Limits) (session : Session σ α) (tree : List (Statement α))
    (state : σ) : limits.TellsAll (trace limits session tree state).2 := by
  refine tells_executeAllLogged limits session tree (.outside limits) ?_
  intro pass hpass
  rw [List.mem_singleton.1 hpass]
  exact .outside limits

end Statement

/-- **The products of a run are exact.**  A run of any statements, and so of any program,
    tells each of its passes no more than the limit allows, and exactly the product of
    the counts of the blocks around it.  What it multiplies with the count of a block in
    such a pass does not wrap around: it is the product of the counts of the block and of
    those around it, by which it decides whether to run the block, and which it reports
    if it does not. -/
theorem products_are_exact (limits : Limits) (session : Session σ α) (state : σ) :
    (∀ tree : List (Statement α),
      let traced := Statement.trace limits session tree state
      traced.1 = Statement.executeAll limits session 1 tree ⟨state, #[]⟩ ∧
        ⟨[], 1, tree⟩ ∈ traced.2 ∧
        ∀ pass ∈ traced.2,
          pass.Covered limits traced.2 ∧
            pass.enclosing.toNat ≤ max 1 limits.repeatIterations.toNat ∧
            pass.enclosing.toNat = iterations pass.counts ∧
            ∀ text count body, .loop text count body ∈ pass.statements →
              let product := pass.enclosing * count.toUInt64
              pass.enclosing.toNat * count.toNat < UInt64.size ∧
                product.toNat = iterations (pass.counts ++ [count]) ∧
                ∀ p, Statement.execute limits session pass.enclosing (.loop text count body) p =
                  if iterations (pass.counts ++ [count]) ≤ limits.repeatIterations.toNat then
                    Nat.repeat (Statement.executeAll limits session product body) count.toNat p
                  else p.ignore text (.tooManyIterations product limits.repeatIterations)) ∧
      ∀ [Scalar α] (program : String),
        let traced := Statement.trace limits session (parse limits.repeatDepth program) state
        limits.run session program state =
          (traced.1.reports.toList, session.finish traced.1.state) := by
  refine ⟨?_, ?_⟩
  · intro tree traced
    obtain ⟨hstart, hcovered⟩ := Statement.covered_trace limits session tree state
    refine ⟨Statement.trace_fst limits session tree state, hstart, ?_⟩
    intro pass hpass
    have h : limits.Tells pass.counts pass.enclosing :=
      Statement.tells_trace limits session tree state pass hpass
    refine ⟨hcovered pass hpass, h.enclosing_le, h.enclosing_eq, ?_⟩
    intro text count body _ product
    exact ⟨h.product_lt count, h.toNat_iterations count, h.execute_loop session text count body⟩
  · intro _ program traced
    rw [Limits.run, show traced.1 = _ from Statement.trace_fst ..]

/-- Two blocks that are run as often as the limit allows, and in them one with the
    greatest count there is. -/
theorem product_of_greatest_count_is_exact :
    let limits : Limits := { Limits.standard with repeatIterations := 10 }
    let session : Session Nat Float := ⟨fun n _ => (.applied, n + 1), id⟩
    let inner : Statement Float := .loop "repeat 4294967295" 4294967295 [.command "pu" .penUp]
    let tree : List (Statement Float) := [.loop "repeat 2" 2 [.loop "repeat 5" 5 [inner]]]
    let pass : Pass Float := ⟨[2, 5], 10, [inner]⟩
    let traced := Statement.trace limits session tree 0
    (pass ∈ traced.2 ∧ inner ∈ pass.statements) ∧
      traced.1 = Statement.executeAll limits session 1 tree ⟨0, #[]⟩ ∧
      ∀ p, Statement.execute limits session 10 inner p =
        p.ignore "repeat 4294967295" (.tooManyIterations 42949672950 10) := by
  intro limits session inner tree pass traced
  have hpass : pass ∈ traced.2 := List.mem_of_getElem? (i := 2) rfl
  have hinner : inner ∈ pass.statements := List.mem_singleton_self _
  obtain ⟨hsame, -, hpasses⟩ := (products_are_exact limits session 0).1 tree
  obtain ⟨-, -, -, hloops⟩ := hpasses pass hpass
  obtain ⟨-, -, hexecute⟩ := hloops _ _ _ hinner
  have hvalue : pass.enclosing * UInt32.toUInt64 4294967295 = 42949672950 := by decide
  have hrefused : ¬ iterations (pass.counts ++ [4294967295]) ≤ limits.repeatIterations.toNat := by
    decide
  refine ⟨⟨hpass, hinner⟩, hsame, ?_⟩
  intro p
  have hignored := hexecute p
  rw [if_neg hrefused, hvalue] at hignored
  exact hignored

end TurtleGraphics
