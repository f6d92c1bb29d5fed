/-
  Excursions: walks that a turtle comes back from.

  A turtle may save its pose, walk about, and go back.  If the walk in between goes back to
  all poses that it saves, and to no other, then the turtle is again where it was; what is
  left of the excursion is what was drawn, and the pen.

  * `Walk.Balanced` are the walks that go back to just what they save.
    `Walk.Balanced.walkFrom_eq`: they leave the poses alone that were saved before;
  * `Walk.excursion` is such a walk from a saved pose and back;
  * `Turtle.Sketches` is what makes a turtle draw without looking at its drawing: what it does
    is decided by its pose, its pen and its style;
  * `Turtle.drawnBy` is what a walk adds to the trace of a turtle;
  * `Turtle.Sketches.detour`: an excursion adds to the trace, and nothing that comes behind it
    is different.
-/
import TurtleGraphics.Proofs.Turtle.Companions
import TurtleGraphics.Proofs.Turtle.Strokes

namespace TurtleGraphics

variable {τ α ρ : Type}

/-! ## Balanced walks -/

/-- The move neither saves a pose nor goes back to one. -/
def Move.Free : Move α → Prop
  | save | restore => False
  | _ => True

theorem Move.Free.step_eq [Turtle τ α ρ] {move : Move α} (h : move.Free) (t : τ)
    (saved : List ρ) : move.step (t, saved) = ((move.step (t, [])).1, saved) := by
  cases move with
  | save | restore => exact h.elim
  | _ => rfl

namespace Walk

/-- Walks that go back to all poses that they save, and to no other. -/
inductive Balanced : List (Move α) → Prop where
  | nil : Balanced []
  | cons {move : Move α} {rest : List (Move α)} : move.Free → Balanced rest →
      Balanced (move :: rest)
  | excursion {inner rest : List (Move α)} : Balanced inner → Balanced rest →
      Balanced (.save :: (inner ++ .restore :: rest))

/-- The walk from a saved pose and back. -/
def excursion (inner : List (Move α)) : List (Move α) := .save :: (inner ++ [.restore])

namespace Balanced

variable {moves first second inner : List (Move α)}

theorem of_free (h : ∀ move ∈ moves, move.Free) : Balanced moves := by
  induction moves with
  | nil => exact .nil
  | cons move rest ih =>
    obtain ⟨hmove, hrest⟩ := List.forall_mem_cons.1 h
    exact .cons hmove (ih hrest)

theorem append (hfirst : Balanced first) (hsecond : Balanced second) :
    Balanced (first ++ second) := by
  induction hfirst with
  | nil => exact hsecond
  | cons hmove _ ih => exact .cons hmove ih
  | @excursion inner rest hinner _ _ ih =>
    rw [List.cons_append, List.append_assoc, List.cons_append]
    exact .excursion hinner ih

theorem of_excursion (h : Balanced inner) : Balanced (Walk.excursion inner) := .excursion h .nil

variable [Turtle τ α ρ]

/-- **A balanced walk** does not look at the poses that were saved before, and leaves them
    there. -/
theorem walkFrom_eq (h : Balanced moves) (t : τ) (saved : List ρ) :
    Turtle.walkFrom (t, saved) moves = (Turtle.walk t moves, saved) := by
  induction h generalizing t saved with
  | nil => rfl
  | @cons move rest hmove _ ih =>
    have hwalk : Turtle.walk t (move :: rest) = Turtle.walk (move.step (t, [])).1 rest := by
      change (Turtle.walkFrom (move.step (t, [])) rest).1 = _
      rw [hmove.step_eq, ih]
    change Turtle.walkFrom (move.step (t, saved)) rest = _
    rw [hmove.step_eq, ih, hwalk]
  | @excursion inner rest _ _ ihinner ihrest =>
    have hback : ∀ saved : List ρ, Turtle.walkFrom (t, saved) (.save :: (inner ++ .restore :: rest)) =
        (Turtle.walk (Turtle.setPose (Turtle.walk t inner) (Turtle.pose t)) rest, saved) := by
      intro saved
      change Turtle.walkFrom (t, Turtle.pose t :: saved) (inner ++ .restore :: rest) = _
      rw [Turtle.walkFrom_append, ihinner]
      exact ihrest _ saved
    have hwalk : Turtle.walk t (.save :: (inner ++ .restore :: rest)) =
        Turtle.walk (Turtle.setPose (Turtle.walk t inner) (Turtle.pose t)) rest := by
      rw [Turtle.walk, hback]
    rw [hback, hwalk]

theorem walk_append (h : Balanced first) (t : τ) (second : List (Move α)) :
    Turtle.walk t (first ++ second) = Turtle.walk (Turtle.walk t first) second := by
  rw [Turtle.walk, Turtle.walkFrom_append, h.walkFrom_eq]
  rfl

theorem walk_excursion (h : Balanced inner) (t : τ) :
    Turtle.walk t (Walk.excursion inner) =
      Turtle.setPose (Turtle.walk t inner) (Turtle.pose t) := by
  change (Turtle.walkFrom (t, [Turtle.pose t]) (inner ++ [.restore])).1 = _
  rw [Turtle.walkFrom_append, h.walkFrom_eq]
  rfl

end Balanced

end Walk

/-! ## Sketches -/

variable {β ν : Type} [Turtle τ α ρ]

namespace Turtle

/-- Two turtles in one pose, with their pens and styles alike. -/
structure Same (pen : τ → Bool) (style : τ → ν) (t t' : τ) : Prop where
  pose : Turtle.pose t = Turtle.pose t'
  pen : pen t = pen t'
  style : style t = style t'

/-- Such turtles that have drawn the same since `before` was the trace of one, and `before'`
    that of the other. -/
structure Alike (pen : τ → Bool) (style : τ → ν) (trace : τ → List β) (before before' : List β)
    (t t' : τ) : Prop extends Same pen style t t' where
  trace : ∃ drawn, trace t = before ++ drawn ∧ trace t' = before' ++ drawn

/-- What a walk adds to the trace of a turtle. -/
def drawnBy (trace : τ → List β) (t : τ) (moves : List (Move α)) : List β :=
  (trace (walk t moves)).drop (trace t).length

/-- What the primitive operations of a turtle are decided by: its pose, its pen and its style,
    which they keep.  They do not look at the trace, and only add to it. -/
structure Sketches (pen : τ → Bool) (style : τ → ν) (trace : τ → List β) : Prop where
  draws : Draws pen trace
  keeps : ∀ s, Keeps (fun t : τ => style t = s) fun _ => True
  pose_setPose : ∀ (t : τ) pose, Turtle.pose (Turtle.setPose t pose) = pose
  inStep : ∀ before before', InStep (Alike pen style trace before before') (· = ·)

namespace Same

variable {pen : τ → Bool} {style : τ → ν} {t t' t'' : τ}

theorem trans (h : Same pen style t t') (h' : Same pen style t' t'') : Same pen style t t'' :=
  ⟨h.pose.trans h'.pose, h.pen.trans h'.pen, h.style.trans h'.style⟩

theorem symm (h : Same pen style t t') : Same pen style t' t :=
  ⟨h.pose.symm, h.pen.symm, h.style.symm⟩

end Same

theorem Draws.pen_walk {pen : τ → Bool} {trace : τ → List β} (h : Draws pen trace) (t : τ)
    (moves : List (Move α)) : pen (Turtle.walk t moves) = Walk.penBehind (pen t) moves := by
  have hrun : ∀ (moves : List (Move α)) (walker : τ × List ρ),
      pen (Turtle.walkFrom walker moves).1 = Walk.penBehind (pen walker.1) moves := by
    intro moves
    induction moves with
    | nil => exact fun _ => rfl
    | cons move rest ih =>
      intro walker
      rw [Walk.penBehind_cons, ← (h.step walker move).1]
      exact ih _
  exact hrun moves (t, [])

namespace Sketches

variable {pen : τ → Bool} {style : τ → ν} {trace : τ → List β} {t t' : τ}
  {moves first inner : List (Move α)}

theorem trace_walk (h : Sketches pen style trace) (t : τ) (moves : List (Move α)) :
    trace (walk t moves) = trace t ++ drawnBy trace t moves := by
  obtain ⟨drawn, hdrawn, -⟩ := h.draws.walk t moves
  rw [drawnBy, hdrawn, List.drop_left]

theorem style_walk (h : Sketches pen style trace) (t : τ) (moves : List (Move α)) :
    style (walk t moves) = style t :=
  (h.keeps (style t)).walk rfl moves

/-- **Turtles that are alike** stay so, and draw the same. -/
theorem walk_same (h : Sketches pen style trace) (hsame : Same pen style t t')
    (moves : List (Move α)) :
    Same pen style (walk t moves) (walk t' moves) ∧
      drawnBy trace t moves = drawnBy trace t' moves := by
  have halike : Alike pen style trace (trace t) (trace t') t t' :=
    ⟨hsame, [], (List.append_nil _).symm, (List.append_nil _).symm⟩
  obtain ⟨hbehind, drawn, hdrawn, hdrawn'⟩ := (h.inStep _ _).walk halike moves
  refine ⟨hbehind, ?_⟩
  rw [drawnBy, drawnBy, hdrawn, hdrawn', List.drop_left, List.drop_left]

theorem drawnBy_right (h : Sketches pen style trace) (t : τ) (degrees : α)
    (moves : List (Move α)) :
    drawnBy trace t (.right degrees :: moves) = drawnBy trace (Turtle.turnRight t degrees) moves := by
  rw [drawnBy, drawnBy, (h.draws.turnRight t degrees).2]
  rfl

theorem drawnBy_left (h : Sketches pen style trace) (t : τ) (degrees : α)
    (moves : List (Move α)) :
    drawnBy trace t (.left degrees :: moves) = drawnBy trace (Turtle.turnLeft t degrees) moves := by
  rw [drawnBy, drawnBy, (h.draws.turnLeft t degrees).2]
  rfl

theorem drawnBy_append (h : Sketches pen style trace) (hfirst : Walk.Balanced first) (t : τ)
    (second : List (Move α)) :
    drawnBy trace t (first ++ second) =
      drawnBy trace t first ++ drawnBy trace (walk t first) second := by
  have hall : trace t ++ drawnBy trace t (first ++ second) =
      trace t ++ (drawnBy trace t first ++ drawnBy trace (walk t first) second) := by
    rw [← h.trace_walk, hfirst.walk_append, h.trace_walk, h.trace_walk, List.append_assoc]
  exact List.append_cancel_left hall

/-- Behind an excursion that leaves the pen as it was, everything is as before but for what
    was drawn on the way. -/
theorem excursion (h : Sketches pen style trace) (hinner : Walk.Balanced inner)
    (hpen : Walk.penBehind (pen t) inner = pen t) :
    Same pen style (walk t (Walk.excursion inner)) t ∧
      drawnBy trace t (Walk.excursion inner) = drawnBy trace t inner := by
  rw [drawnBy, hinner.walk_excursion]
  obtain ⟨hpenBack, htraceBack⟩ := h.draws.setPose (walk t inner) (Turtle.pose t)
  refine ⟨⟨h.pose_setPose _ _, ?_, ?_⟩, ?_⟩
  · rw [hpenBack, h.draws.pen_walk, hpen]
  · exact (h.keeps (style t)).setPose _ _ (h.style_walk t inner) trivial
  · rw [htraceBack, drawnBy]

/-- **A detour**: an excursion in the middle of a walk adds what it draws, and nothing behind
    it is different. -/
theorem detour (h : Sketches pen style trace) (hfirst : Walk.Balanced first)
    (hinner : Walk.Balanced inner)
    (hpen : Walk.penBehind (pen (walk t first)) inner = pen (walk t first))
    (rest : List (Move α)) :
    Same pen style (walk t (first ++ (Walk.excursion inner ++ rest))) (walk (walk t first) rest) ∧
      drawnBy trace t (first ++ (Walk.excursion inner ++ rest)) =
        drawnBy trace t first ++
          (drawnBy trace (walk t first) inner ++ drawnBy trace (walk t first) rest) := by
  obtain ⟨hsame, hdrawn⟩ := h.excursion hinner hpen
  obtain ⟨hrest, hdrawnRest⟩ := h.walk_same hsame rest
  rw [hfirst.walk_append, hinner.of_excursion.walk_append, h.drawnBy_append hfirst,
    h.drawnBy_append hinner.of_excursion, hdrawn, hdrawnRest]
  exact ⟨hrest, rfl⟩

end Sketches

end Turtle

end TurtleGraphics
