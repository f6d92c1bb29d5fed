/-
  Turns: where a walk makes a turtle head.

  The turn of a walk can be told from its moves.  A turtle reduces its heading with every turn,
  so that it heads, up to full turns, where the sum of all turns makes it.  It does not matter
  which moves are dropped on the way; only a pose that is gone back to brings another heading.

  * `Walk.turn`: the turns of a walk to the right, less those to the left;
  * `Turtle.Steers` is a heading that each move changes by its turn, and `Turtle.Retains` is
    what no move changes; `Turtle.Steers.walkFrom`, `Turtle.Retains.walkFrom`: so it is with
    every walk that goes back to no pose;
  * `PlaneTurtle.steers`, `SpaceTurtle.steers`: so turtles head, and `SpaceTurtle.retains_pitch`:
    walks keep the pitch;
  * `PlaneTurtle.keeps_heading`, `SpaceTurtle.keeps_yaw`: headings stay in their range;
  * `Walk.Aligned` is a walk of full turns, and `Walk.Aligned.heading_walk`,
    `Walk.Aligned.yaw_walk`: it leaves a turtle with the heading that it had.

  The numbers are real here.
-/
import TurtleGraphics.Proofs.Geometry.Angles
import TurtleGraphics.Proofs.Session.Board

namespace TurtleGraphics

/-! ## Walks -/

/-- The turn of a move to the right, in degrees. -/
noncomputable def Move.turn : Move ℝ → ℝ
  | left degrees => -degrees
  | right degrees => degrees
  | _ => 0

namespace Walk

/-- All turns of a walk to the right, less those to the left. -/
noncomputable def turn (moves : List (Move ℝ)) : ℝ := (moves.map Move.turn).sum

@[simp] theorem turn_nil : turn [] = 0 := rfl

@[simp] theorem turn_cons (move : Move ℝ) (rest : List (Move ℝ)) :
    turn (move :: rest) = move.turn + turn rest := List.sum_cons

@[simp] theorem turn_append (first second : List (Move ℝ)) :
    turn (first ++ second) = turn first + turn second := by
  rw [turn, List.map_append, List.sum_append, turn, turn]

end Walk

namespace Turtle

variable {τ ρ β : Type} [Turtle τ ℝ ρ] {moves : List (Move ℝ)}

/-- A heading that every move changes by its turn, up to full turns.  No more is known of it
    when the turtle goes back to a pose. -/
def Steers (heading : τ → ℝ) : Prop :=
  ∀ (walker : τ × List ρ) (move : Move ℝ), move ≠ .restore →
    heading (move.step walker).1 ≡ heading walker.1 + move.turn [PMOD 360]

/-- Something that no move changes, unless the turtle goes back to a pose. -/
def Retains (kept : τ → β) : Prop :=
  ∀ (walker : τ × List ρ) (move : Move ℝ), move ≠ .restore →
    kept (move.step walker).1 = kept walker.1

/-- **A walk turns** by the sum of its turns. -/
theorem Steers.walkFrom {heading : τ → ℝ} (h : Steers heading) (hmoves : .restore ∉ moves)
    (walker : τ × List ρ) :
    heading (Turtle.walkFrom walker moves).1 ≡ heading walker.1 + Walk.turn moves [PMOD 360] := by
  induction moves generalizing walker with
  | nil => simp [Turtle.walkFrom]
  | cons move rest ih =>
    obtain ⟨hmove, hrest⟩ := not_or.1 (mt List.mem_cons.2 hmoves)
    have hfirst := (h walker move (Ne.symm hmove)).add_right (Walk.turn rest)
    rw [Walk.turn_cons, ← add_assoc]
    exact (ih hrest (move.step walker)).trans hfirst

theorem Retains.walkFrom {kept : τ → β} (h : Retains kept) (hmoves : .restore ∉ moves)
    (walker : τ × List ρ) : kept (Turtle.walkFrom walker moves).1 = kept walker.1 := by
  induction moves generalizing walker with
  | nil => rfl
  | cons move rest ih =>
    obtain ⟨hmove, hrest⟩ := not_or.1 (mt List.mem_cons.2 hmoves)
    exact (ih hrest (move.step walker)).trans (h walker move (Ne.symm hmove))

theorem Retains.comp {γ : Type} {kept : τ → β} (h : Retains kept) (f : β → γ) :
    Retains fun t => f (kept t) :=
  fun walker move hmove => congrArg f (h walker move hmove)

end Turtle

/-! ## Turtles -/

namespace PlaneTurtle

variable {σ : Type} [Surface σ ℝ]

theorem rest_moveTo (t : PlaneTurtle σ ℝ) (destination : Vec2 ℝ) :
    let t' := (t.moveTo destination).2
    t'.heading = t.heading ∧ t'.penDown = t.penDown ∧ t'.unit = t.unit := by
  rcases t.moveTo_cases destination with heq | ⟨-, heq⟩ <;> rw [heq] <;> exact ⟨rfl, rfl, rfl⟩

@[simp] theorem heading_moveTo (t : PlaneTurtle σ ℝ) (destination : Vec2 ℝ) :
    (t.moveTo destination).2.heading = t.heading := (t.rest_moveTo destination).1

/-- **Turtles of the plane** turn as they are told. -/
theorem steers : Turtle.Steers (heading : PlaneTurtle σ ℝ → ℝ) := by
  rintro ⟨t, saved⟩ move hmove
  cases move with
  | forward distance => simp [Move.step, Move.turn, Turtle.forward]
  | backward distance => simp [Move.step, Move.turn, Turtle.backward]
  | left degrees => exact wrapHeading_modEq (t.heading - degrees)
  | right degrees => exact wrapHeading_modEq (t.heading + degrees)
  | liftPen | lowerPen | save => simp [Move.step, Move.turn, Turtle.liftPen, Turtle.lowerPen]
  | restore => exact absurd rfl hmove

theorem keeps_heading :
    Turtle.Keeps (fun t : PlaneTurtle σ ℝ => t.heading ∈ Set.Ico (0 : ℝ) 360)
      fun pose => pose.heading ∈ Set.Ico (0 : ℝ) 360 where
  forward t _ h := by rwa [← t.heading_moveTo] at h
  backward t _ h := by rwa [← t.heading_moveTo] at h
  turnLeft _ _ _ := wrapHeading_mem _
  turnRight _ _ _ := wrapHeading_mem _
  liftPen _ h := h
  lowerPen _ h := h
  pose _ h := h
  setPose _ _ _ hpose := hpose

end PlaneTurtle

namespace SpaceTurtle

theorem angles_moveTo (t : SpaceTurtle ℝ) (destination : Vec3 ℝ) :
    (t.moveTo destination).2.yaw = t.yaw ∧ (t.moveTo destination).2.pitch = t.pitch := by
  rcases t.moveTo_cases destination with heq | ⟨-, heq⟩ <;> rw [heq] <;> exact ⟨rfl, rfl⟩

/-- **Turtles of space** turn as they are told. -/
theorem steers : Turtle.Steers (yaw : SpaceTurtle ℝ → ℝ) := by
  rintro ⟨t, saved⟩ move hmove
  cases move with
  | forward distance => simp [Move.step, Move.turn, Turtle.forward, angles_moveTo]
  | backward distance => simp [Move.step, Move.turn, Turtle.backward, angles_moveTo]
  | left degrees => exact wrapHeading_modEq (t.yaw - degrees)
  | right degrees => exact wrapHeading_modEq (t.yaw + degrees)
  | liftPen | lowerPen | save => simp [Move.step, Move.turn, Turtle.liftPen, Turtle.lowerPen]
  | restore => exact absurd rfl hmove

theorem retains_pitch : Turtle.Retains (pitch : SpaceTurtle ℝ → ℝ) := by
  rintro ⟨t, saved⟩ move hmove
  cases move with
  | forward distance => exact (t.angles_moveTo _).2
  | backward distance => exact (t.angles_moveTo _).2
  | left | right | liftPen | lowerPen | save => rfl
  | restore => exact absurd rfl hmove

theorem keeps_yaw :
    Turtle.Keeps (fun t : SpaceTurtle ℝ => t.yaw ∈ Set.Ico (0 : ℝ) 360)
      fun pose => pose.yaw ∈ Set.Ico (0 : ℝ) 360 where
  forward t _ h := by rwa [← (t.angles_moveTo _).1] at h
  backward t _ h := by rwa [← (t.angles_moveTo _).1] at h
  turnLeft _ _ _ := wrapHeading_mem _
  turnRight _ _ _ := wrapHeading_mem _
  liftPen _ h := h
  lowerPen _ h := h
  pose _ h := h
  setPose _ _ _ hpose := hpose

end SpaceTurtle

/-! ## Full turns -/

namespace Walk

/-- A walk that goes back to no pose, and turns by full turns. -/
structure Aligned (moves : List (Move ℝ)) : Prop where
  onward : .restore ∉ moves
  turn : Walk.turn moves ≡ 0 [PMOD 360]

namespace Aligned

variable {moves : List (Move ℝ)}

/-- **A walk of full turns** leaves a turtle of the plane with the heading that it had, whatever
    moves are dropped. -/
theorem heading_walk {σ : Type} [Surface σ ℝ] (h : Aligned moves) {t : PlaneTurtle σ ℝ}
    (ht : t.heading ∈ Set.Ico (0 : ℝ) 360) : (Turtle.walk t moves).heading = t.heading := by
  have hturned := PlaneTurtle.steers.walkFrom h.onward (t, [])
  refine eq_of_modEq_of_mem (hturned.trans ?_) (PlaneTurtle.keeps_heading.walk ht moves) ht
  simpa using h.turn.add_left t.heading

theorem yaw_walk (h : Aligned moves) {t : SpaceTurtle ℝ} (ht : t.yaw ∈ Set.Ico (0 : ℝ) 360) :
    (Turtle.walk t moves).yaw = t.yaw := by
  have hturned := SpaceTurtle.steers.walkFrom h.onward (t, [])
  refine eq_of_modEq_of_mem (hturned.trans ?_) (SpaceTurtle.keeps_yaw.walk ht moves) ht
  simpa using h.turn.add_left t.yaw

end Aligned

end Walk

end TurtleGraphics
