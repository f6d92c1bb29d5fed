/-
  Walks and tours: what they keep, wherever they lead.

  A turtle is moved by its primitive operations alone.  What each of these
  keeps is kept by every walk, whatever the turtle answers and whatever poses
  it goes back to, if it is also known of the poses.

  * `Turtle.Keeps` is what the primitive operations of a turtle keep;
  * `Turtle.Keeps.step`: one move keeps it, together with what is known of all
    poses that are saved; `Turtle.Keeps.walk`: so does every walk;
  * a `Tour` is a longer history: something is done again and again, and between
    times a pose is taken down, or one that was taken down is gone back to;
  * `Tour.Keeps.after`: what the steps of a tour keep is true at its end.
-/
import TurtleGraphics.Turtle.Basic

namespace TurtleGraphics

/-! ## Walks -/

/-- What the primitive operations of a turtle keep: `Inv` is true of the
    turtle, and `Fits` of the poses that it is in meanwhile. -/
structure Turtle.Keeps {τ α ρ : Type} [Turtle τ α ρ] (Inv : τ → Prop) (Fits : ρ → Prop) :
    Prop where
  forward : ∀ t distance, Inv t → Inv (Turtle.forward t distance).2
  backward : ∀ t distance, Inv t → Inv (Turtle.backward t distance).2
  turnLeft : ∀ t degrees, Inv t → Inv (Turtle.turnLeft t degrees)
  turnRight : ∀ t degrees, Inv t → Inv (Turtle.turnRight t degrees)
  liftPen : ∀ t, Inv t → Inv (Turtle.liftPen t)
  lowerPen : ∀ t, Inv t → Inv (Turtle.lowerPen t)
  pose : ∀ t, Inv t → Fits (Turtle.pose t)
  setPose : ∀ t pose, Inv t → Fits pose → Inv (Turtle.setPose t pose)

namespace Turtle.Keeps

variable {τ α ρ : Type} [Turtle τ α ρ] {Inv : τ → Prop} {Fits : ρ → Prop}

/-- **One move** keeps what the primitive operations keep.  The saved poses are
    part of the invariant, as the turtle may go back to them. -/
theorem step (h : Keeps Inv Fits) {walker : τ × List ρ}
    (hwalker : Inv walker.1 ∧ ∀ pose ∈ walker.2, Fits pose) (move : Move α) :
    Inv (move.step walker).1 ∧ ∀ pose ∈ (move.step walker).2, Fits pose := by
  obtain ⟨t, saved⟩ := walker
  obtain ⟨hinv, hsaved⟩ := hwalker
  cases move with
  | forward distance => exact ⟨h.forward t distance hinv, hsaved⟩
  | backward distance => exact ⟨h.backward t distance hinv, hsaved⟩
  | left degrees => exact ⟨h.turnLeft t degrees hinv, hsaved⟩
  | right degrees => exact ⟨h.turnRight t degrees hinv, hsaved⟩
  | liftPen => exact ⟨h.liftPen t hinv, hsaved⟩
  | lowerPen => exact ⟨h.lowerPen t hinv, hsaved⟩
  | save =>
    refine ⟨hinv, ?_⟩
    intro pose hpose
    rcases List.mem_cons.1 hpose with rfl | hpose
    · exact h.pose t hinv
    · exact hsaved pose hpose
  | restore =>
    cases saved with
    | nil => exact ⟨hinv, hsaved⟩
    | cons pose saved =>
      exact ⟨h.setPose t pose hinv (hsaved pose (List.mem_cons_self ..)),
        fun p hp => hsaved p (List.mem_cons_of_mem _ hp)⟩

theorem walkFrom (h : Keeps Inv Fits) (moves : List (Move α)) (walker : τ × List ρ)
    (hwalker : Inv walker.1 ∧ ∀ pose ∈ walker.2, Fits pose) :
    Inv (Turtle.walkFrom walker moves).1 ∧
      ∀ pose ∈ (Turtle.walkFrom walker moves).2, Fits pose := by
  induction moves generalizing walker with
  | nil => exact hwalker
  | cons move moves ih => exact ih _ (h.step hwalker move)

theorem walk (h : Keeps Inv Fits) {t : τ} (ht : Inv t) (moves : List (Move α)) :
    Inv (Turtle.walk t moves) :=
  (h.walkFrom moves (t, []) ⟨ht, by simp⟩).1

end Turtle.Keeps

/-! ## Tours -/

/-- What a tour is made of: things that are done, and the pose that they leave
    something in, which it can be put back into. -/
structure Tour (σ A ρ : Type) where
  /-- Does something. -/
  act : σ → A → σ
  pose : σ → ρ
  setPose : σ → ρ → σ

/-- A step of a tour. -/
inductive Tour.Step (A : Type) where
  | act (activity : A)
  /-- Takes down the pose. -/
  | notePose
  /-- Goes back to a pose that was taken down, if there are so many; the first
      one has the number zero. -/
  | recallPose (number : Nat)

namespace Tour

variable {σ A ρ : Type}

/-- One step.  Beside the state stand the poses that were taken down. -/
def step (tour : Tour σ A ρ) (traveller : σ × List ρ) : Step A → σ × List ρ
  | .act activity => (tour.act traveller.1 activity, traveller.2)
  | .notePose => (traveller.1, traveller.2 ++ [tour.pose traveller.1])
  | .recallPose number => match traveller.2[number]? with
    | some pose => (tour.setPose traveller.1 pose, traveller.2)
    | none => traveller

/-- The state at the end of a tour. -/
def after (tour : Tour σ A ρ) (state : σ) (steps : List (Step A)) : σ :=
  (steps.foldl tour.step (state, [])).1

/-- What a tour keeps: `Inv` is true of the state, and `Fits` of the poses. -/
structure Keeps (tour : Tour σ A ρ) (Inv : σ → Prop) (Fits : ρ → Prop) : Prop where
  act : ∀ state activity, Inv state → Inv (tour.act state activity)
  pose : ∀ state, Inv state → Fits (tour.pose state)
  setPose : ∀ state pose, Inv state → Fits pose → Inv (tour.setPose state pose)

variable {tour : Tour σ A ρ} {Inv : σ → Prop} {Fits : ρ → Prop}

theorem Keeps.step (h : tour.Keeps Inv Fits) {traveller : σ × List ρ}
    (htraveller : Inv traveller.1 ∧ ∀ pose ∈ traveller.2, Fits pose) (s : Step A) :
    Inv (tour.step traveller s).1 ∧ ∀ pose ∈ (tour.step traveller s).2, Fits pose := by
  obtain ⟨state, noted⟩ := traveller
  obtain ⟨hinv, hnoted⟩ := htraveller
  cases s with
  | act activity => exact ⟨h.act state activity hinv, hnoted⟩
  | notePose =>
    refine ⟨hinv, ?_⟩
    intro pose hpose
    rcases List.mem_append.1 hpose with hpose | hpose
    · exact hnoted pose hpose
    · obtain rfl := List.mem_singleton.1 hpose
      exact h.pose state hinv
  | recallPose number =>
    cases hpose : noted[number]? with
    | none =>
      simp only [Tour.step, hpose]
      exact ⟨hinv, hnoted⟩
    | some pose =>
      simp only [Tour.step, hpose]
      exact ⟨h.setPose state pose hinv (hnoted pose (List.mem_of_getElem? hpose)), hnoted⟩

/-- **What the steps of a tour keep** is true at its end. -/
theorem Keeps.after (h : tour.Keeps Inv Fits) {state : σ} (hstate : Inv state)
    (steps : List (Step A)) : Inv (tour.after state steps) := by
  have hrun : ∀ (steps : List (Step A)) {traveller : σ × List ρ},
      (Inv traveller.1 ∧ ∀ pose ∈ traveller.2, Fits pose) →
        Inv (steps.foldl tour.step traveller).1 := by
    intro steps
    induction steps with
    | nil => exact fun htraveller => htraveller.1
    | cons s steps ih => exact fun htraveller => ih (h.step htraveller s)
  exact hrun steps ⟨hstate, by simp⟩

end Tour

end TurtleGraphics
