/-
  Companions: two turtles that are told the same.

  Two turtles may be of different kinds, or in different states.  What each
  primitive operation keeps of a relation between them is kept by every walk, if
  it is also known of the poses that both are in meanwhile.

  * `Turtle.InStep`: operations that have the same outcome for both turtles, and
    keep them related;
  * `Turtle.InStep.step`: so does one move, together with the poses that are saved;
    `Turtle.InStep.walk`: so does every walk;
  * `Tour.InStep`: the same of the activities of two tours, and
    `Tour.InStep.after`: the tours end in related states.
-/
import Mathlib.Data.List.Forall2
import TurtleGraphics.Proofs.Turtle.Walks

namespace TurtleGraphics

/-! ## Walks -/

/-- Operations that have the same outcome for turtles that are related by `R`, and keep
    them so.  Their poses are related by `Fits`. -/
structure Turtle.InStep {τ τ' α ρ ρ' : Type} [Turtle τ α ρ] [Turtle τ' α ρ'] (R : τ → τ' → Prop)
    (Fits : ρ → ρ' → Prop) : Prop where
  forward : ∀ t t' distance, R t t' →
    (Turtle.forward t distance).1 = (Turtle.forward t' distance).1 ∧
      R (Turtle.forward t distance).2 (Turtle.forward t' distance).2
  backward : ∀ t t' distance, R t t' →
    (Turtle.backward t distance).1 = (Turtle.backward t' distance).1 ∧
      R (Turtle.backward t distance).2 (Turtle.backward t' distance).2
  turnLeft : ∀ t t' degrees, R t t' → R (Turtle.turnLeft t degrees) (Turtle.turnLeft t' degrees)
  turnRight : ∀ t t' degrees, R t t' →
    R (Turtle.turnRight t degrees) (Turtle.turnRight t' degrees)
  liftPen : ∀ t t', R t t' → R (Turtle.liftPen t) (Turtle.liftPen t')
  lowerPen : ∀ t t', R t t' → R (Turtle.lowerPen t) (Turtle.lowerPen t')
  pose : ∀ t t', R t t' → Fits (Turtle.pose t) (Turtle.pose t')
  setPose : ∀ t t' pose pose', R t t' → Fits pose pose' →
    R (Turtle.setPose t pose) (Turtle.setPose t' pose')

namespace Turtle.InStep

variable {τ τ' α ρ ρ' : Type} [Turtle τ α ρ] [Turtle τ' α ρ'] {R : τ → τ' → Prop}
  {Fits : ρ → ρ' → Prop}

/-- **One move** keeps two turtles related.  As they may go back to the poses that they
    have saved, these are related one by one. -/
theorem step (h : InStep R Fits) {walker : τ × List ρ} {walker' : τ' × List ρ'}
    (hwalkers : R walker.1 walker'.1 ∧ List.Forall₂ Fits walker.2 walker'.2) (move : Move α) :
    R (move.step walker).1 (move.step walker').1 ∧
      List.Forall₂ Fits (move.step walker).2 (move.step walker').2 := by
  obtain ⟨t, saved⟩ := walker
  obtain ⟨t', saved'⟩ := walker'
  obtain ⟨ht, hsaved⟩ := hwalkers
  cases move with
  | forward distance => exact ⟨(h.forward t t' distance ht).2, hsaved⟩
  | backward distance => exact ⟨(h.backward t t' distance ht).2, hsaved⟩
  | left degrees => exact ⟨h.turnLeft t t' degrees ht, hsaved⟩
  | right degrees => exact ⟨h.turnRight t t' degrees ht, hsaved⟩
  | liftPen => exact ⟨h.liftPen t t' ht, hsaved⟩
  | lowerPen => exact ⟨h.lowerPen t t' ht, hsaved⟩
  | save => exact ⟨ht, .cons (h.pose t t' ht) hsaved⟩
  | restore =>
    cases hsaved with
    | nil => exact ⟨ht, .nil⟩
    | cons hpose hsaved => exact ⟨h.setPose t t' _ _ ht hpose, hsaved⟩

theorem walkFrom (h : InStep R Fits) (moves : List (Move α)) {walker : τ × List ρ}
    {walker' : τ' × List ρ'}
    (hwalkers : R walker.1 walker'.1 ∧ List.Forall₂ Fits walker.2 walker'.2) :
    R (Turtle.walkFrom walker moves).1 (Turtle.walkFrom walker' moves).1 ∧
      List.Forall₂ Fits (Turtle.walkFrom walker moves).2 (Turtle.walkFrom walker' moves).2 := by
  induction moves generalizing walker walker' with
  | nil => exact hwalkers
  | cons move moves ih => exact ih (h.step hwalkers move)

theorem walk (h : InStep R Fits) {t : τ} {t' : τ'} (ht : R t t') (moves : List (Move α)) :
    R (Turtle.walk t moves) (Turtle.walk t' moves) :=
  (h.walkFrom moves ⟨ht, .nil⟩).1

end Turtle.InStep

/-! ## Tours -/

namespace Tour

variable {σ σ' A ρ : Type}

/-- Activities that keep states related, in which the same poses may be taken down. -/
structure InStep (tour : Tour σ A ρ) (tour' : Tour σ' A ρ) (R : σ → σ' → Prop) : Prop where
  act : ∀ s s' activity, R s s' → R (tour.act s activity) (tour'.act s' activity)
  pose : ∀ s s', R s s' → tour.pose s = tour'.pose s'
  setPose : ∀ s s' pose, R s s' → R (tour.setPose s pose) (tour'.setPose s' pose)

namespace InStep

variable {tour : Tour σ A ρ} {tour' : Tour σ' A ρ} {R : σ → σ' → Prop}

theorem step (h : tour.InStep tour' R) {traveller : σ × List ρ} {traveller' : σ' × List ρ}
    (htravellers : R traveller.1 traveller'.1 ∧ traveller.2 = traveller'.2) (one : Step A) :
    R (tour.step traveller one).1 (tour'.step traveller' one).1 ∧
      (tour.step traveller one).2 = (tour'.step traveller' one).2 := by
  obtain ⟨s, noted⟩ := traveller
  obtain ⟨s', noted'⟩ := traveller'
  obtain ⟨hs, rfl⟩ := htravellers
  cases one with
  | act activity => exact ⟨h.act s s' activity hs, rfl⟩
  | notePose => exact ⟨hs, congrArg (fun pose => noted ++ [pose]) (h.pose s s' hs)⟩
  | recallPose number =>
    cases hpose : noted[number]? with
    | none =>
      simp only [Tour.step, hpose]
      exact ⟨hs, trivial⟩
    | some pose =>
      simp only [Tour.step, hpose]
      exact ⟨h.setPose s s' pose hs, trivial⟩

/-- **Two tours** of the same steps end in related states. -/
theorem after (h : tour.InStep tour' R) {s : σ} {s' : σ'} (hs : R s s') (steps : List (Step A)) :
    R (tour.after s steps) (tour'.after s' steps) := by
  have hrun : ∀ (steps : List (Step A)) {traveller : σ × List ρ} {traveller' : σ' × List ρ},
      (R traveller.1 traveller'.1 ∧ traveller.2 = traveller'.2) →
        R (steps.foldl tour.step traveller).1 (steps.foldl tour'.step traveller').1 := by
    intro steps
    induction steps with
    | nil => exact fun htravellers => htravellers.1
    | cons one steps ih => exact fun htravellers => ih (h.step htravellers one)
  exact hrun steps ⟨hs, rfl⟩

end InStep

end Tour

end TurtleGraphics
