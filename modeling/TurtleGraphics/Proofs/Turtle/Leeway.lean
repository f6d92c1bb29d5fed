/-
  Leeway: walks that no border hinders.

  No move leads further than its distance.  So a turtle makes all moves of a walk if the border
  is, on all sides, further away than the whole walk is long.

  * `Walk.length`: the length of all moves of a walk;
  * `Turtle.Roomy`: room around a turtle, of which a move takes no more than its distance;
    `Turtle.Roomy.unhindered`: walks that are not longer than the room are not hindered;
  * `PlaneTurtle.roomy`, `SpaceTurtle.roomy`: what room means to the turtles.

  The numbers are real here.
-/
import TurtleGraphics.Proofs.Session.Steering
import TurtleGraphics.Proofs.Turtle.Travels

namespace TurtleGraphics

/-! ## Walks -/

/-- The length of all moves of a walk, be they ahead or back. -/
noncomputable def Walk.length (moves : List (Move ℝ)) : ℝ :=
  (moves.map fun move => |move.distance|).sum

namespace Turtle

variable {τ ρ : Type} [Turtle τ ℝ ρ]

/-- Room around a turtle: a move that does not need more is made, and leaves the rest. -/
def Roomy (Room : τ → ℝ → Prop) : Prop :=
  ∀ (walker : τ × List ρ) (move : Move ℝ) (room : ℝ), move ≠ .restore → |move.distance| ≤ room →
    Room walker.1 room → move.Made walker ∧ Room (move.step walker).1 (room - |move.distance|)

/-- **Walks that are not longer than the room** are not hindered. -/
theorem Roomy.unhindered {Room : τ → ℝ → Prop} (h : Roomy Room) {moves : List (Move ℝ)}
    (hmoves : .restore ∉ moves) {walker : τ × List ρ} {room : ℝ}
    (hlength : Walk.length moves ≤ room) (hroom : Room walker.1 room) :
    Unhindered walker moves := by
  induction moves generalizing walker room with
  | nil => trivial
  | cons move rest ih =>
    obtain ⟨hmove, hrest⟩ := not_or.1 (mt List.mem_cons.2 hmoves)
    have hsum : Walk.length (move :: rest) = |move.distance| + Walk.length rest := List.sum_cons
    have hnonneg : 0 ≤ Walk.length rest := List.sum_nonneg (by simp)
    obtain ⟨hmade, hleft⟩ := h walker move room (Ne.symm hmove) (by linarith) hroom
    exact ⟨hmade, ih hrest (by linarith) hleft⟩

end Turtle

theorem abs_mul_le_of_abs_le_one {a b : ℝ} (h : |a| ≤ 1) : |a * b| ≤ |b| := by
  rw [abs_mul]
  exact mul_le_of_le_one_left (abs_nonneg b) h

/-! ## The plane -/

namespace PlaneTurtle

variable {σ : Type}

theorem abs_displacement_le (t : PlaneTurtle σ ℝ) (distance : ℝ) :
    |(t.displacement distance).x| ≤ |distance| * |t.unit| ∧
      |(t.displacement distance).y| ≤ |distance| * |t.unit| := by
  rw [← abs_mul]
  refine ⟨abs_mul_le_of_abs_le_one (Real.abs_sin_le_one _), abs_mul_le_of_abs_le_one ?_⟩
  rw [abs_neg]
  exact Real.abs_cos_le_one _

variable [Surface σ ℝ]

/-- On all sides of a turtle there is so much room, in board units. -/
def Room (t : PlaneTurtle σ ℝ) (room : ℝ) : Prop :=
  let reach := room * |t.unit|
  let size := Surface.size t.surface
  (reach < t.position.x ∧ t.position.x + reach < size.x) ∧
    reach < t.position.y ∧ t.position.y + reach < size.y

variable [Recording σ]

theorem Room.moveTo {t : PlaneTurtle σ ℝ} {room distance : ℝ} (h : t.Room room)
    (hdistance : |distance| ≤ room) :
    (t.moveTo (t.position + t.displacement distance)).1 = .applied ∧
      (t.moveTo (t.position + t.displacement distance)).2.Room (room - |distance|) := by
  obtain ⟨⟨hleft, hright⟩, htop, hbottom⟩ := h
  obtain ⟨hx, hy⟩ := t.abs_displacement_le distance
  obtain ⟨hx, hx'⟩ := abs_le.1 hx
  obtain ⟨hy, hy'⟩ := abs_le.1 hy
  have hreach := mul_le_mul_of_nonneg_right hdistance (abs_nonneg t.unit)
  have hinside :
      (t.position + t.displacement distance).StrictlyInside (Surface.size t.surface) := by
    simp only [Vec2.StrictlyInside, Vec2.add_x, Vec2.add_y, Nat.cast_zero]
    refine ⟨?_, ?_, ?_, ?_⟩ <;> linarith
  rw [moveTo_eq, if_pos hinside]
  refine ⟨rfl, ?_⟩
  unfold Room
  rw [size_movedTo]
  simp only [movedTo, Vec2.add_x, Vec2.add_y, sub_mul]
  refine ⟨⟨?_, ?_⟩, ?_, ?_⟩ <;> linarith

/-- **Turtles of the plane** have the room that there is on their surface. -/
theorem roomy : Turtle.Roomy (Room : PlaneTurtle σ ℝ → ℝ → Prop) := by
  rintro ⟨t, saved⟩ move room hmove hdistance hroom
  cases move with
  | forward distance => exact hroom.moveTo hdistance
  | backward distance =>
    have hback : |-distance| ≤ room := hdistance
    have hmade := hroom.moveTo hback
    rw [← t.sub_displacement] at hmade
    exact hmade
  | left | right | liftPen | lowerPen | save =>
    refine ⟨trivial, ?_⟩
    simp only [Move.distance, abs_zero, sub_zero]
    exact hroom
  | restore => exact absurd rfl hmove

end PlaneTurtle

/-! ## Space -/

namespace SpaceTurtle

/-- On all sides of a turtle there is so much room. -/
def Room (t : SpaceTurtle ℝ) (room : ℝ) : Prop :=
  |t.position.x| + room ≤ 1000 ∧ |t.position.y| + room ≤ 1000 ∧ |t.position.z| + room ≤ 1000

theorem abs_displacement_le (t : SpaceTurtle ℝ) (distance : ℝ) :
    |(t.displacement distance).x| ≤ |distance| ∧ |(t.displacement distance).y| ≤ |distance| ∧
      |(t.displacement distance).z| ≤ |distance| := by
  have hprod : ∀ {a b : ℝ}, |a| ≤ 1 → |b| ≤ 1 → |a * b| ≤ 1 := fun ha hb =>
    (abs_mul_le_of_abs_le_one ha).trans hb
  have hcos := Real.abs_cos_le_one (toRadians t.pitch)
  refine ⟨abs_mul_le_of_abs_le_one (hprod (Real.abs_sin_le_one _) hcos),
    abs_mul_le_of_abs_le_one (hprod ?_ hcos), abs_mul_le_of_abs_le_one (Real.abs_sin_le_one _)⟩
  rw [abs_neg]
  exact Real.abs_cos_le_one _

theorem Room.moveTo {t : SpaceTurtle ℝ} {room distance : ℝ} (h : t.Room room)
    (hdistance : |distance| ≤ room) :
    (t.moveTo (t.position + t.displacement distance)).1 = .applied ∧
      (t.moveTo (t.position + t.displacement distance)).2.Room (room - |distance|) := by
  obtain ⟨hx, hy, hz⟩ := h
  obtain ⟨hdx, hdy, hdz⟩ := t.abs_displacement_le distance
  have hx' := abs_add_le t.position.x (t.displacement distance).x
  have hy' := abs_add_le t.position.y (t.displacement distance).y
  have hz' := abs_add_le t.position.z (t.displacement distance).z
  have hboard : OnBoard (t.position + t.displacement distance) := by
    simp only [OnBoard, WithinExtent, Vec3.add_x, Vec3.add_y, Vec3.add_z, Nat.cast_ofNat, ← abs_le]
    refine ⟨?_, ?_, ?_⟩ <;> linarith
  rw [moveTo_eq, if_pos hboard]
  refine ⟨rfl, ?_⟩
  simp only [Room, Vec3.add_x, Vec3.add_y, Vec3.add_z]
  refine ⟨?_, ?_, ?_⟩ <;> linarith

/-- **Turtles of space** have the room that there is on their board. -/
theorem roomy : Turtle.Roomy Room := by
  rintro ⟨t, saved⟩ move room hmove hdistance hroom
  cases move with
  | forward distance => exact hroom.moveTo hdistance
  | backward distance =>
    have hback : |-distance| ≤ room := hdistance
    have hmade := hroom.moveTo hback
    rw [← t.sub_displacement] at hmade
    exact hmade
  | left | right | liftPen | lowerPen | save =>
    refine ⟨trivial, ?_⟩
    simp only [Move.distance, abs_zero, sub_zero]
    exact hroom
  | restore => exact absurd rfl hmove

end SpaceTurtle

end TurtleGraphics
