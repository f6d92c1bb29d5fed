/-
  Travels: how far a walk leads.

  A coordinate of a turtle changes with its moves alone, by the distance times a rate that depends
  on where it heads.  Along the ground the rate is a wave, and it is constant upwards.  So
  whole walks can be compared with a single move, whatever axis they are measured on.

  * `Walk.distance`: the moves of a walk ahead, less those back;
  * `Walk.travel`: how far a walk leads along an axis, if no move is dropped;
  * `Turtle.Tracks` is a coordinate that changes with the moves, and `Turtle.Tracks.walkFrom`:
    a walk of which no move is dropped changes it by its travel;
  * `PlaneTurtle.tracks_x` and its companions: the coordinates of turtles;
  * `Wave` is a rate along the ground, and `Walk.Straight` is a walk that leads where a single
    move leads;
  * `Walk.Straight.bump`, `Walk.Straight.triangle`: what straight walks are put together to.

  The numbers are real here.
-/
import TurtleGraphics.Proofs.Geometry.Triangles
import TurtleGraphics.Proofs.Turtle.Strokes
import TurtleGraphics.Proofs.Turtle.Turns

namespace TurtleGraphics

/-! ## Walks -/

/-- The distance of a move ahead. -/
noncomputable def Move.distance : Move ℝ → ℝ
  | forward distance => distance
  | backward distance => -distance
  | _ => 0

namespace Walk

/-- All moves of a walk ahead, less those back. -/
noncomputable def distance (moves : List (Move ℝ)) : ℝ := (moves.map Move.distance).sum

@[simp] theorem distance_nil : distance [] = 0 := rfl

@[simp] theorem distance_cons (move : Move ℝ) (rest : List (Move ℝ)) :
    distance (move :: rest) = move.distance + distance rest := List.sum_cons

@[simp] theorem distance_append (first second : List (Move ℝ)) :
    distance (first ++ second) = distance first + distance second := by
  rw [distance, List.map_append, List.sum_append, distance, distance]

/-- How far a walk leads along an axis, from some heading.  The rate is how far a move of length
    one leads, in every direction. -/
noncomputable def travel (rate : ℝ → ℝ) (heading : ℝ) : List (Move ℝ) → ℝ
  | [] => 0
  | move :: rest => move.distance * rate heading + travel rate (heading + move.turn) rest

variable {rate : ℝ → ℝ} {heading other : ℝ} {first second moves : List (Move ℝ)}

theorem travel_append (rate : ℝ → ℝ) (heading : ℝ) (first second : List (Move ℝ)) :
    travel rate heading (first ++ second) =
      travel rate heading first + travel rate (heading + turn first) second := by
  induction first generalizing heading with
  | nil => simp [travel]
  | cons move rest ih => rw [List.cons_append, travel, ih, travel, turn_cons, add_assoc, add_assoc]

theorem travel_one (heading : ℝ) (moves : List (Move ℝ)) :
    travel (fun _ => 1) heading moves = distance moves := by
  induction moves generalizing heading with
  | nil => rfl
  | cons move rest ih => rw [travel, ih, distance_cons, mul_one]

theorem rate_eq (h : Function.Periodic rate 360) (hheading : heading ≡ other [PMOD 360]) :
    rate heading = rate other := by
  obtain ⟨n, rfl⟩ := AddCommGroup.modEq_iff_eq_add_zsmul.1 hheading
  exact (h.zsmul n heading).symm

theorem travel_eq (h : Function.Periodic rate 360) (hheading : heading ≡ other [PMOD 360])
    (moves : List (Move ℝ)) : travel rate heading moves = travel rate other moves := by
  induction moves generalizing heading other with
  | nil => rfl
  | cons move rest ih => rw [travel, travel, rate_eq h hheading, ih (hheading.add_right _)]

end Walk

/-! ## Turtles -/

namespace Turtle

variable {τ ρ : Type} [Turtle τ ℝ ρ]

/-- A coordinate of a turtle that changes with the moves that are made: by the distance times a
    rate, which depends on the heading, and a pace, which no move changes. -/
structure Tracks (heading coordinate : τ → ℝ) (rate : ℝ → ℝ) (pace : τ → ℝ) : Prop where
  steers : Steers heading
  retains : Retains pace
  periodic : Function.Periodic rate 360
  made : ∀ (walker : τ × List ρ) (move : Move ℝ), move ≠ .restore → move.Made walker →
    coordinate (move.step walker).1 =
      coordinate walker.1 + move.distance * rate (heading walker.1) * pace walker.1

/-- **A walk of which no move is dropped** leads as far as it is told, on every axis. -/
theorem Tracks.walkFrom {heading coordinate : τ → ℝ} {rate : ℝ → ℝ} {pace : τ → ℝ}
    (h : Tracks heading coordinate rate pace) {moves : List (Move ℝ)} (hmoves : .restore ∉ moves)
    {walker : τ × List ρ} (hmade : Unhindered walker moves) :
    coordinate (Turtle.walkFrom walker moves).1 =
      coordinate walker.1 + Walk.travel rate (heading walker.1) moves * pace walker.1 := by
  induction moves generalizing walker with
  | nil => simp [Turtle.walkFrom, Walk.travel]
  | cons move rest ih =>
    obtain ⟨hmove, hrest⟩ := not_or.1 (mt List.mem_cons.2 hmoves)
    -- the rest starts from a heading that is reduced
    have htravel := Walk.travel_eq h.periodic (h.steers walker move (Ne.symm hmove)) rest
    calc coordinate (Turtle.walkFrom (move.step walker) rest).1
        = coordinate (move.step walker).1 +
            Walk.travel rate (heading (move.step walker).1) rest * pace walker.1 := by
          rw [ih hrest hmade.2, h.retains walker move (Ne.symm hmove)]
      _ = coordinate walker.1 +
            Walk.travel rate (heading walker.1) (move :: rest) * pace walker.1 := by
          rw [h.made walker move (Ne.symm hmove) hmade.1, htravel, Walk.travel, add_mul, add_assoc]

end Turtle

/-- How far a move of length one leads along the ground is a wave in the heading: at each heading
    it is the sum of what it is at 60 degrees to both sides. -/
def Wave (rate : ℝ → ℝ) : Prop :=
  ∀ heading, rate (heading - 60) + rate (heading + 60) = rate heading

namespace Wave

variable {rate : ℝ → ℝ}

theorem add_oneEighty (h : Wave rate) (heading : ℝ) : rate (heading + 180) = -rate heading := by
  have hfirst := h (heading + 60)
  have hsecond := h (heading + 120)
  ring_nf at hfirst hsecond ⊢
  linarith

theorem periodic (h : Wave rate) : Function.Periodic rate 360 := by
  intro heading
  have hturn : heading + 360 = heading + 180 + 180 := by ring
  rw [hturn, h.add_oneEighty, h.add_oneEighty, neg_neg]

theorem add_thirds (h : Wave rate) (heading : ℝ) :
    rate heading + rate (heading + 120) + rate (heading + 240) = 0 := by
  have hfirst := h (heading + 60)
  have hback := h.add_oneEighty (heading + 60)
  ring_nf at hfirst hback ⊢
  linarith

end Wave

theorem Vec2.wave_x : Wave fun heading => (direction heading).x := by
  intro heading
  simp only [direction_sub_sixty, direction_add_sixty, add_x, scale_x]
  ring

theorem Vec2.wave_y : Wave fun heading => (direction heading).y := by
  intro heading
  simp only [direction_sub_sixty, direction_add_sixty, add_y, scale_y]
  ring

/-! ## The plane -/

namespace PlaneTurtle

variable {σ : Type}

theorem sub_displacement (t : PlaneTurtle σ ℝ) (distance : ℝ) :
    t.position - t.displacement distance = t.position + t.displacement (-distance) := by
  ext <;> simp [displacement, Vec2.scale, sub_eq_add_neg]

variable [Surface σ ℝ] {walker : PlaneTurtle σ ℝ × List (PlanePose ℝ)} {move : Move ℝ}

theorem position_of_applied {t : PlaneTurtle σ ℝ} {destination : Vec2 ℝ}
    (h : (t.moveTo destination).1 = .applied) :
    (t.moveTo destination).2.position = destination := by
  rcases t.moveTo_cases destination with heq | ⟨-, heq⟩ <;> rw [heq] at h ⊢
  cases h

/-- **Where a move leads** that is made. -/
theorem position_step (hmove : move ≠ .restore) (hmade : move.Made walker) :
    (move.step walker).1.position = walker.1.position + walker.1.displacement move.distance := by
  obtain ⟨t, saved⟩ := walker
  cases move with
  | forward distance => exact position_of_applied hmade
  | backward distance => exact (position_of_applied hmade).trans (t.sub_displacement distance)
  | left | right | liftPen | lowerPen | save =>
    ext <;> simp [displacement, Vec2.scale, Move.distance] <;> rfl
  | restore => exact absurd rfl hmove

theorem retains_unit : Turtle.Retains (unit : PlaneTurtle σ ℝ → ℝ) := by
  rintro ⟨t, saved⟩ move hmove
  cases move with
  | forward | backward => exact (t.rest_moveTo _).2.2
  | left | right | liftPen | lowerPen | save => rfl
  | restore => exact absurd rfl hmove

theorem tracks_x : Turtle.Tracks (heading : PlaneTurtle σ ℝ → ℝ) (fun t => t.position.x)
    (fun heading => (Vec2.direction heading).x) unit where
  steers := steers
  retains := retains_unit
  periodic := Vec2.wave_x.periodic
  made walker move hmove hmade := by
    rw [position_step hmove hmade, Vec2.add_x]
    simp only [displacement, Vec2.scale_x, Vec2.direction, Scalar.sin_real]
    ring

theorem tracks_y : Turtle.Tracks (heading : PlaneTurtle σ ℝ → ℝ) (fun t => t.position.y)
    (fun heading => (Vec2.direction heading).y) unit where
  steers := steers
  retains := retains_unit
  periodic := Vec2.wave_y.periodic
  made walker move hmove hmade := by
    rw [position_step hmove hmade, Vec2.add_y]
    simp only [displacement, Vec2.scale_y, Vec2.direction, Scalar.cos_real]
    ring

end PlaneTurtle

/-! ## Space -/

namespace SpaceTurtle

variable {walker : SpaceTurtle ℝ × List (SpacePose ℝ)} {move : Move ℝ}

theorem position_of_applied {t : SpaceTurtle ℝ} {destination : Vec3 ℝ}
    (h : (t.moveTo destination).1 = .applied) :
    (t.moveTo destination).2.position = destination := by
  rcases t.moveTo_cases destination with heq | ⟨-, heq⟩ <;> rw [heq] at h ⊢
  cases h

theorem sub_displacement (t : SpaceTurtle ℝ) (distance : ℝ) :
    t.position - t.displacement distance = t.position + t.displacement (-distance) := by
  ext <;> simp [displacement, Vec3.scale, sub_eq_add_neg]

theorem position_step (hmove : move ≠ .restore) (hmade : move.Made walker) :
    (move.step walker).1.position = walker.1.position + walker.1.displacement move.distance := by
  obtain ⟨t, saved⟩ := walker
  cases move with
  | forward distance => exact position_of_applied hmade
  | backward distance => exact (position_of_applied hmade).trans (t.sub_displacement distance)
  | left | right | liftPen | lowerPen | save =>
    ext <;> simp [displacement, Vec3.scale, Move.distance] <;> rfl
  | restore => exact absurd rfl hmove

theorem tracks_x : Turtle.Tracks yaw (fun t : SpaceTurtle ℝ => t.position.x)
    (fun heading => (Vec2.direction heading).x) fun t => Real.cos (toRadians t.pitch) where
  steers := steers
  retains := retains_pitch.comp fun pitch => Real.cos (toRadians pitch)
  periodic := Vec2.wave_x.periodic
  made walker move hmove hmade := by
    rw [position_step hmove hmade, Vec3.add_x]
    simp only [displacement, Vec3.scale, Vec2.direction, Scalar.sin_real, Scalar.cos_real]
    ring

theorem tracks_y : Turtle.Tracks yaw (fun t : SpaceTurtle ℝ => t.position.y)
    (fun heading => (Vec2.direction heading).y) fun t => Real.cos (toRadians t.pitch) where
  steers := steers
  retains := retains_pitch.comp fun pitch => Real.cos (toRadians pitch)
  periodic := Vec2.wave_y.periodic
  made walker move hmove hmade := by
    rw [position_step hmove hmade, Vec3.add_y]
    simp only [displacement, Vec3.scale, Vec2.direction, Scalar.cos_real]
    ring

/-- A turtle of space upwards: it does not matter where it heads. -/
theorem tracks_z : Turtle.Tracks yaw (fun t : SpaceTurtle ℝ => t.position.z)
    (fun _ => 1) fun t => Real.sin (toRadians t.pitch) where
  steers := steers
  retains := retains_pitch.comp fun pitch => Real.sin (toRadians pitch)
  periodic _ := rfl
  made walker move hmove hmade := by
    rw [position_step hmove hmade, Vec3.add_z]
    simp only [displacement, Vec3.scale, Scalar.sin_real]
    ring

end SpaceTurtle

/-! ## Straight walks -/

namespace Walk

/-- A walk that leads where a single move leads, along the ground. -/
structure Straight (length : ℝ) (moves : List (Move ℝ)) : Prop extends Aligned moves where
  travel : ∀ {rate : ℝ → ℝ}, Wave rate → ∀ heading,
    Walk.travel rate heading moves = length * rate heading

namespace Straight

variable {length more : ℝ} {moves first second : List (Move ℝ)}

theorem nil : Straight 0 [] := ⟨⟨by simp, by simp⟩, by simp [Walk.travel]⟩

theorem forward (length : ℝ) : Straight length [.forward length] :=
  ⟨⟨by simp, by simp [Move.turn]⟩, by simp [Walk.travel, Move.distance]⟩

theorem travel_append (h : Straight length moves) {rate : ℝ → ℝ} (hwave : Wave rate) (heading : ℝ)
    (rest : List (Move ℝ)) :
    Walk.travel rate heading (moves ++ rest) =
      length * rate heading + Walk.travel rate heading rest := by
  have hturn := h.turn.add_left heading
  rw [add_zero] at hturn
  rw [Walk.travel_append, h.travel hwave, travel_eq hwave.periodic hturn]

theorem append (hfirst : Straight length first) (hsecond : Straight more second) :
    Straight (length + more) (first ++ second) where
  onward := by simp [hfirst.onward, hsecond.onward]
  turn := by simpa using hfirst.turn.add hsecond.turn
  travel hwave heading := by
    rw [hfirst.travel_append hwave, hsecond.travel hwave, add_mul]

/-- **A bump to the left** between straight walks: all four of them lead as far as three. -/
theorem bump (h : Straight length moves) :
    Straight (3 * length) (moves ++ .left (60 : Nat) :: (moves ++ .right (120 : Nat) ::
      (moves ++ .left (60 : Nat) :: moves))) where
  onward := by simp [h.onward]
  turn := by
    obtain ⟨n, hn⟩ := AddCommGroup.modEq_zero_iff_eq_zsmul.1 h.turn
    refine AddCommGroup.modEq_zero_iff_eq_zsmul.2 ⟨4 * n, ?_⟩
    simp only [turn_append, turn_cons, Move.turn, hn, zsmul_eq_mul, Nat.cast_ofNat]
    push_cast
    ring
  travel {rate} hwave heading := by
    have hsides := hwave heading
    simp only [h.travel_append hwave, h.travel hwave, Walk.travel, Move.turn, Move.distance,
      Nat.cast_ofNat]
    ring_nf at hsides ⊢
    linear_combination length * hsides

/-- **A triangle** of straight walks leads back to where it begins. -/
theorem triangle (h : Straight length moves) :
    let side := moves ++ [.right (120 : Nat)]
    Straight 0 (side ++ (side ++ side)) where
  onward := by simp [h.onward]
  turn := by
    obtain ⟨n, hn⟩ := AddCommGroup.modEq_zero_iff_eq_zsmul.1 h.turn
    refine AddCommGroup.modEq_zero_iff_eq_zsmul.2 ⟨3 * n + 1, ?_⟩
    simp only [turn_append, turn_cons, turn_nil, Move.turn, hn, zsmul_eq_mul, Nat.cast_ofNat]
    push_cast
    ring
  travel {rate} hwave heading := by
    have hsides := hwave.add_thirds heading
    simp only [List.append_assoc, List.cons_append, List.nil_append, h.travel_append hwave,
      Walk.travel, Move.turn, Move.distance, Nat.cast_ofNat]
    ring_nf at hsides ⊢
    linear_combination length * hsides

theorem turned (h : Straight 0 moves) (degrees : ℝ) :
    Straight 0 (.right degrees :: (moves ++ [.left degrees])) where
  onward := by simp [h.onward]
  turn := by
    have hturn : Walk.turn (.right degrees :: (moves ++ [.left degrees])) = Walk.turn moves := by
      simp [Move.turn]
    rw [hturn]
    exact h.turn
  travel hwave heading := by
    simp [h.travel_append hwave, Walk.travel, Move.distance]

end Straight

end Walk

end TurtleGraphics
