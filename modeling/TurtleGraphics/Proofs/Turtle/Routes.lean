/-
  Routes: where a walk leads if no move is dropped.

  A route can be told from the moves alone: it is known where each of them ends, and in which
  direction it leads.  If all these points are strictly inside the surface of a turtle, then
  the turtle takes the route, and all that it draws lies between points of it.

  * `Vec2.step` is the displacement of a move;
  * `Route`: a walk leads from one place to another, with the ends of all its moves in some
    region;
  * `Route.append`, `Route.mono`: routes in a row, and regions in regions;
  * `Route.arrives`: a turtle takes a route of which the region is strictly inside its surface,
    and `PlaneTurtle.Arrives.exists_drawn`: it draws all strokes of it there;
  * `Route.stands_saved`: where it stands when it has saved a pose on the way.

  Headings are not reduced in a route; turtles reduce theirs.  The numbers are real here.
-/
import TurtleGraphics.Proofs.Geometry.Triangles
import TurtleGraphics.Proofs.Fractal.Levels

namespace TurtleGraphics

/-! ## Routes -/

/-- The displacement of a move, on a surface where a board unit has the given length. -/
noncomputable def Vec2.step (unit heading distance : ℝ) : Vec2 ℝ :=
  (direction heading).scale (distance * unit)

@[simp] theorem Vec2.step_x (unit heading distance : ℝ) :
    (step unit heading distance).x = (direction heading).x * (distance * unit) := rfl

@[simp] theorem Vec2.step_y (unit heading distance : ℝ) :
    (step unit heading distance).y = (direction heading).y * (distance * unit) := rfl

/-- A walk leads from one point and heading to another, and the ends of all its moves lie in a
    region. -/
inductive Route (unit : ℝ) (Region : Vec2 ℝ → Prop) :
    Vec2 ℝ → ℝ → List (Move ℝ) → Vec2 ℝ → ℝ → Prop where
  | done {p : Vec2 ℝ} {heading : ℝ} : Route unit Region p heading [] p heading
  | forward {p q r : Vec2 ℝ} {heading last distance : ℝ} {rest : List (Move ℝ)} :
      Region p → Region q → q = p + Vec2.step unit heading distance →
      Route unit Region q heading rest r last →
      Route unit Region p heading (.forward distance :: rest) r last
  | left {p r : Vec2 ℝ} {heading next last degrees : ℝ} {rest : List (Move ℝ)} :
      next = heading - degrees → Route unit Region p next rest r last →
      Route unit Region p heading (.left degrees :: rest) r last
  | right {p r : Vec2 ℝ} {heading next last degrees : ℝ} {rest : List (Move ℝ)} :
      next = heading + degrees → Route unit Region p next rest r last →
      Route unit Region p heading (.right degrees :: rest) r last
  | liftPen {p r : Vec2 ℝ} {heading last : ℝ} {rest : List (Move ℝ)} :
      Route unit Region p heading rest r last →
      Route unit Region p heading (.liftPen :: rest) r last
  | lowerPen {p r : Vec2 ℝ} {heading last : ℝ} {rest : List (Move ℝ)} :
      Route unit Region p heading rest r last →
      Route unit Region p heading (.lowerPen :: rest) r last
  | excursion {p q r : Vec2 ℝ} {heading away last : ℝ} {inner rest : List (Move ℝ)} :
      Route unit Region p heading inner q away → Route unit Region p heading rest r last →
      Route unit Region p heading (.save :: (inner ++ .restore :: rest)) r last

namespace Route

variable {unit : ℝ} {Region Region' : Vec2 ℝ → Prop} {p q r : Vec2 ℝ} {heading middle last : ℝ}
  {moves first second inner rest : List (Move ℝ)}

theorem append (hfirst : Route unit Region p heading first q middle)
    (hsecond : Route unit Region q middle second r last) :
    Route unit Region p heading (first ++ second) r last := by
  induction hfirst with
  | done => exact hsecond
  | forward hp hq hstep _ ih => exact .forward hp hq hstep (ih hsecond)
  | left hnext _ ih => exact .left hnext (ih hsecond)
  | right hnext _ ih => exact .right hnext (ih hsecond)
  | liftPen _ ih => exact .liftPen (ih hsecond)
  | lowerPen _ ih => exact .lowerPen (ih hsecond)
  | excursion hinner _ _ ih =>
    rw [List.cons_append, List.append_assoc, List.cons_append]
    exact .excursion hinner (ih hsecond)

theorem mono (h : Route unit Region p heading moves r last)
    (hregion : ∀ point, Region point → Region' point) :
    Route unit Region' p heading moves r last := by
  induction h with
  | done => exact .done
  | forward hp hq hstep _ ih => exact .forward (hregion _ hp) (hregion _ hq) hstep ih
  | left hnext _ ih => exact .left hnext ih
  | right hnext _ ih => exact .right hnext ih
  | liftPen _ ih => exact .liftPen ih
  | lowerPen _ ih => exact .lowerPen ih
  | excursion _ _ ihinner ih => exact .excursion ihinner ih

theorem balanced (h : Route unit Region p heading moves r last) : Walk.Balanced moves := by
  induction h with
  | done => exact .nil
  | forward _ _ _ _ ih | left _ _ ih | right _ _ ih | liftPen _ ih | lowerPen _ ih =>
    exact .cons trivial ih
  | excursion _ _ ihinner ih => exact .excursion ihinner ih

end Route

/-! ## Turtles on their routes -/

theorem wrapHeading_of_mem {heading : ℝ} (hheading : heading ∈ Set.Ico (0 : ℝ) 360) :
    wrapHeading heading = heading := by
  rw [wrapHeading_eq]
  exact (toIcoMod_eq_self fullTurn_pos).2 (by rwa [zero_add])

theorem wrapHeading_wrapHeading_sub (degrees turn : ℝ) :
    wrapHeading (wrapHeading degrees - turn) = wrapHeading (degrees - turn) := by
  rw [wrapHeading_eq degrees, ← self_sub_toIcoDiv_zsmul, sub_right_comm, wrapHeading_eq,
    toIcoMod_sub_zsmul, ← wrapHeading_eq]

theorem wrapHeading_wrapHeading_add (degrees turn : ℝ) :
    wrapHeading (wrapHeading degrees + turn) = wrapHeading (degrees + turn) := by
  simpa using wrapHeading_wrapHeading_sub degrees (-turn)

theorem Turtle.unhindered_append {τ α ρ : Type} [Turtle τ α ρ] (walker : τ × List ρ)
    (first second : List (Move α)) :
    Unhindered walker (first ++ second) ↔
      Unhindered walker first ∧ Unhindered (walkFrom walker first) second := by
  induction first generalizing walker with
  | nil => exact (true_and (Unhindered walker second)).symm.to_iff
  | cons move rest ih =>
    rw [List.cons_append, Unhindered, ih, Unhindered, and_assoc]
    rfl

namespace PlaneTurtle

variable {σ : Type} [Surface σ ℝ]

/-- A turtle stands at a point, on a board of its own, with a heading that is not reduced. -/
structure Stands (t : PlaneTurtle σ ℝ) (unit : ℝ) (size : Vec2 ℝ) (p : Vec2 ℝ) (heading : ℝ) :
    Prop where
  unit : t.unit = unit
  size : Surface.size t.surface = size
  position : t.position = p
  heading : t.heading = wrapHeading heading

namespace Stands

variable {t : PlaneTurtle σ ℝ} {unit : ℝ} {size p : Vec2 ℝ} {heading : ℝ}

theorem ahead (h : t.Stands unit size p heading) (distance : ℝ) :
    t.position + t.displacement distance = p + Vec2.step unit heading distance := by
  rw [h.position, Vec2.step, ← h.unit, ← Vec2.direction_wrapHeading, ← h.heading]
  rfl

theorem turnLeft (h : t.Stands unit size p heading) (degrees : ℝ) :
    (Turtle.turnLeft t degrees).Stands unit size p (heading - degrees) where
  unit := h.unit
  size := h.size
  position := h.position
  heading := by
    rw [← wrapHeading_wrapHeading_sub, ← h.heading]
    rfl

theorem turnRight (h : t.Stands unit size p heading) (degrees : ℝ) :
    (Turtle.turnRight t degrees).Stands unit size p (heading + degrees) where
  unit := h.unit
  size := h.size
  position := h.position
  heading := by
    rw [← wrapHeading_wrapHeading_add, ← h.heading]
    rfl

theorem fullTurns (h : t.Stands unit size p heading) (next : ℝ) (n : ℤ)
    (hnext : heading = next - n * 360) : t.Stands unit size p next where
  unit := h.unit
  size := h.size
  position := h.position
  heading := by
    rw [h.heading, hnext, ← zsmul_eq_mul, wrapHeading_eq, toIcoMod_sub_zsmul, ← wrapHeading_eq]

end Stands

variable [Recording σ]

/-- One turtle has drawn lines that the other has not drawn yet, all in a region. -/
def DrawsIn (Region : Vec2 ℝ → Prop) (t t' : PlaneTurtle σ ℝ) : Prop :=
  ∃ drawn, t'.drawn = t.drawn ++ drawn ∧ ∀ line ∈ drawn, Region line.start ∧ Region line.stop

namespace DrawsIn

variable {Region : Vec2 ℝ → Prop} {t t' t'' : PlaneTurtle σ ℝ}

theorem of_eq (h : t'.drawn = t.drawn) : DrawsIn Region t t' := ⟨[], by simp [h], by simp⟩

theorem trans (h : DrawsIn Region t t') (h' : DrawsIn Region t' t'') : DrawsIn Region t t'' := by
  obtain ⟨drawn, hdrawn, hregion⟩ := h
  obtain ⟨drawn', hdrawn', hregion'⟩ := h'
  refine ⟨drawn ++ drawn', by rw [hdrawn', hdrawn, List.append_assoc], ?_⟩
  intro line hline
  rcases List.mem_append.1 hline with hline | hline
  · exact hregion line hline
  · exact hregion' line hline

end DrawsIn

/-- A turtle takes a walk as it is meant: no move is dropped, it comes to where the walk
    leads, and all new lines are in the region. -/
structure Arrives (t : PlaneTurtle σ ℝ) (unit : ℝ) (size : Vec2 ℝ) (Region : Vec2 ℝ → Prop)
    (moves : List (Move ℝ)) (p : Vec2 ℝ) (heading : ℝ) : Prop where
  unhindered : ∀ saved, Turtle.Unhindered (t, saved) moves
  stands : (Turtle.walk t moves).Stands unit size p heading
  drawsIn : DrawsIn Region t (Turtle.walk t moves)

theorem Arrives.exists_drawn {t : PlaneTurtle σ ℝ} {unit : ℝ} {size p : Vec2 ℝ}
    {Region : Vec2 ℝ → Prop} {moves : List (Move ℝ)} {heading : ℝ}
    (h : t.Arrives unit size Region moves p heading) :
    ∃ drawn, (Turtle.walk t moves).drawn = t.drawn ++ drawn ∧
      drawn.length = Walk.strokes t.penDown moves ∧
      ∀ line ∈ drawn, Region line.start ∧ Region line.stop := by
  obtain ⟨drawn, hdrawn, hregion⟩ := h.drawsIn
  obtain ⟨strokes, hstrokes, -, hcount⟩ := draws.walk t moves
  obtain rfl : strokes = drawn := List.append_cancel_left (hstrokes.symm.trans hdrawn)
  exact ⟨strokes, hstrokes, hcount (h.unhindered []), hregion⟩

end PlaneTurtle

/-- **A turtle takes every route** of which the region is strictly inside its surface. -/
theorem Route.arrives {σ : Type} [Surface σ ℝ] [Recording σ] {unit : ℝ}
    {Region : Vec2 ℝ → Prop} {p q size : Vec2 ℝ} {heading last : ℝ} {moves : List (Move ℝ)}
    (h : Route unit Region p heading moves q last)
    (hregion : ∀ point, Region point → point.StrictlyInside size) {t : PlaneTurtle σ ℝ}
    (ht : t.Stands unit size p heading) : t.Arrives unit size Region moves q last := by
  induction h generalizing t with
  | done => exact ⟨fun _ => trivial, ht, .of_eq rfl⟩
  | @forward p q r heading last distance rest hp hq hstep _ ih =>
    have hmove : Turtle.forward t distance = (.applied, t.movedTo q) := by
      change t.moveTo (t.position + t.displacement distance) = _
      rw [ht.ahead, ← hstep, PlaneTurtle.moveTo_eq, ht.size, if_pos (hregion q hq)]
    have hmoved : (t.movedTo q).Stands unit size q heading :=
      ⟨ht.unit, (PlaneTurtle.size_movedTo t q).trans ht.size, rfl, ht.heading⟩
    obtain ⟨hunhindered, hstands, hdraws⟩ := ih hmoved
    have hwalk : Turtle.walk t (.forward distance :: rest) = Turtle.walk (t.movedTo q) rest := by
      change (Turtle.walkFrom ((Turtle.forward t distance).2, []) rest).1 = _
      rw [hmove]
      rfl
    have hline : PlaneTurtle.DrawsIn Region t (t.movedTo q) := by
      refine ⟨_, PlaneTurtle.lines_movedTo t q, ?_⟩
      intro line hline
      split at hline
      · obtain rfl := List.mem_singleton.1 hline
        exact ⟨ht.position ▸ hp, hq⟩
      · simp at hline
    rw [← hwalk] at hstands hdraws
    refine ⟨fun saved => ⟨congrArg Prod.fst hmove, ?_⟩, hstands, hline.trans hdraws⟩
    have hnext : Move.step (t, saved) (.forward distance) = (t.movedTo q, saved) :=
      congrArg (fun result => (result.2, saved)) hmove
    rw [hnext]
    exact hunhindered saved
  | left hnext _ ih =>
    obtain ⟨hunhindered, hstands, hdraws⟩ := ih (hnext ▸ ht.turnLeft _)
    exact ⟨fun saved => ⟨trivial, hunhindered saved⟩, hstands, .trans (.of_eq rfl) hdraws⟩
  | right hnext _ ih =>
    obtain ⟨hunhindered, hstands, hdraws⟩ := ih (hnext ▸ ht.turnRight _)
    exact ⟨fun saved => ⟨trivial, hunhindered saved⟩, hstands, .trans (.of_eq rfl) hdraws⟩
  | liftPen _ ih =>
    obtain ⟨hunhindered, hstands, hdraws⟩ :=
      ih (t := Turtle.liftPen t) ⟨ht.unit, ht.size, ht.position, ht.heading⟩
    exact ⟨fun saved => ⟨trivial, hunhindered saved⟩, hstands, .trans (.of_eq rfl) hdraws⟩
  | lowerPen _ ih =>
    obtain ⟨hunhindered, hstands, hdraws⟩ :=
      ih (t := Turtle.lowerPen t) ⟨ht.unit, ht.size, ht.position, ht.heading⟩
    exact ⟨fun saved => ⟨trivial, hunhindered saved⟩, hstands, .trans (.of_eq rfl) hdraws⟩
  | @excursion p q r heading away last inner rest hinner hrest ihinner ih =>
    obtain ⟨hunhindered, hstands, hdraws⟩ := ihinner ht
    -- back at the saved pose, with the lines of the excursion
    obtain ⟨hunhindered', hstands', hdraws'⟩ :=
      ih (t := Turtle.setPose (Turtle.walk t inner) (Turtle.pose t))
        ⟨hstands.unit, hstands.size, ht.position, ht.heading⟩
    have hwalk : Turtle.walk t (.save :: (inner ++ .restore :: rest)) =
        Turtle.walk (Turtle.setPose (Turtle.walk t inner) (Turtle.pose t)) rest := by
      have hsplit : Move.save :: (inner ++ .restore :: rest) = Walk.excursion inner ++ rest := by
        simp [Walk.excursion]
      rw [hsplit, hinner.balanced.of_excursion.walk_append, hinner.balanced.walk_excursion]
    rw [← hwalk] at hstands' hdraws'
    refine ⟨fun saved => ⟨trivial, ?_⟩, hstands', hdraws.trans (.trans (.of_eq rfl) hdraws')⟩
    refine (Turtle.unhindered_append _ inner _).2 ⟨hunhindered _, ?_⟩
    change Turtle.Unhindered (Turtle.walkFrom (t, Turtle.pose t :: saved) inner) _
    rw [hinner.balanced.walkFrom_eq]
    exact ⟨trivial, hunhindered' saved⟩

/-- Where a turtle stands in the midst of a walk, with the pose saved that it has at the end of
    the first route. -/
theorem Route.stands_saved {σ : Type} [Surface σ ℝ] [Recording σ] {unit : ℝ}
    {Region : Vec2 ℝ → Prop} {p q r size : Vec2 ℝ} {heading middle last : ℝ}
    {first second : List (Move ℝ)} (hfirst : Route unit Region p heading first q middle)
    (hsecond : Route unit Region q middle second r last)
    (hregion : ∀ point, Region point → point.StrictlyInside size) {t : PlaneTurtle σ ℝ}
    (ht : t.Stands unit size p heading) (saved : List (PlanePose ℝ)) :
    (Turtle.walkFrom (t, saved) (first ++ .save :: second)).1.Stands unit size r last := by
  have hstands := (hsecond.arrives hregion (hfirst.arrives hregion ht).stands).stands
  rw [Turtle.walkFrom_append, hfirst.balanced.walkFrom_eq]
  change (Turtle.walkFrom (Turtle.walk t first, _ :: saved) second).1.Stands unit size r last
  rw [hsecond.balanced.walkFrom_eq]
  exact hstands

end TurtleGraphics
