/-
  Headings: the angles of turtles, on every tour.

  Angles are only written by turns, which reduce them, by a turtle that starts over, which heads
  ahead, and by poses that are gone back to, which were reduced when they were taken down.  So
  they stay in their ranges.  Where they point is the sum of all turns, if no pose is gone back
  to and no turtle starts over: what is reduced on the way are full turns.

  * `Tour.Step.Onward`, `Tour.total`: the steps that something can be summed over, and the sum;
    `Tour.after_modEq`: an angle that each step changes by its share changes by the sum;
  * `PlaneTurtle.tour_keeps_reduced`, `Scene.tour_keeps_reduced`: all steps of a tour keep the
    angles in their ranges;
  * `PlaneTurtle.heading_act`, `Scene.yaw_act`, `Scene.pitch_act`: what one step adds to them;
  * `angles_reduced_and_summed`: so it is on every tour.

  The numbers are real here.
-/
import TurtleGraphics.Proofs.Fractal.Circuits

namespace TurtleGraphics

/-! ## Sums over tours -/

namespace Tour

variable {σ A ρ : Type}

/-- A step that does something of the given kind, or takes down a pose. -/
def Step.Onward (Kind : A → Prop) : Step A → Prop
  | .act activity => Kind activity
  | .notePose => True
  | .recallPose _ => False

/-- The sum of what all that is done on a tour counts. -/
noncomputable def total (share : A → ℝ) : List (Step A) → ℝ
  | [] => 0
  | .act activity :: rest => share activity + total share rest
  | _ :: rest => total share rest

variable {tour : Tour σ A ρ} {share : A → ℝ} {Kind : A → Prop}
  {steps : List (Step A)}

/-- **An angle that all activities change by their shares**, up to full turns, changes on a tour by
    their sum. -/
theorem after_modEq (angle : σ → ℝ)
    (hact : ∀ state activity, Kind activity →
      angle (tour.act state activity) ≡ angle state + share activity [PMOD 360])
    (hsteps : ∀ s ∈ steps, s.Onward Kind) (state : σ) :
    angle (tour.after state steps) ≡ angle state + total share steps [PMOD 360] := by
  have hrun : ∀ traveller : σ × List ρ,
      angle (steps.foldl tour.step traveller).1 ≡
        angle traveller.1 + total share steps [PMOD 360] := by
    induction steps with
    | nil => simp [total]
    | cons s rest ih =>
      obtain ⟨hstep, hrest⟩ := List.forall_mem_cons.1 hsteps
      rintro ⟨state, noted⟩
      cases s with
      | act activity =>
        have hfirst := (hact state activity hstep).add_right (total share rest)
        rw [total, ← add_assoc]
        exact (ih hrest _).trans hfirst
      | notePose => exact ih hrest _
      | recallPose number => exact hstep.elim
  exact hrun (state, [])

end Tour

/-! ## The plane -/

namespace PlaneTurtle

namespace Activity

/-- The turtle walks on, or changes its style: it goes back to no pose, and does not start over. -/
def Onward : Activity ℝ → Prop
  | walk moves => .restore ∉ moves
  | setColor _ | setWidth _ => True
  | reset | run .. => False

/-- The turns of a walk; nothing else turns the turtle. -/
noncomputable def turn : Activity ℝ → ℝ
  | walk moves => Walk.turn moves
  | _ => 0

end Activity

variable {σ : Type} {t : PlaneTurtle σ ℝ}

theorem heading_setColor (t : PlaneTurtle σ ℝ) (color : String) :
    (t.setColor color).2.heading = t.heading := by
  unfold setColor
  split <;> rfl

theorem heading_setWidth (t : PlaneTurtle σ ℝ) (width : ℝ) :
    (t.setWidth width).2.heading = t.heading := by
  unfold setWidth
  split <;> rfl

/-- The heading of a turtle is in its range. -/
structure Reduced (t : PlaneTurtle σ ℝ) : Prop where
  heading : t.heading ∈ Set.Ico (0 : ℝ) 360

namespace Reduced

theorem setColor (h : t.Reduced) (color : String) : (t.setColor color).2.Reduced :=
  ⟨(heading_setColor t color).symm ▸ h.heading⟩

theorem setWidth (h : t.Reduced) (width : ℝ) : (t.setWidth width).2.Reduced :=
  ⟨(heading_setWidth t width).symm ▸ h.heading⟩

variable [Surface σ ℝ]

theorem apply (h : t.Reduced) (c : Command ℝ) : (t.apply c).2.Reduced :=
  ⟨keeps_apply keeps_heading h.heading (fun color _ => (h.setColor color).heading)
    fun width _ => (h.setWidth width).heading⟩

/-- **All that is done with a turtle** keeps its heading in the range. -/
theorem act (h : t.Reduced) (activity : Activity ℝ) : (t.act activity).Reduced := by
  cases activity with
  | walk moves => exact ⟨keeps_heading.walk h.heading moves⟩
  | setColor color => exact h.setColor color
  | setWidth width => exact h.setWidth width
  | reset => exact ⟨by simp [PlaneTurtle.act, PlaneTurtle.reset]⟩
  | run limits program => exact Limits.run_induction (fun c _ _ h => h.apply c) (fun _ h => h) h

end Reduced

variable [Surface σ ℝ]

@[simp] theorem heading_start (surface : σ) (extent : ℝ) (stroke : Stroke ℝ) :
    (start surface extent stroke).heading = 0 := Nat.cast_zero

theorem tour_keeps_reduced :
    (tour (σ := σ)).Keeps Reduced fun pose => pose.heading ∈ Set.Ico (0 : ℝ) 360 where
  act _ activity h := h.act activity
  pose _ h := h.heading
  setPose _ _ _ hpose := ⟨hpose⟩

/-- **What is done with a turtle** turns it as it is told. -/
theorem heading_act (t : PlaneTurtle σ ℝ) (activity : Activity ℝ) (h : activity.Onward) :
    (t.act activity).heading ≡ t.heading + activity.turn [PMOD 360] := by
  cases activity with
  | walk moves => exact steers.walkFrom h (t, [])
  | setColor color => simp [act, Activity.turn, heading_setColor]
  | setWidth width => simp [act, Activity.turn, heading_setWidth]
  | reset | run => exact h.elim

end PlaneTurtle

/-! ## Space -/

/-- The angles of a pose are in their ranges. -/
structure SpacePose.Reduced (pose : SpacePose ℝ) : Prop where
  yaw : pose.yaw ∈ Set.Ico (0 : ℝ) 360
  pitch : pose.pitch ∈ Set.Ico (-180 : ℝ) 180

namespace SpaceTurtle

variable {t t' : SpaceTurtle ℝ}

theorem angles_setColor (t : SpaceTurtle ℝ) (color : String) :
    (t.setColor color).2.yaw = t.yaw ∧ (t.setColor color).2.pitch = t.pitch := by
  unfold setColor
  split <;> exact ⟨rfl, rfl⟩

theorem angles_setWidth (t : SpaceTurtle ℝ) (width : ℝ) :
    (t.setWidth width).2.yaw = t.yaw ∧ (t.setWidth width).2.pitch = t.pitch := by
  unfold setWidth
  split <;> exact ⟨rfl, rfl⟩

/-- The angles of a turtle are in their ranges. -/
def Reduced (t : SpaceTurtle ℝ) : Prop := t.pose.Reduced

theorem Reduced.ahead (hyaw : t.yaw = 0) (hpitch : t.pitch = 0) : t.Reduced :=
  ⟨by simp [pose, hyaw], by simp [pose, hpitch]⟩

theorem Reduced.congr (h : t.Reduced) (hangles : t'.yaw = t.yaw ∧ t'.pitch = t.pitch) :
    t'.Reduced where
  yaw := by
    change t'.yaw ∈ _
    rw [hangles.1]
    exact h.yaw
  pitch := by
    change t'.pitch ∈ _
    rw [hangles.2]
    exact h.pitch

/-- **Walks** keep the angles in their ranges. -/
theorem keeps_reduced : Turtle.Keeps Reduced SpacePose.Reduced where
  forward t _ h := h.congr (t.angles_moveTo _)
  backward t _ h := h.congr (t.angles_moveTo _)
  turnLeft _ _ h := ⟨wrapHeading_mem _, h.pitch⟩
  turnRight _ _ h := ⟨wrapHeading_mem _, h.pitch⟩
  liftPen _ h := h
  lowerPen _ h := h
  pose _ h := h
  setPose _ _ _ hpose := hpose

namespace Reduced

theorem turnUp (h : t.Reduced) (degrees : ℝ) : (t.turnUp degrees).Reduced :=
  ⟨h.yaw, wrapPitch_mem _⟩

theorem turnDown (h : t.Reduced) (degrees : ℝ) : (t.turnDown degrees).Reduced :=
  ⟨h.yaw, wrapPitch_mem _⟩

theorem reset (t : SpaceTurtle ℝ) : t.reset.Reduced := .ahead Nat.cast_zero Nat.cast_zero

theorem apply (h : t.Reduced) (c : Command ℝ) : (t.apply c).2.Reduced := by
  cases c with
  | forward distance => exact keeps_reduced.forward t distance h
  | backward distance => exact keeps_reduced.backward t distance h
  | right degrees => exact keeps_reduced.turnRight t degrees h
  | left degrees => exact keeps_reduced.turnLeft t degrees h
  | up degrees => exact h.turnUp degrees
  | down degrees => exact h.turnDown degrees
  | penUp | penDown => exact h
  | setColor color => exact h.congr (t.angles_setColor color)
  | setWidth width => exact h.congr (t.angles_setWidth width)
  | koch | sierpinski => exact keeps_reduced.walk h _
  | clearScreen => exact .reset t

end Reduced

end SpaceTurtle

namespace Scene

namespace Activity

/-- The turtle walks on, turns up or down, or changes its style, or the view is changed: the turtle
    goes back to no pose, and does not start over. -/
def Onward : Activity ℝ → Prop
  | walk moves => .restore ∉ moves
  | turnUp _ | turnDown _ | setColor _ | setWidth _ => True
  | reset | perform (.run ..) => False
  | perform _ => True

/-- The turns to the right, less those to the left. -/
noncomputable def turn : Activity ℝ → ℝ
  | walk moves => Walk.turn moves
  | _ => 0

/-- The turns up, less those down. -/
noncomputable def rise : Activity ℝ → ℝ
  | turnUp degrees => degrees
  | turnDown degrees => -degrees
  | _ => 0

end Activity

variable {σ : Type}

@[simp] theorem yaw_start (surface : σ) (focalDistance : ℝ) :
    (start surface focalDistance).turtle.yaw = 0 := Nat.cast_zero

@[simp] theorem pitch_start (surface : σ) (focalDistance : ℝ) :
    (start surface focalDistance).turtle.pitch = 0 := Nat.cast_zero

variable [Surface σ ℝ] {s : Scene σ ℝ}

/-- A scene with a turtle whose angles are in their ranges. -/
def Reduced (s : Scene σ ℝ) : Prop := s.turtle.Reduced

namespace Reduced

theorem apply (h : s.Reduced) (c : Command ℝ) : (session.apply s c).2.Reduced := by
  rw [Reduced, apply_turtle]
  exact SpaceTurtle.Reduced.apply h c

/-- **All that is done with a scene** keeps the angles in their ranges. -/
theorem act (h : s.Reduced) (activity : Activity ℝ) : (s.act activity).Reduced := by
  cases activity with
  | walk moves => exact SpaceTurtle.keeps_reduced.walk h moves
  | turnUp degrees => exact SpaceTurtle.Reduced.turnUp h degrees
  | turnDown degrees => exact SpaceTurtle.Reduced.turnDown h degrees
  | setColor color => exact SpaceTurtle.Reduced.congr h (s.turtle.angles_setColor color)
  | setWidth width => exact SpaceTurtle.Reduced.congr h (s.turtle.angles_setWidth width)
  | reset => exact SpaceTurtle.Reduced.reset s.turtle
  | perform action =>
    exact perform_induction (P := Reduced) (fun c _ h => h.apply c) (fun _ h => h)
      (fun _ _ h => h) (fun _ _ h => h) h action

end Reduced

theorem tour_keeps_reduced : (tour (σ := σ)).Keeps Reduced SpacePose.Reduced where
  act _ activity h := h.act activity
  pose _ h := h
  setPose _ _ _ hpose := hpose

theorem turtle_perform {action : Action ℝ} (h : Activity.Onward (.perform action)) :
    (s.perform action).2.turtle = s.turtle := by
  cases action with
  | run => exact h.elim
  | drag | moveCamera | redraw => rfl

/-- **What is done with a scene** turns its turtle as it is told. -/
theorem yaw_act (s : Scene σ ℝ) (activity : Activity ℝ) (h : activity.Onward) :
    (s.act activity).turtle.yaw ≡ s.turtle.yaw + activity.turn [PMOD 360] := by
  cases activity with
  | walk moves => exact SpaceTurtle.steers.walkFrom h (s.turtle, [])
  | turnUp | turnDown => simp [act, Activity.turn, SpaceTurtle.turnUp, SpaceTurtle.turnDown]
  | setColor color => simp [act, Activity.turn, s.turtle.angles_setColor color]
  | setWidth width => simp [act, Activity.turn, s.turtle.angles_setWidth width]
  | reset => exact h.elim
  | perform action => simp [act, Activity.turn, turtle_perform h]

theorem pitch_act (s : Scene σ ℝ) (activity : Activity ℝ) (h : activity.Onward) :
    (s.act activity).turtle.pitch ≡ s.turtle.pitch + activity.rise [PMOD 360] := by
  cases activity with
  | walk moves =>
    have hpitch := SpaceTurtle.retains_pitch.walkFrom h (s.turtle, [])
    simp [act, Activity.rise, Turtle.walk, hpitch]
  | turnUp degrees => exact wrapPitch_modEq (s.turtle.pitch + degrees)
  | turnDown degrees => exact wrapPitch_modEq (s.turtle.pitch - degrees)
  | setColor color => simp [act, Activity.rise, s.turtle.angles_setColor color]
  | setWidth width => simp [act, Activity.rise, s.turtle.angles_setWidth width]
  | reset => exact h.elim
  | perform action => simp [act, Activity.rise, turtle_perform h]

end Scene

/-! ## Every tour -/

/-- **Angles are reduced, and sum up.**  A tour may be made of any turns, moves, walks, runs of
    programs, new starts, and poses that are gone back to: the heading of a turtle of the plane,
    and the yaw and the pitch of a turtle of space, stay in their ranges.

    If no pose is gone back to, no turtle starts over and no program is run, they are, up to full
    turns, what they were, and the sum of all turns since.  Those on walks are counted, too; and
    fractals go back to no pose, but for the triangle of the plane. -/
theorem angles_reduced_and_summed :
    (∀ {σ : Type} [Surface σ ℝ] (surface : σ) (extent : ℝ) (stroke : Stroke ℝ)
        (steps : List (Tour.Step (PlaneTurtle.Activity ℝ))),
      (PlaneTurtle.tour.after (.start surface extent stroke) steps).heading ∈
        Set.Ico (0 : ℝ) 360) ∧
    (∀ {σ : Type} [Surface σ ℝ] (surface : σ) (focalDistance : ℝ)
        (steps : List (Tour.Step (Scene.Activity ℝ))),
      let t := (Scene.tour.after (.start surface focalDistance) steps).turtle
      t.yaw ∈ Set.Ico (0 : ℝ) 360 ∧ t.pitch ∈ Set.Ico (-180 : ℝ) 180) ∧
    (∀ {σ : Type} [Surface σ ℝ] (t : PlaneTurtle σ ℝ)
        {steps : List (Tour.Step (PlaneTurtle.Activity ℝ))},
      (∀ s ∈ steps, s.Onward PlaneTurtle.Activity.Onward) →
        (PlaneTurtle.tour.after t steps).heading ≡
          t.heading + Tour.total PlaneTurtle.Activity.turn steps [PMOD 360]) ∧
    (∀ {σ : Type} [Surface σ ℝ] (scene : Scene σ ℝ)
        {steps : List (Tour.Step (Scene.Activity ℝ))},
      (∀ s ∈ steps, s.Onward Scene.Activity.Onward) →
        let t := (Scene.tour.after scene steps).turtle
        t.yaw ≡ scene.turtle.yaw + Tour.total Scene.Activity.turn steps [PMOD 360] ∧
          t.pitch ≡ scene.turtle.pitch + Tour.total Scene.Activity.rise steps [PMOD 360]) ∧
    ∀ (level : Nat) (length : ℝ),
      ∀ moves ∈ [Koch.curve level length, Koch.planeSnowflake level length,
        Koch.spaceSnowflake level length, Sierpinski.spaceTriangle level length],
        .restore ∉ moves := by
  refine ⟨?_, ?_, ?_, ?_, ?_⟩
  · intro σ _ surface extent stroke steps
    have hstart : (PlaneTurtle.start surface extent stroke).Reduced := ⟨by simp⟩
    exact (PlaneTurtle.tour_keeps_reduced.after hstart steps).heading
  · intro σ _ surface focalDistance steps t
    have hstart : (Scene.start surface focalDistance).Reduced :=
      .ahead (Scene.yaw_start ..) (Scene.pitch_start ..)
    have hreduced := Scene.tour_keeps_reduced.after hstart steps
    exact ⟨hreduced.yaw, hreduced.pitch⟩
  · intro σ _ t steps hsteps
    exact Tour.after_modEq PlaneTurtle.heading PlaneTurtle.heading_act hsteps t
  · intro σ _ scene steps hsteps t
    exact ⟨Tour.after_modEq (fun s => s.turtle.yaw) Scene.yaw_act hsteps scene,
      Tour.after_modEq (fun s => s.turtle.pitch) Scene.pitch_act hsteps scene⟩
  · intro level length moves hmoves
    simp only [List.mem_cons, List.not_mem_nil, or_false] at hmoves
    rcases hmoves with rfl | rfl | rfl | rfl
    · exact (Koch.straight_curve level length).onward
    · exact (Koch.aligned_planeSnowflake level length).onward
    · exact (Koch.straight_spaceSnowflake level length).onward
    · exact (Sierpinski.straight_spaceTriangle level length).onward

/-- Two tours from the start.  The turns of the one sum up to 290 degrees, and those of the other to
    1760 degrees to the right and 335 degrees up. -/
theorem angles_of_two_tours :
    let steps : List (Tour.Step (PlaneTurtle.Activity ℝ)) :=
      [.act (.walk [.left 100]), .notePose, .act (.walk (Koch.planeSnowflake 1 90)),
        .act (.setWidth 3), .act (.walk [.forward 1000, .right 30])]
    let t := PlaneTurtle.tour.after
      (.start (LineBuffer.empty (⟨500, 400⟩ : Vec2 ℝ)) 250 .initial) steps
    let steps' : List (Tour.Step (Scene.Activity ℝ)) :=
      [.act (.walk [.right 350]), .act (.turnUp 170), .act (.turnUp 170), .notePose,
        .act (.walk (Sierpinski.spaceTriangle 2 100)), .act (.turnDown 5), .act (.walk [.left 30])]
    let t' := (Scene.tour.after (.start (LineBuffer.empty (⟨500, 400⟩ : Vec2 ℝ)) 700) steps').turtle
    (∀ s ∈ steps, s.Onward PlaneTurtle.Activity.Onward) ∧
      (∀ s ∈ steps', s.Onward Scene.Activity.Onward) ∧
      t.heading = 290 ∧ t'.yaw = 320 ∧ t'.pitch ≡ -25 [PMOD 360] := by
  intro steps t steps' t'
  obtain ⟨hheading, hangles, hsum, hsums, hfractals⟩ := angles_reduced_and_summed
  have hsteps : ∀ s ∈ steps, s.Onward PlaneTurtle.Activity.Onward := by
    simp [steps, Tour.Step.Onward, PlaneTurtle.Activity.Onward, hfractals 1 90]
  have hsteps' : ∀ s ∈ steps', s.Onward Scene.Activity.Onward := by
    simp [steps', Tour.Step.Onward, Scene.Activity.Onward, hfractals 2 100]
  have htotal : (0 : ℝ) + Tour.total PlaneTurtle.Activity.turn steps = 290 := by
    norm_num [steps, Tour.total, PlaneTurtle.Activity.turn, Koch.planeSnowflake, Koch.triangle,
      Koch.curve, Move.turn]
  have htotal' : (0 : ℝ) + Tour.total Scene.Activity.turn steps' = 320 + (4 : ℤ) • 360 := by
    norm_num [steps', Tour.total, Scene.Activity.turn, Sierpinski.spaceTriangle, Sierpinski.edges,
      Move.turn]
  have hrise : (0 : ℝ) + Tour.total Scene.Activity.rise steps' = -25 + (1 : ℤ) • 360 := by
    norm_num [steps', Tour.total, Scene.Activity.rise]
  have hsummed := hsum (.start (LineBuffer.empty ⟨500, 400⟩) 250 .initial) hsteps
  rw [PlaneTurtle.heading_start, htotal] at hsummed
  obtain ⟨hyaw, hpitch⟩ := hsums (.start (LineBuffer.empty ⟨500, 400⟩) 700) hsteps'
  rw [Scene.yaw_start, htotal'] at hyaw
  rw [Scene.pitch_start, hrise] at hpitch
  refine ⟨hsteps, hsteps', ?_, ?_, ?_⟩
  · exact eq_of_modEq_of_mem hsummed (hheading _ _ _ steps) (by norm_num)
  · exact eq_of_modEq_of_mem (hyaw.trans (AddCommGroup.add_zsmul_modEq 4))
      (hangles _ _ steps').1 (by norm_num)
  · exact hpitch.trans (AddCommGroup.add_zsmul_modEq 1)

end TurtleGraphics
