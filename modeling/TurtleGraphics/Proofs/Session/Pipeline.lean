/-
  The pipeline: what a drawing of space is, without a scene.

  A scene keeps its view in its state: programs take it back when they clear the
  screen, a drag changes it, and every redraw depends on it.  But a drawing is made
  from a scene at the start, with a single drag behind the program.  So its reports
  are those of the turtle alone, and its lines are a function of where that turtle
  has drawn.

  * `SpaceTurtle.session` is the turtle without a view, for which clearing the screen
    is nothing but starting over;
  * `Vec3.image` is what is seen of a point, turned about the origin and projected, and
    `SpaceTurtle.picture` are the lines of the edges of which both ends are seen;
  * `Scene.Follows`: a scene at the place of the turtle, with the view at the start,
    and `Scene.follows`: it is so behind every command;
  * `Settings.drawSpace_eq`: a drawing of space is the picture of the turtle;
  * `space_drawing_of_turtle`: so it is with doubles, for every configuration.
-/
import TurtleGraphics.Proofs.Session.Document
import TurtleGraphics.Proofs.Session.Views

namespace TurtleGraphics

variable {α : Type} [Scalar α]

/-! ## The turtle alone -/

/-- The image of a point behind a drag.  The point is turned about the origin as far as
    the view at the start and the drag say, and then projected. -/
def Vec3.image (p : Vec3 α) (focalDistance : α) (drag : Vec2 α) : ProjectedPoint α :=
  let offset : Vec2 α := ⟨(0 : Nat), -(90 : Nat)⟩ + drag
  let yaw := offset.x * Scalar.pi / (360 : Nat)
  let pitch := offset.y * Scalar.pi / (180 : Nat)
  let camera : Camera α := ⟨Scene.cameraPosition, focalDistance⟩
  camera.project (rotate p Vec3.zero yaw pitch)

namespace SpaceTurtle

/-- A session whose state is the turtle.  Nothing happens at the end of a batch. -/
def session : Session (SpaceTurtle α) α where
  apply := apply
  finish t := t

/-- The lines of what the turtle has drawn, on a surface of the given size: those
    edges of which both ends are seen, in the color of their shape and in the width of
    the turtle. -/
def picture (t : SpaceTurtle α) (size : Vec2 α) (focalDistance : α) (drag : Vec2 α) :
    List (Line α) :=
  t.shapes.toList.flatMap fun shape =>
    shape.segments.filterMap fun (p, q) =>
      let start := p.image focalDistance drag
      let stop := q.image focalDistance drag
      if start.Visible ∧ stop.Visible then
        some ⟨start.onSurface size.half, stop.onSurface size.half, ⟨shape.color, t.thickness⟩⟩
      else none

theorem picture_eq (t : SpaceTurtle α) (size : Vec2 α) (focalDistance : α) (drag : Vec2 α) :
    let orbit : Orbit α := Orbit.initial.drag drag
    t.picture size focalDistance drag =
      (⟨t.thickness⟩ : Renderer α).frame ⟨Scene.cameraPosition, focalDistance⟩ size
        (Shape.rotateAll t.shapes.toList Vec3.zero orbit.yaw orbit.pitch) := by
  intro orbit
  rw [picture, Renderer.frame, Shape.rotateAll, List.flatMap_map]
  congr 1
  funext shape
  rw [Shape.segments_mapVertices, List.filterMap_map]
  rfl

end SpaceTurtle

/-! ## Scenes that follow a turtle -/

namespace Scene

/-- A scene with a certain turtle and the view at the start. -/
structure Follows (size : Vec2 α) (focalDistance : α) (s : Scene (LineBuffer α) α)
    (t : SpaceTurtle α) : Prop where
  turtle : s.turtle = t
  orbit : s.orbit = .initial
  camera : s.camera = ⟨cameraPosition, focalDistance⟩
  size : s.surface.size = size

variable {size : Vec2 α} {focalDistance : α} {s : Scene (LineBuffer α) α} {t : SpaceTurtle α}

/-- **Commands** have the same outcomes in a scene as for the turtle alone.  Clearing the
    screen takes the view back to the start, where it is. -/
theorem follows (size : Vec2 α) (focalDistance : α) :
    session.Simulates SpaceTurtle.session (Follows size focalDistance) := by
  refine .of_step ?_
  rintro s t c ⟨rfl, horbit, hcamera, hsize⟩
  change (s.apply c).1 = (s.turtle.apply c).1 ∧
    Follows size focalDistance (s.apply c).2 (s.turtle.apply c).2
  by_cases hclear : c = .clearScreen
  · subst hclear
    have hmoved : s.camera.movedTo cameraPosition = ⟨cameraPosition, focalDistance⟩ := by
      rw [hcamera]
      rfl
    exact ⟨rfl, rfl, rfl, hmoved, hsize⟩
  · rw [apply_eq hclear]
    exact ⟨rfl, rfl, horbit, hcamera, hsize⟩

theorem lines_redraw (s : Scene (LineBuffer α) α) :
    s.redraw.2.surface.lines =
      ((⟨s.turtle.thickness⟩ : Renderer α).frame s.camera s.surface.size s.turned).toArray := by
  rw [redraw_eq_frame, LineBuffer.foldl_draw]
  simp [Surface.clear, Surface.size, LineBuffer.empty]

theorem Follows.lines_drag (h : Follows size focalDistance s t) (amount : Vec2 α) :
    (s.drag amount).2.surface.lines = (t.picture size focalDistance amount).toArray := by
  obtain ⟨rfl, horbit, hcamera, rfl⟩ := h
  rw [SpaceTurtle.picture_eq, drag, lines_redraw, turned, horbit, hcamera]

theorem Follows.lines_redraw (h : Follows size focalDistance s t) {amount : Vec2 α}
    (hnone : Orbit.initial.drag amount = Orbit.initial) :
    s.redraw.2.surface.lines = (t.picture size focalDistance amount).toArray := by
  rw [← h.lines_drag, drag, h.orbit, hnone, ← h.orbit]

theorem run_start (limits : Limits) (program : String) (size : Vec2 α) (focalDistance : α) :
    let alone := limits.run SpaceTurtle.session program .initial
    let scene := limits.run session program (start (LineBuffer.empty size) focalDistance)
    scene.1 = alone.1 ∧
      (∀ amount, (scene.2.drag amount).2.surface.lines =
        (alone.2.picture size focalDistance amount).toArray) ∧
      ∀ amount, Orbit.initial.drag amount = (Orbit.initial : Orbit α) →
        scene.2.surface.lines = (alone.2.picture size focalDistance amount).toArray := by
  intro alone scene
  have hstart : Follows size focalDistance (start (LineBuffer.empty size) focalDistance)
      (SpaceTurtle.initial : SpaceTurtle α) := ⟨rfl, rfl, rfl, rfl⟩
  obtain ⟨hreports, hbehind⟩ := (follows size focalDistance).entries limits
    (Statement.unrollAll limits 1 (parse limits.repeatDepth program)) hstart
  have halone : alone = _ := limits.run_eq ..
  have hscene : scene = _ := limits.run_eq ..
  rw [halone, hscene]
  refine ⟨hreports, ?_, ?_⟩
  · intro amount
    -- the redraw at the end of the batch is not seen behind a drag
    have hlook := (alike_redraw (Entry.stateAfter limits session
      (start (LineBuffer.empty size) focalDistance)
      (Statement.unrollAll limits 1 (parse limits.repeatDepth program)))).look_eq (.drag amount)
    exact (congrArg (·.2.surface.lines) hlook).trans (hbehind.lines_drag amount)
  · intro amount hnone
    exact hbehind.lines_redraw hnone

end Scene

/-! ## Drawings -/

/-- **A drawing of space** is the picture of the turtle alone, if a drag that is not made
    would change nothing. -/
theorem Settings.drawSpace_eq [NumberText α] (s : Settings α) (program : String)
    (hnone : ¬ s.Drags → Orbit.initial.drag s.drag = Orbit.initial) :
    let alone := s.limits.run SpaceTurtle.session program .initial
    s.drawSpace program =
      { lines := (alone.2.picture s.surfaceSize s.cameraDistance s.drag).toArray
        markup := none
        reports := alone.1 } := by
  intro alone
  obtain ⟨hreports, hdrag, hredraw⟩ :=
    Scene.run_start s.limits program s.surfaceSize s.cameraDistance
  unfold drawSpace
  dsimp only
  by_cases hdrags : s.Drags
  · rw [if_pos hdrags, hreports, hdrag]
  · rw [if_neg hdrags, hreports, hredraw _ (hnone hdrags)]

theorem Settings.drag_of_ofConfiguration {c : Configuration} {s : Settings Float}
    (h : ofConfiguration c = .ok s) : s.drag.x.isFinite = true ∧ s.drag.y.isFinite = true := by
  have hproblem := problem?_of_ofConfiguration h
  unfold problem? at hproblem
  split at hproblem
  · cases hproblem
  · split at hproblem
    · next hfinite => exact Bool.and_eq_true_iff.1 hfinite
    · cases hproblem

theorem Settings.drag_eq_initial {s : Settings Float} (hx : s.drag.x.isFinite = true)
    (hy : s.drag.y.isFinite = true) (hdrags : ¬ s.Drags) :
    Orbit.initial.drag s.drag = Orbit.initial := by
  obtain ⟨hxBelow, hxAbove, hyBelow, hyAbove⟩ := by
    simpa only [Drags, not_or] using hdrags
  obtain ⟨xSign, hxZero⟩ := Binary64.unpack_of_not_lt hx hxBelow hxAbove
  obtain ⟨ySign, hyZero⟩ := Binary64.unpack_of_not_lt hy hyBelow hyAbove
  have hyaw := (Binary64.add_of_unpack_eq_zero hxZero).1
  have hpitch := (Binary64.add_of_unpack_eq_zero hyZero).2
  exact congrArg Orbit.mk (Vec2.ext hyaw hpitch)

/-- **A drawing of space is made by a pipeline.**  For every configuration that asks for
    one, the reports are those of the turtle alone, which knows nothing but the program
    and the limits, and the lines are the picture of this turtle with the drag.  It does
    not matter that a drag of zero is not made, nor that clearing the screen takes back
    the view. -/
theorem space_drawing_of_turtle {c : Configuration} {s : Settings Float}
    (hs : Settings.ofConfiguration c = .ok s) (hspace : s.variant = .space) (program : String) :
    let alone := s.limits.run SpaceTurtle.session program .initial
    let drawing : Drawing Float :=
      { lines := (alone.2.picture s.surfaceSize s.cameraDistance s.drag).toArray
        markup := none
        reports := alone.1 }
    s.draw program = drawing ∧
      (c "program" = some program → Drawing.ofConfiguration c = .ok drawing) ∧
      (∀ {c' : Configuration} {s' : Settings Float}, Settings.ofConfiguration c' = .ok s' →
        s'.variant = .space → s'.limits = s.limits →
          (s'.draw program).reports = (s.draw program).reports) ∧
      let first : Scene (LineBuffer Float) Float :=
        .start (.empty s.surfaceSize) s.cameraDistance
      let scene := (s.limits.run Scene.session program first).2
      (scene.drag s.drag).2.surface.lines = drawing.lines := by
  intro alone drawing
  -- drags are finite, so that one that is not made would change nothing
  have hdraw : ∀ {c : Configuration} {s : Settings Float}, Settings.ofConfiguration c = .ok s →
      s.variant = .space → s.draw program = s.drawSpace program ∧
        (¬ s.Drags → Orbit.initial.drag s.drag = Orbit.initial) := by
    intro c s hs hspace
    obtain ⟨hx, hy⟩ := Settings.drag_of_ofConfiguration hs
    exact ⟨by rw [Settings.draw, hspace], Settings.drag_eq_initial hx hy⟩
  obtain ⟨hvariant, hnone⟩ := hdraw hs hspace
  have hdrawing : s.draw program = drawing := hvariant.trans (s.drawSpace_eq program hnone)
  refine ⟨hdrawing, ?_, ?_, ?_⟩
  · intro hprogram
    rw [Drawing.ofConfiguration, hs]
    simp only [Configuration.required, hprogram]
    exact congrArg Except.ok hdrawing
  · intro c' s' hs' hspace' hlimits
    obtain ⟨hvariant', hnone'⟩ := hdraw hs' hspace'
    rw [hdrawing, hvariant', s'.drawSpace_eq program hnone', hlimits]
  · exact (Scene.run_start s.limits program s.surfaceSize s.cameraDistance).2.1 s.drag

theorem space_drawing_of_cleared_turtle :
    let program := "fd 500; repeat 2; cs; rt 30; koch 1 90; end; ss 2; ut 200; bk 10; sc <"
    let c : Configuration := fun key =>
      if key = "command" then some "turtle_3d"
      else if key = "surface.width" then some " 640 "
      else if key = "view.drag_x" then some "-0"
      else if key = "program" then some program
      else none
    let standard : Settings Float := .standard .space
    let s : Settings Float :=
      { standard with surfaceSize := ⟨640, 600⟩, drag := ⟨-Float.ofNat 0, Float.ofNat 0⟩ }
    let alone := s.limits.run SpaceTurtle.session program .initial
    Settings.ofConfiguration c = .ok s ∧ s.variant = .space ∧ c "program" = some program ∧
      Drawing.ofConfiguration c = .ok
        { lines := (alone.2.picture s.surfaceSize s.cameraDistance s.drag).toArray
          markup := none
          reports := alone.1 } := by
  -- one drag is a negative zero, and the screen is cleared on the way
  intro program c standard s alone
  have hs : Settings.ofConfiguration c = .ok s := rfl
  exact ⟨hs, rfl, rfl, (space_drawing_of_turtle hs rfl program).2.1 rfl⟩

end TurtleGraphics
