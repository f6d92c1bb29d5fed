/-
  Flat drawings: the plane, seen from the front.

  A turtle of space that never turns up or down stays in the plane through the origin,
  which faces the camera at the start.  There the perspective is a change of scale, and
  what is drawn looks like the drawing of a turtle of the plane, if a board unit is as
  long as the camera shows it.

  * `Vec3.flatPlace` is where a point of that plane is shown, and
    `Vec3.image_of_level`: the camera shows it there;
  * `SeenFlat`: a turtle of the plane that is where a turtle of space is shown, and has
    drawn what is shown of its shapes;
  * `SeenFlat.moveTo`, `SeenFlat.apply`: moves and other flat commands keep it, unless
    one of the turtles is stopped by the border of its board;
  * `FlatProgram`: a program with no other commands, and `FlatProgram.isFlat`: none are
    given to a session;
  * `flat_drawings_agree`: the two drawings of such a program are the same.

  The numbers are real here.
-/
import TurtleGraphics.Proofs.Geometry.Reals
import TurtleGraphics.Proofs.Session.Pipeline

namespace TurtleGraphics

/-! ## Facing the camera -/

namespace Vec3

/-- Where a point is shown that lies in the plane through the origin. -/
noncomputable def flatPlace (size : Vec2 ℝ) (focalDistance : ℝ) (p : Vec3 ℝ) : Vec2 ℝ :=
  size.half + ⟨p.x * (focalDistance / 2000), p.y * (focalDistance / 2000)⟩

/-- **The view at the start** turns that plane to the camera. -/
theorem rotate_of_level {p : Vec3 ℝ} (hlevel : p.z = 0) :
    rotate p Vec3.zero 0 (-90 * Real.pi / 180) = ⟨p.x, 0, -p.y⟩ := by
  have hquarter : -90 * Real.pi / 180 = -(Real.pi / 2) := by ring
  rw [rotate, Matrix3.applyAbout_zero, orbitMatrix, Matrix3.apply_comp, Matrix3.rotationX_apply,
    Matrix3.rotationZ_apply, hquarter, hlevel]
  simp

theorem image_undragged (p : Vec3 ℝ) (focalDistance : ℝ) :
    p.image focalDistance ⟨0, 0⟩ =
      (⟨Scene.cameraPosition, focalDistance⟩ : Camera ℝ).project
        (rotate p Vec3.zero 0 (-90 * Real.pi / 180)) := by
  simp [image, Scalar.pi]

theorem image_of_level {p : Vec3 ℝ} (hlevel : p.z = 0) (size : Vec2 ℝ) (focalDistance : ℝ) :
    (p.image focalDistance ⟨0, 0⟩).Visible ∧
      (p.image focalDistance ⟨0, 0⟩).onSurface size.half = p.flatPlace size focalDistance := by
  have himage : p.image focalDistance ⟨0, 0⟩ =
      ⟨⟨focalDistance / 2000 * p.x, focalDistance / 2000 * -p.y⟩, 2000⟩ := by
    rw [image_undragged, rotate_of_level hlevel]
    simp [Camera.project, Scene.cameraPosition]
  rw [himage]
  refine ⟨?_, ?_⟩
  · simp [ProjectedPoint.Visible]
  · ext
    · simp only [ProjectedPoint.onSurface, flatPlace, Vec2.add_x]
      ring
    · simp only [ProjectedPoint.onSurface, flatPlace, Vec2.add_y]
      ring

end Vec3

theorem SpaceTurtle.picture_push (t : SpaceTurtle ℝ) {p q : Vec3 ℝ} (hp : p.z = 0) (hq : q.z = 0)
    (color : String) (size : Vec2 ℝ) (focalDistance : ℝ) :
    picture { t with shapes := t.shapes.push (.line p q color) } size focalDistance ⟨0, 0⟩ =
      t.picture size focalDistance ⟨0, 0⟩ ++
        [⟨p.flatPlace size focalDistance, q.flatPlace size focalDistance, ⟨color, t.thickness⟩⟩] := by
  obtain ⟨hpVisible, hpPlace⟩ := Vec3.image_of_level hp size focalDistance
  obtain ⟨hqVisible, hqPlace⟩ := Vec3.image_of_level hq size focalDistance
  have hsegments : (Shape.line p q color).segments = [(p, q)] := rfl
  simp only [picture, Array.toList_push, List.flatMap_append, List.flatMap_singleton, hsegments,
    List.filterMap_cons, List.filterMap_nil, hpVisible, hqVisible, and_self, if_true, hpPlace,
    hqPlace]
  rfl

/-! ## The border -/

/-- An outcome that does not tell of the border of the board. -/
def Outcome.WithinBorder {α : Type} (outcome : Outcome α) : Prop := outcome ≠ .ignored .outOfBounds

@[simp] theorem Outcome.withinBorder_applied {α : Type} : (applied : Outcome α).WithinBorder := by
  simp [WithinBorder]

/-! ## Two turtles -/

/-- The keywords of commands that do not leave the plane, and look the same for both
    turtles. -/
def Keyword.IsFlat : Keyword → Prop
  | forward | backward | right | left | penUp | penDown | setColor => True
  | _ => False

instance (keyword : Keyword) : Decidable keyword.IsFlat := by
  unfold Keyword.IsFlat
  split <;> infer_instance

/-- A turtle of the plane that is where a turtle of space is shown, and has drawn what is
    shown of its shapes.  The turtle of space is in the plane through the origin, and
    heads along it. -/
structure SeenFlat (size : Vec2 ℝ) (focalDistance : ℝ) (p : PlaneTurtle (LineBuffer ℝ) ℝ)
    (t : SpaceTurtle ℝ) : Prop where
  surface : p.surface.size = size
  unit : p.unit = focalDistance / 2000
  position : p.position = t.position.flatPlace size focalDistance
  level : t.position.z = 0
  heading : p.heading = t.yaw
  pitch : t.pitch = 0
  penDown : p.penDown = t.penDown
  stroke : p.stroke = ⟨t.color, t.thickness⟩
  lines : p.surface.lines.toList = t.picture size focalDistance ⟨0, 0⟩

namespace SeenFlat

variable {size : Vec2 ℝ} {focalDistance : ℝ} {p : PlaneTurtle (LineBuffer ℝ) ℝ} {t : SpaceTurtle ℝ}

theorem start {extent : ℝ} (hunit : size.x / extent = focalDistance / 2000) :
    SeenFlat size focalDistance (.start (LineBuffer.empty size) extent .initial) .initial where
  surface := rfl
  unit := hunit
  position := by
    ext <;> simp [PlaneTurtle.start, SpaceTurtle.initial, Vec3.flatPlace, Vec3.zero, Vec3.splat,
      Surface.size, LineBuffer.empty]
  level := Nat.cast_zero
  heading := rfl
  pitch := Nat.cast_zero
  penDown := rfl
  stroke := rfl
  lines := rfl

theorem moveTo (h : SeenFlat size focalDistance p t) {destination : Vec3 ℝ} {place : Vec2 ℝ}
    (hplace : place = destination.flatPlace size focalDistance) (hlevel : destination.z = 0)
    (hplane : (p.moveTo place).1.WithinBorder) (hspace : (t.moveTo destination).1.WithinBorder) :
    (p.moveTo place).1 = (t.moveTo destination).1 ∧
      SeenFlat size focalDistance (p.moveTo place).2 (t.moveTo destination).2 := by
  obtain hstopped | ⟨-, hp⟩ := p.moveTo_cases place
  · exact absurd (congrArg Prod.fst hstopped) hplane
  obtain hstopped | ⟨-, ht⟩ := t.moveTo_cases destination
  · exact absurd (congrArg Prod.fst hstopped) hspace
  rw [hp, ht]
  refine ⟨rfl, ?_⟩
  -- with the pen down, the shape that is added is shown as the line that is added
  have hpen := h.penDown
  cases hdown : t.penDown with
  | false =>
    rw [hdown] at hpen
    simp only [hpen, Bool.false_eq_true, if_false]
    exact { h with position := hplace, level := hlevel, penDown := rfl }
  | true =>
    rw [hdown] at hpen
    simp only [hpen, if_true]
    refine { h with position := hplace, level := hlevel, penDown := rfl, lines := ?_ }
    have hpush := t.picture_push h.level hlevel t.color size focalDistance
    rw [← h.lines, ← h.position, ← h.stroke, ← hplace] at hpush
    exact (Array.toList_push ..).trans hpush.symm

theorem displacement_eq (h : SeenFlat size focalDistance p t) (distance : ℝ) :
    t.displacement distance =
      ⟨Real.sin (toRadians t.yaw) * distance, -Real.cos (toRadians t.yaw) * distance, 0⟩ := by
  have hlevel : toRadians t.pitch = 0 := by
    rw [h.pitch, toRadians, zero_mul]
  simp [SpaceTurtle.displacement, hlevel, Vec3.scale]

/-- **Where both turtles would go**, ahead and back: the one in its plane, and the other
    where this is shown. -/
theorem destinations (h : SeenFlat size focalDistance p t) (distance : ℝ) :
    ((t.position + t.displacement distance).z = 0 ∧
        p.position + p.displacement distance =
          (t.position + t.displacement distance).flatPlace size focalDistance) ∧
      (t.position - t.displacement distance).z = 0 ∧
        p.position - p.displacement distance =
          (t.position - t.displacement distance).flatPlace size focalDistance := by
  have hplane : p.displacement distance =
      ⟨Real.sin (toRadians t.yaw) * (distance * (focalDistance / 2000)),
        -Real.cos (toRadians t.yaw) * (distance * (focalDistance / 2000))⟩ := by
    rw [← h.heading, ← h.unit]
    rfl
  rw [h.displacement_eq, hplane, h.position]
  refine ⟨⟨?_, ?_⟩, ?_, ?_⟩
  · rw [Vec3.add_z, h.level, zero_add]
  · ext <;> simp only [Vec3.flatPlace, Vec2.add_x, Vec2.add_y, Vec3.add_x, Vec3.add_y] <;> ring
  · rw [Vec3.sub_z, h.level, sub_zero]
  · ext <;> simp only [Vec3.flatPlace, Vec2.add_x, Vec2.add_y, Vec2.sub_x, Vec2.sub_y, Vec3.sub_x,
      Vec3.sub_y] <;> ring

/-- **Flat commands** have the same outcomes for both turtles, and keep them together,
    unless one of them is stopped by the border. -/
theorem apply (h : SeenFlat size focalDistance p t) {c : Command ℝ} (hflat : c.keyword.IsFlat)
    (hplane : (p.apply c).1.WithinBorder) (hspace : (t.apply c).1.WithinBorder) :
    (p.apply c).1 = (t.apply c).1 ∧ SeenFlat size focalDistance (p.apply c).2 (t.apply c).2 := by
  cases c with
  | forward distance =>
    obtain ⟨⟨hlevel, hplace⟩, -⟩ := h.destinations distance
    exact h.moveTo hplace hlevel hplane hspace
  | backward distance =>
    obtain ⟨-, hlevel, hplace⟩ := h.destinations distance
    exact h.moveTo hplace hlevel hplane hspace
  | right degrees =>
    have hheading : wrapHeading (p.heading + degrees) = wrapHeading (t.yaw + degrees) := by
      rw [h.heading]
    exact ⟨rfl, { h with heading := hheading }⟩
  | left degrees =>
    have hheading : wrapHeading (p.heading - degrees) = wrapHeading (t.yaw - degrees) := by
      rw [h.heading]
    exact ⟨rfl, { h with heading := hheading }⟩
  | penUp | penDown => exact ⟨rfl, { h with penDown := rfl }⟩
  | setColor color =>
    by_cases husable : isUsableColor color = true
    · have hp : p.apply (.setColor color) = (.applied, { p with stroke := { p.stroke with color } }) :=
        if_pos husable
      have ht : t.apply (.setColor color) = (.applied, { t with color }) := if_pos husable
      have hwidth : p.stroke.width = t.thickness := by rw [h.stroke]
      rw [hp, ht]
      exact ⟨rfl, { h with stroke := congrArg (Stroke.mk color) hwidth }⟩
    · have hp : p.apply (.setColor color) = (.ignored (.invalidColor color), p) := if_neg husable
      have ht : t.apply (.setColor color) = (.ignored (.invalidColor color), t) := if_neg husable
      rw [hp, ht]
      exact ⟨rfl, h⟩
  | up | down | setWidth | koch | sierpinski | clearScreen => exact hflat.elim

end SeenFlat

/-! ## Drawings -/

/-- A program whose statements are flat commands, and blocks of them. -/
def FlatProgram (program : String) : Prop :=
  ∀ ws ∈ wordLists program, ∀ head ∈ ws.head?, ∀ keyword ∈ Keyword.ofWord? head, keyword.IsFlat

instance (program : String) : Decidable (FlatProgram program) :=
  inferInstanceAs (Decidable (∀ ws ∈ wordLists program, _))

theorem FlatProgram.isFlat {α : Type} [Scalar α] {program : String} (h : FlatProgram program)
    {limits : Limits} {c : Command α} (hc : c ∈ limits.commandsOf program) : c.keyword.IsFlat := by
  obtain ⟨head, arguments, hwords, hkeyword, -⟩ := Limits.read_of_mem_commandsOf hc
  exact h _ hwords head rfl c.keyword hkeyword

theorem Settings.drawSpace_undragged [NumberText ℝ] {s : Settings ℝ} (hdrag : s.drag = ⟨0, 0⟩)
    (program : String) :
    let alone := s.limits.run SpaceTurtle.session program .initial
    s.drawSpace program =
      { lines := (alone.2.picture s.surfaceSize s.cameraDistance ⟨0, 0⟩).toArray
        markup := none
        reports := alone.1 } := by
  have hnone : Orbit.initial.drag (⟨0, 0⟩ : Vec2 ℝ) = Orbit.initial :=
    congrArg Orbit.mk (by ext <;> simp [Orbit.initial])
  rw [← hdrag] at hnone ⊢
  exact s.drawSpace_eq program fun _ => hnone

/-- **Flat drawings look the same in the plane and in space.**  A program of flat
    commands draws the same in the plane and in space, and the reports are the same, if
    the board of the plane is so wide that its units are as long as the camera shows
    them, the view is not turned, and the border of the board stops neither turtle. -/
theorem flat_drawings_agree [NumberText ℝ] {space plane : Settings ℝ} {program : String}
    (hspace : space.variant = .space) (hplane : plane.variant = .plane)
    (hsize : plane.surfaceSize = space.surfaceSize) (hlimits : plane.limits = space.limits)
    (hwidth : 0 < space.surfaceSize.x)
    (hextent : plane.boardExtent = 2000 * space.surfaceSize.x / space.cameraDistance)
    (hdrag : space.drag = ⟨0, 0⟩) (hflat : FlatProgram program)
    (hwithinSpace : ∀ r ∈ (space.draw program).reports, r.outcome.WithinBorder)
    (hwithinPlane : ∀ r ∈ (plane.draw program).reports, r.outcome.WithinBorder) :
    (plane.draw program).reports = (space.draw program).reports ∧
      (plane.draw program).lines = (space.draw program).lines := by
  have hunit : space.surfaceSize.x / plane.boardExtent = space.cameraDistance / 2000 := by
    rw [hextent, div_div_eq_mul_div, mul_comm (2000 : ℝ), mul_div_mul_left _ _ hwidth.ne']
  have hspaceDraw : space.draw program = space.drawSpace program := by rw [Settings.draw, hspace]
  have hplaneDraw : plane.draw program = plane.drawPlane program := by rw [Settings.draw, hplane]
  rw [hspaceDraw, Settings.drawSpace_undragged hdrag, Limits.run_eq] at hwithinSpace ⊢
  rw [hplaneDraw, Settings.drawPlane, hsize, hlimits, Limits.run_eq] at hwithinPlane ⊢
  obtain ⟨hreports, hbehind⟩ := Entry.lockstep_of_calls
    (SeenFlat space.surfaceSize space.cameraDistance) Outcome.WithinBorder Outcome.WithinBorder
    (fun c hc p t h => h.apply (hflat.isFlat hc)) (SeenFlat.start hunit) hwithinPlane hwithinSpace
  exact ⟨hreports, Array.toList_inj.1 hbehind.lines⟩

theorem flat_drawings_agree_ahead :
    let _text : NumberText ℝ := ⟨fun _ => "?"⟩
    let program := "repeat 2; FD 40; end; sc Red; lt 90"
    let space : Settings ℝ := .standard .space
    let plane : Settings ℝ := { space with variant := .plane, boardExtent := 2000 * 800 / 350 }
    (∀ r ∈ (space.draw program).reports, r.outcome.WithinBorder) ∧
      (∀ r ∈ (plane.draw program).reports, r.outcome.WithinBorder) ∧
      (plane.draw program).reports = (space.draw program).reports ∧
      (plane.draw program).lines = (space.draw program).lines := by
  -- a loop, on the standard surface of space and at the standard distance
  have hsegments : (segments "repeat 2; FD 40; end; sc Red; lt 90" : List (Segment ℝ)) =
      [.opening "repeat 2" (.ok 2), .single "fd 40" (.ok (.forward (Numeral.value ⟨false, 40, 0⟩))),
        .close "end", .single "sc red" (.ok (.setColor "red")),
        .single "lt 90" (.ok (.left (Numeral.value ⟨false, 90, 0⟩)))] := by
    rfl
  have hforty : (Numeral.value ⟨false, 40, 0⟩ : ℝ) = 40 := by norm_num [Numeral.value]
  have hred : isUsableColor "red" = true := by decide
  have hdeep : ¬ Limits.standard.repeatDepth.toNat ≤ 0 := by decide
  intro _text program space plane
  have hdepth : ¬ space.limits.repeatDepth.toNat ≤ 0 := hdeep
  have hdrag : space.drag = ⟨0, 0⟩ := by simp [space, Settings.standard]
  have hentries : (Statement.unrollAll space.limits 1 (parse space.limits.repeatDepth program) :
        List (Entry ℝ)) =
      [⟨"fd 40", .perform (.forward 40)⟩, ⟨"fd 40", .perform (.forward 40)⟩,
        ⟨"sc red", .perform (.setColor "red")⟩,
        ⟨"lt 90", .perform (.left (Numeral.value ⟨false, 90, 0⟩))⟩] := by
    rw [Statement.parse_eq, hsegments, Statement.blockAt_opening hdepth]
    simp only [Statement.blockAt_single, Statement.blockAt_close (Nat.succ_pos 0),
      Statement.blockAt_nil, Statement.ofBlock, Statement.ofCommand, hforty]
    rfl
  have hwithinSpace : ∀ r ∈ (space.draw program).reports, r.outcome.WithinBorder := by
    have hdraw : space.draw program = _ := Settings.drawSpace_undragged hdrag program
    rw [hdraw, Limits.run_eq, hentries]
    simp only [Entry.reportsOn_cons, List.forall_mem_cons, Entry.settle, Entry.verdict,
      Limits.refusal?, SpaceTurtle.session, SpaceTurtle.apply, Turtle.forward]
    norm_num [SpaceTurtle.initial, SpaceTurtle.moveTo, SpaceTurtle.displacement, toRadians,
      SpaceTurtle.OnBoard, SpaceTurtle.WithinExtent, Vec3.scale, Vec3.zero, Vec3.splat,
      SpaceTurtle.setColor, hred, Entry.reportsOn]
  have hwithinPlane : ∀ r ∈ (plane.draw program).reports, r.outcome.WithinBorder := by
    have hdraw : plane.draw program = plane.drawPlane program := rfl
    have hmiddle : (⟨800, 600⟩ : Vec2 ℝ).half = ⟨400, 300⟩ := by ext <;> norm_num [Vec2.half]
    rw [hdraw, Settings.drawPlane, Limits.run_eq, hentries]
    simp only [Entry.reportsOn_cons, List.forall_mem_cons, Entry.settle, Entry.verdict,
      Limits.refusal?, PlaneTurtle.session, PlaneTurtle.apply, Turtle.forward]
    norm_num [plane, space, Settings.standard, hmiddle, PlaneTurtle.start, PlaneTurtle.moveTo,
      PlaneTurtle.displacement, toRadians, Vec2.StrictlyInside, Vec2.scale, Surface.size,
      Surface.draw, LineBuffer.empty, PlaneTurtle.setColor, hred, Entry.reportsOn]
  have hwidth : 0 < space.surfaceSize.x := by norm_num [space, Settings.standard]
  have hextent : plane.boardExtent = 2000 * space.surfaceSize.x / space.cameraDistance := by
    norm_num [plane, space, Settings.standard]
  exact ⟨hwithinSpace, hwithinPlane, flat_drawings_agree rfl rfl rfl rfl hwidth hextent hdrag
    (by decide +kernel) hwithinSpace hwithinPlane⟩

end TurtleGraphics
