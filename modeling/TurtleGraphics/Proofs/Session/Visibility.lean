/-
  Visibility: from its place at the start, the camera sees everything.

  An edge is drawn when both of its ends lie in front of the camera.  The board of
  space fits into a ball about the origin, and turning the view about the origin
  does not lead out of that ball, before which the camera starts.

  * `Renderer.frame_of_visible`: shapes with single edges that are seen are drawn
    with one line each;
  * `SpaceTurtle.OnBoard.normSq_le`: the board lies in its ball;
  * `SpaceTurtle.OnBoard.depth_ge`: how far in front of the camera the points of
    the board are, however the view is turned;
  * `Scene.InCube.redraw_eq`: a redraw draws one line for every shape;
  * `everything_is_seen`: so it is after any actions that leave the camera at its
    place, and in every drawing of space.

  The numbers are real here.
-/
import TurtleGraphics.Drawing
import TurtleGraphics.Proofs.Geometry.Reals
import TurtleGraphics.Proofs.Session.Board

namespace TurtleGraphics

/-! ## Frames -/

section

variable {α : Type} [Scalar α]

/-- A line is what a shape with a single edge looks like. -/
def Renderer.Draws (renderer : Renderer α) (camera : Camera α) (size : Vec2 α) (shape : Shape α)
    (line : Line α) : Prop :=
  ∃ p q, shape.segments = [(p, q)] ∧
    line = ⟨(camera.project p).onSurface size.half, (camera.project q).onSurface size.half,
      ⟨shape.color, renderer.lineWidth⟩⟩

/-- **Shapes with single edges that are seen** are drawn with one line each. -/
theorem Renderer.frame_of_visible (renderer : Renderer α) (camera : Camera α) (size : Vec2 α)
    {shapes : List (Shape α)}
    (h : ∀ shape ∈ shapes, ∃ p q, shape.segments = [(p, q)] ∧
      (camera.project p).Visible ∧ (camera.project q).Visible) :
    List.Forall₂ (renderer.Draws camera size) shapes (renderer.frame camera size shapes) := by
  induction shapes with
  | nil => exact .nil
  | cons shape rest ih =>
    obtain ⟨p, q, hsegments, hvisible⟩ := h shape (List.mem_cons_self ..)
    have hrest := ih fun shape hshape => h shape (List.mem_cons_of_mem _ hshape)
    have hline : shape.segments.filterMap
          (edgeLine? camera size.half ⟨shape.color, renderer.lineWidth⟩) =
        [⟨(camera.project p).onSurface size.half, (camera.project q).onSurface size.half,
          ⟨shape.color, renderer.lineWidth⟩⟩] := by
      rw [hsegments, List.filterMap_cons, List.filterMap_nil, edgeLine?]
      simp only [hvisible, and_self, if_true]
    rw [frame, List.flatMap_cons, hline]
    exact .cons ⟨p, q, hsegments, rfl⟩ hrest

end

/-! ## The board and the camera -/

namespace SpaceTurtle

theorem onBoard_zero : OnBoard (Vec3.zero : Vec3 ℝ) := by
  simp [OnBoard, WithinExtent, Vec3.zero, Vec3.splat]

theorem OnBoard.normSq_le {p : Vec3 ℝ} (h : OnBoard p) : p.normSq ≤ (1000 * √3) ^ 2 := by
  have hcomponent : ∀ a : ℝ, WithinExtent a → a ^ 2 ≤ 1000 ^ 2 := by
    rintro a ⟨hlow, hhigh⟩
    exact sq_le_sq' (by exact_mod_cast hlow) (by exact_mod_cast hhigh)
  obtain ⟨hx, hy, hz⟩ := h
  calc p.normSq ≤ 1000 ^ 2 + 1000 ^ 2 + 1000 ^ 2 :=
        add_le_add (add_le_add (hcomponent _ hx) (hcomponent _ hy)) (hcomponent _ hz)
    _ = (1000 * √3) ^ 2 := by
        rw [mul_pow, Real.sq_sqrt (by norm_num)]
        norm_num

theorem margin_pos : 0 < 2000 - 1000 * √3 := by
  have hroot : √3 < 2 := (Real.sqrt_lt' (by norm_num)).2 (by norm_num)
  linarith

/-- **The points of the board** are in front of a camera at its place at the start,
    however the view is turned. -/
theorem OnBoard.depth_ge {p : Vec3 ℝ} (h : OnBoard p) {camera : Camera ℝ}
    (hcamera : camera.position = Scene.cameraPosition) (yaw pitch : ℝ) :
    2000 - 1000 * √3 ≤
      (camera.project ((orbitMatrix yaw pitch).applyAbout Vec3.zero p)).depth := by
  rw [Matrix3.applyAbout_zero]
  have hball : |((orbitMatrix yaw pitch).apply p).y| ≤ 1000 * √3 :=
    Vec3.abs_y_le (by positivity) (Vec3.normSq_orbitMatrix yaw pitch p ▸ h.normSq_le)
  have hdepth : (camera.project ((orbitMatrix yaw pitch).apply p)).depth =
      ((orbitMatrix yaw pitch).apply p).y + 2000 := by
    simp [Camera.project, hcamera, Scene.cameraPosition]
  rw [hdepth]
  linarith [neg_le_of_abs_le hball]

end SpaceTurtle

/-! ## Scenes -/

namespace Scene

section

variable {σ α : Type} [Scalar α] [Surface σ α] {s : Scene σ α}

/-- A scene whose camera is at its place at the start. -/
def AtStart (s : Scene σ α) : Prop := s.camera.position = cameraPosition

theorem AtStart.apply (h : s.AtStart) (c : Command α) : (session.apply s c).2.AtStart := by
  cases c with
  | clearScreen => rfl
  | _ => exact h

theorem AtStart.run (h : s.AtStart) (limits : Limits) (program : String) :
    (limits.run session program s).2.AtStart :=
  Limits.run_induction (fun c _ _ h => h.apply c) (fun _ h => h) h

end

variable {σ : Type} {s : Scene σ ℝ}

theorem inCube_start (surface : σ) (focalDistance : ℝ) : (start surface focalDistance).InCube :=
  SpaceTurtle.InCube.initial SpaceTurtle.onBoard_zero

theorem InCube.turned_spec (h : s.InCube) (hcamera : s.AtStart) :
    ∀ shape ∈ s.turned, ∃ p q, shape.segments = [(p, q)] ∧
      2000 - 1000 * √3 ≤ (s.camera.project p).depth ∧
      2000 - 1000 * √3 ≤ (s.camera.project q).depth := by
  intro shape hshape
  obtain ⟨recorded, hrecorded, rfl⟩ := List.mem_map.1 hshape
  obtain ⟨p, q, color, rfl, hp, hq⟩ := h.shapes recorded (Array.mem_toList_iff.1 hrecorded)
  refine ⟨_, _, Shape.segments_mapVertices .., ?_, ?_⟩
  · exact hp.depth_ge hcamera _ _
  · exact hq.depth_ge hcamera _ _

theorem visible_of_margin {point : ProjectedPoint ℝ} (h : 2000 - 1000 * √3 ≤ point.depth) :
    point.Visible := by
  rw [ProjectedPoint.Visible, Nat.cast_zero]
  exact SpaceTurtle.margin_pos.trans_le h

variable [Surface σ ℝ]

/-- **A redraw draws one line for every shape**, if the camera is at its place at
    the start. -/
theorem InCube.redraw_eq (h : s.InCube) (hcamera : s.AtStart) :
    ∃ lines : List (Line ℝ),
      List.Forall₂ (Renderer.Draws ⟨s.turtle.thickness⟩ s.camera (Surface.size s.surface))
          s.turned lines ∧
        s.redraw = (s.turtle.shapes.size,
          { s with
            renderer := ⟨s.turtle.thickness⟩
            surface := lines.foldl Surface.draw (Surface.clear s.surface) }) := by
  have hvisible : ∀ shape ∈ s.turned, ∃ p q, shape.segments = [(p, q)] ∧
      (s.camera.project p).Visible ∧ (s.camera.project q).Visible := by
    intro shape hshape
    obtain ⟨p, q, hsegments, hp, hq⟩ := h.turned_spec hcamera shape hshape
    exact ⟨p, q, hsegments, visible_of_margin hp, visible_of_margin hq⟩
  have hdraws := Renderer.frame_of_visible ⟨s.turtle.thickness⟩ s.camera (Surface.size s.surface)
    hvisible
  refine ⟨_, hdraws, ?_⟩
  rw [redraw_eq_frame, ← hdraws.length_eq]
  simp [turned, Shape.rotateAll]

theorem InCube.lines_redraw {s : Scene (LineBuffer ℝ) ℝ} (h : s.InCube) (hcamera : s.AtStart) :
    s.redraw.2.surface.lines.size = s.turtle.shapes.size := by
  obtain ⟨lines, -, hredraw⟩ := h.redraw_eq hcamera
  have hcount : s.redraw.1 = s.turtle.shapes.size := by rw [hredraw]
  rw [← hcount, Scene.redraw_eq]
  exact s.rendering_spec.1.symm

end Scene

/-! ## Everything is seen -/

/-- **Nothing is culled.**  After any actions that leave the camera at its place at
    the start, every end of an edge of the turned shapes is well in front of it, and
    a redraw draws exactly one line for every shape of the turtle.  In particular a
    drawing of space has as many lines as the turtle has shapes. -/
theorem everything_is_seen :
    0 < 2000 - 1000 * √3 ∧
      (∀ {σ : Type} [Surface σ ℝ] (first : σ) (focalDistance : ℝ)
          (actions : List (Scene.Action ℝ)),
        let s := (Scene.start first focalDistance).afterAll actions
        s.camera.position = Scene.cameraPosition →
          (∀ shape ∈ s.turned, ∀ edge ∈ shape.segments,
            2000 - 1000 * √3 ≤ (s.camera.project edge.1).depth ∧
              2000 - 1000 * √3 ≤ (s.camera.project edge.2).depth) ∧
          ∃ lines : List (Line ℝ),
            List.Forall₂ (Renderer.Draws ⟨s.turtle.thickness⟩ s.camera (Surface.size s.surface))
                s.turned lines ∧
              s.redraw = (s.turtle.shapes.size,
                { s with
                  renderer := ⟨s.turtle.thickness⟩
                  surface := lines.foldl Surface.draw (Surface.clear s.surface) })) ∧
      ∀ [NumberText ℝ] (settings : Settings ℝ) (program : String), settings.variant = .space →
        let start := Scene.start (LineBuffer.empty settings.surfaceSize) settings.cameraDistance
        (settings.draw program).lines.size =
          (settings.limits.run Scene.session program start).2.turtle.shapes.size := by
  refine ⟨SpaceTurtle.margin_pos, ?_, ?_⟩
  · intro σ _ first focalDistance actions s hcamera
    have hcube : s.InCube :=
      (Scene.inCube_start first focalDistance).afterAll SpaceTurtle.onBoard_zero actions
    refine ⟨?_, hcube.redraw_eq hcamera⟩
    intro shape hshape edge hedge
    obtain ⟨p, q, hsegments, hp, hq⟩ := hcube.turned_spec hcamera shape hshape
    rw [hsegments, List.mem_singleton] at hedge
    exact hedge ▸ ⟨hp, hq⟩
  · intro _ settings program hspace start
    have hcube : (settings.limits.run Scene.session program start).2.InCube :=
      (Scene.inCube_start _ _).perform SpaceTurtle.onBoard_zero (.run settings.limits program)
    have hcamera : (settings.limits.run Scene.session program start).2.AtStart :=
      Scene.AtStart.run (s := start) rfl settings.limits program
    rw [Settings.draw, hspace]
    dsimp only [Settings.drawSpace]
    split
    · -- the drag turns the view once more, and leaves the turtle and the camera alone
      exact Scene.InCube.lines_redraw hcube hcamera
    · rw [← Scene.redraw_run]
      exact hcube.lines_redraw hcamera

/-- A view that is turned while the camera is elsewhere, and a drawing with the
    standard settings. -/
theorem everything_is_seen_again :
    let actions : List (Scene.Action ℝ) := [.run .standard "ut 30; fd 900; koch 2 500",
      .moveCamera ⟨0, 10, 0⟩, .drag ⟨45, -30⟩, .moveCamera Scene.cameraPosition]
    let s := (Scene.start (LineBuffer.empty ⟨800, 600⟩) 350).afterAll actions
    let settings : Settings ℝ := .standard .space
    let start := Scene.start (LineBuffer.empty settings.surfaceSize) settings.cameraDistance
    let drawing := @Settings.draw ℝ _ ⟨fun _ => "?"⟩ settings "rt 45; fd 10"
    s.camera.position = Scene.cameraPosition ∧ s.redraw.1 = s.turtle.shapes.size ∧
      settings.variant = .space ∧
      drawing.lines.size =
        (settings.limits.run Scene.session "rt 45; fd 10" start).2.turtle.shapes.size := by
  intro actions s settings start drawing
  obtain ⟨-, hseen, hdrawing⟩ := everything_is_seen
  obtain ⟨-, lines, -, hredraw⟩ := hseen (LineBuffer.empty ⟨800, 600⟩) 350 actions rfl
  exact ⟨rfl, congrArg Prod.fst hredraw, rfl, @hdrawing ⟨fun _ => "?"⟩ settings _ rfl⟩

end TurtleGraphics
