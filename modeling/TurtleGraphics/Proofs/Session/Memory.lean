/-
  Memory: what a scene remembers from one batch to the next.

  A scene has a renderer and lines on its surface, but it never reads them: every
  redraw sets the line width and draws on a blank surface.  So the redraw between
  two batches leaves no trace, and neither does anything that was done before the
  screen was cleared, but for the pen and the style.

  * `Scene.Alike`: scenes that differ in nothing but that;
  * `Scene.session_simulates`: commands keep them alike, with equal outcomes, and
    `Scene.Alike.redraw_eq`: their redraws are equal;
  * `batches_compose`: two programs are run as one batch or as two, to the same
    effect;
  * `Scene.renewed`: a scene that starts over, with the pen and the style of
    another;
  * `clearScreen_erases_history`: clearing the screen makes a scene such a one.
-/
import TurtleGraphics.Proofs.Program.Simulation
import TurtleGraphics.Proofs.Session.Erasure
import TurtleGraphics.Proofs.Session.Picture

namespace TurtleGraphics

variable {σ α : Type}

namespace Scene

/-- Scenes that differ in nothing but their renderers and the lines on their
    surfaces. -/
structure Alike (s t : Scene (LineBuffer α) α) : Prop where
  turtle : s.turtle = t.turtle
  orbit : s.orbit = t.orbit
  camera : s.camera = t.camera
  size : s.surface.size = t.surface.size

variable [Scalar α] {s t : Scene (LineBuffer α) α}

theorem Alike.rendering_eq (h : s.Alike t) : s.rendering = t.rendering := by
  rw [rendering, rendering, h.turtle, h.orbit, h.camera, h.size]

/-- **Redrawing** makes alike scenes equal. -/
theorem Alike.redraw_eq (h : s.Alike t) : s.redraw = t.redraw := by
  have hpicture := h.rendering_eq
  obtain ⟨turtle, orbit, camera, renderer, surface⟩ := s
  obtain ⟨rfl, rfl, rfl, -⟩ := h
  rw [Scene.redraw_eq, Scene.redraw_eq t, hpicture]

theorem Alike.finish_eq (h : s.Alike t) : session.finish s = session.finish t :=
  congrArg Prod.snd h.redraw_eq

theorem alike_redraw (s : Scene (LineBuffer α) α) : s.redraw.2.Alike s := by
  rw [Scene.redraw_eq]
  exact ⟨rfl, rfl, rfl, s.rendering_spec.2⟩

/-- **Commands** have equal outcomes in alike scenes, and keep them alike. -/
theorem session_simulates :
    (session : Session (Scene (LineBuffer α) α) α).Simulates session Alike := by
  refine .of_step ?_
  rintro s t c ⟨hturtle, horbit, hcamera, hsize⟩
  change (s.apply c).1 = (t.apply c).1 ∧ (s.apply c).2.Alike (t.apply c).2
  by_cases hclear : c = .clearScreen
  · subst hclear
    have hmoved := congrArg (·.movedTo cameraPosition) hcamera
    exact ⟨rfl, congrArg SpaceTurtle.reset hturtle, rfl, hmoved, hsize⟩
  · rw [apply_eq hclear, apply_eq hclear, hturtle]
    exact ⟨rfl, rfl, horbit, hcamera, hsize⟩

end Scene

/-! ## Two batches -/

section

variable [Scalar α] (limits : Limits) {first : String}

theorem PlaneTurtle.run_append [Surface σ α]
    (hclosed : Segment.openBlocks 0 (segments first : List (Segment α)) = 0) (second : String)
    (t : PlaneTurtle σ α) :
    let before := limits.run session first t
    let after := limits.run session second before.2
    limits.run session (first ++ ";" ++ second) t = (before.1 ++ after.1, after.2) :=
  limits.run_append (.refl session) (fun _ _ h => h) (fun _ => rfl) hclosed second t

theorem Scene.Alike.run_eq {s t : Scene (LineBuffer α) α} (h : s.Alike t) (program : String) :
    limits.run session program s = limits.run session program t :=
  limits.run_eq_of_simulates session_simulates (fun _ _ => Alike.finish_eq) program h

/-- Two batches of a scene: there is a redraw in between. -/
theorem Scene.run_append
    (hclosed : Segment.openBlocks 0 (segments first : List (Segment α)) = 0) (second : String)
    (s : Scene (LineBuffer α) α) :
    let before := limits.run session first s
    let after := limits.run session second before.2
    limits.run session (first ++ ";" ++ second) s = (before.1 ++ after.1, after.2) :=
  limits.run_append session_simulates (fun _ _ => Alike.finish_eq) alike_redraw hclosed second s

/-- **Batches compose.**  If a program leaves no block open, running it and then
    another as two batches gives the reports of both, and leads to the same state
    as running them as one, though there is one more redraw. -/
theorem batches_compose (hclosed : Segment.openBlocks 0 (segments first : List (Segment α)) = 0)
    (second : String) :
    (∀ {σ : Type} [Surface σ α] (t : PlaneTurtle σ α),
        let before := limits.run PlaneTurtle.session first t
        let after := limits.run PlaneTurtle.session second before.2
        limits.run PlaneTurtle.session (first ++ ";" ++ second) t =
          (before.1 ++ after.1, after.2)) ∧
      ∀ s : Scene (LineBuffer α) α,
        let before := limits.run Scene.session first s
        let after := limits.run Scene.session second before.2
        limits.run Scene.session (first ++ ";" ++ second) s = (before.1 ++ after.1, after.2) :=
  ⟨PlaneTurtle.run_append limits hclosed second, Scene.run_append limits hclosed second⟩

theorem batches_compose_cleared :
    let limits : Limits := .standard
    let first := "end; repeat 2; sc red; repeat x; end; fd 10; rt 90; end; lt"
    let second := "st 2; koch 1 9; cs; sierpinski 1 5; end; repeat 2; sc <; bk 5"
    let t : PlaneTurtle (LineBuffer Float) Float := .start (.empty ⟨100, 100⟩) 100 .initial
    let s : Scene (LineBuffer Float) Float := .start (.empty ⟨100, 100⟩) 350
    let inPlane := limits.run PlaneTurtle.session first t
    let inSpace := limits.run Scene.session first s
    let planeAfter := limits.run PlaneTurtle.session second inPlane.2
    let spaceAfter := limits.run Scene.session second inSpace.2
    Segment.openBlocks 0 (segments first : List (Segment Float)) = 0 ∧
      limits.run PlaneTurtle.session (first ++ ";" ++ second) t =
        (inPlane.1 ++ planeAfter.1, planeAfter.2) ∧
      limits.run Scene.session (first ++ ";" ++ second) s =
        (inSpace.1 ++ spaceAfter.1, spaceAfter.2) := by
  -- the first program has a stray end and drops a block, and the second leaves one open
  intro limits first second t s inPlane inSpace planeAfter spaceAfter
  have hclosed : Segment.openBlocks 0 (segments first : List (Segment Float)) = 0 := by
    decide +kernel
  have h := batches_compose limits hclosed second
  exact ⟨hclosed, h.1 t, h.2 s⟩

end

/-! ## Clearing the screen -/

section

variable [Scalar α]

/-- A scene that starts over: one at the start, with the zoom and the size of the
    surface that a scene has, whose turtle has the pen and the style of its
    turtle. -/
def Scene.renewed (s : Scene (LineBuffer α) α) : Scene (LineBuffer α) α :=
  let fresh := start (LineBuffer.empty s.surface.size) s.camera.focalDistance
  { fresh with
    turtle := { fresh.turtle with
      penDown := s.turtle.penDown, color := s.turtle.color, thickness := s.turtle.thickness } }

theorem Scene.apply_clearScreen (s : Scene (LineBuffer α) α) :
    (session.apply s .clearScreen).2.Alike s.renewed :=
  ⟨rfl, rfl, rfl, rfl⟩

theorem segments_clearScreen :
    (segments "cs" : List (Segment α)) = [.single "cs" (.ok .clearScreen)] := by
  have hwords : wordLists "cs" = [["cs".toList]] := by decide +kernel
  rw [segments, hwords]
  rfl

theorem Scene.run_clearScreen (limits : Limits) (s : Scene (LineBuffer α) α) :
    limits.run session "cs" s =
      ([⟨"cs", .applied⟩], (session.apply s .clearScreen).2.redraw.2) := by
  have hentries : Statement.unrollAll limits 1 (parse limits.repeatDepth "cs") =
      [(⟨"cs", .perform .clearScreen⟩ : Entry α)] := by
    rw [Statement.parse_eq, segments_clearScreen, Statement.blockAt_single, Statement.blockAt_nil]
    simp only [Statement.unrollAll]
    rfl
  rw [Limits.run_eq, hentries]
  rfl

theorem Scene.focalDistance_afterAll (s : Scene (LineBuffer α) α) (actions : List (Action α)) :
    (s.afterAll actions).camera.focalDistance = s.camera.focalDistance := by
  refine afterAll_induction (P := (·.camera.focalDistance = s.camera.focalDistance)) ?_
    (fun _ h => h) (fun _ _ h => h) (fun _ _ h => h) rfl actions
  intro c t h
  cases c with
  | clearScreen => exact h
  | _ => exact h

/-- **Clearing the screen erases all history** but pen and style.  A program that
    begins with it reports that it was applied, and then gives the reports and
    leads to the state that the rest gives and leads to on a scene that starts
    over.  Whatever has been done with a scene, it then has the zoom and the size
    that it was made with. -/
theorem clearScreen_erases_history (limits : Limits) (program : String) :
    (∀ s : Scene (LineBuffer α) α,
        let fresh := limits.run Scene.session program s.renewed
        limits.run Scene.session ("cs; " ++ program) s =
          (⟨"cs", .applied⟩ :: fresh.1, fresh.2)) ∧
      ∀ (first : LineBuffer α) (focalDistance : α) (actions : List (Scene.Action α)),
        let s := (Scene.start first focalDistance).afterAll actions
        s.surface.size = first.size ∧ s.camera.focalDistance = focalDistance := by
  refine ⟨fun s => ?_, fun first focalDistance actions => ⟨?_, ?_⟩⟩
  · have hclosed : Segment.openBlocks 0 (segments "cs" : List (Segment α)) = 0 := by
      rw [segments_clearScreen]
      rfl
    have hspace : parse limits.repeatDepth (" " ++ program) =
        (parse limits.repeatDepth program : List (Statement α)) := by
      rw [Statement.parse_eq, Statement.parse_eq, segments_space]
    intro fresh
    have hfresh : limits.run Scene.session (" " ++ program)
        (limits.run Scene.session "cs" s).2 = fresh := by
      rw [Scene.run_clearScreen, (Scene.alike_redraw _).run_eq, s.apply_clearScreen.run_eq,
        Limits.run_eq, hspace, ← Limits.run_eq]
    -- in two batches, of which the first one only clears the screen
    have hrun := Scene.run_append limits hclosed (" " ++ program) s
    dsimp only at hrun
    rw [hfresh, Scene.run_clearScreen] at hrun
    rw [show "cs; " = "cs" ++ ";" ++ " " from rfl, String.append_assoc]
    exact hrun
  · exact Scene.Sized.afterAll rfl actions
  · exact Scene.focalDistance_afterAll _ actions

end

end TurtleGraphics
