/-
  Pictures: the surface of a scene always shows what the scene is.

  A scene is made of a turtle, an orbit, a camera, a renderer and a surface,
  which change separately; programs may clear the surface or change the style on
  the way.  Whatever is done with a scene ends in a redraw.

  * an `Action` is something that is done with a scene from outside, and
    `Scene.perform` does it;
  * `Scene.redraw_eq_frame`: a redraw draws the frame of the turned shapes;
  * `Scene.rendering` is the picture on a blank buffer, and `Scene.redraw_eq`:
    redrawing replaces what is on the surface by it;
  * `Scene.perform_eq_redraw`: every action ends in a redraw;
  * `Scene.afterAll_induction`: what is kept step by step is true after any
    actions;
  * `Scene.Sized`: the surface keeps its size;
  * `Scene.picture_in_sync`: after any actions the surface shows the picture, and
    redrawing once more changes nothing.
-/
import TurtleGraphics.Proofs.Program.Invariants
import TurtleGraphics.Session.Scene

namespace TurtleGraphics.Scene

variable {σ α : Type}

/-! ## Actions -/

/-- What is done with a scene from outside. -/
inductive Action (α : Type) where
  /-- Runs a program as one batch. -/
  | run (limits : Limits) (program : String)
  /-- Turns the view. -/
  | drag (amount : Vec2 α)
  /-- Puts the camera somewhere. -/
  | moveCamera (position : Vec3 α)
  | redraw

/-- What an action answers. -/
inductive Answer (α : Type) where
  /-- The reports of a batch. -/
  | reports (reports : List (Report α))
  /-- The number of lines that were drawn. -/
  | drawn (count : Nat)

variable [Scalar α]

section

variable [Surface σ α]

/-- Does something with a scene. -/
def perform (s : Scene σ α) : Action α → Answer α × Scene σ α
  | .run limits program => (limits.run session program s).map .reports id
  | .drag amount => (s.drag amount).map .drawn id
  | .moveCamera position => (s.moveCamera position).map .drawn id
  | .redraw => s.redraw.map .drawn id

/-- The scene after some actions. -/
def afterAll (s : Scene σ α) (actions : List (Action α)) : Scene σ α :=
  actions.foldl (fun s action => (s.perform action).2) s

theorem afterAll_concat (s : Scene σ α) (actions : List (Action α)) (last : Action α) :
    s.afterAll (actions ++ [last]) = ((s.afterAll actions).perform last).2 := by
  rw [afterAll, List.foldl_append]
  rfl

/-- **Every action ends in a redraw**, and answers with its number of lines
    unless it is a run. -/
theorem perform_eq_redraw (s : Scene σ α) (action : Action α) :
    ∃ t : Scene σ α, (s.perform action).2 = t.redraw.2 ∧
      match action with
      | .run limits program => (s.perform action).1 = .reports (limits.run session program s).1
      | _ => (s.perform action).1 = .drawn t.redraw.1 := by
  cases action with
  | run limits program => exact ⟨_, congrArg Prod.snd (limits.run_eq session program s), rfl⟩
  | drag amount => exact ⟨{ s with orbit := s.orbit.drag amount }, rfl, rfl⟩
  | moveCamera position => exact ⟨{ s with camera := s.camera.movedTo position }, rfl, rfl⟩
  | redraw => exact ⟨s, rfl, rfl⟩

theorem perform_induction {P : Scene σ α → Prop}
    (happly : ∀ c s, P s → P (session.apply s c).2) (hredraw : ∀ s, P s → P s.redraw.2)
    (hdrag : ∀ s amount, P s → P { s with orbit := s.orbit.drag amount })
    (hmove : ∀ s position, P s → P { s with camera := s.camera.movedTo position })
    {s : Scene σ α} (hs : P s) (action : Action α) : P (s.perform action).2 := by
  cases action with
  | run limits program => exact Limits.run_induction (fun c _ => happly c) hredraw hs
  | drag amount => exact hredraw _ (hdrag s amount hs)
  | moveCamera position => exact hredraw _ (hmove s position hs)
  | redraw => exact hredraw s hs

/-- **What commands, redraws and changes of the view keep** is true after any
    actions. -/
theorem afterAll_induction {P : Scene σ α → Prop}
    (happly : ∀ c s, P s → P (session.apply s c).2) (hredraw : ∀ s, P s → P s.redraw.2)
    (hdrag : ∀ s amount, P s → P { s with orbit := s.orbit.drag amount })
    (hmove : ∀ s position, P s → P { s with camera := s.camera.movedTo position })
    {s : Scene σ α} (hs : P s) (actions : List (Action α)) : P (s.afterAll actions) := by
  induction actions generalizing s with
  | nil => exact hs
  | cons action actions ih => exact ih (perform_induction happly hredraw hdrag hmove hs action)

end

/-! ## The picture -/

/-- The shapes of the turtle, turned as the orbit says. -/
def turned (s : Scene σ α) : List (Shape α) :=
  Shape.rotateAll s.turtle.shapes.toList Vec3.zero s.orbit.yaw s.orbit.pitch

theorem redraw_eq_frame [Surface σ α] (s : Scene σ α) :
    let renderer : Renderer α := ⟨s.turtle.thickness⟩
    let lines := renderer.frame s.camera (Surface.size s.surface) s.turned
    s.redraw = (lines.length,
      { s with renderer, surface := lines.foldl Surface.draw (Surface.clear s.surface) }) := by
  obtain ⟨turtle, orbit, camera, renderer, surface⟩ := s
  dsimp only [redraw]
  rw [Renderer.render_eq]
  rfl

/-- The picture of a scene, drawn on a blank buffer of the size of its surface:
    the shapes of the turtle, turned about the origin by the orbit, as the camera
    sees them, in lines of the turtle's width. -/
def rendering (s : Scene (LineBuffer α) α) : Nat × LineBuffer α :=
  (⟨s.turtle.thickness⟩ : Renderer α).render
    (Shape.rotateAll s.turtle.shapes.toList Vec3.zero s.orbit.yaw s.orbit.pitch) s.camera
    (LineBuffer.empty s.surface.size)

theorem render_empty (renderer : Renderer α) (shapes : List (Shape α)) (camera : Camera α)
    (buffer : LineBuffer α) :
    renderer.render shapes camera (LineBuffer.empty buffer.size) =
      renderer.render shapes camera buffer := by
  rw [Renderer.render_eq, Renderer.render_eq]
  rfl

theorem rendering_spec (s : Scene (LineBuffer α) α) :
    s.rendering.1 = s.rendering.2.lines.size ∧ s.rendering.2.size = s.surface.size := by
  rw [rendering, Renderer.render_eq, LineBuffer.foldl_draw]
  simp [Surface.clear, Surface.size, LineBuffer.empty]

theorem rendering_of_size (s : Scene (LineBuffer α) α) (renderer : Renderer α)
    {buffer : LineBuffer α} (h : buffer.size = s.surface.size) :
    ({ s with renderer, surface := buffer } : Scene (LineBuffer α) α).rendering = s.rendering := by
  simp only [rendering, h]

/-- **Redrawing** replaces what is on the surface by the picture, and sets the
    line width. -/
theorem redraw_eq (s : Scene (LineBuffer α) α) :
    s.redraw =
      (s.rendering.1, { s with renderer := ⟨s.turtle.thickness⟩, surface := s.rendering.2 }) := by
  rw [rendering, render_empty]
  rfl

theorem rendering_redraw (s : Scene (LineBuffer α) α) : s.redraw.2.rendering = s.rendering := by
  rw [redraw_eq]
  exact rendering_of_size s _ s.rendering_spec.2

theorem redraw_redraw (s : Scene (LineBuffer α) α) : s.redraw.2.redraw = s.redraw := by
  rw [redraw_eq s.redraw.2, rendering_redraw, redraw_eq]

theorem redraw_run (limits : Limits) (program : String) (s : Scene (LineBuffer α) α) :
    (limits.run session program s).2.redraw.2 = (limits.run session program s).2 := by
  rw [limits.run_eq]
  exact congrArg Prod.snd (redraw_redraw _)

/-! ## The size of the surface -/

/-- A scene whose surface has the given size. -/
def Sized (size : Vec2 α) (s : Scene (LineBuffer α) α) : Prop := s.surface.size = size

variable {size : Vec2 α} {s : Scene (LineBuffer α) α}

theorem Sized.apply (h : s.Sized size) (c : Command α) : (session.apply s c).2.Sized size := by
  cases c with
  | clearScreen => exact h
  | _ => exact h

theorem Sized.redraw (h : s.Sized size) : s.redraw.2.Sized size := by
  rw [redraw_eq]
  exact s.rendering_spec.2.trans h

theorem Sized.afterAll (h : s.Sized size) (actions : List (Action α)) :
    (s.afterAll actions).Sized size :=
  afterAll_induction (fun c _ h => h.apply c) (fun _ h => h.redraw) (fun _ _ h => h)
    (fun _ _ h => h) h actions

/-! ## In sync -/

/-- **The picture is always in sync.**  After any actions, of which there is at
    least one, the surface holds what rendering the scene on a blank buffer of its
    size gives, whatever was there before.  The last action has answered with the
    number of lines, unless it was a run, and redrawing once more gives the same
    number and changes nothing. -/
theorem picture_in_sync (start : Scene (LineBuffer α) α) (before : List (Action α))
    (last : Action α) :
    let s := start.afterAll (before ++ [last])
    let answer := ((start.afterAll before).perform last).1
    s.surface.lines = s.rendering.2.lines ∧ s.surface.size = start.surface.size ∧
      s.renderer.lineWidth = s.turtle.thickness ∧
      (match last with
        | .run limits program =>
          answer = .reports (limits.run session program (start.afterAll before)).1
        | _ => answer = .drawn s.surface.lines.size) ∧
      s.redraw = (s.surface.lines.size, s) := by
  intro s answer
  obtain ⟨t, hredraw, hanswer⟩ := perform_eq_redraw (start.afterAll before) last
  have hs : s = t.redraw.2 := (afterAll_concat ..).trans hredraw
  have hsurface : s.surface = s.rendering.2 := by
    rw [hs, rendering_redraw, redraw_eq]
  have hcount : t.redraw.1 = s.surface.lines.size := by
    rw [hs, redraw_eq]
    exact t.rendering_spec.1
  refine ⟨congrArg LineBuffer.lines hsurface, Sized.afterAll rfl _, ?_, ?_, ?_⟩
  · rw [hs, redraw_eq]
  · rw [hcount] at hanswer
    exact hanswer
  · calc s.redraw = t.redraw := by rw [hs, redraw_redraw]
      _ = (s.surface.lines.size, s) := by rw [← hcount, hs]

end TurtleGraphics.Scene
