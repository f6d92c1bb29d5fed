/-
  Programs for the turtle of space, and the view of what it draws.

  A `Scene` is a turtle of space with a camera that looks at its shapes, an
  orbit that turns them, and a surface with the picture.  The picture is
  made anew at the end of every batch and after every change of the view.
  Turning the view leaves the shapes alone; only the picture shows them turned.
-/
import TurtleGraphics.Program.Run
import TurtleGraphics.Session.Space
import TurtleGraphics.View.Orbit
import TurtleGraphics.View.Wireframe

namespace TurtleGraphics

/-- A turtle of space, and the view of its shapes on a surface. -/
structure Scene (σ α : Type) where
  turtle : SpaceTurtle α
  orbit : Orbit α
  camera : Camera α
  renderer : Renderer α
  surface : σ
deriving DecidableEq

namespace Scene

variable {σ α : Type} [Scalar α]

/-- Where the camera is at the start. -/
def cameraPosition : Vec3 α := ⟨(0 : Nat), -((2000 : Nat) : α), (0 : Nat)⟩

/-- The zoom of a camera where none is given. -/
def standardFocalDistance : α := (350 : Nat)

/-- The scene at the start, with nothing drawn yet. -/
def start (surface : σ) (focalDistance : α) : Scene σ α :=
  { turtle := .initial, orbit := .initial, camera := ⟨cameraPosition, focalDistance⟩
    renderer := .initial, surface }

variable [Surface σ α]

/-- Draws the shapes of the turtle as they are seen now, with its line width.
    The answer is the number of lines, and the scene. -/
def redraw (s : Scene σ α) : Nat × Scene σ α :=
  match s with
  | ⟨turtle, orbit, camera, _, surface⟩ =>
    let shapes := Shape.rotateAll turtle.shapes.toList Vec3.zero orbit.yaw orbit.pitch
    let renderer : Renderer α := ⟨turtle.thickness⟩
    let (count, surface) := renderer.render shapes camera surface
    (count, ⟨turtle, orbit, camera, renderer, surface⟩)

/-- Turns the view by a drag, and redraws. -/
def drag (s : Scene σ α) (amount : Vec2 α) : Nat × Scene σ α :=
  { s with orbit := s.orbit.drag amount }.redraw

/-- Puts the camera somewhere, and redraws. -/
def moveCamera (s : Scene σ α) (position : Vec3 α) : Nat × Scene σ α :=
  { s with camera := s.camera.movedTo position }.redraw

/-- Carries out a command, which is the turtle's business.  Clearing the screen
    also takes orbit and camera back to the start and blanks the surface; the
    camera keeps its zoom. -/
def apply (s : Scene σ α) (command : Command α) : Outcome α × Scene σ α :=
  match s with
  | ⟨turtle, orbit, camera, renderer, surface⟩ =>
    let (outcome, turtle) := turtle.apply command
    match command with
    | .clearScreen =>
      (outcome, ⟨turtle, .initial, camera.movedTo cameraPosition, renderer, Surface.clear surface⟩)
    | _ => (outcome, ⟨turtle, orbit, camera, renderer, surface⟩)

/-- A session whose state is the scene.  The picture is redrawn at the end of
    a batch. -/
def session : Session (Scene σ α) α where
  apply := apply
  finish s := s.redraw.2

end Scene

end TurtleGraphics
