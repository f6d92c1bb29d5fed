/-
  Boards: no turtle ever leaves its own.

  A turtle of the plane starts in the middle of its surface and then is only
  where it may move to: strictly inside.  A turtle of space stays in its cube.
  Poses are remembered while moves are dropped at the border, so that every pose
  in flight has to be on the board, too.

  * `Vec2.Allowed` are the points of the plane where a turtle may be;
  * `PlaneTurtle.OnSurface` is the invariant of the plane, for the turtle and all
    lines on its surface, and `SpaceTurtle.InCube` that of space;
  * `PlaneTurtle.keeps`, `SpaceTurtle.keeps`: the primitive operations keep them;
  * `PlaneTurtle.tour`, `Scene.tour`: all that is done with turtles from outside;
  * `tours_stay_on_board`: the invariants are true at the end of every tour.

  Of numbers nothing is used but the comparisons that decide about a move.
-/
import TurtleGraphics.Proofs.Drawing.Recording
import TurtleGraphics.Proofs.Session.Picture
import TurtleGraphics.Proofs.Turtle.Walks
import TurtleGraphics.Session.Plane

namespace TurtleGraphics

variable {σ α : Type} [Scalar α]

/-- The points where a turtle on a surface of the given size may be: the middle,
    where it starts, and everything strictly inside. -/
def Vec2.Allowed (p size : Vec2 α) : Prop := p = size.half ∨ p.StrictlyInside size

/-! ## The plane -/

namespace PlaneTurtle

/-- What is done with a turtle of the plane from outside. -/
inductive Activity (α : Type) where
  /-- Walks a walk: a single move, or one of the walks `Koch.curve`,
      `Koch.planeSnowflake`, `Koch.spaceSnowflake`, `Sierpinski.planeTriangle` and
      `Sierpinski.spaceTriangle`, or any other. -/
  | walk (moves : List (Move α))
  | setColor (color : String)
  | setWidth (width : α)
  /-- Starts over. -/
  | reset
  /-- Runs a program. -/
  | run (limits : Limits) (program : String)

variable [Surface σ α]

/-- Does something with a turtle. -/
def act (t : PlaneTurtle σ α) : Activity α → PlaneTurtle σ α
  | .walk moves => Turtle.walk t moves
  | .setColor color => (t.setColor color).2
  | .setWidth width => (t.setWidth width).2
  | .reset => t.reset
  | .run limits program => (limits.run session program t).2

/-- The tours of turtles of the plane. -/
def tour : Tour (PlaneTurtle σ α) (Activity α) (PlanePose α) := ⟨act, pose, setPose⟩

theorem moveTo_cases (t : PlaneTurtle σ α) (destination : Vec2 α) :
    t.moveTo destination = (.ignored .outOfBounds, t) ∨
      destination.StrictlyInside (Surface.size t.surface) ∧
        t.moveTo destination = (.applied,
          { t with
            position := destination
            surface := if t.penDown then Surface.draw t.surface ⟨t.position, destination, t.stroke⟩
              else t.surface }) := by
  by_cases hinside : destination.StrictlyInside (Surface.size t.surface)
  · exact .inr ⟨hinside, if_pos hinside⟩
  · exact .inl (if_neg hinside)

theorem keeps_apply {Inv : PlaneTurtle σ α → Prop} {Fits : PlanePose α → Prop}
    (h : Turtle.Keeps Inv Fits) {t : PlaneTurtle σ α} (ht : Inv t) {c : Command α}
    (hcolor : ∀ color, c = .setColor color → Inv (t.setColor color).2)
    (hwidth : ∀ width, c = .setWidth width → Inv (t.setWidth width).2) : Inv (t.apply c).2 := by
  cases c with
  | forward distance => exact h.forward t distance ht
  | backward distance => exact h.backward t distance ht
  | right degrees => exact h.turnRight t degrees ht
  | left degrees => exact h.turnLeft t degrees ht
  | penUp => exact h.liftPen t ht
  | penDown => exact h.lowerPen t ht
  | setColor color => exact hcolor color rfl
  | setWidth width => exact hwidth width rfl
  | koch level length => exact h.walk ht _
  | sierpinski level side => exact h.walk ht _
  | up | down | clearScreen => exact ht

variable [Recording σ]

/-- **The invariant of the plane**, for a turtle that started on the surface
    `first`: the turtle and both ends of its lines are where a turtle may be. -/
structure OnSurface (first : σ) (t : PlaneTurtle σ α) : Prop where
  size : Surface.size t.surface = Surface.size first
  position : t.position.Allowed (Surface.size first)
  lines : ∀ line ∈ Recording.lines t.surface, line ∈ Recording.lines first ∨
    line.start.Allowed (Surface.size first) ∧ line.stop.Allowed (Surface.size first)

namespace OnSurface

variable {first : σ} {t : PlaneTurtle σ α}

theorem start (first : σ) (extent : α) (stroke : Stroke α) :
    OnSurface first (start first extent stroke) :=
  ⟨rfl, .inl rfl, fun _ h => .inl h⟩

theorem reset (h : OnSurface first t) : OnSurface first t.reset where
  size := (Recording.size_clear t.surface).trans h.size
  position := .inl (congrArg Vec2.half h.size)
  lines line hline := by
    have hcleared : line ∈ Recording.lines (Surface.clear t.surface) := hline
    rw [Recording.lines_clear] at hcleared
    simp at hcleared

/-- **A move**, whether it is made or dropped, keeps the invariant. -/
theorem moveTo (h : OnSurface first t) (destination : Vec2 α) :
    OnSurface first (t.moveTo destination).2 := by
  rcases t.moveTo_cases destination with heq | ⟨hinside, heq⟩ <;> rw [heq]
  · exact h
  · have hallowed : destination.Allowed (Surface.size first) := .inr (h.size ▸ hinside)
    cases t.penDown with
    | false => exact ⟨h.size, hallowed, h.lines⟩
    | true =>
      refine ⟨(Recording.size_draw ..).trans h.size, hallowed, ?_⟩
      intro line hline
      have hmem : line ∈ Recording.lines (Surface.draw t.surface ⟨_, _, _⟩) := hline
      rw [Recording.lines_draw, Array.mem_push] at hmem
      rcases hmem with hold | rfl
      · exact h.lines line hold
      · exact .inr ⟨h.position, hallowed⟩

theorem setColor (h : OnSurface first t) (color : String) :
    OnSurface first (t.setColor color).2 := by
  unfold PlaneTurtle.setColor
  split
  · exact ⟨h.size, h.position, h.lines⟩
  · exact h

theorem setWidth (h : OnSurface first t) (width : α) : OnSurface first (t.setWidth width).2 := by
  unfold PlaneTurtle.setWidth
  split
  · exact ⟨h.size, h.position, h.lines⟩
  · exact h

end OnSurface

/-- **The primitive operations** of a turtle of the plane keep it on its
    surface, and its poses there. -/
theorem keeps (first : σ) :
    Turtle.Keeps (OnSurface (α := α) first) fun pose => pose.position.Allowed (Surface.size first)
    where
  forward _ _ h := h.moveTo _
  backward _ _ h := h.moveTo _
  turnLeft _ _ h := ⟨h.size, h.position, h.lines⟩
  turnRight _ _ h := ⟨h.size, h.position, h.lines⟩
  liftPen _ h := ⟨h.size, h.position, h.lines⟩
  lowerPen _ h := ⟨h.size, h.position, h.lines⟩
  pose _ h := h.position
  setPose _ _ h hpose := ⟨h.size, hpose, h.lines⟩

namespace OnSurface

variable {first : σ} {t : PlaneTurtle σ α}

theorem apply (h : OnSurface first t) (c : Command α) : OnSurface first (t.apply c).2 :=
  keeps_apply (keeps first) h (fun color _ => h.setColor color) fun width _ => h.setWidth width

/-- **Programs** keep the invariant. -/
theorem run (h : OnSurface first t) (limits : Limits) (program : String) :
    OnSurface first (limits.run session program t).2 :=
  Limits.run_induction (fun c _ _ h => h.apply c) (fun _ h => h) h

theorem act (h : OnSurface first t) (activity : Activity α) :
    OnSurface first (t.act activity) := by
  cases activity with
  | walk moves => exact (keeps first).walk h moves
  | setColor color => exact h.setColor color
  | setWidth width => exact h.setWidth width
  | reset => exact h.reset
  | run limits program => exact h.run limits program

end OnSurface

theorem tour_keeps (first : σ) :
    (tour (σ := σ)).Keeps (OnSurface (α := α) first)
      fun pose => pose.position.Allowed (Surface.size first) where
  act _ activity h := h.act activity
  pose := (keeps first).pose
  setPose := (keeps first).setPose

end PlaneTurtle

/-! ## Space -/

namespace SpaceTurtle

/-- **The invariant of space**: the turtle is on its board, and everything it
    has drawn is a line between two points of the board. -/
structure InCube (t : SpaceTurtle α) : Prop where
  position : OnBoard t.position
  shapes : ∀ shape ∈ t.shapes, ∃ p q color, shape = .line p q color ∧ OnBoard p ∧ OnBoard q

variable {t : SpaceTurtle α}

theorem InCube.initial (horigin : OnBoard (Vec3.zero : Vec3 α)) :
    InCube (initial : SpaceTurtle α) :=
  ⟨horigin, by simp [SpaceTurtle.initial]⟩

theorem InCube.reset (horigin : OnBoard (Vec3.zero : Vec3 α)) (t : SpaceTurtle α) :
    t.reset.InCube :=
  ⟨horigin, by simp [SpaceTurtle.reset]⟩

theorem moveTo_cases (t : SpaceTurtle α) (destination : Vec3 α) :
    t.moveTo destination = (.ignored .outOfBounds, t) ∨
      OnBoard destination ∧
        t.moveTo destination = (.applied,
          { t with
            position := destination
            shapes := if t.penDown then t.shapes.push (.line t.position destination t.color)
              else t.shapes }) := by
  by_cases hboard : OnBoard destination
  · exact .inr ⟨hboard, if_pos hboard⟩
  · exact .inl (if_neg hboard)

theorem InCube.moveTo (h : t.InCube) (destination : Vec3 α) : (t.moveTo destination).2.InCube := by
  rcases t.moveTo_cases destination with heq | ⟨hboard, heq⟩ <;> rw [heq]
  · exact h
  · cases t.penDown with
    | false => exact ⟨hboard, h.shapes⟩
    | true =>
      refine ⟨hboard, ?_⟩
      intro shape hshape
      rcases Array.mem_push.1 hshape with hold | rfl
      · exact h.shapes shape hold
      · exact ⟨_, destination, _, rfl, h.position, hboard⟩

theorem InCube.setColor (h : t.InCube) (color : String) : (t.setColor color).2.InCube := by
  unfold SpaceTurtle.setColor
  split
  · exact ⟨h.position, h.shapes⟩
  · exact h

theorem InCube.setWidth (h : t.InCube) (width : α) : (t.setWidth width).2.InCube := by
  unfold SpaceTurtle.setWidth
  split
  · exact ⟨h.position, h.shapes⟩
  · exact h

/-- **The primitive operations** of a turtle of space keep it in its cube, and
    its poses there. -/
theorem keeps : Turtle.Keeps (InCube (α := α)) fun pose => OnBoard pose.position where
  forward _ _ h := h.moveTo _
  backward _ _ h := h.moveTo _
  turnLeft _ _ h := ⟨h.position, h.shapes⟩
  turnRight _ _ h := ⟨h.position, h.shapes⟩
  liftPen _ h := ⟨h.position, h.shapes⟩
  lowerPen _ h := ⟨h.position, h.shapes⟩
  pose _ h := h.position
  setPose _ _ h hpose := ⟨hpose, h.shapes⟩

theorem InCube.apply (horigin : OnBoard (Vec3.zero : Vec3 α)) (h : t.InCube) (c : Command α) :
    (t.apply c).2.InCube := by
  cases c with
  | forward distance => exact keeps.forward t distance h
  | backward distance => exact keeps.backward t distance h
  | right degrees => exact keeps.turnRight t degrees h
  | left degrees => exact keeps.turnLeft t degrees h
  | up degrees | down degrees => exact ⟨h.position, h.shapes⟩
  | penUp => exact keeps.liftPen t h
  | penDown => exact keeps.lowerPen t h
  | setColor color => exact h.setColor color
  | setWidth width => exact h.setWidth width
  | koch level length => exact keeps.walk h _
  | sierpinski level side => exact keeps.walk h _
  | clearScreen => exact .reset horigin t

end SpaceTurtle

namespace Scene

/-- What is done with the turtle of a scene from outside, or with the scene. -/
inductive Activity (α : Type) where
  /-- Walks a walk: a single move, or one of the walks `Koch.curve`,
      `Koch.planeSnowflake`, `Koch.spaceSnowflake`, `Sierpinski.planeTriangle` and
      `Sierpinski.spaceTriangle`, or any other. -/
  | walk (moves : List (Move α))
  | turnUp (degrees : α)
  | turnDown (degrees : α)
  | setColor (color : String)
  | setWidth (width : α)
  /-- The turtle starts over. -/
  | reset
  /-- Runs a program, or changes the view. -/
  | perform (action : Action α)

variable [Surface σ α]

/-- Does something with a scene. -/
def act (s : Scene σ α) : Activity α → Scene σ α
  | .walk moves => { s with turtle := Turtle.walk s.turtle moves }
  | .turnUp degrees => { s with turtle := s.turtle.turnUp degrees }
  | .turnDown degrees => { s with turtle := s.turtle.turnDown degrees }
  | .setColor color => { s with turtle := (s.turtle.setColor color).2 }
  | .setWidth width => { s with turtle := (s.turtle.setWidth width).2 }
  | .reset => { s with turtle := s.turtle.reset }
  | .perform action => (s.perform action).2

/-- The tours of scenes; the poses are those of the turtle. -/
def tour : Tour (Scene σ α) (Activity α) (SpacePose α) where
  act := act
  pose s := s.turtle.pose
  setPose s pose := { s with turtle := s.turtle.setPose pose }

theorem apply_turtle (s : Scene σ α) (c : Command α) :
    (session.apply s c).2.turtle = (s.turtle.apply c).2 := by
  cases c with
  | clearScreen => rfl
  | _ => rfl

/-- A scene whose turtle is in its cube. -/
def InCube (s : Scene σ α) : Prop := s.turtle.InCube

namespace InCube

variable {s : Scene σ α}

theorem apply (horigin : SpaceTurtle.OnBoard (Vec3.zero : Vec3 α)) (h : s.InCube)
    (c : Command α) : (session.apply s c).2.InCube := by
  rw [InCube, apply_turtle]
  exact SpaceTurtle.InCube.apply horigin h c

theorem perform (horigin : SpaceTurtle.OnBoard (Vec3.zero : Vec3 α)) (h : s.InCube)
    (action : Action α) : (s.perform action).2.InCube :=
  perform_induction (P := InCube) (fun c _ h => h.apply horigin c) (fun _ h => h) (fun _ _ h => h)
    (fun _ _ h => h) h action

theorem afterAll (horigin : SpaceTurtle.OnBoard (Vec3.zero : Vec3 α)) (h : s.InCube)
    (actions : List (Action α)) : (s.afterAll actions).InCube :=
  afterAll_induction (P := InCube) (fun c _ h => h.apply horigin c) (fun _ h => h) (fun _ _ h => h)
    (fun _ _ h => h) h actions

theorem act (horigin : SpaceTurtle.OnBoard (Vec3.zero : Vec3 α)) (h : s.InCube)
    (activity : Activity α) : (s.act activity).InCube := by
  cases activity with
  | walk moves => exact SpaceTurtle.keeps.walk h moves
  | turnUp degrees | turnDown degrees => exact ⟨h.position, h.shapes⟩
  | setColor color => exact SpaceTurtle.InCube.setColor h color
  | setWidth width => exact SpaceTurtle.InCube.setWidth h width
  | reset => exact .reset horigin s.turtle
  | perform action => exact h.perform horigin action

end InCube

theorem tour_keeps (horigin : SpaceTurtle.OnBoard (Vec3.zero : Vec3 α)) :
    (tour (σ := σ)).Keeps InCube
      fun pose : SpacePose α => SpaceTurtle.OnBoard pose.position where
  act _ activity h := h.act horigin activity
  pose _ h := h.position
  setPose s pose h hpose := SpaceTurtle.keeps.setPose s.turtle pose h hpose

end Scene

/-! ## Every tour -/

/-- **No turtle leaves its board**, whatever is done with it.  A turtle of the
    plane is in the middle of its surface, where it started, or strictly inside,
    and so are both ends of every line that has been drawn since.  If the origin is
    on the board of space, as it is for doubles, the turtle of space and both ends
    of everything it has drawn are on that board. -/
theorem tours_stay_on_board :
    (∀ {σ : Type} [Surface σ α] [Recording σ] (first : σ) (extent : α) (stroke : Stroke α)
        (steps : List (Tour.Step (PlaneTurtle.Activity α))),
      let t := PlaneTurtle.tour.after (.start first extent stroke) steps
      let size := Surface.size first
      Surface.size t.surface = size ∧ t.position.Allowed size ∧
        ∀ line ∈ Recording.lines t.surface,
          line ∈ Recording.lines first ∨ line.start.Allowed size ∧ line.stop.Allowed size) ∧
    (SpaceTurtle.OnBoard (Vec3.zero : Vec3 α) →
      ∀ {σ : Type} [Surface σ α] (surface : σ) (focalDistance : α)
        (steps : List (Tour.Step (Scene.Activity α))),
      let t := (Scene.tour.after (.start surface focalDistance) steps).turtle
      SpaceTurtle.OnBoard t.position ∧
        ∀ shape ∈ t.shapes, ∃ p q color,
          shape = .line p q color ∧ SpaceTurtle.OnBoard p ∧ SpaceTurtle.OnBoard q) ∧
    SpaceTurtle.OnBoard (Vec3.zero : Vec3 Float) := by
  refine ⟨?_, ?_, by decide⟩
  · intro σ _ _ first extent stroke steps t size
    have h := (PlaneTurtle.tour_keeps first).after (.start first extent stroke) steps
    exact ⟨h.size, h.position, h.lines⟩
  · intro horigin σ _ surface focalDistance steps t
    have hstart : (Scene.start surface focalDistance).InCube := SpaceTurtle.InCube.initial horigin
    have h := (Scene.tour_keeps horigin).after hstart steps
    exact ⟨h.position, h.shapes⟩

/-- A tour with doubles, on which the pose at the start is taken down, and gone
    back to at the end.  Between times the turtle is told to move by what is not a
    number and by what is not finite, and runs a program that leads to the border. -/
theorem double_tour_stays_on_board :
    SpaceTurtle.OnBoard (Vec3.zero : Vec3 Float) ∧
      let steps := [.notePose,
        .act (.walk [.forward Binary64.nan, .left Binary64.infinity, .backward Binary64.infinity]),
        .act (.perform (.run .standard "repeat 3; fd 700; rt 90; end; sierp 2 5000")),
        .recallPose 0]
      let t := (Scene.tour.after
        (.start (LineBuffer.empty ⟨100, 100⟩) (Scene.standardFocalDistance : Float)) steps).turtle
      SpaceTurtle.OnBoard t.position ∧
        ∀ shape ∈ t.shapes, ∃ p q color,
          shape = .line p q color ∧ SpaceTurtle.OnBoard p ∧ SpaceTurtle.OnBoard q := by
  have horigin : SpaceTurtle.OnBoard (Vec3.zero : Vec3 Float) := by decide
  exact ⟨horigin, (@tours_stay_on_board Float _).2.1 horigin _ _ _⟩

end TurtleGraphics
