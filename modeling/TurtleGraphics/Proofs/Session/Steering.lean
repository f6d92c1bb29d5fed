/-
  Steering: what decides where a turtle goes.

  Whether a move is made depends on where the turtle is, on its heading and on its
  board, and on nothing that is seen of it: neither on its pen nor on its stroke, nor
  on what has been drawn.  Two turtles that differ in these go the same way.

  * `PlaneTurtle.Abreast`: two turtles of the plane, on surfaces that may be of
    different kinds, for which every move ends at the same point;
  * `PlaneTurtle.simulates_of_inStep`: what the primitive operations and the styles keep of
    two turtles is kept by every command;
  * `PlaneTurtle.Coupling`: a relation of turtles abreast that is kept when both are
    put somewhere, draw, or take the same pen or style, and
    `PlaneTurtle.Coupling.simulates`: it is kept by every command, with equal
    outcomes;
  * `PlaneTurtle.Matched` compares their strokes, and `PlaneTurtle.Tracing` their pens
    and what they have drawn;
  * `Scene.simulates_of_pose`: scenes whose turtles have equal poses;
  * `pen_and_style_never_steer`: what it makes of the runs of a program.

  Nothing is known of numbers here.
-/
import TurtleGraphics.Decimal.Shortest
import TurtleGraphics.Proofs.Program.Simulation
import TurtleGraphics.Proofs.Session.Board
import TurtleGraphics.Proofs.Turtle.Companions

namespace TurtleGraphics

variable {σ τ α : Type}

/-! ## Strokes and lines -/

/-- A relation of strokes that stays when both take the same color, or the same
    width. -/
structure Stroke.Stable (S : Stroke α → Stroke α → Prop) : Prop where
  color : ∀ s s' color, S s s' → S { s with color } { s' with color }
  width : ∀ s s' width, S s s' → S { s with width } { s' with width }

namespace Stroke.Stable

theorem any : Stable fun _ _ : Stroke α => True := ⟨fun _ _ _ _ => trivial, fun _ _ _ _ => trivial⟩

theorem eq : Stable (· = · : Stroke α → Stroke α → Prop) where
  color _ _ _ h := by rw [h]
  width _ _ _ h := by rw [h]

theorem sameColor : Stable fun s s' : Stroke α => s.color = s'.color :=
  ⟨fun _ _ _ _ => rfl, fun _ _ _ h => h⟩

theorem sameWidth : Stable fun s s' : Stroke α => s.width = s'.width :=
  ⟨fun _ _ _ h => h, fun _ _ _ _ => rfl⟩

end Stroke.Stable

namespace Line

/-- Both ends of a line. -/
def ends (line : Line α) : Vec2 α × Vec2 α := (line.start, line.stop)

/-- Lines between the same points, with related strokes. -/
structure Matches (S : Stroke α → Stroke α → Prop) (line line' : Line α) : Prop where
  ends : line.ends = line'.ends
  stroke : S line.stroke line'.stroke

theorem map_ends_eq {S : Stroke α → Stroke α → Prop} {lines lines' : List (Line α)}
    (h : List.Forall₂ (Matches S) lines lines') : lines.map ends = lines'.map ends := by
  induction h with
  | nil => rfl
  | cons hline _ ih => rw [List.map_cons, List.map_cons, hline.ends, ih]

theorem eq_of_matches {lines lines' : List (Line α)}
    (h : List.Forall₂ (Matches (· = ·)) lines lines') : lines = lines' := by
  induction h with
  | nil => rfl
  | @cons line line' rest rest' hline _ ih =>
    obtain ⟨start, stop, stroke⟩ := line
    obtain ⟨start', stop', stroke'⟩ := line'
    obtain ⟨rfl, rfl⟩ := Prod.mk.inj hline.ends
    obtain rfl := hline.stroke
    rw [ih]

end Line

/-! ## The plane -/

namespace PlaneTurtle

section

variable [Surface σ α] [Surface τ α]

/-- Two turtles side by side.  Their pens and strokes may differ, and so may their
    surfaces, but for the size. -/
structure Abreast (t : PlaneTurtle σ α) (t' : PlaneTurtle τ α) : Prop where
  position : t.position = t'.position
  heading : t.heading = t'.heading
  unit : t.unit = t'.unit
  size : Surface.size t.surface = Surface.size t'.surface

/-- The turtle behind a move that is made: there is a line if the pen is down. -/
def movedTo (t : PlaneTurtle σ α) (destination : Vec2 α) : PlaneTurtle σ α :=
  { t with
    position := destination
    surface := if t.penDown then Surface.draw t.surface ⟨t.position, destination, t.stroke⟩
      else t.surface }

/-- **A relation of turtles abreast** that stays when the same is done to both: when they
    move to a point, are put into a pose, or take a pen, a color or a width. -/
structure Coupling (R : PlaneTurtle σ α → PlaneTurtle τ α → Prop) : Prop where
  abreast : ∀ t t', R t t' → t.Abreast t'
  movedTo : ∀ t t' destination, R t t' → R (t.movedTo destination) (t'.movedTo destination)
  setPose : ∀ t t' pose, R t t' → R (t.setPose pose) (t'.setPose pose)
  pen : ∀ t t' penDown, R t t' → R { t with penDown } { t' with penDown }
  color : ∀ t t' color, R t t' →
    R { t with stroke := { t.stroke with color } } { t' with stroke := { t'.stroke with color } }
  width : ∀ t t' width, R t t' →
    R { t with stroke := { t.stroke with width } } { t' with stroke := { t'.stroke with width } }

namespace Coupling

variable {R : PlaneTurtle σ α → PlaneTurtle τ α → Prop} {t : PlaneTurtle σ α}
  {t' : PlaneTurtle τ α}

theorem turn (h : Coupling R) (ht : R t t') (newHeading : α → α) :
    R { t with heading := newHeading t.heading } { t' with heading := newHeading t'.heading } := by
  have habreast := h.abreast t t' ht
  have hposed := h.setPose t t' ⟨t.position, newHeading t.heading⟩ ht
  have hpose : (⟨t.position, newHeading t.heading⟩ : PlanePose α) =
      ⟨t'.position, newHeading t'.heading⟩ := by
    rw [habreast.position, habreast.heading]
  have hstays : t'.setPose ⟨t.position, newHeading t.heading⟩ =
      { t' with heading := newHeading t'.heading } := by
    rw [hpose]
    rfl
  rwa [hstays] at hposed

theorem setColor (h : Coupling R) (ht : R t t') (color : String) :
    (t.setColor color).1 = (t'.setColor color).1 ∧
      R (t.setColor color).2 (t'.setColor color).2 := by
  unfold PlaneTurtle.setColor
  split
  · exact ⟨rfl, h.color t t' color ht⟩
  · exact ⟨rfl, ht⟩

end Coupling

variable [Recording σ] [Recording τ]

theorem size_movedTo (t : PlaneTurtle σ α) (destination : Vec2 α) :
    Surface.size (t.movedTo destination).surface = Surface.size t.surface := by
  cases hpen : t.penDown with
  | false => simp [movedTo, hpen]
  | true => simp [movedTo, hpen, Recording.size_draw]

theorem lines_movedTo (t : PlaneTurtle σ α) (destination : Vec2 α) :
    (Recording.lines (t.movedTo destination).surface).toList =
      (Recording.lines t.surface).toList ++
        if t.penDown then [⟨t.position, destination, t.stroke⟩] else [] := by
  cases hpen : t.penDown with
  | false => simp [movedTo, hpen]
  | true => simp [movedTo, hpen, Recording.lines_draw]

/-- **Turtles abreast** stay so, whatever their pens and strokes are. -/
theorem Abreast.coupling : Coupling (Abreast : PlaneTurtle σ α → PlaneTurtle τ α → Prop) where
  abreast _ _ h := h
  movedTo t t' destination h :=
    ⟨rfl, h.heading, h.unit, by rw [size_movedTo, size_movedTo, h.size]⟩
  setPose _ _ _ h := ⟨rfl, rfl, h.unit, h.size⟩
  pen _ _ _ h := ⟨h.position, h.heading, h.unit, h.size⟩
  color _ _ _ h := ⟨h.position, h.heading, h.unit, h.size⟩
  width _ _ _ h := ⟨h.position, h.heading, h.unit, h.size⟩

/-- Turtles abreast with related strokes. -/
structure Matched (S : Stroke α → Stroke α → Prop) (t : PlaneTurtle σ α)
    (t' : PlaneTurtle τ α) : Prop extends t.Abreast t' where
  stroke : S t.stroke t'.stroke

theorem Matched.coupling {S : Stroke α → Stroke α → Prop} (hS : Stroke.Stable S) :
    Coupling (Matched S : PlaneTurtle σ α → PlaneTurtle τ α → Prop) where
  abreast _ _ h := h.toAbreast
  movedTo t t' destination h :=
    ⟨Abreast.coupling.movedTo t t' destination h.toAbreast, h.stroke⟩
  setPose t t' pose h := ⟨Abreast.coupling.setPose t t' pose h.toAbreast, h.stroke⟩
  pen t t' penDown h := ⟨Abreast.coupling.pen t t' penDown h.toAbreast, h.stroke⟩
  color t t' color h :=
    ⟨Abreast.coupling.color t t' color h.toAbreast, hS.color _ _ color h.stroke⟩
  width t t' width h :=
    ⟨Abreast.coupling.width t t' width h.toAbreast, hS.width _ _ width h.stroke⟩

/-- Turtles abreast with equal pens and related strokes, that have drawn lines that match
    since `before` was on the surface of one, and `before'` on that of the other. -/
structure Tracing (S : Stroke α → Stroke α → Prop) (before before' : List (Line α))
    (t : PlaneTurtle σ α) (t' : PlaneTurtle τ α) : Prop extends t.Matched S t' where
  penDown : t.penDown = t'.penDown
  lines : ∃ drawn drawn', (Recording.lines t.surface).toList = before ++ drawn ∧
    (Recording.lines t'.surface).toList = before' ++ drawn' ∧
      List.Forall₂ (Line.Matches S) drawn drawn'

theorem Matched.traced {S : Stroke α → Stroke α → Prop} {before before' : List (Line α)}
    {t : PlaneTurtle σ α} {t' : PlaneTurtle τ α} (h : t.Matched S t')
    (hpen : t.penDown = t'.penDown) (hbefore : (Recording.lines t.surface).toList = before)
    (hbefore' : (Recording.lines t'.surface).toList = before') :
    t.Tracing S before before' t' :=
  ⟨h, hpen, [], [], by simp [hbefore], by simp [hbefore'], .nil⟩

namespace Tracing

variable {S : Stroke α → Stroke α → Prop} {before before' : List (Line α)}
  {t : PlaneTurtle σ α} {t' : PlaneTurtle τ α}

/-- **A move that is made** adds one line on both sides, or none.  Both begin where the
    turtles have been. -/
theorem movedTo (h : t.Tracing S before before' t') (destination : Vec2 α)
    (hmatched : (t.movedTo destination).Matched S (t'.movedTo destination)) :
    (t.movedTo destination).Tracing S before before' (t'.movedTo destination) := by
  obtain ⟨drawn, drawn', hlines, hlines', hdrawn⟩ := h.lines
  refine ⟨hmatched, h.penDown, ?_⟩
  simp only [lines_movedTo, hlines, hlines', ← h.penDown]
  cases t.penDown with
  | false => exact ⟨drawn, drawn', by simp, by simp, hdrawn⟩
  | true =>
    have hline : Line.Matches S ⟨t.position, destination, t.stroke⟩
        ⟨t'.position, destination, t'.stroke⟩ :=
      ⟨congrArg (·, destination) h.position, h.stroke⟩
    exact ⟨drawn ++ [_], drawn' ++ [_], by simp, by simp,
      List.rel_append hdrawn (.cons hline .nil)⟩

end Tracing

theorem Tracing.coupling {S : Stroke α → Stroke α → Prop} (hS : Stroke.Stable S)
    (before before' : List (Line α)) :
    Coupling (Tracing S before before' : PlaneTurtle σ α → PlaneTurtle τ α → Prop) where
  abreast _ _ h := h.toAbreast
  movedTo t t' destination h :=
    h.movedTo destination ((Matched.coupling hS).movedTo t t' destination h.toMatched)
  setPose t t' pose h :=
    ⟨(Matched.coupling hS).setPose t t' pose h.toMatched, h.penDown, h.lines⟩
  pen t t' penDown h := ⟨(Matched.coupling hS).pen t t' penDown h.toMatched, rfl, h.lines⟩
  color t t' color h :=
    ⟨(Matched.coupling hS).color t t' color h.toMatched, h.penDown, h.lines⟩
  width t t' width h :=
    ⟨(Matched.coupling hS).width t t' width h.toMatched, h.penDown, h.lines⟩

end

variable [Scalar α]

namespace Abreast

variable [Surface σ α] [Surface τ α] {t : PlaneTurtle σ α} {t' : PlaneTurtle τ α}

theorem displacement (h : t.Abreast t') (distance : α) :
    t.displacement distance = t'.displacement distance := by
  simp only [PlaneTurtle.displacement, h.heading, h.unit]

theorem ahead (h : t.Abreast t') (distance : α) :
    t.position + t.displacement distance = t'.position + t'.displacement distance := by
  rw [h.position, h.displacement]

theorem behind (h : t.Abreast t') (distance : α) :
    t.position - t.displacement distance = t'.position - t'.displacement distance := by
  rw [h.position, h.displacement]

end Abreast

variable [Surface σ α] [Surface τ α]

theorem moveTo_eq (t : PlaneTurtle σ α) (destination : Vec2 α) :
    t.moveTo destination =
      if destination.StrictlyInside (Surface.size t.surface) then
        (.applied, t.movedTo destination)
      else (.ignored .outOfBounds, t) := rfl

/-- **A relation of turtles** that the primitive operations keep, with equal outcomes, and
    styles, too, is kept by all commands. -/
theorem simulates_of_inStep {R : PlaneTurtle σ α → PlaneTurtle τ α → Prop}
    {Fits : PlanePose α → PlanePose α → Prop} (h : Turtle.InStep R Fits)
    (hcolor : ∀ t t' color, R t t' → (t.setColor color).1 = (t'.setColor color).1 ∧
      R (t.setColor color).2 (t'.setColor color).2)
    (hwidth : ∀ t t' width, R t t' → (t.setWidth width).1 = (t'.setWidth width).1 ∧
      R (t.setWidth width).2 (t'.setWidth width).2) :
    (session : Session (PlaneTurtle σ α) α).Simulates session R := by
  refine .of_step ?_
  intro t t' c ht
  cases c with
  | forward distance => exact h.forward t t' distance ht
  | backward distance => exact h.backward t t' distance ht
  | right degrees => exact ⟨rfl, h.turnRight t t' degrees ht⟩
  | left degrees => exact ⟨rfl, h.turnLeft t t' degrees ht⟩
  | penUp => exact ⟨rfl, h.liftPen t t' ht⟩
  | penDown => exact ⟨rfl, h.lowerPen t t' ht⟩
  | setColor color => exact hcolor t t' color ht
  | setWidth width => exact hwidth t t' width ht
  | koch level length => exact ⟨rfl, h.walk ht _⟩
  | sierpinski level side => exact ⟨rfl, h.walk ht _⟩
  | up | down | clearScreen => exact ⟨rfl, ht⟩

namespace Coupling

variable {R : PlaneTurtle σ α → PlaneTurtle τ α → Prop} {t : PlaneTurtle σ α}
  {t' : PlaneTurtle τ α}

/-- **A move** is made by both turtles, or by neither: the board of one is the board of
    the other. -/
theorem moveTo (h : Coupling R) (ht : R t t') {destination destination' : Vec2 α}
    (hdestination : destination = destination') :
    (t.moveTo destination).1 = (t'.moveTo destination').1 ∧
      R (t.moveTo destination).2 (t'.moveTo destination').2 := by
  subst hdestination
  rw [moveTo_eq, moveTo_eq, (h.abreast t t' ht).size]
  by_cases hinside : destination.StrictlyInside (Surface.size t'.surface)
  · rw [if_pos hinside, if_pos hinside]
    exact ⟨rfl, h.movedTo t t' destination ht⟩
  · rw [if_neg hinside, if_neg hinside]
    exact ⟨rfl, ht⟩

/-- **The primitive operations** keep the relation.  The poses that are saved are equal. -/
theorem inStep (h : Coupling R) : Turtle.InStep R (· = ·) where
  forward t t' distance ht := h.moveTo ht ((h.abreast t t' ht).ahead distance)
  backward t t' distance ht := h.moveTo ht ((h.abreast t t' ht).behind distance)
  turnLeft _ _ degrees ht := h.turn ht fun heading => wrapHeading (heading - degrees)
  turnRight _ _ degrees ht := h.turn ht fun heading => wrapHeading (heading + degrees)
  liftPen t t' ht := h.pen t t' false ht
  lowerPen t t' ht := h.pen t t' true ht
  pose t t' ht := congrArg₂ PlanePose.mk (h.abreast t t' ht).position (h.abreast t t' ht).heading
  setPose t t' pose pose' ht hpose := by
    subst hpose
    exact h.setPose t t' pose ht

theorem setWidth (h : Coupling R) (ht : R t t') (width : α) :
    (t.setWidth width).1 = (t'.setWidth width).1 ∧
      R (t.setWidth width).2 (t'.setWidth width).2 := by
  unfold PlaneTurtle.setWidth
  split
  · exact ⟨rfl, h.width t t' width ht⟩
  · exact ⟨rfl, ht⟩

/-- **Commands** have equal outcomes for both turtles, and keep the relation. -/
theorem simulates (h : Coupling R) :
    (session : Session (PlaneTurtle σ α) α).Simulates session R :=
  simulates_of_inStep h.inStep (fun _ _ color ht => h.setColor ht color)
    fun _ _ width ht => h.setWidth ht width

theorem run (h : Coupling R) (ht : R t t') (limits : Limits) (program : String) :
    (limits.run session program t).1 = (limits.run session program t').1 ∧
      R (limits.run session program t).2 (limits.run session program t').2 :=
  h.simulates.run (fun _ _ ht => ht) limits program ht

end Coupling

end PlaneTurtle

/-! ## Space -/

namespace SpaceTurtle

/-- Two turtles of space that are in one pose. -/
def Abreast (t t' : SpaceTurtle α) : Prop := t.pose = t'.pose

theorem abreast_iff {t t' : SpaceTurtle α} :
    t.Abreast t' ↔ t.position = t'.position ∧ t.yaw = t'.yaw ∧ t.pitch = t'.pitch := by
  simp [Abreast, pose]

variable [Scalar α] {t t' : SpaceTurtle α}

theorem moveTo_eq (t : SpaceTurtle α) (destination : Vec3 α) :
    t.moveTo destination =
      if OnBoard destination then
        (.applied,
          { t with
            position := destination
            shapes := if t.penDown then t.shapes.push (.line t.position destination t.color)
              else t.shapes })
      else (.ignored .outOfBounds, t) := rfl

namespace Abreast

theorem displacement (h : t.Abreast t') (distance : α) :
    t.displacement distance = t'.displacement distance := by
  obtain ⟨-, hyaw, hpitch⟩ := abreast_iff.1 h
  simp only [SpaceTurtle.displacement, hyaw, hpitch]

theorem moveTo (h : t.Abreast t') {destination destination' : Vec3 α}
    (hdestination : destination = destination') :
    (t.moveTo destination).1 = (t'.moveTo destination').1 ∧
      (t.moveTo destination).2.Abreast (t'.moveTo destination').2 := by
  subst hdestination
  obtain ⟨-, hyaw, hpitch⟩ := abreast_iff.1 h
  rw [moveTo_eq, moveTo_eq]
  by_cases hboard : OnBoard destination
  · rw [if_pos hboard, if_pos hboard]
    exact ⟨rfl, abreast_iff.2 ⟨rfl, hyaw, hpitch⟩⟩
  · rw [if_neg hboard, if_neg hboard]
    exact ⟨rfl, h⟩

theorem inStep : Turtle.InStep (Abreast : SpaceTurtle α → SpaceTurtle α → Prop) (· = ·) where
  forward t t' distance h := h.moveTo (by rw [(abreast_iff.1 h).1, h.displacement])
  backward t t' distance h := h.moveTo (by rw [(abreast_iff.1 h).1, h.displacement])
  turnLeft t t' degrees h := by
    obtain ⟨hposition, hyaw, hpitch⟩ := abreast_iff.1 h
    exact abreast_iff.2 ⟨hposition, congrArg (fun yaw => wrapHeading (yaw - degrees)) hyaw, hpitch⟩
  turnRight t t' degrees h := by
    obtain ⟨hposition, hyaw, hpitch⟩ := abreast_iff.1 h
    exact abreast_iff.2 ⟨hposition, congrArg (fun yaw => wrapHeading (yaw + degrees)) hyaw, hpitch⟩
  liftPen _ _ h := h
  lowerPen _ _ h := h
  pose _ _ h := h
  setPose _ _ _ _ _ hpose := hpose

theorem apply (h : t.Abreast t') (c : Command α) :
    (t.apply c).1 = (t'.apply c).1 ∧ (t.apply c).2.Abreast (t'.apply c).2 := by
  obtain ⟨hposition, hyaw, hpitch⟩ := abreast_iff.1 h
  cases c with
  | forward distance => exact inStep.forward t t' distance h
  | backward distance => exact inStep.backward t t' distance h
  | right degrees => exact ⟨rfl, inStep.turnRight t t' degrees h⟩
  | left degrees => exact ⟨rfl, inStep.turnLeft t t' degrees h⟩
  | up degrees =>
    exact ⟨rfl, abreast_iff.2
      ⟨hposition, hyaw, congrArg (fun pitch => wrapPitch (pitch + degrees)) hpitch⟩⟩
  | down degrees =>
    exact ⟨rfl, abreast_iff.2
      ⟨hposition, hyaw, congrArg (fun pitch => wrapPitch (pitch - degrees)) hpitch⟩⟩
  | penUp | penDown => exact ⟨rfl, h⟩
  | setColor color =>
    simp only [SpaceTurtle.apply, SpaceTurtle.setColor]
    split
    · exact ⟨rfl, h⟩
    · exact ⟨rfl, h⟩
  | setWidth width =>
    simp only [SpaceTurtle.apply, SpaceTurtle.setWidth]
    split
    · exact ⟨rfl, h⟩
    · exact ⟨rfl, h⟩
  | koch level length => exact ⟨rfl, inStep.walk h _⟩
  | sierpinski level side => exact ⟨rfl, inStep.walk h _⟩
  | clearScreen => exact ⟨rfl, rfl⟩

end Abreast

end SpaceTurtle

namespace Scene

variable [Scalar α] [Surface σ α] [Surface τ α]

theorem outcome_apply (s : Scene σ α) (c : Command α) :
    (session.apply s c).1 = (s.turtle.apply c).1 := by
  cases c with
  | clearScreen => rfl
  | _ => rfl

/-- **Scenes whose turtles are in one pose** cannot be told apart by outcomes, whatever
    is seen of them. -/
theorem simulates_of_pose :
    (session : Session (Scene σ α) α).Simulates (session : Session (Scene τ α) α)
      fun s s' => s.turtle.Abreast s'.turtle := by
  refine .of_step ?_
  intro s s' c h
  rw [outcome_apply, outcome_apply, apply_turtle, apply_turtle]
  exact h.apply c

end Scene

/-! ## Runs -/

variable [Scalar α]

/-- **Pen and style never steer a turtle.**  Two turtles of the plane at one place, on
    recordings of one size, have equal reports on every program and end at one place,
    whatever their pens and strokes are and whatever has been drawn; and if their pens are
    alike, then they add lines between the same points, one by one.  Two scenes whose
    turtles are in one pose have equal reports, too, and their turtles end in one pose,
    whatever else there is in the scenes. -/
theorem pen_and_style_never_steer (limits : Limits) (program : String) :
    (∀ {σ τ : Type} [Surface σ α] [Surface τ α] [Recording σ] [Recording τ]
        {t : PlaneTurtle σ α} {t' : PlaneTurtle τ α}, t.Abreast t' →
      let done := limits.run PlaneTurtle.session program t
      let done' := limits.run PlaneTurtle.session program t'
      done.1 = done'.1 ∧ done.2.Abreast done'.2 ∧
        (t.penDown = t'.penDown → done.2.penDown = done'.2.penDown ∧
          ∃ drawn drawn' : List (Line α),
            (Recording.lines done.2.surface).toList =
                (Recording.lines t.surface).toList ++ drawn ∧
              (Recording.lines done'.2.surface).toList =
                (Recording.lines t'.surface).toList ++ drawn' ∧
              drawn.map Line.ends = drawn'.map Line.ends)) ∧
    ∀ {σ τ : Type} [Surface σ α] [Surface τ α] {s : Scene σ α} {s' : Scene τ α},
      s.turtle.Abreast s'.turtle →
        let done := limits.run Scene.session program s
        let done' := limits.run Scene.session program s'
        done.1 = done'.1 ∧ done.2.turtle.Abreast done'.2.turtle := by
  constructor
  · intro σ τ _ _ _ _ t t' habreast done done'
    obtain ⟨hreports, hbehind⟩ := PlaneTurtle.Abreast.coupling.run habreast limits program
    refine ⟨hreports, hbehind, ?_⟩
    intro hpen
    have hmatched : t.Matched (fun _ _ => True) t' := ⟨habreast, trivial⟩
    obtain ⟨-, htraced⟩ := (PlaneTurtle.Tracing.coupling Stroke.Stable.any _ _).run
      (hmatched.traced hpen rfl rfl) limits program
    obtain ⟨drawn, drawn', hlines, hlines', hmatch⟩ := htraced.lines
    exact ⟨htraced.penDown, drawn, drawn', hlines, hlines', Line.map_ends_eq hmatch⟩
  · intro σ τ _ _ s s' habreast
    -- the redraw at the end of the batch leaves the turtles alone
    exact Scene.simulates_of_pose.run (fun _ _ h => h) limits program habreast

/-- A program with doubles that lifts the pen, leaves the board and asks for colors and
    widths that are no good.  It is run by a turtle on a buffer that has a line already
    and by one on a blank document, and in two scenes of which one is seen from elsewhere
    and has a turtle with its pen up. -/
theorem double_turtles_never_steered :
    let program := "koch 1 90; sc <; ss 9; repeat 2; pu; fd 999; sierp 2 40; end; lt 7; bk 5; cs"
    let buffer : LineBuffer Float := ⟨⟨500, 400⟩, #[⟨⟨0, 0⟩, ⟨1, 1⟩, ⟨"red", 5⟩⟩]⟩
    let document : SvgDocument Float := .empty ⟨500, 400⟩
    let t := PlaneTurtle.start buffer 250 .initial
    let t' := PlaneTurtle.start document 250 ⟨"black", 2⟩
    let done := Limits.standard.run PlaneTurtle.session program t
    let done' := Limits.standard.run PlaneTurtle.session program t'
    let s : Scene (LineBuffer Float) Float := .start buffer Scene.standardFocalDistance
    let s' : Scene (SvgDocument Float) Float :=
      { Scene.start document 20 with turtle := { s.turtle with penDown := false, color := "red" } }
    let seen := Limits.standard.run Scene.session program s
    let seen' := Limits.standard.run Scene.session program s'
    (t.Abreast t' ∧ t.penDown = t'.penDown ∧ s.turtle.Abreast s'.turtle) ∧
      (done.1 = done'.1 ∧ done.2.Abreast done'.2 ∧ done.2.penDown = done'.2.penDown ∧
        ∃ drawn drawn' : List (Line Float),
          (Recording.lines done.2.surface).toList = buffer.lines.toList ++ drawn ∧
            (Recording.lines done'.2.surface).toList = document.lines.toList ++ drawn' ∧
              drawn.map Line.ends = drawn'.map Line.ends) ∧
        seen.1 = seen'.1 ∧ seen.2.turtle.Abreast seen'.2.turtle := by
  intro program buffer document t t' done done' s s' seen seen'
  have habreast : t.Abreast t' := ⟨rfl, rfl, rfl, rfl⟩
  have hpose : s.turtle.Abreast s'.turtle := rfl
  obtain ⟨hreports, hplace, hlines⟩ :=
    (pen_and_style_never_steer Limits.standard program).1 habreast
  exact ⟨⟨habreast, rfl, hpose⟩, ⟨hreports, hplace, hlines rfl⟩,
    (pen_and_style_never_steer Limits.standard program).2 hpose⟩

end TurtleGraphics
