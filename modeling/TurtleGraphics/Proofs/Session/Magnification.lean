/-
  Magnification: drawings of the plane on larger and smaller surfaces.

  A board has a certain number of units across, whatever the size of its surface.  On a
  surface that is some times as large, in width and in height, everything is that many
  times as far away and as long, but for the strokes, and nothing else is different.

  * `Vec2.strictlyInside_scale`: a magnified point is inside a magnified surface if and
    only if the point is inside the surface;
  * `PlaneTurtle.Magnified`: a turtle on a magnified surface that is where another one is,
    and has drawn what that has;
  * `PlaneTurtle.Magnified.inStep`, `PlaneTurtle.Magnified.simulates`: all moves keep it,
    and so do all commands;
  * `Settings.magnified` are settings with a magnified surface;
  * `plane_drawing_magnified`: their drawings are magnified.

  The numbers are real here.
-/
import TurtleGraphics.Drawing
import TurtleGraphics.Proofs.Geometry.Reals
import TurtleGraphics.Proofs.Session.Steering

namespace TurtleGraphics

variable {σ τ α : Type}

/-! ## Points and lines -/

namespace Vec2

variable (p q : Vec2 ℝ) (k : ℝ)

theorem scale_add : (p + q).scale k = p.scale k + q.scale k := by
  ext <;> simp only [scale, add_x, add_y] <;> ring

theorem scale_sub : (p - q).scale k = p.scale k - q.scale k := by
  ext <;> simp only [scale, sub_x, sub_y] <;> ring

theorem scale_scale (factor : ℝ) : (p.scale factor).scale k = p.scale (factor * k) := by
  ext <;> simp only [scale] <;> ring

theorem half_scale : (p.scale k).half = p.half.scale k := by
  ext <;> simp only [scale, half] <;> ring

theorem strictlyInside_scale {k : ℝ} (hk : 0 < k) {p size : Vec2 ℝ} :
    (p.scale k).StrictlyInside (size.scale k) ↔ p.StrictlyInside size := by
  simp [StrictlyInside, scale, hk]

end Vec2

/-- A line with both ends magnified.  Its stroke stays as it is. -/
def Line.magnified [Scalar α] (k : α) (line : Line α) : Line α :=
  { line with start := line.start.scale k, stop := line.stop.scale k }

/-! ## Turtles -/

namespace PlaneTurtle

variable [Surface σ ℝ] [Surface τ ℝ] [Recording σ] [Recording τ]

/-- A turtle on a surface that is `k` times as large as that of another one.  It is at the
    magnified point, on a board of the same units, and its lines are the magnified lines. -/
structure Magnified (k : ℝ) (t : PlaneTurtle σ ℝ) (t' : PlaneTurtle τ ℝ) : Prop where
  size : Surface.size t'.surface = (Surface.size t.surface).scale k
  position : t'.position = t.position.scale k
  heading : t'.heading = t.heading
  unit : t'.unit = t.unit * k
  penDown : t'.penDown = t.penDown
  stroke : t'.stroke = t.stroke
  lines : (Recording.lines t'.surface).toList =
    (Recording.lines t.surface).toList.map (Line.magnified k)

namespace Magnified

variable {k : ℝ} {t : PlaneTurtle σ ℝ} {t' : PlaneTurtle τ ℝ}

theorem start {surface : σ} {surface' : τ} (extent : ℝ) (stroke : Stroke ℝ)
    (hsize : Surface.size surface' = (Surface.size surface).scale k)
    (hlines : Recording.lines surface = #[]) (hlines' : Recording.lines surface' = #[]) :
    Magnified k (.start surface extent stroke) (.start surface' extent stroke) where
  size := hsize
  position := by
    change (Surface.size surface').half = (Surface.size surface).half.scale k
    rw [hsize, Vec2.half_scale]
  heading := rfl
  unit := by
    change (Surface.size surface').x / extent = (Surface.size surface).x / extent * k
    rw [hsize, Vec2.scale, div_mul_eq_mul_div]
  penDown := rfl
  stroke := rfl
  lines := by simp [PlaneTurtle.start, hlines, hlines']

theorem displacement (h : Magnified k t t') (distance : ℝ) :
    t'.displacement distance = (t.displacement distance).scale k := by
  simp only [PlaneTurtle.displacement, h.heading, h.unit, Vec2.scale_scale, mul_assoc]

theorem movedTo (h : Magnified k t t') (destination : Vec2 ℝ) :
    Magnified k (t.movedTo destination) (t'.movedTo (destination.scale k)) where
  size := by rw [size_movedTo, size_movedTo, h.size]
  position := rfl
  heading := h.heading
  unit := h.unit
  penDown := h.penDown
  stroke := h.stroke
  lines := by
    rw [lines_movedTo, lines_movedTo, List.map_append, h.lines, h.penDown, h.stroke, h.position]
    cases t.penDown <;> rfl

theorem moveTo (h : Magnified k t t') (hk : 0 < k) {destination destination' : Vec2 ℝ}
    (hdestination : destination' = destination.scale k) :
    (t.moveTo destination).1 = (t'.moveTo destination').1 ∧
      Magnified k (t.moveTo destination).2 (t'.moveTo destination').2 := by
  subst hdestination
  simp only [moveTo_eq, h.size, Vec2.strictlyInside_scale hk]
  by_cases hinside : destination.StrictlyInside (Surface.size t.surface)
  · rw [if_pos hinside, if_pos hinside]
    exact ⟨rfl, h.movedTo destination⟩
  · rw [if_neg hinside, if_neg hinside]
    exact ⟨rfl, h⟩

/-- **The primitive operations** keep the turtles at points that correspond.  The saved
    poses correspond, too. -/
theorem inStep (hk : 0 < k) :
    Turtle.InStep (Magnified k : PlaneTurtle σ ℝ → PlaneTurtle τ ℝ → Prop)
      fun pose pose' => pose'.position = pose.position.scale k ∧ pose'.heading = pose.heading where
  forward t t' distance h :=
    h.moveTo hk (by rw [h.position, h.displacement, Vec2.scale_add])
  backward t t' distance h :=
    h.moveTo hk (by rw [h.position, h.displacement, Vec2.scale_sub])
  turnLeft t t' degrees h :=
    { h with heading := congrArg (fun heading => wrapHeading (heading - degrees)) h.heading }
  turnRight t t' degrees h :=
    { h with heading := congrArg (fun heading => wrapHeading (heading + degrees)) h.heading }
  liftPen _ _ h := { h with penDown := rfl }
  lowerPen _ _ h := { h with penDown := rfl }
  pose _ _ h := ⟨h.position, h.heading⟩
  setPose _ _ _ _ h hpose := { h with position := hpose.1, heading := hpose.2 }

/-- **Commands** have equal outcomes for both turtles, and keep them so. -/
theorem simulates (hk : 0 < k) :
    (session : Session (PlaneTurtle σ ℝ) ℝ).Simulates (session : Session (PlaneTurtle τ ℝ) ℝ)
      (Magnified k) := by
  refine simulates_of_inStep (inStep hk) ?_ ?_
  · intro t t' color h
    unfold PlaneTurtle.setColor
    split
    · exact ⟨rfl, { h with stroke := congrArg (fun s => { s with color }) h.stroke }⟩
    · exact ⟨rfl, h⟩
  · intro t t' width h
    unfold PlaneTurtle.setWidth
    split
    · exact ⟨rfl, { h with stroke := congrArg (fun s => { s with width }) h.stroke }⟩
    · exact ⟨rfl, h⟩

end Magnified

end PlaneTurtle

/-! ## Drawings -/

/-- The headings of a turtle of the plane in a run of a program: at the start, and behind
    every statement that is reported. -/
def PlaneTurtle.headings [Scalar α] [Surface σ α] (t : PlaneTurtle σ α) (limits : Limits)
    (program : String) : List α :=
  let entries := Statement.unrollAll limits 1 (parse limits.repeatDepth program)
  entries.inits.map fun before => (Entry.stateAfter limits session t before).heading

/-- **Programs** have equal reports on both surfaces, the turtles head in the same
    directions all the time, and the lines are magnified. -/
theorem PlaneTurtle.Magnified.run [Surface σ ℝ] [Surface τ ℝ] [Recording σ] [Recording τ] {k : ℝ}
    {t : PlaneTurtle σ ℝ} {t' : PlaneTurtle τ ℝ} (h : t.Magnified k t') (hk : 0 < k)
    (limits : Limits) (program : String) :
    (limits.run session program t').1 = (limits.run session program t).1 ∧
      t'.headings limits program = t.headings limits program ∧
      Recording.lines (limits.run session program t').2.surface =
        (Recording.lines (limits.run session program t).2.surface).map (Line.magnified k) := by
  obtain ⟨hreports, hdone⟩ := (simulates hk).run (fun _ _ h => h) limits program h
  refine ⟨hreports.symm, ?_, ?_⟩
  · refine List.map_congr_left fun before _ => ?_
    exact ((simulates hk).entries limits before h).2.heading
  · rw [← Array.toList_inj, Array.toList_map]
    exact hdone.lines

namespace Settings

/-- Settings with a surface that is `k` times as wide and `k` times as high. -/
def magnified [Scalar α] (s : Settings α) (k : α) : Settings α :=
  { s with surfaceSize := s.surfaceSize.scale k }

/-- The headings of the turtle of a drawing of the plane, with markup or without. -/
def headings [Scalar α] [NumberText α] (s : Settings α) (program : String) : List α :=
  match s.variant with
  | .svg => (PlaneTurtle.start (SvgDocument.empty s.surfaceSize) s.boardExtent
      svgStroke).headings s.limits program
  | _ => (PlaneTurtle.start (LineBuffer.empty s.surfaceSize) s.boardExtent
      .initial).headings s.limits program

theorem problem?_eq_none_iff {s : Settings ℝ} :
    s.problem? = none ↔ 0 < s.surfaceSize.x ∧ 0 < s.surfaceSize.y ∧ 0 < s.boardExtent ∧
      0 < s.cameraDistance := by
  have hlength : ∀ value : ℝ, IsLength value ↔ 0 < value := by
    intro value
    simp [IsLength, Scalar.isFinite]
  have hfind : s.lengths.find? (fun (_, value) => ¬ IsLength value) = none ↔
      0 < s.surfaceSize.x ∧ 0 < s.surfaceSize.y ∧ 0 < s.boardExtent ∧ 0 < s.cameraDistance := by
    simp [lengths, hlength]
  rw [← hfind, problem?]
  cases s.lengths.find? fun (_, value) => ¬ IsLength value with
  | some found => simp
  | none => simp [Scalar.isFinite]

theorem problem?_magnified {s : Settings ℝ} {k : ℝ} (hk : 0 < k) (h : s.problem? = none) :
    (s.magnified k).problem? = none := by
  obtain ⟨hwidth, hheight, hrest⟩ := problem?_eq_none_iff.1 h
  exact problem?_eq_none_iff.2 ⟨mul_pos hwidth hk, mul_pos hheight hk, hrest⟩

end Settings

/-- **Drawings of the plane do not depend on the resolution.**  On a surface that is `k`
    times as wide and as high, with as many board units across, every program has the same
    reports, the turtle heads in the same directions behind every statement, and the lines
    are those of the smaller surface with every coordinate multiplied by `k` and the same
    strokes.  Settings that are accepted are accepted with the larger surface. -/
theorem plane_drawing_magnified [NumberText ℝ] {s : Settings ℝ} {k : ℝ} (hk : 0 < k)
    (hplane : s.variant ≠ .space) (program : String) :
    (s.problem? = none → (s.magnified k).problem? = none) ∧
      ((s.magnified k).draw program).reports = (s.draw program).reports ∧
      (s.magnified k).headings program = s.headings program ∧
      ((s.magnified k).draw program).lines = (s.draw program).lines.map (Line.magnified k) := by
  refine ⟨Settings.problem?_magnified hk, ?_⟩
  have hvariant : (s.magnified k).variant = s.variant := rfl
  unfold Settings.draw Settings.headings
  rw [hvariant]
  cases hname : s.variant with
  | plane =>
    exact (PlaneTurtle.Magnified.start s.boardExtent .initial rfl rfl rfl).run hk s.limits program
  | svg =>
    exact (PlaneTurtle.Magnified.start s.boardExtent Settings.svgStroke rfl rfl rfl).run hk s.limits
      program
  | space => exact absurd hname hplane

/-- A program that draws both fractals, turns beyond the full turn, and leaves the board,
    on a surface that is three times as large. -/
theorem plane_drawing_magnified_threefold :
    let _text : NumberText ℝ := ⟨fun _ => "?"⟩
    let s : Settings ℝ := .standard .svg
    let program := "repeat 3; fd 120; koch 2 90; sierp 1 60; lt 500; end; ss 9; sc Red; bk 7"
    (0 < (3 : ℝ) ∧ s.variant ≠ .space ∧ s.problem? = none) ∧
      (s.magnified 3).problem? = none ∧
      ((s.magnified 3).draw program).reports = (s.draw program).reports ∧
      (s.magnified 3).headings program = s.headings program ∧
      ((s.magnified 3).draw program).lines = (s.draw program).lines.map (Line.magnified 3) := by
  intro _text s program
  have hthree : 0 < (3 : ℝ) := by norm_num
  have hplane : s.variant ≠ .space := by decide
  have haccepted : s.problem? = none := by
    rw [Settings.problem?_eq_none_iff]
    norm_num [s, Settings.standard]
  obtain ⟨hproblem, hdrawing⟩ := plane_drawing_magnified hthree hplane program
  exact ⟨⟨hthree, hplane, haccepted⟩, hproblem haccepted, hdrawing⟩

end TurtleGraphics
