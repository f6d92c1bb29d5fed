/-
  Levels: what one level more adds to a triangle.

  A Sierpinski triangle of the plane strokes its own lines and walks in its three corners.
  From each corner it goes back to a saved pose, so that it does not matter for its own lines
  what was walked there, how much of it was dropped at the border, and where it ended.

  * `PlaneTurtle.sketches`, `SpaceTurtle.sketches`: turtles draw without looking at their
    drawing;
  * `Sierpinski.around` is a triangle with any walks in its corners, and
    `Sierpinski.outline_succ`: each level has the level below in its corners;
  * `Sierpinski.around_spec`: the own lines of a triangle, and where it leaves the turtle, do
    not depend on its corners;
  * `Sierpinski.outline_sublist`: a higher level only adds lines;
  * `raised_triangles_add_strokes`: so it is with the triangles of both turtles.

  Nothing is known of numbers here.
-/
import TurtleGraphics.Proofs.Session.Growth
import TurtleGraphics.Proofs.Turtle.Excursions

namespace TurtleGraphics

variable {σ α : Type}

/-! ## The plane -/

namespace PlaneTurtle

/-- What a turtle of the plane keeps on every walk: its stroke, the length of a board unit, and
    the size of its board. -/
def style [Surface σ α] (t : PlaneTurtle σ α) : Stroke α × α × Vec2 α :=
  (t.stroke, t.unit, Surface.size t.surface)

variable [Scalar α] [Surface σ α] [Recording σ]

theorem alike_iff_tracing {before before' : List (Line α)} {t t' : PlaneTurtle σ α} :
    Turtle.Alike penDown style drawn before before' t t' ↔
      t.Tracing (· = ·) before before' t' := by
  constructor
  · rintro ⟨⟨hpose, hpen, hstyle⟩, lines, hlines, hlines'⟩
    obtain ⟨hposition, hheading⟩ := PlanePose.mk.inj hpose
    obtain ⟨hstroke, hrest⟩ := Prod.mk.inj hstyle
    obtain ⟨hunit, hsize⟩ := Prod.mk.inj hrest
    have hmatch : List.Forall₂ (Line.Matches (· = ·)) lines lines :=
      List.forall₂_same.2 fun _ _ => ⟨rfl, rfl⟩
    exact ⟨⟨⟨hposition, hheading, hunit, hsize⟩, hstroke⟩, hpen, lines, lines, hlines, hlines',
      hmatch⟩
  · rintro ⟨⟨habreast, hstroke⟩, hpen, lines, lines', hlines, hlines', hmatch⟩
    obtain rfl := Line.eq_of_matches hmatch
    refine ⟨⟨?_, hpen, ?_⟩, lines, hlines, hlines'⟩
    · exact congrArg₂ PlanePose.mk habreast.position habreast.heading
    · exact Prod.ext hstroke (Prod.ext habreast.unit habreast.size)

theorem style_moveTo (t : PlaneTurtle σ α) (destination : Vec2 α) :
    (t.moveTo destination).2.style = t.style := by
  rw [moveTo_eq]
  split
  · exact congrArg (fun size => (t.stroke, t.unit, size)) (size_movedTo t destination)
  · rfl

/-- **Turtles of the plane** sketch. -/
theorem sketches : Turtle.Sketches (penDown : PlaneTurtle σ α → Bool) style drawn where
  draws := draws
  keeps s :=
    { forward := fun t _ h => (t.style_moveTo _).trans h
      backward := fun t _ h => (t.style_moveTo _).trans h
      turnLeft := fun _ _ h => h
      turnRight := fun _ _ h => h
      liftPen := fun _ h => h
      lowerPen := fun _ h => h
      pose := fun _ _ => trivial
      setPose := fun _ _ h _ => h }
  pose_setPose _ _ := rfl
  inStep before before' := by
    have hsame : (Turtle.Alike penDown style drawn before before' :
        PlaneTurtle σ α → PlaneTurtle σ α → Prop) = Tracing (· = ·) before before' := by
      funext t t'
      exact propext alike_iff_tracing
    rw [hsame]
    exact (Tracing.coupling .eq before before').inStep

end PlaneTurtle

/-! ## Space -/

namespace SpaceTurtle

/-- What a turtle of space keeps on every walk. -/
def style (t : SpaceTurtle α) : String × α := (t.color, t.thickness)

variable [Scalar α]

/-- **A move** is made by both turtles, or by neither, and adds one shape to both traces, or
    none. -/
theorem alike_moveTo {before before' : List (Shape α)} {t t' : SpaceTurtle α}
    (h : Turtle.Alike penDown style drawn before before' t t') {destination destination' : Vec3 α}
    (hdestination : destination = destination') :
    (t.moveTo destination).1 = (t'.moveTo destination').1 ∧
      Turtle.Alike penDown style drawn before before' (t.moveTo destination).2
        (t'.moveTo destination').2 := by
  subst hdestination
  obtain ⟨⟨hpose, hpen, hstyle⟩, shapes, hshapes, hshapes'⟩ := h
  obtain ⟨hposition, hyaw, hpitch⟩ := abreast_iff.1 hpose
  rw [moveTo_eq, moveTo_eq]
  by_cases hboard : OnBoard destination
  · rw [if_pos hboard, if_pos hboard]
    refine ⟨rfl, ⟨abreast_iff.2 ⟨rfl, hyaw, hpitch⟩, hpen, hstyle⟩, ?_⟩
    have hcolor : t.color = t'.color := congrArg Prod.fst hstyle
    rw [drawn] at hshapes hshapes' ⊢
    rw [drawn, ← hpen, ← hposition, ← hcolor]
    cases t.penDown with
    | false => exact ⟨shapes, hshapes, hshapes'⟩
    | true =>
      refine ⟨shapes ++ [.line t.position destination t.color], ?_, ?_⟩
      · rw [← List.append_assoc, ← hshapes]
        exact Array.toList_push
      · rw [← List.append_assoc, ← hshapes']
        exact Array.toList_push
  · rw [if_neg hboard, if_neg hboard]
    exact ⟨rfl, ⟨hpose, hpen, hstyle⟩, shapes, hshapes, hshapes'⟩

theorem style_moveTo (t : SpaceTurtle α) (destination : Vec3 α) :
    (t.moveTo destination).2.style = t.style := by
  rw [moveTo_eq]
  split <;> rfl

/-- **Turtles of space** sketch. -/
theorem sketches : Turtle.Sketches (penDown : SpaceTurtle α → Bool) style drawn where
  draws := draws
  keeps s :=
    { forward := fun t _ h => (t.style_moveTo _).trans h
      backward := fun t _ h => (t.style_moveTo _).trans h
      turnLeft := fun _ _ h => h
      turnRight := fun _ _ h => h
      liftPen := fun _ h => h
      lowerPen := fun _ h => h
      pose := fun _ _ => trivial
      setPose := fun _ _ h _ => h }
  pose_setPose _ _ := rfl
  inStep before before' :=
    { forward := fun t t' distance h => alike_moveTo h (by
        rw [(abreast_iff.1 h.pose).1, Abreast.displacement h.pose])
      backward := fun t t' distance h => alike_moveTo h (by
        rw [(abreast_iff.1 h.pose).1, Abreast.displacement h.pose])
      turnLeft := fun t t' degrees h =>
        ⟨⟨Abreast.inStep.turnLeft t t' degrees h.pose, h.pen, h.style⟩, h.trace⟩
      turnRight := fun t t' degrees h =>
        ⟨⟨Abreast.inStep.turnRight t t' degrees h.pose, h.pen, h.style⟩, h.trace⟩
      liftPen := fun _ _ h => ⟨⟨h.pose, rfl, h.style⟩, h.trace⟩
      lowerPen := fun _ _ h => ⟨⟨h.pose, rfl, h.style⟩, h.trace⟩
      pose := fun _ _ h => h.pose
      setPose := fun _ _ _ _ h hpose => ⟨⟨hpose, h.pen, h.style⟩, h.trace⟩ }

end SpaceTurtle

/-! ## Triangles -/

namespace Sierpinski

/-- A walk that a corner may have: it goes back to all poses that it saves, and leaves the pen
    down. -/
structure Corner (moves : List (Move α)) : Prop where
  balanced : Walk.Balanced moves
  penBehind : Walk.penBehind true moves = true

namespace Corner

variable {moves : List (Move α)}

theorem turnRight (h : Corner moves) (degrees : α) : Corner (.right degrees :: moves) :=
  ⟨.cons trivial h.balanced, h.penBehind⟩

theorem turnLeft (h : Corner moves) (degrees : α) : Corner (.left degrees :: moves) :=
  ⟨.cons trivial h.balanced, h.penBehind⟩

end Corner

variable [Scalar α]

/-- The three sides of a triangle, from its apex and back. -/
def sides (side : α) : List (Move α) :=
  [.left (150 : Nat), .forward side, .left (120 : Nat), .forward side, .left (120 : Nat),
    .forward side, .left (150 : Nat)]

/-- From the apex over the base to the middle of the right side. -/
def toRight (side height : α) : List (Move α) :=
  [.liftPen, .forward height, .lowerPen, .left (150 : Nat), .forward (side / (2 : Nat))]

/-- From the middle of the right side to that of the left one, and from there to that of the
    base. -/
def onward (side : α) : List (Move α) := [.left (120 : Nat), .forward (side / (2 : Nat))]

/-- A triangle with any walks in its corners.  In front of each the turtle turns to where it
    headed at the apex. -/
def around (side height : α) (upper right left : List (Move α)) : List (Move α) :=
  sides side ++ (Walk.excursion (.right ((180 : Nat) : α) :: upper) ++
    (toRight side height ++ (Walk.excursion (.right ((330 : Nat) : α) :: right) ++
      (onward side ++ (Walk.excursion (.left ((270 : Nat) : α) :: left) ++ onward side)))))

theorem outline_succ (level : Nat) (side height : α) :
    outline (level + 1) side height =
      let corner := outline level (side / (2 : Nat)) (height / (2 : Nat))
      around side height corner corner corner := by
  simp [outline, around, sides, toRight, onward, Walk.excursion]

theorem balanced_sides (side : α) : Walk.Balanced (sides side) :=
  .of_free (by simp [sides, Move.Free])

theorem balanced_toRight (side height : α) : Walk.Balanced (toRight side height) :=
  .of_free (by simp [toRight, Move.Free])

theorem balanced_onward (side : α) : Walk.Balanced (onward side) :=
  .of_free (by simp [onward, Move.Free])

theorem corner_outline (level : Nat) (side height : α) : Corner (outline level side height) := by
  induction level generalizing side height with
  | zero => exact ⟨.nil, rfl⟩
  | succ level ih =>
    have hcorner := ih (side / (2 : Nat)) (height / (2 : Nat))
    refine ⟨?_, penBehind_outline (level + 1) side height⟩
    rw [outline_succ]
    refine (balanced_sides side).append (.append (hcorner.turnRight _).balanced.of_excursion ?_)
    refine (balanced_toRight side height).append
      (.append (hcorner.turnRight _).balanced.of_excursion ?_)
    exact (balanced_onward side).append
      (.append (hcorner.turnLeft _).balanced.of_excursion (balanced_onward side))

variable {τ ρ β ν : Type} [Turtle τ α ρ]

/-- The turtle back at the apex, when the sides are stroked. -/
def atApex (t : τ) (side : α) : τ := Turtle.walk t (sides side)

/-- The turtle in the middle of the right side, if nothing is walked in the corner above. -/
def atRight (t : τ) (side height : α) : τ := Turtle.walk (atApex t side) (toRight side height)

/-- The turtle in the middle of the left side, if nothing is walked in the corners before. -/
def atLeft (t : τ) (side height : α) : τ := Turtle.walk (atRight t side height) (onward side)

variable {pen : τ → Bool} {style : τ → ν} {trace : τ → List β} {t : τ}
  {upper right left : List (Move α)}

theorem pen_atApex (h : Turtle.Sketches pen style trace) (hpen : pen t = true) (side : α) :
    pen (atApex t side) = true := by
  rw [atApex, h.draws.pen_walk, hpen]
  rfl

theorem pen_atRight (h : Turtle.Sketches pen style trace) (t : τ) (side height : α) :
    pen (atRight t side height) = true := by
  rw [atRight, h.draws.pen_walk]
  rfl

theorem pen_atLeft (h : Turtle.Sketches pen style trace) (t : τ) (side height : α) :
    pen (atLeft t side height) = true := by
  rw [atLeft, h.draws.pen_walk, pen_atRight h]
  rfl

/-- **The own lines of a triangle**, and where it leaves the turtle, are those of a triangle
    with nothing in its corners. -/
theorem around_spec (h : Turtle.Sketches pen style trace) (hpen : pen t = true)
    (hupper : Corner upper) (hright : Corner right) (hleft : Corner left) (side height : α) :
    Turtle.Same pen style (Turtle.walk t (around side height upper right left))
        (Turtle.walk (atLeft t side height) (onward side)) ∧
      Turtle.drawnBy trace t (around side height upper right left) =
        Turtle.drawnBy trace t (sides side) ++
          (Turtle.drawnBy trace (Turtle.turnRight (atApex t side) ((180 : Nat) : α)) upper ++
            (Turtle.drawnBy trace (atApex t side) (toRight side height) ++
              (Turtle.drawnBy trace (Turtle.turnRight (atRight t side height) ((330 : Nat) : α)) right ++
                (Turtle.drawnBy trace (atRight t side height) (onward side) ++
                  (Turtle.drawnBy trace (Turtle.turnLeft (atLeft t side height) ((270 : Nat) : α)) left ++
                    Turtle.drawnBy trace (atLeft t side height) (onward side)))))) := by
  have hupper' := hupper.turnRight ((180 : Nat) : α)
  have hright' := hright.turnRight ((330 : Nat) : α)
  have hleft' := hleft.turnLeft ((270 : Nat) : α)
  -- one corner after the other, each with all that comes behind it
  obtain ⟨hsame, hdrawn⟩ := h.detour (balanced_sides side) hupper'.balanced
    ((pen_atApex h hpen side).symm ▸ hupper'.penBehind) (t := t) _
  obtain ⟨hsame', hdrawn'⟩ := h.detour (balanced_toRight side height) hright'.balanced
    ((pen_atRight h t side height).symm ▸ hright'.penBehind) (t := atApex t side) _
  obtain ⟨hsame'', hdrawn''⟩ := h.detour (balanced_onward side) hleft'.balanced
    ((pen_atLeft h t side height).symm ▸ hleft'.penBehind) (t := atRight t side height)
    (onward side)
  refine ⟨(hsame.trans hsame').trans hsame'', ?_⟩
  rw [← h.drawnBy_right, ← h.drawnBy_right, ← h.drawnBy_left]
  exact hdrawn.trans (congrArg _ (congrArg _ (hdrawn'.trans (congrArg _ (congrArg _ hdrawn'')))))

/-- **A higher level only adds lines**: all lines of a triangle are among those of the same
    triangle of a higher level, in the same order. -/
theorem outline_sublist (h : Turtle.Sketches pen style trace) {m n : Nat} (hmn : m ≤ n)
    (hpen : pen t = true) (side height : α) :
    (Turtle.drawnBy trace t (outline m side height)).Sublist
      (Turtle.drawnBy trace t (outline n side height)) := by
  induction m generalizing n t side height with
  | zero =>
    have hnone : Turtle.drawnBy trace t ([] : List (Move α)) = [] := List.drop_length
    rw [outline, hnone]
    exact List.nil_sublist _
  | succ m ih =>
    obtain ⟨n, rfl⟩ := Nat.exists_eq_add_one.2 (Nat.zero_lt_of_lt hmn)
    have hlevel : m ≤ n := Nat.le_of_succ_le_succ hmn
    have hhalf := corner_outline m (side / (2 : Nat)) (height / (2 : Nat))
    have hhalf' := corner_outline n (side / (2 : Nat)) (height / (2 : Nat))
    rw [outline_succ, outline_succ, (around_spec h hpen hhalf hhalf hhalf side height).2,
      (around_spec h hpen hhalf' hhalf' hhalf' side height).2]
    have hupper := ih hlevel ((h.draws.turnRight _ ((180 : Nat) : α)).1.trans (pen_atApex h hpen side))
      (side / (2 : Nat)) (height / (2 : Nat))
    have hright := ih hlevel
      ((h.draws.turnRight _ ((330 : Nat) : α)).1.trans (pen_atRight h t side height))
      (side / (2 : Nat)) (height / (2 : Nat))
    have hleft := ih hlevel ((h.draws.turnLeft _ ((270 : Nat) : α)).1.trans (pen_atLeft h t side height))
      (side / (2 : Nat)) (height / (2 : Nat))
    exact (List.Sublist.refl _).append (hupper.append ((List.Sublist.refl _).append
      (hright.append ((List.Sublist.refl _).append (hleft.append (List.Sublist.refl _))))))

/-- Behind a triangle that has any lines, the turtle is the same whatever the level. -/
theorem outline_same (h : Turtle.Sketches pen style trace) {m n : Nat} (hm : 1 ≤ m) (hmn : m ≤ n)
    (hpen : pen t = true) (side height : α) :
    Turtle.Same pen style (Turtle.walk t (outline m side height))
      (Turtle.walk t (outline n side height)) := by
  obtain ⟨m, rfl⟩ := Nat.exists_eq_add_one.2 hm
  obtain ⟨n, rfl⟩ := Nat.exists_eq_add_one.2 (Nat.lt_of_lt_of_le hm hmn)
  have hhalf := corner_outline m (side / (2 : Nat)) (height / (2 : Nat))
  have hhalf' := corner_outline n (side / (2 : Nat)) (height / (2 : Nat))
  rw [outline_succ, outline_succ]
  exact (around_spec h hpen hhalf hhalf hhalf side height).1.trans
    (around_spec h hpen hhalf' hhalf' hhalf' side height).1.symm

/-- What it comes to if a turtle walks a triangle of level `n` instead of one of level `m`: in
    the end it is in the same pose, with the same pen and the same style, which is still its
    own, and the lines it has added are among those of the higher level, in order. -/
structure Raised (pen : τ → Bool) (style : τ → ν) (trace : τ → List β) (t : τ) (side : α)
    (m n : Nat) : Prop where
  same : Turtle.Same pen style (Turtle.walk t (planeTriangle m side))
    (Turtle.walk t (planeTriangle n side))
  style : style (Turtle.walk t (planeTriangle n side)) = style t
  trace : ∃ drawn drawn',
    trace (Turtle.walk t (planeTriangle m side)) = trace t ++ drawn ∧
      trace (Turtle.walk t (planeTriangle n side)) = trace t ++ drawn' ∧ drawn.Sublist drawn'

theorem raised (h : Turtle.Sketches pen style trace) (t : τ) (side : α) {m n : Nat} (hm : 1 ≤ m)
    (hmn : m ≤ n) : Raised pen style trace t side m n := by
  have happroach : Walk.Balanced
      [.liftPen, .forward ((300 : Nat) : α), .lowerPen] := .of_free (by simp [Move.Free])
  have hpen : pen (Turtle.walk t [.liftPen, .forward ((300 : Nat) : α), .lowerPen]) = true := by
    rw [h.draws.pen_walk]
    rfl
  refine ⟨?_, h.style_walk t _, _, _, h.trace_walk t _, h.trace_walk t _, ?_⟩
  · rw [planeTriangle, planeTriangle, happroach.walk_append, happroach.walk_append]
    exact outline_same h hm hmn hpen side _
  · rw [planeTriangle, planeTriangle, h.drawnBy_append happroach, h.drawnBy_append happroach]
    exact (List.Sublist.refl _).append (outline_sublist h hmn hpen side _)

/-- The lines of a triangle, whatever is walked in its corners: four rows of its own, and in
    between what the walks in the corners draw, each from a start of its own.  Rows and starts
    are there before the walks are chosen. -/
def HasOwnLines (trace : τ → List β) (t : τ) (side height : α) : Prop :=
  ∃ (first second third last : List β) (atUpper atRight atLeft : τ),
    ∀ upper right left, Corner upper → Corner right → Corner left →
      Turtle.drawnBy trace t (around side height upper right left) =
        first ++ (Turtle.drawnBy trace atUpper upper ++ (second ++
          (Turtle.drawnBy trace atRight right ++ (third ++
            (Turtle.drawnBy trace atLeft left ++ last)))))

theorem hasOwnLines (h : Turtle.Sketches pen style trace) (hpen : pen t = true)
    (side height : α) : HasOwnLines trace t side height :=
  ⟨_, _, _, _, _, _, _, fun _ _ _ hupper hright hleft =>
    (around_spec h hpen hupper hright hleft side height).2⟩

end Sierpinski

variable [Scalar α]

/-- **Raising the level of a triangle only adds strokes**, for the turtles of the plane and of
    space, and whatever moves are dropped at the border.  From level 1 on, a triangle of the
    plane leaves a turtle in the same pose, with the same pen and style, and the lines of a
    lower level are among those of a higher one, in order.  A triangle of any level has
    the triangles of the level below in its corners, and its own lines do not depend on what is
    walked there: be it any walk that goes back to the poses it saves and leaves the pen
    down. -/
theorem raised_triangles_add_strokes (side : α) :
    (∀ {m n : Nat}, 1 ≤ m → m ≤ n →
      (∀ {σ : Type} [Surface σ α] [Recording σ] (t : PlaneTurtle σ α),
        Sierpinski.Raised PlaneTurtle.penDown PlaneTurtle.style PlaneTurtle.drawn t side m n) ∧
      ∀ t : SpaceTurtle α,
        Sierpinski.Raised SpaceTurtle.penDown SpaceTurtle.style SpaceTurtle.drawn t side m n) ∧
    ∀ height : α,
      (∀ level, let corner := Sierpinski.outline level (side / (2 : Nat)) (height / (2 : Nat))
        Sierpinski.Corner corner ∧
          Sierpinski.outline (level + 1) side height =
            Sierpinski.around side height corner corner corner) ∧
      (∀ {σ : Type} [Surface σ α] [Recording σ] {t : PlaneTurtle σ α}, t.penDown = true →
        Sierpinski.HasOwnLines PlaneTurtle.drawn t side height) ∧
      ∀ {t : SpaceTurtle α}, t.penDown = true →
        Sierpinski.HasOwnLines SpaceTurtle.drawn t side height := by
  refine ⟨?_, ?_⟩
  · intro m n hm hmn
    exact ⟨fun t => Sierpinski.raised PlaneTurtle.sketches t side hm hmn,
      fun t => Sierpinski.raised SpaceTurtle.sketches t side hm hmn⟩
  · intro height
    exact ⟨fun level =>
        ⟨Sierpinski.corner_outline _ _ _, Sierpinski.outline_succ level side height⟩,
      fun hpen => Sierpinski.hasOwnLines PlaneTurtle.sketches hpen side height,
      fun hpen => Sierpinski.hasOwnLines SpaceTurtle.sketches hpen side height⟩

/-- Turtles at their start, with floating point numbers; some moves of these triangles are dropped
    at the border. -/
theorem triangles_at_start_add_strokes :
    let t : PlaneTurtle (LineBuffer Float) Float := .start (.empty ⟨500, 400⟩) 250 .initial
    let s : SpaceTurtle Float := .initial
    (1 ≤ 1 ∧ 1 ≤ 3 ∧ t.penDown = true ∧ s.penDown = true) ∧
      Sierpinski.Raised PlaneTurtle.penDown PlaneTurtle.style PlaneTurtle.drawn t 200 1 3 ∧
      Sierpinski.Raised SpaceTurtle.penDown SpaceTurtle.style SpaceTurtle.drawn s 200 1 3 ∧
      Sierpinski.HasOwnLines PlaneTurtle.drawn t 200 173 ∧
      Sierpinski.HasOwnLines SpaceTurtle.drawn s 200 173 := by
  intro t s
  obtain ⟨hplane, hspace⟩ :=
    (raised_triangles_add_strokes (200 : Float)).1 (m := 1) (n := 3) (by decide) (by decide)
  obtain ⟨-, hlines, hshapes⟩ := (raised_triangles_add_strokes (200 : Float)).2 173
  exact ⟨⟨by decide, by decide, rfl, rfl⟩, hplane t, hspace s, hlines rfl, hshapes rfl⟩

end TurtleGraphics
