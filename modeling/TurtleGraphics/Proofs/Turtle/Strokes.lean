/-
  Strokes: how much a walk draws.

  A stroke is a move with the pen down.  The strokes of a walk are counted before any
  turtle walks it; a turtle may draw less, if moves are dropped at the border, but never
  more.

  * `Grows`: a trace that has grown by at most so many items;
  * `Walk.strokes` counts the strokes of a walk, and `Walk.penBehind` is where it leaves the
    pen;
  * `Turtle.Unhindered`: a walk of which no move is dropped;
  * `Turtle.Draws` is what the primitive operations of a turtle do to its trace;
    `Turtle.Draws.step` is what one move does, and `Turtle.Draws.walk` what every walk does;
  * `Koch.strokes_curve`, `Sierpinski.strokes_outline`, `Sierpinski.strokes_edges`: the
    strokes of the fractals, level by level.
-/
import Mathlib.Algebra.Group.Nat.Defs
import TurtleGraphics.Fractal.Koch
import TurtleGraphics.Fractal.Sierpinski

namespace TurtleGraphics

/-! ## Growth -/

/-- A trace that has grown by at most so many items, and by just so many if `full` is
    true. -/
def Grows {β : Type} (before after : List β) (most : Nat) (full : Prop) : Prop :=
  ∃ drawn, after = before ++ drawn ∧ drawn.length ≤ most ∧ (full → drawn.length = most)

namespace Grows

variable {β : Type} {before middle after : List β} {most more : Nat} {full rest : Prop}

theorem refl (before : List β) (full : Prop) : Grows before before 0 full :=
  ⟨[], (List.append_nil _).symm, Nat.le_refl 0, fun _ => rfl⟩

theorem one (before : List β) (item : β) (full : Prop) : Grows before (before ++ [item]) 1 full :=
  ⟨[item], rfl, Nat.le_refl 1, fun _ => rfl⟩

theorem trans (h : Grows before middle most full) (h' : Grows middle after more rest) :
    Grows before after (most + more) (full ∧ rest) := by
  obtain ⟨drawn, rfl, hmost, hfull⟩ := h
  obtain ⟨drawn', rfl, hmore, hrest⟩ := h'
  refine ⟨drawn ++ drawn', List.append_assoc .., ?_, ?_⟩
  · rw [List.length_append]
    exact Nat.add_le_add hmost hmore
  · rintro ⟨h, h'⟩
    rw [List.length_append, hfull h, hrest h']

theorem weaken (h : Grows before after most full) (hmost : most ≤ more)
    (hrest : rest → full ∧ most = more) : Grows before after more rest := by
  obtain ⟨drawn, hdrawn, hlength, hfull⟩ := h
  refine ⟨drawn, hdrawn, Nat.le_trans hlength hmost, ?_⟩
  intro h
  obtain ⟨h, rfl⟩ := hrest h
  exact hfull h

theorem of_made {down : Bool} (h : Grows before after down.toNat full) (hmade : full) :
    Grows before after 1 (down = true) := by
  refine h.weaken (Bool.toNat_le down) ?_
  rintro rfl
  exact ⟨hmade, rfl⟩

theorem of_penDown {down : Bool} (h : Grows before after (down.toNat * most) full) :
    Grows before after most (down = true ∧ full) := by
  have hmost : down.toNat * most ≤ 1 * most := Nat.mul_le_mul_right most (Bool.toNat_le down)
  rw [Nat.one_mul] at hmost
  refine h.weaken hmost ?_
  rintro ⟨rfl, hfull⟩
  exact ⟨hfull, Nat.one_mul most⟩

end Grows

/-! ## Walks -/

variable {τ α ρ : Type}

namespace Move

/-- Whether the pen is down behind a move. -/
def penBehind (down : Bool) : Move α → Bool
  | liftPen => false
  | lowerPen => true
  | _ => down

/-- The strokes in a move: one if it leads anywhere, with the pen down. -/
def strokes (down : Bool) : Move α → Nat
  | forward _ | backward _ => down.toNat
  | _ => 0

/-- The move is not dropped. -/
def Made [Turtle τ α ρ] (walker : τ × List ρ) : Move α → Prop
  | forward distance => (Turtle.forward walker.1 distance).1 = .applied
  | backward distance => (Turtle.backward walker.1 distance).1 = .applied
  | _ => True

end Move

namespace Walk

/-- Whether the pen is down behind a walk. -/
def penBehind (down : Bool) (moves : List (Move α)) : Bool := moves.foldl Move.penBehind down

/-- The number of strokes in a walk. -/
def strokes (down : Bool) : List (Move α) → Nat
  | [] => 0
  | move :: rest => move.strokes down + strokes (move.penBehind down) rest

variable (down : Bool) (first second : List (Move α))

theorem penBehind_append :
    penBehind down (first ++ second) = penBehind (penBehind down first) second :=
  List.foldl_append

theorem strokes_append :
    strokes down (first ++ second) =
      strokes down first + strokes (penBehind down first) second := by
  induction first generalizing down with
  | nil => exact (Nat.zero_add _).symm
  | cons move rest ih =>
    rw [List.cons_append, strokes, ih, strokes, Nat.add_assoc]
    rfl

@[simp] theorem penBehind_nil : penBehind down ([] : List (Move α)) = down := rfl

@[simp] theorem penBehind_cons (move : Move α) (rest : List (Move α)) :
    penBehind down (move :: rest) = penBehind (move.penBehind down) rest := rfl

end Walk

namespace Turtle

variable [Turtle τ α ρ]

/-- No move of the walk is dropped. -/
def Unhindered (walker : τ × List ρ) : List (Move α) → Prop
  | [] => True
  | move :: rest => move.Made walker ∧ Unhindered (move.step walker) rest

/-- What the primitive operations of a turtle do to its pen and its trace: a move that is
    made adds one item if the pen is down, and nothing else does. -/
structure Draws {β : Type} (pen : τ → Bool) (trace : τ → List β) : Prop where
  forward : ∀ t distance, pen (Turtle.forward t distance).2 = pen t ∧
    Grows (trace t) (trace (Turtle.forward t distance).2) (pen t).toNat
      ((Turtle.forward t distance).1 = .applied)
  backward : ∀ t distance, pen (Turtle.backward t distance).2 = pen t ∧
    Grows (trace t) (trace (Turtle.backward t distance).2) (pen t).toNat
      ((Turtle.backward t distance).1 = .applied)
  turnLeft : ∀ t degrees, pen (Turtle.turnLeft t degrees) = pen t ∧
    trace (Turtle.turnLeft t degrees) = trace t
  turnRight : ∀ t degrees, pen (Turtle.turnRight t degrees) = pen t ∧
    trace (Turtle.turnRight t degrees) = trace t
  liftPen : ∀ t, pen (Turtle.liftPen t) = false ∧ trace (Turtle.liftPen t) = trace t
  lowerPen : ∀ t, pen (Turtle.lowerPen t) = true ∧ trace (Turtle.lowerPen t) = trace t
  setPose : ∀ t pose, pen (Turtle.setPose t pose) = pen t ∧ trace (Turtle.setPose t pose) = trace t

namespace Draws

variable {β : Type} {pen : τ → Bool} {trace : τ → List β}

/-- **One move** adds at most its strokes to the trace. -/
theorem step (h : Draws pen trace) (walker : τ × List ρ) (move : Move α) :
    pen (move.step walker).1 = move.penBehind (pen walker.1) ∧
      Grows (trace walker.1) (trace (move.step walker).1) (move.strokes (pen walker.1))
        (move.Made walker) := by
  obtain ⟨t, saved⟩ := walker
  have hstill : ∀ {t' : τ} {full : Prop}, trace t' = trace t →
      Grows (trace t) (trace t') 0 full := by
    intro t' full heq
    rw [heq]
    exact .refl _ full
  cases move with
  | forward distance => exact h.forward t distance
  | backward distance => exact h.backward t distance
  | left degrees => exact ⟨(h.turnLeft t degrees).1, hstill (h.turnLeft t degrees).2⟩
  | right degrees => exact ⟨(h.turnRight t degrees).1, hstill (h.turnRight t degrees).2⟩
  | liftPen => exact ⟨(h.liftPen t).1, hstill (h.liftPen t).2⟩
  | lowerPen => exact ⟨(h.lowerPen t).1, hstill (h.lowerPen t).2⟩
  | save => exact ⟨rfl, hstill rfl⟩
  | restore =>
    cases saved with
    | nil => exact ⟨rfl, hstill rfl⟩
    | cons pose saved => exact ⟨(h.setPose t pose).1, hstill (h.setPose t pose).2⟩

theorem walkFrom (h : Draws pen trace) (moves : List (Move α)) (walker : τ × List ρ) :
    Grows (trace walker.1) (trace (Turtle.walkFrom walker moves).1)
      (Walk.strokes (pen walker.1) moves) (Unhindered walker moves) := by
  induction moves generalizing walker with
  | nil => exact .refl _ _
  | cons move rest ih =>
    obtain ⟨hpen, hmove⟩ := h.step walker move
    rw [Walk.strokes, ← hpen]
    exact hmove.trans (ih (move.step walker))

/-- **Every walk** adds at most its strokes, and all of them if no move is dropped. -/
theorem walk (h : Draws pen trace) (t : τ) (moves : List (Move α)) :
    Grows (trace t) (trace (Turtle.walk t moves)) (Walk.strokes (pen t) moves)
      (Unhindered (t, []) moves) :=
  h.walkFrom moves (t, [])

end Draws

end Turtle

/-! ## Fractals -/

open Walk (penBehind strokes penBehind_append strokes_append)

variable [Scalar α] (down : Bool) (level : Nat)

namespace Koch

theorem penBehind_curve (length : α) : penBehind down (curve level length) = down := by
  induction level generalizing length with
  | zero => rfl
  | succ level ih => simp [curve, penBehind_append, Move.penBehind, ih]

theorem strokes_curve (length : α) : strokes down (curve level length) = down.toNat * 4 ^ level := by
  induction level generalizing length with
  | zero => simp [curve, strokes, Move.strokes]
  | succ level ih =>
    simp only [curve, strokes_append, strokes, Move.strokes, Move.penBehind, penBehind_curve, ih]
    rw [Nat.pow_succ, ← Nat.mul_assoc]
    omega

theorem strokes_triangle (length : α) :
    strokes down (triangle level length) = down.toNat * (3 * 4 ^ level) := by
  simp only [triangle, strokes_append, penBehind_append, penBehind_curve, strokes_curve, strokes,
    Walk.penBehind_cons, Walk.penBehind_nil, Move.strokes, Move.penBehind]
  rw [Nat.mul_left_comm]
  omega

theorem strokes_planeSnowflake (length : α) :
    strokes down (planeSnowflake level length) = 3 * 4 ^ level := by
  simp [planeSnowflake, strokes_triangle, strokes, Move.strokes, Move.penBehind]

theorem strokes_spaceSnowflake (length : α) :
    strokes down (spaceSnowflake level length) = down.toNat * (3 * 4 ^ level) := by
  simp [spaceSnowflake, strokes_append, strokes_triangle, strokes, Move.strokes, Move.penBehind]

end Koch

namespace Sierpinski

theorem penBehind_outline (side height : α) : penBehind true (outline level side height) = true := by
  induction level generalizing side height with
  | zero => rfl
  | succ level ih => simp [outline, penBehind_append, Move.penBehind, ih]

/-- With the pen down, an outline has three sides and three triangles of the level below, with
    three edges between them. -/
theorem strokes_outline (side height : α) :
    strokes true (outline level side height) + 3 = 3 ^ (level + 1) := by
  induction level generalizing side height with
  | zero => rfl
  | succ level ih =>
    have hcorner := ih (side / (2 : Nat)) (height / (2 : Nat))
    simp only [outline, strokes_append, penBehind_append, penBehind_outline, strokes,
      Walk.penBehind_cons, Walk.penBehind_nil, Move.strokes, Move.penBehind, Bool.toNat_true,
      Bool.toNat_false, List.cons_append, List.nil_append]
    rw [Nat.pow_succ]
    omega

theorem strokes_planeTriangle (side : α) :
    strokes down (planeTriangle level side) = 3 ^ (level + 1) - 3 := by
  have houtline := strokes_outline level side (side * Scalar.sqrt ((3 : Nat) : α) / (2 : Nat))
  simp only [planeTriangle, strokes_append, strokes, Walk.penBehind_cons, Walk.penBehind_nil,
    Move.strokes, Move.penBehind, Bool.toNat_false]
  omega

theorem penBehind_edges (side : α) : penBehind down (edges level side) = down := by
  induction level generalizing side with
  | zero => rfl
  | succ level ih => simp [edges, penBehind_append, Move.penBehind, ih]

theorem strokes_edges_succ (side : α) :
    strokes down (edges (level + 1) side) =
      3 * (strokes down (edges level (side / (2 : Nat))) + down.toNat) := by
  simp only [edges, strokes_append, penBehind_append, penBehind_edges, strokes, Move.strokes,
    Move.penBehind, Walk.penBehind_cons, Walk.penBehind_nil]
  omega

theorem strokes_edges (side : α) :
    strokes down (edges level side) = down.toNat * ((3 ^ (level + 1) - 3) / 2) := by
  cases down with
  | false =>
    rw [Bool.toNat_false, Nat.zero_mul]
    induction level generalizing side with
    | zero => rfl
    | succ level ih => rw [strokes_edges_succ, ih, Bool.toNat_false]
  | true =>
    have hdouble : 2 * strokes true (edges level side) + 3 = 3 ^ (level + 1) := by
      induction level generalizing side with
      | zero => rfl
      | succ level ih =>
        have hedge := ih (side / (2 : Nat))
        rw [strokes_edges_succ, Bool.toNat_true, Nat.pow_succ]
        omega
    rw [Bool.toNat_true, Nat.one_mul]
    omega

theorem strokes_spaceTriangle (side : α) :
    strokes down (spaceTriangle level side) = down.toNat * ((3 ^ (level + 1) - 3) / 2) := by
  simp [spaceTriangle, strokes_append, strokes_edges, strokes, Move.strokes, Move.penBehind]

end Sierpinski

end TurtleGraphics
