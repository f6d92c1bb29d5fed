/-
  Frames: the triangles in a triangle, and where they are.

  A triangle of the plane has its apex ahead and its base behind.  Its triangles of half the
  size start at the apex, and in the middle of the two slanted sides, all in the direction of
  the whole.  So they are in its corners, and everything is in the outer triangle at every
  level.

  * `Sierpinski.Triangle` is a triangle as it comes in a walk, and `Sierpinski.Triangle.corners`
    are the triangles that come in it; `Sierpinski.Triangle.Within.walk_eq`: they are there;
  * `Sierpinski.Frame`: three points are the apex and the base of a triangle;
  * `Sierpinski.Frame.route_around`: a walk around a frame, with walks in its corners;
    `Sierpinski.Frame.route_outline` is the walk with triangles in them;
  * `Sierpinski.Ready.corner`: a turtle that is ready for a triangle is so for the triangles in
    its corners;
  * `sierpinski_in_triangle`: a turtle stays in the outer triangle, if it is strictly inside
    its surface.
-/
import TurtleGraphics.Proofs.Turtle.Routes

namespace TurtleGraphics

open Vec2 (mix InTriangle)

namespace Sierpinski

/-! ## Triangles in triangles -/

section Nesting

variable {α : Type}

/-- A triangle as it comes in a walk, behind some moves. -/
structure Triangle (α : Type) where
  before : List (Move α)
  level : Nat
  side : α
  height : α

variable [Scalar α]

/-- What is walked before the corner to the right. -/
def beforeRight (side height : α) (upper : List (Move α)) : List (Move α) :=
  sides side ++ (Walk.excursion (.right ((180 : Nat) : α) :: upper) ++ toRight side height)

/-- What is walked before the corner to the left. -/
def beforeLeft (side height : α) (upper right : List (Move α)) : List (Move α) :=
  beforeRight side height upper ++
    (Walk.excursion (.right ((330 : Nat) : α) :: right) ++ onward side)

theorem around_eq (side height : α) (upper right left : List (Move α)) :
    around side height upper right left = beforeLeft side height upper right ++
      (Walk.excursion (.left ((270 : Nat) : α) :: left) ++ onward side) := by
  simp only [around, beforeLeft, beforeRight, List.append_assoc]

namespace Triangle

/-- The walk of the triangle itself. -/
def walk (triangle : Triangle α) : List (Move α) :=
  outline triangle.level triangle.side triangle.height

/-- The triangle that a turtle of the plane draws, with its apex 300 units ahead. -/
def plane (level : Nat) (side : α) : Triangle α where
  before := [.liftPen, .forward (300 : Nat), .lowerPen]
  level := level
  side := side
  height := side * Scalar.sqrt ((3 : Nat) : α) / (2 : Nat)

/-- The turtle when it comes to the triangle. -/
def start {τ ρ : Type} [Turtle τ α ρ] (triangle : Triangle α) (t : τ) : τ :=
  (Turtle.walkFrom (t, []) triangle.before).1

/-- The triangle that comes in another one behind some moves, from a saved pose. -/
def corner (triangle : Triangle α) (level : Nat) (approach : List (Move α)) (turn : Move α) :
    Triangle α where
  before := triangle.before ++ (approach ++ [.save, turn])
  level := level
  side := triangle.side / (2 : Nat)
  height := triangle.height / (2 : Nat)

/-- The triangles in the corners of a triangle: above, to the right and to the left. -/
def corners (triangle : Triangle α) : List (Triangle α) :=
  match triangle.level with
  | 0 => []
  | level + 1 =>
    let inner := outline level (triangle.side / (2 : Nat)) (triangle.height / (2 : Nat))
    [triangle.corner level (sides triangle.side) (.right (180 : Nat)),
      triangle.corner level (beforeRight triangle.side triangle.height inner)
        (.right (330 : Nat)),
      triangle.corner level (beforeLeft triangle.side triangle.height inner inner)
        (.left (270 : Nat))]

/-- The triangles in the corners of a triangle, and in their corners, and so on. -/
inductive Within (whole : Triangle α) : Triangle α → Prop where
  | refl : Within whole whole
  | corner {triangle inner : Triangle α} : Within whole triangle → inner ∈ triangle.corners →
      Within whole inner

theorem walk_corner {triangle inner : Triangle α} (h : inner ∈ triangle.corners) :
    ∃ behind, triangle.before ++ triangle.walk = inner.before ++ (inner.walk ++ behind) := by
  obtain ⟨before, level, side, height⟩ := triangle
  cases level with
  | zero => simp [corners] at h
  | succ level =>
    simp only [corners, List.mem_cons, List.not_mem_nil, or_false] at h
    simp only [walk, outline_succ, around_eq]
    rcases h with rfl | rfl | rfl <;>
      simp only [corner, beforeLeft, beforeRight, Walk.excursion, List.append_assoc,
        List.cons_append, List.nil_append, List.append_cancel_left_eq, List.cons.injEq,
        true_and] <;>
      exact ⟨_, rfl⟩

theorem side_corner {triangle inner : Triangle α} (h : inner ∈ triangle.corners) :
    inner.side = triangle.side / (2 : Nat) := by
  unfold corners at h
  split at h
  · simp at h
  · simp only [List.mem_cons, List.not_mem_nil, or_false] at h
    rcases h with rfl | rfl | rfl <;> rfl

/-- **All triangles in a triangle** come in its walk. -/
theorem Within.walk_eq {whole inner : Triangle α} (h : Within whole inner) :
    ∃ behind, whole.before ++ whole.walk = inner.before ++ (inner.walk ++ behind) := by
  induction h with
  | refl => exact ⟨[], by rw [List.append_nil]⟩
  | corner _ hinner ih =>
    obtain ⟨behind, hbehind⟩ := ih
    obtain ⟨behind', hbehind'⟩ := walk_corner hinner
    refine ⟨behind' ++ behind, ?_⟩
    rw [hbehind, ← List.append_assoc, hbehind']
    simp only [List.append_assoc]

end Triangle

end Nesting

/-! ## Frames -/

/-- The frame of a triangle: its apex, and the ends of its base to the left and to the right.  The
    height fits to the side. -/
structure Frame (unit heading side height : ℝ) (apex left right : Vec2 ℝ) : Prop where
  height : height = side * √3 / 2
  left : left = apex + Vec2.step unit (heading - 150) side
  right : right = apex + Vec2.step unit (heading + 150) side

namespace Frame

variable {unit heading side height : ℝ} {a b c a' b' c' : Vec2 ℝ}

theorem half (h : Frame unit heading side height a b c) (hb : b' = a' + (b - a).half)
    (hc : c' = a' + (c - a).half) : Frame unit heading (side / 2) (height / 2) a' b' c' := by
  obtain ⟨rfl, rfl, rfl⟩ := h
  refine ⟨by ring, hb.trans ?_, hc.trans ?_⟩ <;> ext <;>
    simp only [Vec2.half, Vec2.add_x, Vec2.add_y, Vec2.sub_x, Vec2.sub_y, Vec2.step_x, Vec2.step_y,
      Nat.cast_ofNat] <;> ring

theorem upper (h : Frame unit heading side height a b c) :
    Frame unit heading (side / 2) (height / 2) a (mix a b c (1 / 2) (1 / 2) 0)
      (mix a b c (1 / 2) 0 (1 / 2)) := by
  refine h.half ?_ ?_ <;> ext <;> simp only [mix, Vec2.half, Vec2.add_x, Vec2.add_y, Vec2.sub_x,
    Vec2.sub_y, Vec2.scale_x, Vec2.scale_y, Nat.cast_ofNat] <;> ring

theorem onLeft (h : Frame unit heading side height a b c) :
    Frame unit heading (side / 2) (height / 2) (mix a b c (1 / 2) (1 / 2) 0) b
      (mix a b c 0 (1 / 2) (1 / 2)) := by
  refine h.half ?_ ?_ <;> ext <;> simp only [mix, Vec2.half, Vec2.add_x, Vec2.add_y, Vec2.sub_x,
    Vec2.sub_y, Vec2.scale_x, Vec2.scale_y, Nat.cast_ofNat] <;> ring

theorem onRight (h : Frame unit heading side height a b c) :
    Frame unit heading (side / 2) (height / 2) (mix a b c (1 / 2) 0 (1 / 2))
      (mix a b c 0 (1 / 2) (1 / 2)) c := by
  refine h.half ?_ ?_ <;> ext <;> simp only [mix, Vec2.half, Vec2.add_x, Vec2.add_y, Vec2.sub_x,
    Vec2.sub_y, Vec2.scale_x, Vec2.scale_y, Nat.cast_ofNat] <;> ring

theorem middleLeft_eq_apex_add (h : Frame unit heading side height a b c) :
    mix a b c (1 / 2) (1 / 2) 0 = a + (Vec2.step unit (heading - 150) side).half := by
  rw [h.left]
  ext <;> simp only [mix, Vec2.half, Vec2.add_x, Vec2.add_y, Vec2.scale_x, Vec2.scale_y,
    Nat.cast_ofNat] <;> ring

theorem middleRight_eq_apex_add (h : Frame unit heading side height a b c) :
    mix a b c (1 / 2) 0 (1 / 2) = a + (Vec2.step unit (heading + 150) side).half := by
  rw [h.right]
  ext <;> simp only [mix, Vec2.half, Vec2.add_x, Vec2.add_y, Vec2.scale_x, Vec2.scale_y,
    Nat.cast_ofNat] <;> ring

theorem fullTurns (h : Frame unit heading side height a b c) (next : ℝ) (n : ℤ)
    (hnext : next = heading - n * 360) : Frame unit next side height a b c := by
  have hleft : next - 150 = heading - 150 - n * 360 := by rw [hnext, sub_right_comm]
  have hright : next + 150 = heading + 150 - n * 360 := by rw [hnext, sub_add_eq_add_sub]
  refine ⟨h.height, h.left.trans ?_, h.right.trans ?_⟩
  · rw [Vec2.step, Vec2.step, Vec2.direction_fullTurns n hleft]
  · rw [Vec2.step, Vec2.step, Vec2.direction_fullTurns n hright]

/-! ### Around a frame -/

theorem right_eq_left_add (h : Frame unit heading side height a b c) :
    c = b + Vec2.step unit (heading - 270) side := by
  have hturn : Vec2.direction (heading - 270) = Vec2.direction (heading + 90) :=
    Vec2.direction_fullTurns 1 (by push_cast; ring)
  obtain ⟨-, rfl, rfl⟩ := h
  ext <;> simp only [Vec2.add_x, Vec2.add_y, Vec2.step_x, Vec2.step_y, Vec2.scale_x, Vec2.scale_y,
    hturn, Vec2.direction_sub_oneFifty, Vec2.direction_add_oneFifty, Vec2.direction_add_ninety] <;>
    ring

theorem apex_eq_right_add (h : Frame unit heading side height a b c) :
    a = c + Vec2.step unit (heading - 390) side := by
  have hturn : Vec2.direction (heading - 390) = Vec2.direction (heading - 30) :=
    Vec2.direction_fullTurns 1 (by push_cast; ring)
  obtain ⟨-, rfl, rfl⟩ := h
  ext <;> simp only [Vec2.add_x, Vec2.add_y, Vec2.step_x, Vec2.step_y, Vec2.scale_x, Vec2.scale_y,
    hturn, Vec2.direction_add_oneFifty, Vec2.direction_sub_thirty] <;> ring

theorem middle_eq_apex_add (h : Frame unit heading side height a b c) :
    mix a b c 0 (1 / 2) (1 / 2) = a + Vec2.step unit (heading - 540) height := by
  have hturn : Vec2.direction (heading - 540) = Vec2.direction (heading - 180) :=
    Vec2.direction_fullTurns 1 (by push_cast; ring)
  obtain ⟨rfl, rfl, rfl⟩ := h
  ext <;> simp only [Vec2.mix_x, Vec2.mix_y, Vec2.add_x, Vec2.add_y, Vec2.step_x, Vec2.step_y,
    Vec2.scale_x, Vec2.scale_y, hturn, Vec2.direction_sub_oneFifty, Vec2.direction_add_oneFifty,
    Vec2.direction_sub_oneEighty] <;> ring

theorem middleRight_eq_middle_add (h : Frame unit heading side height a b c) :
    mix a b c (1 / 2) 0 (1 / 2) =
      mix a b c 0 (1 / 2) (1 / 2) + Vec2.step unit (heading - 690) (side / 2) := by
  have hturn : Vec2.direction (heading - 690) = Vec2.direction (heading + 30) :=
    Vec2.direction_fullTurns 2 (by push_cast; ring)
  obtain ⟨-, rfl, rfl⟩ := h
  ext <;> simp only [Vec2.mix_x, Vec2.mix_y, Vec2.add_x, Vec2.add_y, Vec2.step_x, Vec2.step_y,
    Vec2.scale_x, Vec2.scale_y, hturn, Vec2.direction_sub_oneFifty, Vec2.direction_add_thirty] <;>
    ring

theorem middleLeft_eq_middleRight_add (h : Frame unit heading side height a b c) :
    mix a b c (1 / 2) (1 / 2) 0 =
      mix a b c (1 / 2) 0 (1 / 2) + Vec2.step unit (heading - 810) (side / 2) := by
  have hturn : Vec2.direction (heading - 810) = Vec2.direction (heading - 90) :=
    Vec2.direction_fullTurns 2 (by push_cast; ring)
  obtain ⟨-, rfl, rfl⟩ := h
  ext <;> simp only [Vec2.mix_x, Vec2.mix_y, Vec2.add_x, Vec2.add_y, Vec2.step_x, Vec2.step_y,
    Vec2.scale_x, Vec2.scale_y, hturn, Vec2.direction_sub_oneFifty, Vec2.direction_add_oneFifty] <;>
    ring

theorem middle_eq_middleLeft_add (h : Frame unit heading side height a b c) :
    mix a b c 0 (1 / 2) (1 / 2) =
      mix a b c (1 / 2) (1 / 2) 0 + Vec2.step unit (heading - 930) (side / 2) := by
  have hturn : Vec2.direction (heading - 930) = Vec2.direction (heading + 150) :=
    Vec2.direction_fullTurns 3 (by push_cast; ring)
  obtain ⟨-, rfl, rfl⟩ := h
  ext <;> simp only [Vec2.mix_x, Vec2.mix_y, Vec2.add_x, Vec2.add_y, Vec2.step_x, Vec2.step_y,
    Vec2.scale_x, Vec2.scale_y, hturn, Vec2.direction_add_oneFifty] <;> ring

theorem route_sides (h : Frame unit heading side height a b c) :
    Route unit (InTriangle a b c) a heading (sides side) a (heading - 540) := by
  obtain ⟨ha, hb, hc⟩ := Vec2.inTriangle_corners a b c
  refine .left ?_ (.forward ha hb h.left (.left ?_ (.forward hb hc h.right_eq_left_add (.left ?_
    (.forward hc ha h.apex_eq_right_add (.left ?_ .done))))))
  all_goals
    push_cast
    ring

theorem route_toRight (h : Frame unit heading side height a b c) :
    Route unit (InTriangle a b c) a (heading - 540) (toRight side height)
      (mix a b c (1 / 2) 0 (1 / 2)) (heading - 690) := by
  obtain ⟨hbase, hright, -⟩ := Vec2.inTriangle_middles a b c
  refine .liftPen (.forward (Vec2.inTriangle_corners a b c).1 hbase h.middle_eq_apex_add
    (.lowerPen (.left ?_ (.forward hbase hright ?_ .done))))
  · push_cast
    ring
  · simpa using h.middleRight_eq_middle_add

theorem route_toLeft (h : Frame unit heading side height a b c) :
    Route unit (InTriangle a b c) (mix a b c (1 / 2) 0 (1 / 2)) (heading - 690) (onward side)
      (mix a b c (1 / 2) (1 / 2) 0) (heading - 810) := by
  obtain ⟨-, hright, hleft⟩ := Vec2.inTriangle_middles a b c
  refine .left ?_ (.forward hright hleft ?_ .done)
  · push_cast
    ring
  · simpa using h.middleLeft_eq_middleRight_add

theorem route_toBase (h : Frame unit heading side height a b c) :
    Route unit (InTriangle a b c) (mix a b c (1 / 2) (1 / 2) 0) (heading - 810) (onward side)
      (mix a b c 0 (1 / 2) (1 / 2)) (heading - 930) := by
  obtain ⟨hbase, -, hleft⟩ := Vec2.inTriangle_middles a b c
  refine .left ?_ (.forward hleft hbase ?_ .done)
  · push_cast
    ring
  · simpa using h.middle_eq_middleLeft_add

end Frame

/-! ### Walks in the corners -/

/-- A walk stays in a region, wherever it leads. -/
def Stays (unit : ℝ) (Region : Vec2 ℝ → Prop) (p : Vec2 ℝ) (heading : ℝ)
    (moves : List (Move ℝ)) : Prop :=
  ∃ q last, Route unit Region p heading moves q last

/-- From a saved pose and back, with a turn before the walk. -/
theorem Stays.excursion {unit heading next : ℝ} {Region : Vec2 ℝ → Prop} {p : Vec2 ℝ}
    {turn : Move ℝ} {moves : List (Move ℝ)} (h : Stays unit Region p next moves)
    (hturn : Route unit Region p heading [turn] p next) :
    Route unit Region p heading (Walk.excursion (turn :: moves)) p heading := by
  obtain ⟨q, last, h⟩ := h
  exact .excursion (hturn.append h) .done

section Turns

variable {unit : ℝ} {Region : Vec2 ℝ → Prop} {p : Vec2 ℝ} (heading : ℝ)

theorem route_turnUpper :
    Route unit Region p (heading - 540) [.right (180 : Nat)] p (heading - 360) :=
  .right (by push_cast; ring) .done

theorem route_turnRight :
    Route unit Region p (heading - 690) [.right (330 : Nat)] p (heading - 360) :=
  .right (by push_cast; ring) .done

theorem route_turnLeft :
    Route unit Region p (heading - 810) [.left (270 : Nat)] p (heading - 1080) :=
  .left (by push_cast; ring) .done

end Turns

namespace Frame

variable {unit heading side height : ℝ} {a b c : Vec2 ℝ} {upper right left moves : List (Move ℝ)}

theorem route_beforeRight (h : Frame unit heading side height a b c)
    (hupper : Stays unit (InTriangle a b c) a (heading - 360) upper) :
    Route unit (InTriangle a b c) a heading (beforeRight side height upper)
      (mix a b c (1 / 2) 0 (1 / 2)) (heading - 690) :=
  h.route_sides.append ((hupper.excursion (route_turnUpper heading)).append h.route_toRight)

theorem route_beforeLeft (h : Frame unit heading side height a b c)
    (hupper : Stays unit (InTriangle a b c) a (heading - 360) upper)
    (hright : Stays unit (InTriangle a b c) (mix a b c (1 / 2) 0 (1 / 2)) (heading - 360) right) :
    Route unit (InTriangle a b c) a heading (beforeLeft side height upper right)
      (mix a b c (1 / 2) (1 / 2) 0) (heading - 810) :=
  (h.route_beforeRight hupper).append
    ((hright.excursion (route_turnRight heading)).append h.route_toLeft)

/-- **Around a frame**, with walks in its corners that stay inside. -/
theorem route_around (h : Frame unit heading side height a b c)
    (hupper : Stays unit (InTriangle a b c) a (heading - 360) upper)
    (hright : Stays unit (InTriangle a b c) (mix a b c (1 / 2) 0 (1 / 2)) (heading - 360) right)
    (hleft : Stays unit (InTriangle a b c) (mix a b c (1 / 2) (1 / 2) 0) (heading - 1080) left) :
    Route unit (InTriangle a b c) a heading (around side height upper right left)
      (mix a b c 0 (1 / 2) (1 / 2)) (heading - 930) := by
  rw [around_eq]
  exact (h.route_beforeLeft hupper hright).append
    ((hleft.excursion (route_turnLeft heading)).append h.route_toBase)

theorem stays_corners (h : Frame unit heading side height a b c)
    (hmoves : ∀ {next : ℝ} {a' b' c' : Vec2 ℝ}, Frame unit next (side / 2) (height / 2) a' b' c' →
      Stays unit (InTriangle a' b' c') a' next moves) :
    Stays unit (InTriangle a b c) a (heading - 360) moves ∧
      Stays unit (InTriangle a b c) (mix a b c (1 / 2) 0 (1 / 2)) (heading - 360) moves ∧
      Stays unit (InTriangle a b c) (mix a b c (1 / 2) (1 / 2) 0) (heading - 1080) moves := by
  obtain ⟨ha, hb, hc⟩ := Vec2.inTriangle_corners a b c
  obtain ⟨hbase, hright, hleft⟩ := Vec2.inTriangle_middles a b c
  obtain ⟨_, _, hupper'⟩ := hmoves (h.upper.fullTurns (heading - 360) 1 (by norm_num))
  obtain ⟨_, _, hright'⟩ := hmoves (h.onRight.fullTurns (heading - 360) 1 (by norm_num))
  obtain ⟨_, _, hleft'⟩ := hmoves (h.onLeft.fullTurns (heading - 1080) 3 (by norm_num))
  exact ⟨⟨_, _, hupper'.mono fun _ => .trans ha hleft hright⟩,
    ⟨_, _, hright'.mono fun _ => .trans hright hbase hc⟩,
    ⟨_, _, hleft'.mono fun _ => .trans hleft hb hbase⟩⟩

/-- **Triangles stay in their frames**, at every level. -/
theorem stays (h : Frame unit heading side height a b c) (level : Nat) :
    Stays unit (InTriangle a b c) a heading (outline level side height) := by
  induction level generalizing heading side height a b c with
  | zero => exact ⟨a, heading, .done⟩
  | succ level ih =>
    obtain ⟨hupper, hright, hleft⟩ := h.stays_corners ih
    rw [outline_succ, Nat.cast_ofNat]
    exact ⟨_, _, h.route_around hupper hright hleft⟩

theorem route_outline (h : Frame unit heading side height a b c) (level : Nat) :
    Route unit (InTriangle a b c) a heading (outline (level + 1) side height)
      (mix a b c 0 (1 / 2) (1 / 2)) (heading - 930) := by
  obtain ⟨hupper, hright, hleft⟩ := h.stays_corners fun hframe => hframe.stays level
  rw [outline_succ, Nat.cast_ofNat]
  exact h.route_around hupper hright hleft

end Frame

/-! ## Turtles in their triangles -/

section Turtles

variable {σ : Type} [Surface σ ℝ]

/-- A turtle stands at the apex of a frame that is strictly inside its surface. -/
structure Ready (t : PlaneTurtle σ ℝ) (unit : ℝ) (size : Vec2 ℝ) (heading side height : ℝ)
    (a b c : Vec2 ℝ) : Prop extends Frame unit heading side height a b c where
  stands : t.Stands unit size a heading
  inside : ∀ point, InTriangle a b c point → point.StrictlyInside size

/-- Where the triangles in the corners of a triangle start: at the apex of it, or in the middle
    of a slanted side, which are at 150 degrees to the left and to the right of a heading. -/
def StartsInCorner (t : PlaneTurtle σ ℝ) (heading : ℝ) (outer inner : Triangle ℝ) : Prop :=
  let apex := (outer.start t).position
  let toMiddle (side : ℝ) := ({ outer.start t with heading := side }.displacement outer.side).half
  (inner.start t).heading = heading ∧
    ((inner.start t).position = apex ∨
      (inner.start t).position = apex + toMiddle (heading - 150) ∨
      (inner.start t).position = apex + toMiddle (heading + 150))

namespace Ready

variable [Recording σ] {t : PlaneTurtle σ ℝ} {triangle inner : Triangle ℝ} {unit heading : ℝ}
  {size a b c q b' c' : Vec2 ℝ}

theorem of_route
    (h : Ready (triangle.start t) unit size heading triangle.side triangle.height a b c)
    {level : Nat} {approach : List (Move ℝ)} {turn : Move ℝ} {middle next : ℝ}
    (happroach : Route unit (InTriangle a b c) a heading approach q middle)
    (hturn : Route unit (InTriangle a b c) q middle [turn] q next) (n : ℤ)
    (hnext : next = heading - n * 360)
    (hframe : Frame unit heading (triangle.side / 2) (triangle.height / 2) q b' c')
    (hq : InTriangle a b c q) (hb : InTriangle a b c b') (hc : InTriangle a b c c') :
    Ready ((triangle.corner level approach turn).start t) unit size heading
      (triangle.corner level approach turn).side (triangle.corner level approach turn).height
      q b' c' where
  toFrame := by simpa only [Triangle.corner, Nat.cast_ofNat] using hframe
  stands := by
    have hstands := happroach.stands_saved hturn h.inside h.stands
      (Turtle.walkFrom (t, []) triangle.before).2
    rw [Triangle.start, Triangle.corner, Turtle.walkFrom_append]
    exact hstands.fullTurns heading n hnext
  inside point hpoint := h.inside point (.trans hq hb hc hpoint)

/-- **Ready for the corners**: a turtle that is ready for a triangle is so for those in its
    corners, which start at the apex and in the middle of the slanted sides. -/
theorem corner (h : Ready (triangle.start t) unit size heading triangle.side triangle.height a b c)
    (hinner : inner ∈ triangle.corners) :
    ∃ q b' c', Ready (inner.start t) unit size heading inner.side inner.height q b' c' ∧
      (q = a ∨ q = mix a b c (1 / 2) 0 (1 / 2) ∨ q = mix a b c (1 / 2) (1 / 2) 0) := by
  obtain ⟨ha, hb, hc⟩ := Vec2.inTriangle_corners a b c
  obtain ⟨hbase, hright, hleft⟩ := Vec2.inTriangle_middles a b c
  unfold Triangle.corners at hinner
  split at hinner
  · simp at hinner
  · next level _ =>
    obtain ⟨hstaysUpper, hstaysRight, -⟩ := h.stays_corners fun hframe => hframe.stays level
    simp only [List.mem_cons, List.not_mem_nil, or_false, Nat.cast_ofNat] at hinner
    obtain rfl | rfl | rfl := hinner
    · exact ⟨_, _, _, h.of_route h.route_sides (route_turnUpper heading) 1 (by norm_num) h.upper
        ha hleft hright, .inl rfl⟩
    · exact ⟨_, _, _, h.of_route (h.route_beforeRight hstaysUpper) (route_turnRight heading) 1
        (by norm_num) h.onRight hright hbase hc, .inr (.inl rfl)⟩
    · exact ⟨_, _, _, h.of_route (h.route_beforeLeft hstaysUpper hstaysRight)
        (route_turnLeft heading) 3 (by norm_num) h.onLeft hleft hb hbase, .inr (.inr rfl)⟩

theorem within {whole : Triangle ℝ}
    (h : Ready (whole.start t) unit size heading whole.side whole.height a b c)
    (hinner : whole.Within inner) :
    ∃ a' b' c', Ready (inner.start t) unit size heading inner.side inner.height a' b' c' := by
  induction hinner with
  | refl => exact ⟨a, b, c, h⟩
  | corner _ hcorner ih =>
    obtain ⟨a', b', c', h'⟩ := ih
    obtain ⟨q, b'', c'', h'', -⟩ := h'.corner hcorner
    exact ⟨q, b'', c'', h''⟩

theorem startsInCorner
    (h : Ready (triangle.start t) unit size heading triangle.side triangle.height a b c)
    (hheading : heading ∈ Set.Ico (0 : ℝ) 360) (hinner : inner ∈ triangle.corners) :
    StartsInCorner t heading triangle inner := by
  obtain ⟨q, b', c', hcorner, hq⟩ := h.corner hinner
  refine ⟨hcorner.stands.heading.trans (wrapHeading_of_mem hheading), ?_⟩
  obtain rfl := h.stands.unit
  rw [hcorner.stands.position, h.stands.position]
  rcases hq with rfl | rfl | rfl
  · exact .inl rfl
  · exact .inr (.inr h.middleRight_eq_apex_add)
  · exact .inr (.inl h.middleLeft_eq_apex_add)

variable {side height : ℝ}

/-- No move is dropped, and all lines are in the frame. -/
theorem arrives (h : Ready t unit size heading side height a b c) (level : Nat) :
    t.Arrives unit size (InTriangle a b c) (outline (level + 1) side height)
      (mix a b c 0 (1 / 2) (1 / 2)) (heading - 930) :=
  (h.route_outline level).arrives h.inside h.stands

theorem exists_drawn (h : Ready t unit size heading side height a b c) (hpen : t.penDown = true)
    (level : Nat) :
    ∃ drawn, (Turtle.walk t (outline (level + 1) side height)).drawn = t.drawn ++ drawn ∧
      drawn.length = 3 ^ (level + 1 + 1) - 3 ∧
      ∀ line ∈ drawn, InTriangle a b c line.start ∧ InTriangle a b c line.stop := by
  obtain ⟨drawn, hdrawn, hcount, hregion⟩ := (h.arrives level).exists_drawn
  refine ⟨drawn, hdrawn, ?_, hregion⟩
  rw [hcount, hpen]
  exact Nat.eq_sub_of_add_eq (strokes_outline (level + 1) side height)

theorem walk_outline (h : Ready t unit size heading side height a b c) (hpen : t.penDown = true)
    (level : Nat) :
    (Turtle.walk t (outline (level + 1) side height)).position = (b + c).half ∧
      (Turtle.walk t (outline (level + 1) side height)).heading = wrapHeading (heading + 150) ∧
      (Turtle.walk t (outline (level + 1) side height)).penDown = true := by
  have hstands := (h.arrives level).stands.fullTurns (heading + 150) 3 (by push_cast; ring)
  refine ⟨hstands.position.trans ?_, hstands.heading, ?_⟩
  · ext <;> simp only [mix, Vec2.half, Vec2.add_x, Vec2.add_y, Vec2.scale_x, Vec2.scale_y,
      Nat.cast_ofNat] <;> ring
  · rw [PlaneTurtle.draws.pen_walk, hpen, penBehind_outline]

end Ready

end Turtles

end Sierpinski

theorem PlaneTurtle.walk_approach {σ : Type} [Surface σ ℝ] (t : PlaneTurtle σ ℝ) (distance : ℝ) :
    let begun := Turtle.walk t [.liftPen, .forward distance, .lowerPen]
    begun.surface = t.surface ∧ begun.heading = t.heading ∧ begun.penDown = true := by
  intro begun
  have hbegun : begun = Turtle.lowerPen (Turtle.forward (Turtle.liftPen t) distance).2 := rfl
  change begun = Turtle.lowerPen ((Turtle.liftPen t).moveTo _).2 at hbegun
  rw [hbegun, moveTo_eq]
  split <;> exact ⟨rfl, rfl, rfl⟩

/-- **A Sierpinski triangle stays in its frame.**  If the apex ahead of a turtle of the plane,
    be it reached or not, and the ends of the base behind it are strictly inside the surface,
    then no move of the triangle is dropped, and all of its lines are in the outer triangle.
    All triangles in it head as the outer one does, with half the side of the triangle around
    them, and start at its apex or in the middle of a slanted side.  It leaves the turtle in
    the middle of the base, with the pen down. -/
theorem sierpinski_in_triangle {σ : Type} [Surface σ ℝ] [Recording σ] (t : PlaneTurtle σ ℝ)
    (hheading : t.heading ∈ Set.Ico (0 : ℝ) 360) {level : Nat} (hlevel : 1 ≤ level) (side : ℝ) :
    let whole := Sierpinski.Triangle.plane level side
    let begun := whole.start t
    let apex := begun.position
    let left := apex + { begun with heading := begun.heading - 150 }.displacement side
    let right := apex + { begun with heading := begun.heading + 150 }.displacement side
    let size := Surface.size t.surface
    apex.StrictlyInside size → left.StrictlyInside size → right.StrictlyInside size →
      let t' := Turtle.walk t (Sierpinski.planeTriangle level side)
      Turtle.Unhindered (begun, []) (Sierpinski.outline level side whole.height) ∧
        (∃ drawn, t'.drawn = t.drawn ++ drawn ∧ drawn.length = 3 ^ (level + 1) - 3 ∧
          ∀ line ∈ drawn, InTriangle apex left right line.start ∧
            InTriangle apex left right line.stop) ∧
        (∀ {outer inner : Sierpinski.Triangle ℝ}, whole.Within outer → inner ∈ outer.corners →
          (∃ behind, Sierpinski.planeTriangle level side =
            inner.before ++ (inner.walk ++ behind)) ∧
          inner.side = outer.side / 2 ∧
          Sierpinski.StartsInCorner t begun.heading outer inner) ∧
        t'.position = (left + right).half ∧ t'.heading = wrapHeading (begun.heading + 150) ∧
        t'.penDown = true := by
  obtain ⟨level, rfl⟩ := Nat.exists_eq_add_one.2 hlevel
  intro whole begun apex left right size hapex hleft hright t'
  obtain ⟨hsurface, hkept, hpen⟩ : begun.surface = t.surface ∧ begun.heading = t.heading ∧
    begun.penDown = true := t.walk_approach _
  have hrange : begun.heading ∈ Set.Ico (0 : ℝ) 360 := hkept ▸ hheading
  -- the approach moves the turtle at most, so that it is ready for the frame from where it is
  have hready : Sierpinski.Ready begun begun.unit size begun.heading side whole.height apex left
      right :=
    { height := by norm_num [whole, Sierpinski.Triangle.plane, Scalar.sqrt]
      left := rfl
      right := rfl
      stands := ⟨rfl, congrArg Surface.size hsurface, rfl, (wrapHeading_of_mem hrange).symm⟩
      inside := fun _ hpoint => hpoint.strictlyInside hapex hleft hright }
  have hwalk : t' = Turtle.walk begun (Sierpinski.outline (level + 1) side whole.height) :=
    (Walk.Balanced.of_free (by simp [Move.Free])).walk_append t whole.walk
  have hnone : begun.drawn = t.drawn := congrArg (fun s => (Recording.lines s).toList) hsurface
  rw [hwalk, ← hnone]
  refine ⟨(hready.arrives level).unhindered [], hready.exists_drawn hpen level, ?_,
    hready.walk_outline hpen level⟩
  intro outer inner houter hinner
  obtain ⟨a, b, c, houter'⟩ := hready.within houter
  refine ⟨(houter.corner hinner).walk_eq, ?_, houter'.startsInCorner hrange hinner⟩
  simpa using Sierpinski.Triangle.side_corner hinner

/-- A triangle of 78 lines from the middle of a surface, of which the approach is dropped at the
    border. -/
theorem sierpinski_ahead_in_triangle :
    let t : PlaneTurtle (LineBuffer ℝ) ℝ := .start (.empty ⟨500, 400⟩) 250 .initial
    let whole : Sierpinski.Triangle ℝ := .plane 3 60
    let apex : Vec2 ℝ := ⟨250, 200⟩
    let left : Vec2 ℝ := ⟨190, 200 + 60 * √3⟩
    let right : Vec2 ℝ := ⟨310, 200 + 60 * √3⟩
    let t' := Turtle.walk t (Sierpinski.planeTriangle 3 60)
    (t.heading ∈ Set.Ico (0 : ℝ) 360 ∧ 1 ≤ 3 ∧ apex.StrictlyInside ⟨500, 400⟩ ∧
      left.StrictlyInside ⟨500, 400⟩ ∧ right.StrictlyInside ⟨500, 400⟩) ∧
      Turtle.Unhindered (whole.start t, []) (Sierpinski.outline 3 60 whole.height) ∧
      (∃ drawn, t'.drawn = [] ++ drawn ∧ drawn.length = 78 ∧
        ∀ line ∈ drawn, InTriangle apex left right line.start ∧
          InTriangle apex left right line.stop) ∧
      (∀ {outer inner : Sierpinski.Triangle ℝ}, whole.Within outer → inner ∈ outer.corners →
        inner.side = outer.side / 2 ∧ Sierpinski.StartsInCorner t 0 outer inner) ∧
      t'.position = ⟨250, 200 + 60 * √3⟩ ∧ t'.heading = 150 ∧ t'.penDown = true := by
  intro t whole apex left right t'
  have hroot : √3 ≤ (2 : ℝ) := Real.sqrt_le_iff.2 (by norm_num)
  have hpos := Real.sqrt_nonneg 3
  have hheading : t.heading = 0 := by simp [t, PlaneTurtle.start]
  have hunit : t.unit = 2 := by norm_num [t, PlaneTurtle.start, Surface.size, LineBuffer.empty]
  have hmiddle : t.position = ⟨250, 200⟩ := by
    ext <;> norm_num [t, PlaneTurtle.start, Vec2.half, Surface.size, LineBuffer.empty]
  -- 300 units ahead there is no surface
  have hbegun : (Sierpinski.Triangle.plane 3 (60 : ℝ)).start t = t := by
    have houtside : ¬ (t.position + t.displacement ((300 : ℕ) : ℝ)).StrictlyInside ⟨500, 400⟩ := by
      norm_num [hmiddle, PlaneTurtle.displacement, hheading, hunit, toRadians_real,
        Vec2.StrictlyInside]
    have hstay : Turtle.forward (Turtle.liftPen t) ((300 : ℕ) : ℝ) =
        (.ignored .outOfBounds, Turtle.liftPen t) := if_neg houtside
    change Turtle.lowerPen (Turtle.forward (Turtle.liftPen t) ((300 : ℕ) : ℝ)).2 = t
    rw [hstay]
    rfl
  have hleft : t.position + { t with heading := t.heading - 150 }.displacement 60 = left := by
    change t.position + Vec2.step t.unit (t.heading - 150) 60 = left
    rw [hmiddle, hunit, hheading, Vec2.step, Vec2.direction_sub_oneFifty,
      Vec2.direction_zero, Vec2.direction_zero_sub_ninety]
    ext <;> simp only [left, Vec2.add_x, Vec2.add_y, Vec2.scale_x, Vec2.scale_y] <;> ring
  have hright : t.position + { t with heading := t.heading + 150 }.displacement 60 = right := by
    change t.position + Vec2.step t.unit (t.heading + 150) 60 = right
    rw [hmiddle, hunit, hheading, Vec2.step, Vec2.direction_add_oneFifty,
      Vec2.direction_zero, Vec2.direction_zero_sub_ninety]
    ext <;> simp only [right, Vec2.add_x, Vec2.add_y, Vec2.scale_x, Vec2.scale_y] <;> ring
  have hinside : apex.StrictlyInside ⟨500, 400⟩ ∧ left.StrictlyInside ⟨500, 400⟩ ∧
      right.StrictlyInside ⟨500, 400⟩ := by
    simp only [apex, left, right, Vec2.StrictlyInside, Nat.cast_zero]
    refine ⟨?_, ?_, ?_⟩ <;> refine ⟨?_, ?_, ?_, ?_⟩ <;> linarith
  have hrange : t.heading ∈ Set.Ico (0 : ℝ) 360 := by norm_num [hheading]
  have hmean : (left + right).half = ⟨250, 200 + 60 * √3⟩ := by
    ext <;> simp only [left, right, Vec2.half, Vec2.add_x, Vec2.add_y, Nat.cast_ofNat] <;> ring
  have htriangle := sierpinski_in_triangle t hrange (by decide : 1 ≤ 3) 60
  simp only [hbegun, hleft, hright] at htriangle
  simp only [hmiddle, hmean, hheading, zero_add] at htriangle
  obtain ⟨hunhindered, hdrawn, hcorners, hposition, hturned, hpen⟩ :=
    htriangle hinside.1 hinside.2.1 hinside.2.2
  refine ⟨⟨hrange, by decide, hinside⟩, ?_, hdrawn, fun houter hinner => (hcorners houter hinner).2,
    hposition, hturned.trans (wrapHeading_of_mem (by norm_num)), hpen⟩
  exact hbegun.symm ▸ hunhindered

end TurtleGraphics
