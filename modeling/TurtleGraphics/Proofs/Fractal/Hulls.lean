/-
  Hulls: curves stay in their triangles.

  The hull of a curve has its ends at the base, and its tip a sixth of the length times the
  root of three to the left of the middle.  The four curves of a level have hulls of a third of
  the size in the hull of the whole, so that the curve is in its hull at every level.

  * `Koch.Hull`: three points are the hull of a curve of some length, in some direction;
  * `Koch.Hull.first` to `Koch.Hull.fourth` are the hulls of the four curves of a level;
  * `Koch.Hull.route`: a curve leads from one end of its hull to the other, inside;
  * `koch_curve_in_triangle`: so does a turtle, if the hull is strictly inside its surface.
-/
import TurtleGraphics.Proofs.Turtle.Routes

namespace TurtleGraphics

open Vec2 (mix InTriangle)

namespace Koch

/-- The hull of a curve: where it begins, where it ends, and its tip to the left. -/
structure Hull (unit heading length : ℝ) (start stop tip : Vec2 ℝ) : Prop where
  stop : stop = start + Vec2.step unit heading length
  tip : tip = start + Vec2.step unit heading (length / 2) +
    Vec2.step unit (heading - 90) (length * √3 / 6)

namespace Hull

variable {unit heading length : ℝ} {a b c : Vec2 ℝ}

theorem first (h : Hull unit heading length a b c) :
    Hull unit heading (length / 3) a (mix a b c (2 / 3) (1 / 3) 0)
      (mix a b c (2 / 3) 0 (1 / 3)) := by
  obtain ⟨rfl, rfl⟩ := h
  constructor <;> ext <;> simp only [Vec2.mix_x, Vec2.mix_y, Vec2.add_x, Vec2.add_y, Vec2.step_x,
    Vec2.step_y] <;> ring

theorem fourth (h : Hull unit heading length a b c) :
    Hull unit heading (length / 3) (mix a b c (1 / 3) (2 / 3) 0) b
      (mix a b c 0 (2 / 3) (1 / 3)) := by
  obtain ⟨rfl, rfl⟩ := h
  constructor <;> ext <;> simp only [Vec2.mix_x, Vec2.mix_y, Vec2.add_x, Vec2.add_y, Vec2.step_x,
    Vec2.step_y] <;> ring

theorem second (h : Hull unit heading length a b c) :
    Hull unit (heading - 60) (length / 3) (mix a b c (2 / 3) (1 / 3) 0) c
      (mix a b c (1 / 3) 0 (2 / 3)) := by
  have hroot : √3 * √3 = (3 : ℝ) := Real.mul_self_sqrt (by norm_num)
  have hside : heading - 60 - 90 = heading - 150 := by ring
  obtain ⟨rfl, rfl⟩ := h
  constructor
  · ext <;> simp only [Vec2.mix_x, Vec2.mix_y, Vec2.add_x, Vec2.add_y, Vec2.step_x, Vec2.step_y,
      Vec2.scale_x, Vec2.scale_y, Vec2.direction_sub_sixty] <;> ring
  · ext <;> simp only [hside, Vec2.mix_x, Vec2.mix_y, Vec2.add_x, Vec2.add_y, Vec2.step_x,
      Vec2.step_y, Vec2.scale_x, Vec2.scale_y, Vec2.direction_sub_sixty,
      Vec2.direction_sub_oneFifty]
    · linear_combination (Vec2.direction heading).x * length * unit / 36 * hroot
    · linear_combination (Vec2.direction heading).y * length * unit / 36 * hroot

theorem third (h : Hull unit heading length a b c) :
    Hull unit (heading + 60) (length / 3) c (mix a b c (1 / 3) (2 / 3) 0)
      (mix a b c 0 (1 / 3) (2 / 3)) := by
  have hroot : √3 * √3 = (3 : ℝ) := Real.mul_self_sqrt (by norm_num)
  have hside : heading + 60 - 90 = heading - 30 := by ring
  obtain ⟨rfl, rfl⟩ := h
  constructor
  · ext <;> simp only [Vec2.mix_x, Vec2.mix_y, Vec2.add_x, Vec2.add_y, Vec2.step_x, Vec2.step_y,
      Vec2.scale_x, Vec2.scale_y, Vec2.direction_add_sixty] <;> ring
  · ext <;> simp only [hside, Vec2.mix_x, Vec2.mix_y, Vec2.add_x, Vec2.add_y, Vec2.step_x,
      Vec2.step_y, Vec2.scale_x, Vec2.scale_y, Vec2.direction_add_sixty,
      Vec2.direction_sub_thirty]
    · linear_combination (Vec2.direction heading).x * length * unit * (-1 / 36) * hroot
    · linear_combination (Vec2.direction heading).y * length * unit * (-1 / 36) * hroot

/-- **A curve leads from one end of its hull to the other**, inside. -/
theorem route (h : Hull unit heading length a b c) (level : Nat) :
    Route unit (InTriangle a b c) a heading (curve level length) b heading := by
  induction level generalizing heading length a b c with
  | zero =>
    obtain ⟨ha, hb, -⟩ := Vec2.inTriangle_corners a b c
    exact .forward ha hb h.stop .done
  | succ level ih =>
    obtain ⟨ha, hb, hc⟩ := Vec2.inTriangle_corners a b c
    have hleft : InTriangle a b c (mix a b c (2 / 3) (1 / 3) 0) :=
      Vec2.inTriangle_mix (by norm_num)
    have hright : InTriangle a b c (mix a b c (1 / 3) (2 / 3) 0) :=
      Vec2.inTriangle_mix (by norm_num)
    -- the hulls of the four curves are in the hull of the whole
    have hpart : ∀ {heading' : ℝ} {a' b' c' : Vec2 ℝ}, Hull unit heading' (length / 3) a' b' c' →
        InTriangle a b c a' → InTriangle a b c b' → InTriangle a b c c' →
        Route unit (InTriangle a b c) a' heading' (curve level (length / 3)) b' heading' :=
      fun hhull ha' hb' hc' => (ih hhull).mono fun _ => .trans ha' hb' hc'
    have hfirst := hpart h.first ha hleft (Vec2.inTriangle_mix (by norm_num))
    have hsecond := hpart h.second hleft hc (Vec2.inTriangle_mix (by norm_num))
    have hthird := hpart h.third hc hright (Vec2.inTriangle_mix (by norm_num))
    have hfourth := hpart h.fourth hright hb (Vec2.inTriangle_mix (by norm_num))
    have hlength : length / ((3 : ℕ) : ℝ) = length / 3 := by norm_num
    rw [curve, hlength]
    refine hfirst.append (.left ?_ (hsecond.append (.right ?_ (hthird.append (.left ?_ hfourth)))))
    all_goals
      push_cast
      ring

end Hull

end Koch

/-- **A Koch curve stays in its triangle.**  If the hull of a curve is strictly inside the
    surface of a turtle of the plane, then no move of the curve is dropped, all of its lines
    are in the hull, and it leaves the turtle at the other end of the base, heading as
    before. -/
theorem koch_curve_in_triangle {σ : Type} [Surface σ ℝ] [Recording σ] (t : PlaneTurtle σ ℝ)
    (hheading : t.heading ∈ Set.Ico (0 : ℝ) 360) (level : Nat) (length : ℝ) :
    let ahead := t.displacement length
    let aside := { t with heading := t.heading - 90 }.displacement (length * √3 / 6)
    let stop := t.position + ahead
    let tip := t.position + ahead.half + aside
    let size := Surface.size t.surface
    t.position.StrictlyInside size → stop.StrictlyInside size → tip.StrictlyInside size →
      let t' := Turtle.walk t (Koch.curve level length)
      Turtle.Unhindered (t, []) (Koch.curve level length) ∧
        (∃ drawn, t'.drawn = t.drawn ++ drawn ∧
          drawn.length = (if t.penDown then 4 ^ level else 0) ∧
          ∀ line ∈ drawn, InTriangle t.position stop tip line.start ∧
            InTriangle t.position stop tip line.stop) ∧
        t'.position = stop ∧ t'.heading = t.heading := by
  intro ahead aside stop tip size hposition hstop htip t'
  have hhull : Koch.Hull t.unit t.heading length t.position stop tip := by
    refine ⟨rfl, ?_⟩
    have hhalf : ahead.half = Vec2.step t.unit t.heading (length / 2) := by
      ext <;> simp only [ahead, Vec2.half, PlaneTurtle.displacement, Vec2.step_x, Vec2.step_y,
        Vec2.direction, Vec2.scale_x, Vec2.scale_y, Scalar.sin_real, Scalar.cos_real,
        Nat.cast_ofNat] <;> ring
    rw [← hhalf]
    rfl
  have hstands : t.Stands t.unit size t.position t.heading :=
    ⟨rfl, rfl, rfl, (wrapHeading_of_mem hheading).symm⟩
  have harrives := (hhull.route level).arrives
    (fun _ hpoint => hpoint.strictlyInside hposition hstop htip) hstands
  obtain ⟨drawn, hdrawn, hcount, hregion⟩ := harrives.exists_drawn
  refine ⟨harrives.unhindered [], ⟨drawn, hdrawn, ?_, hregion⟩, harrives.stands.position,
    harrives.stands.heading.trans (wrapHeading_of_mem hheading)⟩
  rw [hcount, Koch.strokes_curve]
  cases t.penDown <;> simp

theorem koch_curve_ahead_in_triangle :
    let t : PlaneTurtle (LineBuffer ℝ) ℝ := .start (.empty ⟨500, 400⟩) 250 .initial
    let stop : Vec2 ℝ := ⟨250, 20⟩
    let tip : Vec2 ℝ := ⟨250 - 30 * √3, 110⟩
    let t' := Turtle.walk t (Koch.curve 3 90)
    t.heading ∈ Set.Ico (0 : ℝ) 360 ∧ t.position.StrictlyInside ⟨500, 400⟩ ∧
      stop.StrictlyInside ⟨500, 400⟩ ∧ tip.StrictlyInside ⟨500, 400⟩ ∧
      Turtle.Unhindered (t, []) (Koch.curve 3 90) ∧
      (∃ drawn, t'.drawn = [] ++ drawn ∧ drawn.length = 64 ∧
        ∀ line ∈ drawn, InTriangle t.position stop tip line.start ∧
          InTriangle t.position stop tip line.stop) ∧
      t'.position = stop ∧ t'.heading = 0 := by
  -- 64 lines up from the middle of a surface
  intro t stop tip t'
  have hroot : √3 ≤ (2 : ℝ) := Real.sqrt_le_iff.2 (by norm_num)
  have hheading : t.heading = 0 := by simp [t, PlaneTurtle.start]
  have hunit : t.unit = 2 := by norm_num [t, PlaneTurtle.start, Surface.size, LineBuffer.empty]
  have hmiddle : t.position = ⟨250, 200⟩ := by
    ext <;> norm_num [t, PlaneTurtle.start, Vec2.half, Surface.size, LineBuffer.empty]
  have hstop : t.position + t.displacement 90 = stop := by
    change t.position + Vec2.step t.unit t.heading 90 = stop
    rw [hmiddle, hunit, hheading, Vec2.step, Vec2.direction_zero]
    ext <;> norm_num [stop]
  have htip : t.position + (t.displacement 90).half +
      { t with heading := t.heading - 90 }.displacement (90 * √3 / 6) = tip := by
    change t.position + (Vec2.step t.unit t.heading 90).half +
      Vec2.step t.unit (t.heading - 90) (90 * √3 / 6) = tip
    rw [hmiddle, hunit, hheading, Vec2.step, Vec2.step, Vec2.direction_zero,
      Vec2.direction_zero_sub_ninety]
    ext <;> simp only [tip, Vec2.half, Vec2.add_x, Vec2.add_y, Vec2.scale_x, Vec2.scale_y,
      Nat.cast_ofNat] <;> ring
  have hrange : t.heading ∈ Set.Ico (0 : ℝ) 360 := by norm_num [hheading]
  have hposition : t.position.StrictlyInside ⟨500, 400⟩ := by
    norm_num [hmiddle, Vec2.StrictlyInside]
  have hstop' : stop.StrictlyInside ⟨500, 400⟩ := by norm_num [stop, Vec2.StrictlyInside]
  have htip' : tip.StrictlyInside ⟨500, 400⟩ := by
    simp only [tip, Vec2.StrictlyInside, Nat.cast_zero]
    have hpos := Real.sqrt_nonneg 3
    refine ⟨?_, ?_, ?_, ?_⟩ <;> linarith
  have hcurve := koch_curve_in_triangle t hrange 3 90
  simp only [hstop, htip] at hcurve
  exact ⟨hrange, hposition, hstop', htip', hheading ▸ hcurve hposition hstop' htip'⟩

end TurtleGraphics
