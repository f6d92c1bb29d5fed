/-
  Averages: the points that are between others.

  Weights of an average are not negative, and add up to one.  The weighted averages of two
  points are the segment between them, and those of many points are their convex hull.

  * `Vec2.segment`, `Vec3.segment`: the points between two others, by their weights;
  * `Vec3.mem_segment_of_between`: a coordinate between two others leads to a point between two
    others;
  * `Vec3.InHull`: the points that are weighted averages of some points;
  * `Vec3.InHull.of_mem`, `Vec3.InHull.segment`: the points themselves, and what is between two
    of their averages;
  * `Vec3.InHull.inBox`: a box with all of the points in it has their averages in it.

  The numbers are real here.
-/
import Mathlib.Analysis.Convex.Combination
import TurtleGraphics.Proofs.Geometry.Triangles

namespace TurtleGraphics

/-! ## Segments -/

namespace Vec2

/-- The weighted average of two points. -/
noncomputable def blend (p q : Vec2 ℝ) (u v : ℝ) : Vec2 ℝ := p.scale u + q.scale v

@[simp] theorem blend_x (p q : Vec2 ℝ) (u v : ℝ) : (blend p q u v).x = p.x * u + q.x * v := rfl
@[simp] theorem blend_y (p q : Vec2 ℝ) (u v : ℝ) : (blend p q u v).y = p.y * u + q.y * v := rfl

/-- The points between two others, the ends included. -/
def segment (p q : Vec2 ℝ) : Set (Vec2 ℝ) :=
  {r | ∃ u v : ℝ, 0 ≤ u ∧ 0 ≤ v ∧ u + v = 1 ∧ r = blend p q u v}

end Vec2

namespace Vec3

/-- The weighted average of two points. -/
noncomputable def blend (a b : Vec3 ℝ) (s t : ℝ) : Vec3 ℝ := a.scale s + b.scale t

@[simp] theorem blend_x (a b : Vec3 ℝ) (s t : ℝ) : (blend a b s t).x = a.x * s + b.x * t := rfl
@[simp] theorem blend_y (a b : Vec3 ℝ) (s t : ℝ) : (blend a b s t).y = a.y * s + b.y * t := rfl
@[simp] theorem blend_z (a b : Vec3 ℝ) (s t : ℝ) : (blend a b s t).z = a.z * s + b.z * t := rfl

/-- The points between two others, the ends included. -/
def segment (a b : Vec3 ℝ) : Set (Vec3 ℝ) :=
  {c | ∃ s t : ℝ, 0 ≤ s ∧ 0 ≤ t ∧ s + t = 1 ∧ c = blend a b s t}

/-- **Between two numbers** on a line that is followed at a constant speed is between two
    points. -/
theorem mem_segment_of_between {low high c : ℝ} (f : ℝ → Vec3 ℝ)
    (hf : ∀ {s t : ℝ}, s + t = 1 → f (low * s + high * t) = blend (f low) (f high) s t)
    (hlow : low ≤ c) (hhigh : c ≤ high) : f c ∈ segment (f low) (f high) := by
  obtain ⟨s, t, hs, ht, hsum, rfl⟩ := (Convex.mem_Icc (hlow.trans hhigh)).1 ⟨hlow, hhigh⟩
  refine ⟨s, t, hs, ht, hsum, ?_⟩
  rw [mul_comm s, mul_comm t, hf hsum]

/-! ## Hulls -/

/-- The weighted average of some points. -/
noncomputable def average (points : Array (Vec3 ℝ)) (weight : Fin points.size → ℝ) : Vec3 ℝ :=
  ⟨∑ i, weight i * points[i].x, ∑ i, weight i * points[i].y, ∑ i, weight i * points[i].z⟩

/-- A point is a convex combination of some points: an average of them, with weights that are not
    negative and add up to one. -/
def InHull (points : Array (Vec3 ℝ)) (p : Vec3 ℝ) : Prop :=
  ∃ weight : Fin points.size → ℝ,
    (∀ i, 0 ≤ weight i) ∧ ∑ i, weight i = 1 ∧ p = average points weight

namespace InHull

variable {points : Array (Vec3 ℝ)} {p q r : Vec3 ℝ}

theorem of_mem (h : p ∈ points) : InHull points p := by
  obtain ⟨i, hi, rfl⟩ := Array.getElem_of_mem h
  -- all of the weight is on that point
  refine ⟨Pi.single ⟨i, hi⟩ 1, ?_, ?_, ?_⟩
  · intro j
    rw [Pi.single_apply]
    split_ifs
    · exact zero_le_one
    · exact le_rfl
  · exact (Finset.sum_pi_single' _ _ _).trans (if_pos (Finset.mem_univ _))
  · ext <;> simp [average, Pi.single_apply]

/-- **A hull contains segments**: averages of averages are averages. -/
theorem segment (hp : InHull points p) (hq : InHull points q) (hr : r ∈ segment p q) :
    InHull points r := by
  obtain ⟨u, hu, husum, rfl⟩ := hp
  obtain ⟨v, hv, hvsum, rfl⟩ := hq
  obtain ⟨s, t, hs, ht, hsum, rfl⟩ := hr
  -- every point has the weights of both averages, each in proportion to the weight of that average
  refine ⟨fun i => u i * s + v i * t, ?_, ?_, ?_⟩
  · intro i
    exact add_nonneg (mul_nonneg (hu i) hs) (mul_nonneg (hv i) ht)
  · rw [Finset.sum_add_distrib, ← Finset.sum_mul, ← Finset.sum_mul, husum, hvsum, one_mul, one_mul,
      hsum]
  · have hdistrib : ∀ f : Fin points.size → ℝ, ∑ i, (u i * s + v i * t) * f i =
        (∑ i, u i * f i) * s + (∑ i, v i * f i) * t := by
      intro f
      rw [Finset.sum_mul, Finset.sum_mul, ← Finset.sum_add_distrib]
      refine Finset.sum_congr rfl ?_
      intro i _
      ring
    ext
    · exact (hdistrib _).symm
    · exact (hdistrib _).symm
    · exact (hdistrib _).symm

/-- **A box with some points in it** has their averages in it. -/
theorem inBox (h : InHull points p) {low high : Vec3 ℝ}
    (hpoints : ∀ q ∈ points, low.AtMost q ∧ q.AtMost high) : low.AtMost p ∧ p.AtMost high := by
  obtain ⟨weight, hweight, hsum, rfl⟩ := h
  have hbetween : ∀ {f : Fin points.size → ℝ} {least greatest : ℝ},
      (∀ i, least ≤ f i ∧ f i ≤ greatest) →
      least ≤ ∑ i, weight i * f i ∧ ∑ i, weight i * f i ≤ greatest := by
    intro f least greatest hf
    exact (convex_Icc least greatest).sum_mem (fun i _ => hweight i) hsum fun i _ => hf i
  have hmem : ∀ i : Fin points.size, low.AtMost points[i] ∧ points[i].AtMost high :=
    fun i => hpoints _ (Array.getElem_mem i.isLt)
  obtain ⟨hx, hx'⟩ := hbetween fun i => ⟨(hmem i).1.1, (hmem i).2.1⟩
  obtain ⟨hy, hy'⟩ := hbetween fun i => ⟨(hmem i).1.2.1, (hmem i).2.2.1⟩
  obtain ⟨hz, hz'⟩ := hbetween fun i => ⟨(hmem i).1.2.2, (hmem i).2.2.2⟩
  exact ⟨⟨hx, hy, hz⟩, ⟨hx', hy', hz'⟩⟩

end InHull

end Vec3

end TurtleGraphics
