/-
  Perspective: a drawn line is the image of its edge.

  Dividing by the depth takes segments to segments, as long as they are in front of the camera:
  a point between two others is a weighted average of them, and its image is one of their
  images, with every weight multiplied by the depth of its end.

  * `blend_pos`, `div_blend`: weighted averages of numbers and of quotients;
  * `Camera.depth_blend`, `Camera.screen_blend`: depth and image of a weighted average;
  * `Camera.image_segment`: the image of a segment that is seen is the segment between the images
    of its ends;
  * `Camera.project_ray`: all points of a ray from the eye have the same image;
  * `drawn_lines_are_images_of_edges`: so it is with the lines on a surface.

  The numbers are real here.
-/
import TurtleGraphics.Proofs.Geometry.Averages
import TurtleGraphics.Proofs.View.Rendering

namespace TurtleGraphics

/-! ## Weighted averages -/

theorem blend_pos {x y s t : ℝ} (hx : 0 < x) (hy : 0 < y) (hs : 0 ≤ s) (ht : 0 ≤ t)
    (hsum : s + t = 1) : 0 < x * s + y * t := by
  simpa using Vec2.mix_pos hx hy hy hs ht le_rfl (by rwa [add_zero])

theorem div_blend {f x y e s t dx dy d : ℝ} (hdx : dx ≠ 0) (hdy : dy ≠ 0) (hsum : s + t = 1) :
    f / d * (x * s + y * t - e) =
      f / dx * (x - e) * (dx * s / d) + f / dy * (y - e) * (dy * t / d) := by
  have hx : f / dx * (x - e) * (dx * s / d) = f / d * ((x - e) * s) := by field_simp
  have hy : f / dy * (y - e) * (dy * t / d) = f / d * ((y - e) * t) := by field_simp
  rw [hx, hy]
  linear_combination f / d * e * hsum

/-! ## Images of segments -/

namespace Camera

variable {camera : Camera ℝ} {a b q : Vec3 ℝ} {s t : ℝ}

theorem visible_iff : (camera.project a).Visible ↔ 0 < (camera.project a).depth := by
  rw [ProjectedPoint.Visible, Nat.cast_zero]

theorem depth_blend (hsum : s + t = 1) :
    (camera.project (Vec3.blend a b s t)).depth =
      (camera.project a).depth * s + (camera.project b).depth * t := by
  simp only [project, Vec3.sub_y, Vec3.blend_y]
  linear_combination camera.position.y * hsum

theorem depth_blend_pos (ha : (camera.project a).Visible) (hb : (camera.project b).Visible)
    (hs : 0 ≤ s) (ht : 0 ≤ t) (hsum : s + t = 1) :
    0 < (camera.project (Vec3.blend a b s t)).depth := by
  rw [visible_iff] at ha hb
  rw [depth_blend hsum]
  exact blend_pos ha hb hs ht hsum

/-- **The image of a weighted average** is one of the images, with every weight multiplied by the
    depth of its point. -/
theorem screen_blend (ha : (camera.project a).Visible) (hb : (camera.project b).Visible)
    (hsum : s + t = 1) :
    let depth := (camera.project (Vec3.blend a b s t)).depth
    (camera.project (Vec3.blend a b s t)).screen =
      Vec2.blend (camera.project a).screen (camera.project b).screen
        ((camera.project a).depth * s / depth) ((camera.project b).depth * t / depth) := by
  have hda : a.y - camera.position.y ≠ 0 := (visible_iff.1 ha).ne'
  have hdb : b.y - camera.position.y ≠ 0 := (visible_iff.1 hb).ne'
  ext
  · simp only [project, Vec2.blend_x, Vec3.sub_x, Vec3.sub_y, Vec3.blend_x]
    exact div_blend hda hdb hsum
  · simp only [project, Vec2.blend_y, Vec3.sub_z, Vec3.sub_y, Vec3.blend_z]
    exact div_blend hda hdb hsum

theorem visible_of_mem_segment (ha : (camera.project a).Visible) (hb : (camera.project b).Visible)
    {c : Vec3 ℝ} (hc : c ∈ Vec3.segment a b) : (camera.project c).Visible := by
  obtain ⟨s, t, hs, ht, hsum, rfl⟩ := hc
  exact visible_iff.2 (depth_blend_pos ha hb hs ht hsum)

theorem screen_mem_segment (ha : (camera.project a).Visible) (hb : (camera.project b).Visible)
    {c : Vec3 ℝ} (hc : c ∈ Vec3.segment a b) :
    (camera.project c).screen ∈
      Vec2.segment (camera.project a).screen (camera.project b).screen := by
  obtain ⟨s, t, hs, ht, hsum, rfl⟩ := hc
  have hdepth := depth_blend_pos ha hb hs ht hsum
  have hda := (visible_iff.1 ha).le
  have hdb := (visible_iff.1 hb).le
  refine ⟨_, _, by positivity, by positivity, ?_, screen_blend ha hb hsum⟩
  rw [← add_div, ← depth_blend hsum, div_self hdepth.ne']

theorem exists_of_mem_segment (ha : (camera.project a).Visible)
    (hb : (camera.project b).Visible) {p : Vec2 ℝ}
    (hp : p ∈ Vec2.segment (camera.project a).screen (camera.project b).screen) :
    ∃ c ∈ Vec3.segment a b, (camera.project c).screen = p := by
  obtain ⟨u, v, hu, hv, hsum, rfl⟩ := hp
  have hda := visible_iff.1 ha
  have hdb := visible_iff.1 hb
  -- the weights are divided by the depths of the ends, and brought to the sum one
  generalize htotal : u / (camera.project a).depth + v / (camera.project b).depth = total
  have hpos : 0 < total := by
    rw [← htotal, div_eq_inv_mul, div_eq_inv_mul]
    exact blend_pos (inv_pos.2 hda) (inv_pos.2 hdb) hu hv hsum
  have hone : u / (camera.project a).depth / total + v / (camera.project b).depth / total = 1 := by
    rw [← add_div, htotal, div_self hpos.ne']
  refine ⟨_, ⟨_, _, by positivity, by positivity, hone, rfl⟩, ?_⟩
  have hdepth : (camera.project (Vec3.blend a b (u / (camera.project a).depth / total)
      (v / (camera.project b).depth / total))).depth = 1 / total := by
    rw [depth_blend hone, ← hsum]
    field_simp
  rw [screen_blend ha hb hone, hdepth]
  congr 1
  · field_simp
  · field_simp

/-- **The image of a segment that is seen** is the segment between the images of its ends. -/
theorem image_segment (ha : (camera.project a).Visible) (hb : (camera.project b).Visible) :
    (fun c => (camera.project c).screen) '' Vec3.segment a b =
      Vec2.segment (camera.project a).screen (camera.project b).screen := by
  ext p
  constructor
  · rintro ⟨c, hc, rfl⟩
    exact screen_mem_segment ha hb hc
  · exact exists_of_mem_segment ha hb

/-- **A ray from the eye** is seen as one point. -/
theorem project_ray (hq : (camera.project q).Visible) (ht : 0 < t) :
    (camera.project (camera.position + (q - camera.position).scale t)).Visible ∧
      (camera.project (camera.position + (q - camera.position).scale t)).screen =
        (camera.project q).screen := by
  have hdepth : 0 < q.y - camera.position.y := visible_iff.1 hq
  have hoffset : camera.position + (q - camera.position).scale t - camera.position =
      (q - camera.position).scale t := by
    ext <;> simp [Vec3.scale]
  constructor
  · rw [visible_iff, project, hoffset]
    exact mul_pos hdepth ht
  · simp only [project, hoffset]
    simp only [Vec3.scale, Vec3.sub_x, Vec3.sub_y, Vec3.sub_z]
    ext
    · dsimp only
      field_simp
    · dsimp only
      field_simp

end Camera

/-! ## Drawn lines -/

/-- The place of a point of the screen on a surface of the given size. -/
noncomputable def Vec2.placed (size p : Vec2 ℝ) : Vec2 ℝ :=
  ⟨p.x + size.x / (2 : Nat), -p.y + size.y / (2 : Nat)⟩

theorem Vec2.image_placed_segment (size p q : Vec2 ℝ) :
    placed size '' segment p q = segment (placed size p) (placed size q) := by
  have hblend : ∀ {u v : ℝ}, u + v = 1 →
      placed size (blend p q u v) = blend (placed size p) (placed size q) u v := by
    intro u v hsum
    ext
    · simp only [placed, blend_x]
      linear_combination -(size.x / (2 : Nat)) * hsum
    · simp only [placed, blend_y]
      linear_combination -(size.y / (2 : Nat)) * hsum
  ext r
  constructor
  · rintro ⟨_, ⟨u, v, hu, hv, hsum, rfl⟩, rfl⟩
    exact ⟨u, v, hu, hv, hsum, hblend hsum⟩
  · rintro ⟨u, v, hu, hv, hsum, rfl⟩
    exact ⟨_, ⟨u, v, hu, hv, hsum, rfl⟩, hblend hsum⟩

theorem Renderer.segment_image {camera : Camera ℝ} {edge : Edge ℝ} (h : camera.Sees edge)
    (renderer : Renderer ℝ) (size : Vec2 ℝ) :
    Vec2.segment (renderer.image camera size edge).start (renderer.image camera size edge).stop =
      (fun c => (camera.project c).onSurface size.half) '' Vec3.segment edge.start edge.stop := by
  have himage := Vec2.image_placed_segment size (camera.project edge.start).screen
    (camera.project edge.stop).screen
  rw [← Camera.image_segment h.1 h.2, Set.image_image] at himage
  exact himage.symm

/-- **A drawn line is the image of its edge**, with any focal distance: all points of a visible
    edge are seen on its line, every point of the line is the image of one of them, and what lies
    on one ray from the eye is seen at one place. -/
theorem drawn_lines_are_images_of_edges (camera : Camera ℝ) :
    (∀ a b, (camera.project a).Visible → (camera.project b).Visible →
      (∀ c ∈ Vec3.segment a b, (camera.project c).Visible ∧ (camera.project c).screen ∈
        Vec2.segment (camera.project a).screen (camera.project b).screen) ∧
      ∀ p ∈ Vec2.segment (camera.project a).screen (camera.project b).screen,
        ∃ c ∈ Vec3.segment a b, (camera.project c).screen = p) ∧
    (∀ q, (camera.project q).Visible → ∀ t : ℝ, 0 < t →
      (camera.project (camera.position + (q - camera.position).scale t)).Visible ∧
        (camera.project (camera.position + (q - camera.position).scale t)).screen =
          (camera.project q).screen) ∧
    ∀ (renderer : Renderer ℝ) (shapes : List (Shape ℝ)) (b : LineBuffer ℝ),
      ∀ line ∈ (renderer.render shapes camera b).2.lines,
        ∃ edge ∈ Shape.allEdges shapes, camera.Sees edge ∧
          Vec2.segment line.start line.stop =
            (fun c => (camera.project c).onSurface b.size.half) ''
              Vec3.segment edge.start edge.stop := by
  refine ⟨?_, fun q hq t ht => Camera.project_ray hq ht, ?_⟩
  · intro a b ha hb
    refine ⟨fun c hc => ⟨Camera.visible_of_mem_segment ha hb hc, ?_⟩, ?_⟩
    · exact Camera.screen_mem_segment ha hb hc
    · exact fun p hp => Camera.exists_of_mem_segment ha hb hp
  · intro renderer shapes b line hline
    rw [Renderer.render_lineBuffer, Renderer.frame_eq] at hline
    obtain ⟨edge, hedge, rfl⟩ := List.mem_map.1 (List.mem_toArray.1 hline)
    obtain ⟨hmem, hsees⟩ := List.mem_filter.1 hedge
    have hsees := of_decide_eq_true hsees
    exact ⟨edge, hmem, hsees, Renderer.segment_image hsees renderer b.size⟩

theorem line_of_receding_edge_is_image :
    let camera : Camera ℝ := ⟨⟨0, -2000, 0⟩, 350⟩
    let a : Vec3 ℝ := ⟨0, 0, 0⟩
    let b : Vec3 ℝ := ⟨100, 2000, 50⟩
    let surface : LineBuffer ℝ := .empty ⟨800, 600⟩
    let line := (Renderer.mk 1).image camera surface.size ⟨a, b, "blue"⟩
    ((camera.project a).Visible ∧ (camera.project b).Visible) ∧
      line ∈ ((Renderer.mk 1).render [.line a b "blue"] camera surface).2.lines ∧
      Vec2.segment line.start line.stop =
        (fun c => (camera.project c).onSurface surface.size.half) '' Vec3.segment a b ∧
      (∃ c ∈ Vec3.segment a b, (camera.project c).screen =
        Vec2.blend (camera.project a).screen (camera.project b).screen (1 / 2) (1 / 2)) ∧
      (camera.project (camera.position + (b - camera.position).scale 2)).screen =
        (camera.project b).screen := by
  -- an edge that leads away from the camera, and a point behind its far end
  intro camera a b surface line
  have ha : (camera.project a).Visible := by
    rw [Camera.visible_iff]
    norm_num [camera, a, Camera.project]
  have hb : (camera.project b).Visible := by
    rw [Camera.visible_iff]
    norm_num [camera, b, Camera.project]
  have hline : line ∈ ((Renderer.mk 1).render [.line a b "blue"] camera surface).2.lines := by
    rw [Renderer.render_lineBuffer, Renderer.frame_eq]
    refine List.mem_toArray.2 (List.mem_map.2 ⟨⟨a, b, "blue"⟩, ?_, rfl⟩)
    exact List.mem_filter.2 ⟨List.mem_singleton.2 rfl, decide_eq_true ⟨ha, hb⟩⟩
  obtain ⟨hsegments, hrays, hlines⟩ := drawn_lines_are_images_of_edges camera
  obtain ⟨edge, hedge, -, himage⟩ := hlines _ _ _ line hline
  obtain rfl : edge = ⟨a, b, "blue"⟩ := List.mem_singleton.1 hedge
  refine ⟨⟨ha, hb⟩, hline, himage, ?_, (hrays b hb 2 (by norm_num)).2⟩
  exact (hsegments a b ha hb).2 _ ⟨1 / 2, 1 / 2, by norm_num, by norm_num, by norm_num, rfl⟩

end TurtleGraphics
