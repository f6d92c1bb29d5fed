/-
  Retracing: every walk can be undone.

  Turtles that go back the way they came, with every command replaced by the opposite one,
  pass through the poses they have been in.  A pose they have been in is on the board, so
  no move is dropped on the way back.

  * `Command.opposite` exchanges fd and bk, rt and lt, ut and dt; `Command.wayBack` is the
    way back from a walk;
  * `Session.retrace`: if each step can be undone, then so can all of them;
  * `Mirrored`: a trace that grows by some lines, and then by the same ones, reversed;
  * `PlaneTurtle.Returned`, `SpaceTurtle.Returned`: a turtle that is back where another one
    is, and has drawn the same lines there and back;
    `PlaneTurtle.Returned.apply`, `SpaceTurtle.Returned.apply`: it goes one command further
    back;
  * `walks_can_be_undone`: what it makes of every walk.

  The numbers are real here.
-/
import TurtleGraphics.Proofs.Geometry.Angles
import TurtleGraphics.Proofs.Session.Pipeline
import TurtleGraphics.Proofs.Session.Steering

namespace TurtleGraphics

/-! ## Commands -/

/-- The keywords of commands that move or turn a turtle. -/
def Keyword.IsMotion : Keyword → Prop
  | forward | backward | right | left | up | down => True
  | _ => False

instance (keyword : Keyword) : Decidable keyword.IsMotion := by
  unfold Keyword.IsMotion
  split <;> infer_instance

namespace Command

variable {α : Type}

/-- The command that undoes a move or a turn. -/
def opposite : Command α → Command α
  | forward distance => backward distance
  | backward distance => forward distance
  | right degrees => left degrees
  | left degrees => right degrees
  | up degrees => down degrees
  | down degrees => up degrees
  | command => command

/-- The way back from a walk: the opposite commands, the last one first. -/
def wayBack (commands : List (Command α)) : List (Command α) := commands.reverse.map opposite

theorem wayBack_cons (c : Command α) (rest : List (Command α)) :
    wayBack (c :: rest) = wayBack rest ++ [c.opposite] := by
  simp [wayBack]

end Command

/-! ## Sessions -/

namespace Session

variable {σ α : Type} (session : Session σ α)

/-- The state of a session behind some commands. -/
def after (state : σ) (commands : List (Command α)) : σ :=
  commands.foldl (fun state c => (session.apply state c).2) state

/-- All of the commands are applied, one after the other. -/
def AppliesAll (state : σ) : List (Command α) → Prop
  | [] => True
  | c :: rest => (session.apply state c).1 = .applied ∧ AppliesAll (session.apply state c).2 rest

theorem after_append (state : σ) (first second : List (Command α)) :
    session.after state (first ++ second) = session.after (session.after state first) second :=
  List.foldl_append

theorem appliesAll_append (state : σ) (first second : List (Command α)) :
    session.AppliesAll state (first ++ second) ↔
      session.AppliesAll state first ∧ session.AppliesAll (session.after state first) second := by
  induction first generalizing state with
  | nil => simp [AppliesAll, after]
  | cons c rest ih =>
    rw [List.cons_append, AppliesAll, ih, AppliesAll, and_assoc]
    rfl

/-- **Retracing one's steps.**  `Back s s'` says that the session is back in `s` when its
    state is `s'`.  If this is so at the end of a walk, and each step of it can be undone,
    then the way back leads to where the walk began. -/
theorem retrace {session : Session σ α} (Inv : σ → Prop) (Back : σ → σ → Prop)
    {walk : List (Command α)} {s : σ}
    (hkeeps : ∀ c ∈ walk, ∀ s, Inv s → Inv (session.apply s c).2)
    (hundo : ∀ c ∈ walk, ∀ s s', Inv s → (session.apply s c).1 = .applied →
      Back (session.apply s c).2 s' →
        (session.apply s' c.opposite).1 = .applied ∧ Back s (session.apply s' c.opposite).2)
    (hs : Inv s) (happlied : session.AppliesAll s walk)
    (hend : Back (session.after s walk) (session.after s walk)) :
    session.AppliesAll (session.after s walk) (Command.wayBack walk) ∧
      Back s (session.after (session.after s walk) (Command.wayBack walk)) := by
  induction walk generalizing s with
  | nil => exact ⟨trivial, hend⟩
  | cons c rest ih =>
    obtain ⟨hone, hrest⟩ := happlied
    -- back at the end of the first step, behind the way back from the others
    obtain ⟨hback, hbehind⟩ := ih (fun c hc => hkeeps c (List.mem_cons_of_mem _ hc))
      (fun c hc => hundo c (List.mem_cons_of_mem _ hc))
      (hkeeps c (List.mem_cons_self ..) s hs) hrest hend
    obtain ⟨hlast, hstart⟩ := hundo c (List.mem_cons_self ..) s _ hs hone hbehind
    rw [Command.wayBack_cons, appliesAll_append, after_append]
    exact ⟨⟨hback, hlast, trivial⟩, hstart⟩

end Session

/-! ## Traces -/

/-- A trace that was `before`, has grown to `turn`, and then once more by what had been
    added, in reverse order and every item flipped. -/
def Mirrored {β : Type} (flip : β → β) (before turn back : List β) : Prop :=
  ∃ drawn, turn = before ++ drawn ∧ back = turn ++ (drawn.map flip).reverse

namespace Mirrored

variable {β : Type} {flip : β → β} {before turn back : List β}

theorem refl (flip : β → β) (turn : List β) : Mirrored flip turn turn turn :=
  ⟨[], (List.append_nil _).symm, (List.append_nil _).symm⟩

theorem extend {item : β} (h : Mirrored flip (before ++ [item]) turn back) :
    Mirrored flip before turn (back ++ [flip item]) := by
  obtain ⟨drawn, hturn, hback⟩ := h
  exact ⟨item :: drawn, by simp [hturn], by simp [hback]⟩

end Mirrored

/-! ## Points -/

theorem Vec2.add_sub_cancel (p q : Vec2 ℝ) : p + q - q = p := by
  ext <;> simp

theorem Vec2.sub_add_cancel (p q : Vec2 ℝ) : p - q + q = p := by
  ext <;> simp

theorem Vec3.add_sub_cancel (p q : Vec3 ℝ) : p + q - q = p := by
  ext <;> simp

theorem Vec3.sub_add_cancel (p q : Vec3 ℝ) : p - q + q = p := by
  ext <;> simp

/-! ## The plane -/

/-- The line with its end points exchanged. -/
def Line.flip {α : Type} (line : Line α) : Line α := ⟨line.stop, line.start, line.stroke⟩

namespace PlaneTurtle

variable {σ : Type} [Surface σ ℝ]

/-- A turtle of the plane where a walk may begin. -/
structure Ready (t : PlaneTurtle σ ℝ) : Prop where
  inside : t.position.StrictlyInside (Surface.size t.surface)
  heading : t.heading ∈ Set.Ico (0 : ℝ) 360

variable [Recording σ]

namespace Ready

variable {t : PlaneTurtle σ ℝ}

theorem moveTo (h : t.Ready) (destination : Vec2 ℝ) : (t.moveTo destination).2.Ready := by
  obtain hstopped | ⟨hinside, hmoved⟩ := t.moveTo_cases destination
  · rwa [hstopped]
  · rw [hmoved]
    exact ⟨(size_movedTo t destination).symm ▸ hinside, h.heading⟩

theorem apply (h : t.Ready) {c : Command ℝ} (hmotion : c.keyword.IsMotion) :
    (t.apply c).2.Ready := by
  cases c with
  | forward | backward => exact h.moveTo _
  | right | left => exact ⟨h.inside, wrapHeading_mem _⟩
  | up | down => exact h
  | penUp | penDown | setColor | setWidth | koch | sierpinski | clearScreen => exact hmotion.elim

end Ready

/-- A turtle that is back where it was as `t`, and has drawn the same lines there and back;
    `turn` were the lines where it turned around. -/
structure Returned (turn : List (Line ℝ)) (t back : PlaneTurtle σ ℝ) : Prop
    extends t.Matched (· = ·) back where
  penDown : t.penDown = back.penDown
  lines : Mirrored Line.flip (Recording.lines t.surface).toList turn
    (Recording.lines back.surface).toList

namespace Returned

variable {turn : List (Line ℝ)} {t back : PlaneTurtle σ ℝ}

theorem refl (t : PlaneTurtle σ ℝ) : Returned (Recording.lines t.surface).toList t t :=
  ⟨⟨⟨rfl, rfl, rfl, rfl⟩, rfl⟩, rfl, .refl Line.flip _⟩

/-- **The way back from a point** that the turtle has moved to.  It ends where the turtle
    has been, and so inside the surface. -/
theorem moveTo {destination home : Vec2 ℝ} (ht : t.Ready)
    (happlied : (t.moveTo destination).1 = .applied)
    (h : (t.moveTo destination).2.Returned turn back)
    (hhome : back.position = destination →
      (∀ distance, back.displacement distance = t.displacement distance) → home = t.position) :
    (back.moveTo home).1 = .applied ∧ t.Returned turn (back.moveTo home).2 := by
  obtain hstopped | ⟨-, hmoved⟩ := t.moveTo_cases destination
  · rw [hstopped] at happlied
    cases happlied
  rw [hmoved] at h
  change (t.movedTo destination).Returned turn back at h
  have hposition : back.position = destination := h.position.symm
  obtain rfl := hhome hposition fun distance => (h.toAbreast.displacement distance).symm
  have hsize : Surface.size t.surface = Surface.size back.surface :=
    (size_movedTo t destination).symm.trans h.size
  rw [moveTo_eq, if_pos (hsize ▸ ht.inside)]
  refine ⟨rfl, ⟨⟨rfl, h.heading, h.unit, ?_⟩, h.stroke⟩, h.penDown, ?_⟩
  · rw [size_movedTo, hsize]
  · -- the line back, if there is one, starts at the destination
    have hpen : back.penDown = t.penDown := h.penDown.symm
    have hstroke : back.stroke = t.stroke := h.stroke.symm
    have hlines := h.lines
    rw [lines_movedTo] at hlines ⊢
    rw [hpen, hposition, hstroke]
    cases hdown : t.penDown with
    | false => simpa [hdown] using hlines
    | true =>
      rw [hdown] at hlines
      exact hlines.extend

theorem turned {away home : ℝ} (h : { t with heading := away }.Returned turn back)
    (hhome : home = t.heading) : t.Returned turn { back with heading := home } :=
  ⟨⟨⟨h.position, hhome.symm, h.unit, h.size⟩, h.stroke⟩, h.penDown, h.lines⟩

theorem apply {c : Command ℝ} (ht : t.Ready) (hmotion : c.keyword.IsMotion)
    (happlied : (t.apply c).1 = .applied) (h : (t.apply c).2.Returned turn back) :
    (back.apply c.opposite).1 = .applied ∧ t.Returned turn (back.apply c.opposite).2 := by
  cases c with
  | forward distance =>
    refine moveTo ht happlied h fun hposition hdisplacement => ?_
    rw [hposition, hdisplacement]
    exact Vec2.add_sub_cancel t.position (t.displacement distance)
  | backward distance =>
    refine moveTo ht happlied h fun hposition hdisplacement => ?_
    rw [hposition, hdisplacement]
    exact Vec2.sub_add_cancel t.position (t.displacement distance)
  | right degrees =>
    refine ⟨rfl, turned h ?_⟩
    rw [← h.heading]
    exact wrapHeading_add_sub ht.heading degrees
  | left degrees =>
    refine ⟨rfl, turned h ?_⟩
    rw [← h.heading]
    exact wrapHeading_sub_add ht.heading degrees
  | up | down => cases happlied
  | penUp | penDown | setColor | setWidth | koch | sierpinski | clearScreen => exact hmotion.elim

end Returned

end PlaneTurtle

/-! ## Space -/

/-- The shape with its vertices in reverse order. -/
def Shape.flip {α : Type} (shape : Shape α) : Shape α :=
  { shape with vertices := shape.vertices.reverse }

theorem Shape.flip_line {α : Type} [Scalar α] (p q : Vec3 α) (color : String) :
    (line p q color).flip = line q p color := by
  simp [flip, line]

namespace SpaceTurtle

/-- A turtle of space where a walk may begin. -/
structure Ready (t : SpaceTurtle ℝ) : Prop where
  inside : OnBoard t.position
  yaw : t.yaw ∈ Set.Ico (0 : ℝ) 360
  pitch : t.pitch ∈ Set.Ico (-180 : ℝ) 180

namespace Ready

variable {t : SpaceTurtle ℝ}

theorem moveTo (h : t.Ready) (destination : Vec3 ℝ) : (t.moveTo destination).2.Ready := by
  obtain hstopped | ⟨hinside, hmoved⟩ := t.moveTo_cases destination
  · rwa [hstopped]
  · rw [hmoved]
    exact ⟨hinside, h.yaw, h.pitch⟩

theorem apply (h : t.Ready) {c : Command ℝ} (hmotion : c.keyword.IsMotion) :
    (t.apply c).2.Ready := by
  cases c with
  | forward | backward => exact h.moveTo _
  | right | left => exact ⟨h.inside, wrapHeading_mem _, h.pitch⟩
  | up | down => exact ⟨h.inside, h.yaw, wrapPitch_mem _⟩
  | penUp | penDown | setColor | setWidth | koch | sierpinski | clearScreen => exact hmotion.elim

end Ready

/-- A turtle that is back where it was as `t`, and has drawn the same lines there and back;
    `turn` were the shapes where it turned around. -/
structure Returned (turn : List (Shape ℝ)) (t back : SpaceTurtle ℝ) : Prop where
  abreast : t.Abreast back
  penDown : t.penDown = back.penDown
  color : t.color = back.color
  thickness : t.thickness = back.thickness
  shapes : Mirrored Shape.flip t.shapes.toList turn back.shapes.toList

namespace Returned

variable {turn : List (Shape ℝ)} {t back : SpaceTurtle ℝ}

theorem refl (t : SpaceTurtle ℝ) : Returned t.shapes.toList t t :=
  ⟨rfl, rfl, rfl, rfl, .refl Shape.flip _⟩

/-- **The way back from a point** that the turtle has moved to.  It ends where the turtle
    has been, and so on the board. -/
theorem moveTo {destination home : Vec3 ℝ} (ht : t.Ready)
    (happlied : (t.moveTo destination).1 = .applied)
    (h : (t.moveTo destination).2.Returned turn back)
    (hhome : back.position = destination →
      (∀ distance, back.displacement distance = t.displacement distance) → home = t.position) :
    (back.moveTo home).1 = .applied ∧ t.Returned turn (back.moveTo home).2 := by
  obtain hstopped | ⟨-, hmoved⟩ := t.moveTo_cases destination
  · rw [hstopped] at happlied
    cases happlied
  rw [hmoved] at h
  obtain ⟨hposition, hyaw, hpitch⟩ := abreast_iff.1 h.abreast
  obtain rfl := hhome hposition.symm fun distance => (h.abreast.displacement distance).symm
  rw [moveTo_eq, if_pos ht.inside]
  refine ⟨rfl, abreast_iff.2 ⟨rfl, hyaw, hpitch⟩, h.penDown, h.color, h.thickness, ?_⟩
  -- the line back, if there is one, starts at the destination
  have hpen : back.penDown = t.penDown := h.penDown.symm
  have hcolor : back.color = t.color := h.color.symm
  have hshapes := h.shapes
  dsimp only at hposition hshapes ⊢
  rw [hpen, ← hposition, hcolor]
  cases hdown : t.penDown with
  | false => simpa [hdown] using hshapes
  | true =>
    simp only [hdown, if_true, Array.toList_push] at hshapes ⊢
    rw [← Shape.flip_line]
    exact hshapes.extend

theorem turned {yaw pitch homeYaw homePitch : ℝ}
    (h : { t with yaw, pitch }.Returned turn back)
    (hyaw : homeYaw = t.yaw) (hpitch : homePitch = t.pitch) :
    t.Returned turn { back with yaw := homeYaw, pitch := homePitch } :=
  ⟨abreast_iff.2 ⟨(abreast_iff.1 h.abreast).1, hyaw.symm, hpitch.symm⟩, h.penDown, h.color,
    h.thickness, h.shapes⟩

theorem apply {c : Command ℝ} (ht : t.Ready) (hmotion : c.keyword.IsMotion)
    (happlied : (t.apply c).1 = .applied) (h : (t.apply c).2.Returned turn back) :
    (back.apply c.opposite).1 = .applied ∧ t.Returned turn (back.apply c.opposite).2 := by
  obtain ⟨-, hyaw, hpitch⟩ := abreast_iff.1 h.abreast
  cases c with
  | forward distance =>
    refine moveTo ht happlied h fun hposition hdisplacement => ?_
    rw [hposition, hdisplacement]
    exact Vec3.add_sub_cancel t.position (t.displacement distance)
  | backward distance =>
    refine moveTo ht happlied h fun hposition hdisplacement => ?_
    rw [hposition, hdisplacement]
    exact Vec3.sub_add_cancel t.position (t.displacement distance)
  | right degrees =>
    refine ⟨rfl, turned h ?_ hpitch.symm⟩
    rw [← hyaw]
    exact wrapHeading_add_sub ht.yaw degrees
  | left degrees =>
    refine ⟨rfl, turned h ?_ hpitch.symm⟩
    rw [← hyaw]
    exact wrapHeading_sub_add ht.yaw degrees
  | up degrees =>
    refine ⟨rfl, turned h hyaw.symm ?_⟩
    rw [← hpitch]
    exact wrapPitch_add_sub ht.pitch degrees
  | down degrees =>
    refine ⟨rfl, turned h hyaw.symm ?_⟩
    rw [← hpitch]
    exact wrapPitch_sub_add ht.pitch degrees
  | penUp | penDown | setColor | setWidth | koch | sierpinski | clearScreen => exact hmotion.elim

end Returned

end SpaceTurtle

/-! ## Walks -/

/-- **Every walk can be undone.**  From any place on its board, and with angles in their
    ranges, a turtle of the plane or of space may be given any moves and turns.  If all of
    them are applied, then so are the opposite ones, in reverse order, and they lead back to
    the position and the heading at the start.  The lines of the way back are those of the
    way out, in reverse order and with end points exchanged. -/
theorem walks_can_be_undone {walk : List (Command ℝ)} (hwalk : ∀ c ∈ walk, c.keyword.IsMotion) :
    (∀ {σ : Type} [Surface σ ℝ] [Recording σ] {t : PlaneTurtle σ ℝ}, t.Ready →
      PlaneTurtle.session.AppliesAll t walk →
        let away := PlaneTurtle.session.after t walk
        let back := PlaneTurtle.session.after away (Command.wayBack walk)
        PlaneTurtle.session.AppliesAll away (Command.wayBack walk) ∧ back.pose = t.pose ∧
          Mirrored Line.flip (Recording.lines t.surface).toList
            (Recording.lines away.surface).toList (Recording.lines back.surface).toList) ∧
    ∀ {t : SpaceTurtle ℝ}, t.Ready → SpaceTurtle.session.AppliesAll t walk →
      let away := SpaceTurtle.session.after t walk
      let back := SpaceTurtle.session.after away (Command.wayBack walk)
      SpaceTurtle.session.AppliesAll away (Command.wayBack walk) ∧ back.pose = t.pose ∧
        Mirrored Shape.flip t.shapes.toList away.shapes.toList back.shapes.toList := by
  constructor
  · intro σ _ _ t ht happlied away back
    obtain ⟨hback, hreturned⟩ := Session.retrace PlaneTurtle.Ready
      (PlaneTurtle.Returned (Recording.lines away.surface).toList)
      (fun c hc _ ht => ht.apply (hwalk c hc))
      (fun c hc _ _ ht => PlaneTurtle.Returned.apply ht (hwalk c hc)) ht happlied (.refl away)
    exact ⟨hback, congrArg₂ PlanePose.mk hreturned.position.symm hreturned.heading.symm,
      hreturned.lines⟩
  · intro t ht happlied away back
    obtain ⟨hback, hreturned⟩ := Session.retrace SpaceTurtle.Ready
      (SpaceTurtle.Returned away.shapes.toList)
      (fun c hc _ ht => ht.apply (hwalk c hc))
      (fun c hc _ _ ht => SpaceTurtle.Returned.apply ht (hwalk c hc)) ht happlied (.refl away)
    exact ⟨hback, hreturned.abreast.symm, hreturned.shapes⟩

/-- A walk that turns through more than a full turn and goes back over its own line, and one
    in space that turns over. -/
theorem walks_undone_across_turns :
    let walk : List (Command ℝ) := [.forward 10, .right 720, .backward 30, .left 450]
    let climb : List (Command ℝ) := [.backward 1000, .up 200, .down 560, .right 10]
    let t : PlaneTurtle (LineBuffer ℝ) ℝ := .start (.empty ⟨500, 400⟩) 250 .initial
    let away := PlaneTurtle.session.after t walk
    let back := PlaneTurtle.session.after away (Command.wayBack walk)
    let away' := SpaceTurtle.session.after (.initial : SpaceTurtle ℝ) climb
    let back' := SpaceTurtle.session.after away' (Command.wayBack climb)
    ((∀ c ∈ walk, c.keyword.IsMotion) ∧ t.Ready ∧ PlaneTurtle.session.AppliesAll t walk) ∧
      ((∀ c ∈ climb, c.keyword.IsMotion) ∧ (.initial : SpaceTurtle ℝ).Ready ∧
        SpaceTurtle.session.AppliesAll (.initial : SpaceTurtle ℝ) climb) ∧
      (PlaneTurtle.session.AppliesAll away (Command.wayBack walk) ∧ back.pose = t.pose ∧
        Mirrored Line.flip t.surface.lines.toList away.surface.lines.toList
          back.surface.lines.toList) ∧
      SpaceTurtle.session.AppliesAll away' (Command.wayBack climb) ∧
      back'.pose = SpaceTurtle.initial.pose ∧
      Mirrored Shape.flip [] away'.shapes.toList back'.shapes.toList := by
  intro walk climb t away back away' back'
  have hfull : wrapHeading (720 : ℝ) = 0 := by
    rw [wrapHeading_eq, toIcoMod_eq_iff]
    exact ⟨by norm_num, 2, by norm_num⟩
  have hwalk : ∀ c ∈ walk, c.keyword.IsMotion := by simp [walk, Command.keyword, Keyword.IsMotion]
  have hclimb : ∀ c ∈ climb, c.keyword.IsMotion := by
    simp [climb, Command.keyword, Keyword.IsMotion]
  have ht : t.Ready := by
    constructor <;> norm_num [t, PlaneTurtle.start, Vec2.StrictlyInside, Vec2.half, Surface.size,
      LineBuffer.empty]
  have hinitial : (.initial : SpaceTurtle ℝ).Ready := by
    constructor <;> norm_num [SpaceTurtle.initial, SpaceTurtle.OnBoard, SpaceTurtle.WithinExtent,
      Vec3.zero, Vec3.splat]
  have happlied : PlaneTurtle.session.AppliesAll t walk := by
    simp only [walk, Session.AppliesAll, PlaneTurtle.session, PlaneTurtle.apply, Turtle.forward,
      Turtle.backward, Turtle.turnRight]
    norm_num [t, PlaneTurtle.start, PlaneTurtle.moveTo, PlaneTurtle.turnRight, hfull,
      PlaneTurtle.displacement, toRadians, Vec2.StrictlyInside, Vec2.scale, Vec2.half, Surface.size,
      Surface.draw, LineBuffer.empty]
  have hclimbed : SpaceTurtle.session.AppliesAll (.initial : SpaceTurtle ℝ) climb := by
    simp only [climb, Session.AppliesAll, SpaceTurtle.session, SpaceTurtle.apply, Turtle.backward]
    norm_num [SpaceTurtle.initial, SpaceTurtle.moveTo, SpaceTurtle.displacement, toRadians,
      SpaceTurtle.OnBoard, SpaceTurtle.WithinExtent, Vec3.scale, Vec3.zero, Vec3.splat]
  exact ⟨⟨hwalk, ht, happlied⟩, ⟨hclimb, hinitial, hclimbed⟩,
    (walks_can_be_undone hwalk).1 ht happlied, (walks_can_be_undone hclimb).2 hinitial hclimbed⟩

end TurtleGraphics
