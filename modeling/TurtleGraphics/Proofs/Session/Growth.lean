/-
  Growth: programs only add to a drawing, and not too much.

  What is drawn by a command is known from the command, but for the moves that are dropped
  at the border and the pen.  A program draws what its applied commands draw, and these can
  be read from its reports.  So the reports are a bound for the growth of the drawing, and
  nothing that has been drawn before is ever taken away.

  * `Command.mostStrokes` is how much a command may draw, and `mostStrokes` how much is
    drawn at most, as some reports say;
  * `PlaneTurtle.draws`, `SpaceTurtle.draws`: a move that is made draws one line, if the pen
    is down;
  * `PlaneTurtle.DrawsFully`, `SpaceTurtle.DrawsFully`: what is needed for a command to draw
    as much as it may;
  * `PlaneTurtle.grows_apply`, `SpaceTurtle.grows_apply`: what an applied command draws;
  * `Entry.grows`: what entries draw, one after the other; `drawings_grow`: what programs
    draw.

  Nothing is known of numbers here.
-/
import TurtleGraphics.Proofs.Program.Invariants
import TurtleGraphics.Proofs.Session.Steering
import TurtleGraphics.Proofs.Session.Variants
import TurtleGraphics.Proofs.Turtle.Strokes

namespace TurtleGraphics

variable {σ α : Type}

/-! ## Bounds -/

/-- The most strokes of a command.  The bound for Sierpinski triangles depends on their
    level, and is not the same in the plane and in space. -/
def Command.mostStrokes (triangle : Nat → Nat) : Command α → Nat
  | forward _ | backward _ => 1
  | koch level _ => 3 * 4 ^ level.toNat
  | sierpinski level _ => triangle level.toNat
  | _ => 0

/-- The command of a report, read from its statement. -/
def Report.command? [Scalar α] (r : Report α) : Option (Command α) :=
  match segments r.statement with
  | [.single _ (.ok c)] => some c
  | _ => none

/-- The most strokes of what is applied of a program with the given reports. -/
def mostStrokes [Scalar α] (triangle : Nat → Nat) (reports : List (Report α)) : Nat :=
  (((appliedReports reports).filterMap Report.command?).map (Command.mostStrokes triangle)).sum

section

variable [Scalar α] (triangle : Nat → Nat) (text : String) (reports : List (Report α))

theorem mostStrokes_ignored (reason : Ignored α) :
    mostStrokes triangle (⟨text, .ignored reason⟩ :: reports) = mostStrokes triangle reports := rfl

theorem mostStrokes_applied {c : Command α} (hread : segments text = [.single text (.ok c)]) :
    mostStrokes triangle (⟨text, .applied⟩ :: reports) =
      c.mostStrokes triangle + mostStrokes triangle reports := by
  have hcommand : Report.command? ⟨text, .applied⟩ = some c := by
    simp only [Report.command?, hread]
  have happlied : appliedReports (⟨text, .applied⟩ :: reports) =
      ⟨text, .applied⟩ :: appliedReports reports := rfl
  rw [mostStrokes, happlied, List.filterMap_cons, hcommand]
  exact List.sum_cons

end

/-! ## The plane -/

namespace PlaneTurtle

variable [Scalar α] [Surface σ α]

/-- What it takes for an applied command to draw as much as it may: the pen is down for a
    single move, and no move of a fractal is dropped.  A fractal lowers the pen itself. -/
def DrawsFully (t : PlaneTurtle σ α) : Command α → Prop
  | .forward _ | .backward _ => t.penDown = true
  | .koch level length => Turtle.Unhindered (t, []) (Koch.planeSnowflake level.toNat length)
  | .sierpinski level side => Turtle.Unhindered (t, []) (Sierpinski.planeTriangle level.toNat side)
  | _ => True

variable [Recording σ]

/-- The lines on the surface of a turtle. -/
def drawn (t : PlaneTurtle σ α) : List (Line α) := (Recording.lines t.surface).toList

/-- **A move** draws one line if it is made with the pen down. -/
theorem grows_moveTo (t : PlaneTurtle σ α) (destination : Vec2 α) :
    (t.moveTo destination).2.penDown = t.penDown ∧
      Grows t.drawn (t.moveTo destination).2.drawn t.penDown.toNat
        ((t.moveTo destination).1 = .applied) := by
  rw [moveTo_eq]
  by_cases hinside : destination.StrictlyInside (Surface.size t.surface)
  · rw [if_pos hinside]
    refine ⟨rfl, ?_⟩
    rw [drawn, drawn, lines_movedTo]
    cases t.penDown with
    | false => simpa using Grows.refl _ _
    | true => exact .one _ _ _
  · rw [if_neg hinside]
    exact ⟨rfl, (Grows.refl t.drawn False).weaken (Nat.zero_le _) nofun⟩

theorem draws : Turtle.Draws (penDown : PlaneTurtle σ α → Bool) drawn where
  forward t _ := t.grows_moveTo _
  backward t _ := t.grows_moveTo _
  turnLeft _ _ := ⟨rfl, rfl⟩
  turnRight _ _ := ⟨rfl, rfl⟩
  liftPen _ := ⟨rfl, rfl⟩
  lowerPen _ := ⟨rfl, rfl⟩
  setPose _ _ := ⟨rfl, rfl⟩

/-- **An applied command** draws no more than its strokes. -/
theorem grows_apply {t : PlaneTurtle σ α} {c : Command α} (happlied : (t.apply c).1 = .applied) :
    Grows t.drawn (t.apply c).2.drawn (c.mostStrokes fun level => 3 ^ (level + 1) - 3)
      (t.DrawsFully c) := by
  cases c with
  | forward distance => exact (draws.forward t distance).2.of_made happlied
  | backward distance => exact (draws.backward t distance).2.of_made happlied
  | right | left | penUp | penDown => exact .refl _ _
  | setColor color =>
    change Grows t.drawn (t.setColor color).2.drawn 0 True
    unfold setColor
    split <;> exact .refl _ _
  | setWidth width =>
    change Grows t.drawn (t.setWidth width).2.drawn 0 True
    unfold setWidth
    split <;> exact .refl _ _
  | koch level length =>
    have hwalk := draws.walk t (Koch.planeSnowflake level.toNat length)
    rwa [Koch.strokes_planeSnowflake] at hwalk
  | sierpinski level side =>
    have hwalk := draws.walk t (Sierpinski.planeTriangle level.toNat side)
    rwa [Sierpinski.strokes_planeTriangle] at hwalk
  | up | down | clearScreen => exact .refl _ _

end PlaneTurtle

/-! ## Space -/

namespace SpaceTurtle

variable [Scalar α]

/-- What it takes for an applied command to draw as much as it may: the pen is down, and no
    move of a fractal is dropped. -/
def DrawsFully (t : SpaceTurtle α) : Command α → Prop
  | .forward _ | .backward _ => t.penDown = true
  | .koch level length =>
    t.penDown = true ∧ Turtle.Unhindered (t, []) (Koch.spaceSnowflake level.toNat length)
  | .sierpinski level side =>
    t.penDown = true ∧ Turtle.Unhindered (t, []) (Sierpinski.spaceTriangle level.toNat side)
  | _ => True

/-- Everything a turtle has drawn. -/
def drawn (t : SpaceTurtle α) : List (Shape α) := t.shapes.toList

theorem grows_moveTo (t : SpaceTurtle α) (destination : Vec3 α) :
    (t.moveTo destination).2.penDown = t.penDown ∧
      Grows t.drawn (t.moveTo destination).2.drawn t.penDown.toNat
        ((t.moveTo destination).1 = .applied) := by
  rw [moveTo_eq]
  by_cases hboard : OnBoard destination
  · rw [if_pos hboard]
    refine ⟨rfl, ?_⟩
    rw [drawn, drawn]
    dsimp only
    cases t.penDown with
    | false => exact .refl _ _
    | true =>
      rw [if_pos rfl, Array.toList_push]
      exact .one _ _ _
  · rw [if_neg hboard]
    exact ⟨rfl, (Grows.refl t.drawn False).weaken (Nat.zero_le _) nofun⟩

theorem draws : Turtle.Draws (penDown : SpaceTurtle α → Bool) drawn where
  forward t _ := t.grows_moveTo _
  backward t _ := t.grows_moveTo _
  turnLeft _ _ := ⟨rfl, rfl⟩
  turnRight _ _ := ⟨rfl, rfl⟩
  liftPen _ := ⟨rfl, rfl⟩
  lowerPen _ := ⟨rfl, rfl⟩
  setPose _ _ := ⟨rfl, rfl⟩

theorem grows_apply {t : SpaceTurtle α} {c : Command α} (hclear : c ≠ .clearScreen)
    (happlied : (t.apply c).1 = .applied) :
    Grows t.drawn (t.apply c).2.drawn (c.mostStrokes fun level => (3 ^ (level + 1) - 3) / 2)
      (t.DrawsFully c) := by
  cases c with
  | forward distance => exact (draws.forward t distance).2.of_made happlied
  | backward distance => exact (draws.backward t distance).2.of_made happlied
  | right | left | up | down | penUp | penDown => exact .refl _ _
  | setColor color =>
    change Grows t.drawn (t.setColor color).2.drawn 0 True
    unfold setColor
    split <;> exact .refl _ _
  | setWidth width =>
    change Grows t.drawn (t.setWidth width).2.drawn 0 True
    unfold setWidth
    split <;> exact .refl _ _
  | koch level length =>
    have hwalk := draws.walk t (Koch.spaceSnowflake level.toNat length)
    rw [Koch.strokes_spaceSnowflake] at hwalk
    exact hwalk.of_penDown
  | sierpinski level side =>
    have hwalk := draws.walk t (Sierpinski.spaceTriangle level.toNat side)
    rw [Sierpinski.strokes_spaceTriangle] at hwalk
    exact hwalk.of_penDown
  | clearScreen => exact absurd rfl hclear

end SpaceTurtle

/-! ## Entries -/

namespace Entry

variable {limits : Limits} {session : Session σ α}

/-- Whenever a command of some entries is applied, `P` is true of the state before it and of
    the command. -/
def WheneverApplied (limits : Limits) (session : Session σ α) (P : σ → Command α → Prop)
    (state : σ) (entries : List (Entry α)) : Prop :=
  ∀ before e after c, entries = before ++ e :: after → e.verdict limits = .ok c →
    let here := stateAfter limits session state before
    (session.apply here c).1 = .applied → P here c

theorem WheneverApplied.head {P : σ → Command α → Prop} {state : σ} {e : Entry α}
    {rest : List (Entry α)} (h : WheneverApplied limits session P state (e :: rest))
    {c : Command α} (hverdict : e.verdict limits = .ok c)
    (happlied : (session.apply state c).1 = .applied) : P state c :=
  h [] e rest c rfl hverdict happlied

theorem WheneverApplied.tail {P : σ → Command α → Prop} {state : σ} {e : Entry α}
    {rest : List (Entry α)} (h : WheneverApplied limits session P state (e :: rest)) :
    WheneverApplied limits session P (e.settle limits session state).2 rest := by
  rintro before e' after c rfl
  exact h (e :: before) e' after c rfl

/-- It is enough that `P` is true in the states that some invariant is true of. -/
theorem WheneverApplied.of_invariant {P : σ → Command α → Prop} (Inv : σ → Prop) {state : σ}
    {entries : List (Entry α)}
    (hkeeps : ∀ c ∈ limits.calls entries, ∀ s, Inv s → Inv (session.apply s c).2)
    (hP : ∀ c ∈ limits.calls entries, ∀ s, Inv s → P s c) (hstate : Inv state) :
    WheneverApplied limits session P state entries := by
  rintro before e after c rfl hverdict here -
  refine hP c (Limits.mem_calls_of_verdict (by simp) hverdict) here ?_
  refine stateAfter_induction (fun c hc => hkeeps c ?_) hstate
  simp only [Limits.calls, List.filterMap_append, List.filter_append]
  exact List.mem_append_left _ hc

theorem exists_apply_eq {state behind : σ} {e : Entry α}
    (hsettle : e.settle limits session state = (.applied, behind)) :
    ∃ c, e.verdict limits = .ok c ∧ session.apply state c = (.applied, behind) := by
  unfold settle at hsettle
  split at hsettle
  · exact ⟨_, ‹_›, hsettle⟩
  · cases hsettle

variable [Scalar α]

theorem segments_text {program : String} {e : Entry α} {c : Command α}
    (he : e ∈ Statement.unrollAll limits 1 (parse limits.repeatDepth program))
    (hverdict : e.verdict limits = .ok c) : segments e.text = [.single e.text (.ok c)] := by
  obtain ⟨ws, hread⟩ := exists_readable he (verdict_eq_ok.1 hverdict).1
  have hsegments : segments (joinWords ws) = [.single e.text (.ok c)] := by
    rw [segments_eq_filterMap, ← wordLists_eq, wordLists_joinWords hread.normal,
      List.filterMap_cons, hread.segment]
    rfl
  rwa [← hread.text] at hsegments

/-- **Entries** draw no more than the strokes of what is applied of them, and as much if every
    applied command does so. -/
theorem grows {β : Type} (hatomic : session.Atomic) {trace : σ → List β} {triangle : Nat → Nat}
    {Full : σ → Command α → Prop} : ∀ {entries : List (Entry α)} (state : σ),
    (∀ e ∈ entries, ∀ c, e.verdict limits = .ok c → segments e.text = [.single e.text (.ok c)]) →
    (∀ c ∈ limits.calls entries, ∀ s, (session.apply s c).1 = .applied →
      Grows (trace s) (trace (session.apply s c).2) (c.mostStrokes triangle) (Full s c)) →
    Grows (trace state) (trace (stateAfter limits session state entries))
      (mostStrokes triangle (reportsOn limits session state entries))
      (WheneverApplied limits session Full state entries)
  | [], state, _, _ => .refl _ _
  | e :: rest, state, htexts, happly => by
    rw [Limits.calls_cons] at happly
    have hrest := grows hatomic (e.settle limits session state).2
      (fun e he => htexts e (List.mem_cons_of_mem _ he))
      fun c hc => happly c (List.mem_append_right _ hc)
    rw [stateAfter_cons, reportsOn_cons]
    rcases hsettle : e.settle limits session state with ⟨outcome, behind⟩
    rw [hsettle] at hrest
    cases outcome with
    | ignored reason =>
      obtain rfl := settle_of_ignored hatomic hsettle
      rw [mostStrokes_ignored]
      refine hrest.weaken (Nat.le_refl _) fun hfull => ⟨?_, rfl⟩
      have htail := hfull.tail
      rwa [hsettle] at htail
    | applied =>
      obtain ⟨c, hverdict, hcommand⟩ := exists_apply_eq hsettle
      have happlied : (session.apply state c).1 = .applied := congrArg Prod.fst hcommand
      -- what the entry draws, and then what the rest draws
      have hone := happly c (by simp [hverdict, Except.toOption]) state happlied
      rw [hcommand] at hone
      rw [mostStrokes_applied triangle e.text _ (htexts e (List.mem_cons_self ..) c hverdict)]
      refine (hone.trans hrest).weaken (Nat.le_refl _) fun hfull => ⟨⟨?_, ?_⟩, rfl⟩
      · exact hfull.head hverdict happlied
      · have htail := hfull.tail
        rwa [hsettle] at htail

end Entry

/-! ## Runs -/

variable [Scalar α]

/-- Whenever a command is applied in a run of a program, `P` is true of the state before it and
    of the command. -/
def Limits.WheneverApplied (limits : Limits) (session : Session σ α) (P : σ → Command α → Prop)
    (program : String) (state : σ) : Prop :=
  Entry.WheneverApplied limits session P state
    (Statement.unrollAll limits 1 (parse limits.repeatDepth program))

/-- **A program** draws no more than the strokes of its applied commands. -/
theorem Limits.grows_run {β : Type} {limits : Limits} {session : Session σ α} {program : String}
    (hatomic : session.Atomic) (trace : σ → List β) {triangle : Nat → Nat}
    {Full : σ → Command α → Prop} (hfinish : ∀ s, trace (session.finish s) = trace s)
    (happly : ∀ c ∈ limits.commandsOf program, ∀ s, (session.apply s c).1 = .applied →
      Grows (trace s) (trace (session.apply s c).2) (c.mostStrokes triangle) (Full s c))
    (state : σ) :
    let done := limits.run session program state
    Grows (trace state) (trace done.2) (mostStrokes triangle done.1)
      (limits.WheneverApplied session Full program state) := by
  intro done
  have hrun : done = _ := limits.run_eq session program state
  rw [hrun, hfinish]
  exact Entry.grows hatomic state (fun e he c => Entry.segments_text he) happly

/-- **Drawings grow with the program, and by no more than it says.**  The lines on the surface
    of a turtle of the plane before a run of a program are the first ones behind it.  The
    applied reports are a bound for the new ones: 1 for a move, `3 * 4 ^ n` for a snowflake of
    level `n`, `3 ^ (n + 1) - 3` for a triangle.  There are just as many if the pen is down at
    each move that is applied, and no move of an applied fractal is dropped.  If a program
    does not clear the screen, then so it is with the shapes of the turtle of a scene, but a
    triangle has half as many, and the pen has to be down at applied fractals, too. -/
theorem drawings_grow (limits : Limits) (program : String) :
    (∀ {σ : Type} [Surface σ α] [Recording σ] (t : PlaneTurtle σ α),
      let done := limits.run PlaneTurtle.session program t
      let most := mostStrokes (fun level => 3 ^ (level + 1) - 3) done.1
      ∃ drawn, (Recording.lines done.2.surface).toList =
          (Recording.lines t.surface).toList ++ drawn ∧
        drawn.length ≤ most ∧
        (limits.WheneverApplied PlaneTurtle.session PlaneTurtle.DrawsFully program t →
          drawn.length = most)) ∧
    ∀ {σ : Type} [Surface σ α] {s : Scene σ α},
      .apply .clearScreen ∉ (limits.run Scene.session.logged program (s, [])).2.2 →
        let done := limits.run Scene.session program s
        let most := mostStrokes (fun level => (3 ^ (level + 1) - 3) / 2) done.1
        ∃ drawn, done.2.turtle.shapes.toList = s.turtle.shapes.toList ++ drawn ∧
          drawn.length ≤ most ∧
          (limits.WheneverApplied Scene.session (fun s => s.turtle.DrawsFully) program s →
            drawn.length = most) := by
  refine ⟨?_, ?_⟩
  · intro σ _ _ t
    exact Limits.grows_run PlaneTurtle.session_atomic PlaneTurtle.drawn (fun _ => rfl)
      (fun _ _ _ happlied => PlaneTurtle.grows_apply happlied) t
  · intro σ _ s hclear
    rw [limits.apply_mem_log] at hclear
    refine Limits.grows_run Scene.session_atomic (fun s => s.turtle.drawn) (fun _ => rfl) ?_ s
    intro c hc s happlied
    have hne : c ≠ .clearScreen := fun heq => hclear (heq ▸ hc)
    rw [Scene.outcome_apply] at happlied
    rw [Scene.apply_turtle]
    exact SpaceTurtle.grows_apply hne happlied

/-- A program whose moves draw one line each, in the plane and in space, as far as they are
    applied, besides statements that are refused. -/
theorem drawings_grow_with_pen_down :
    let program := "repeat 4; FD 400; rt 90; end; bk 3; koch 9 30; fd x"
    let limits : Limits := .standard
    let t : PlaneTurtle (LineBuffer Float) Float := .start (.empty ⟨500, 400⟩) 250 .initial
    let s : Scene (LineBuffer Float) Float := .start (.empty ⟨800, 600⟩) 350
    let done := limits.run PlaneTurtle.session program t
    let seen := limits.run Scene.session program s
    limits.WheneverApplied PlaneTurtle.session PlaneTurtle.DrawsFully program t ∧
      .apply .clearScreen ∉ (limits.run Scene.session.logged program (s, [])).2.2 ∧
      limits.WheneverApplied Scene.session (fun s => s.turtle.DrawsFully) program s ∧
      (∃ drawn, done.2.surface.lines.toList = [] ++ drawn ∧
        drawn.length = mostStrokes (fun level => 3 ^ (level + 1) - 3) done.1) ∧
      ∃ drawn, seen.2.turtle.shapes.toList = [] ++ drawn ∧
        drawn.length = mostStrokes (fun level => (3 ^ (level + 1) - 3) / 2) seen.1 := by
  intro program limits t s done seen
  have hkeywords : ∀ c ∈ (limits.commandsOf program : List (Command Float)),
      c.keyword ∈ [.forward, .right, .backward] := by decide +kernel
  have hcommands : ∀ c ∈ (limits.commandsOf program : List (Command Float)),
      ∃ value, c = .forward value ∨ c = .right value ∨ c = .backward value := by
    intro c hc
    have hkeyword := hkeywords c hc
    cases c <;> simp [Command.keyword] at hkeyword ⊢
  have hplane : limits.WheneverApplied PlaneTurtle.session PlaneTurtle.DrawsFully program t := by
    refine .of_invariant (fun t => t.penDown = true) ?_ ?_ rfl
    · intro c hc t hpen
      obtain ⟨value, rfl | rfl | rfl⟩ := hcommands c hc
      · exact (PlaneTurtle.draws.forward t value).1.trans hpen
      · exact hpen
      · exact (PlaneTurtle.draws.backward t value).1.trans hpen
    · intro c hc t hpen
      obtain ⟨value, rfl | rfl | rfl⟩ := hcommands c hc
      · exact hpen
      · trivial
      · exact hpen
  have hclear : .apply .clearScreen ∉ (limits.run Scene.session.logged program (s, [])).2.2 := by
    rw [limits.apply_mem_log]
    intro hmem
    obtain ⟨value, h | h | h⟩ := hcommands _ hmem <;> cases h
  have hspace : limits.WheneverApplied Scene.session (fun s => s.turtle.DrawsFully) program s := by
    refine .of_invariant (fun s => s.turtle.penDown = true) ?_ ?_ rfl
    · intro c hc s hpen
      obtain ⟨value, rfl | rfl | rfl⟩ := hcommands c hc
      · exact (SpaceTurtle.draws.forward s.turtle value).1.trans hpen
      · exact hpen
      · exact (SpaceTurtle.draws.backward s.turtle value).1.trans hpen
    · intro c hc s hpen
      obtain ⟨value, rfl | rfl | rfl⟩ := hcommands c hc
      · exact hpen
      · trivial
      · exact hpen
  obtain ⟨drawn, hdrawn, -, hlength⟩ := (drawings_grow limits program).1 t
  obtain ⟨shapes, hshapes, -, hnumber⟩ := (drawings_grow limits program).2 hclear
  exact ⟨hplane, hclear, hspace, ⟨drawn, hdrawn, hlength hplane⟩, shapes, hshapes, hnumber hspace⟩

end TurtleGraphics
