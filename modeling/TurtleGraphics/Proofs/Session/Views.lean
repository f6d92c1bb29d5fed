/-
  Views: looking at what the turtle draws does not change it.

  The turtle draws shapes, and a view shows them.  Both have a part in the surface and
  in the renderer, which a redraw sets anew from turtle, orbit and camera.  So it does
  not matter which comes first, a change of the view or a program, unless the program
  clears the screen, which takes back the view.

  * a `ViewStep` is a change of the view, and `Scene.look` makes it;
  * `Scene.facing` is the scene before it is redrawn, and `Scene.apply_facing`: every
    command but one does the same to it, whatever the view is;
  * `Scene.entries_facing`: so does a program;
  * `view_independent`: changes of the view commute with programs, and a drag commutes
    with a move of the camera.
-/
import TurtleGraphics.Proofs.Session.Memory

namespace TurtleGraphics

variable {σ α : Type}

namespace Scene

/-- A change of the view. -/
inductive ViewStep (α : Type) where
  | drag (amount : Vec2 α)
  | moveCamera (position : Vec3 α)

variable [Scalar α]

/-- The scene with its view changed, but not redrawn. -/
def facing (s : Scene σ α) : ViewStep α → Scene σ α
  | .drag amount => { s with orbit := s.orbit.drag amount }
  | .moveCamera position => { s with camera := s.camera.movedTo position }

/-- Changes the view.  The answer is the number of lines, and the scene. -/
def look [Surface σ α] (s : Scene σ α) : ViewStep α → Nat × Scene σ α
  | .drag amount => s.drag amount
  | .moveCamera position => s.moveCamera position

theorem look_eq [Surface σ α] (s : Scene σ α) (view : ViewStep α) :
    s.look view = (s.facing view).redraw := by
  cases view <;> rfl

theorem turtle_look [Surface σ α] (s : Scene σ α) (view : ViewStep α) :
    (s.look view).2.turtle = s.turtle := by
  cases view <;> rfl

/-- **A command** does the same whatever the view is, unless it clears the screen. -/
theorem apply_facing [Surface σ α] {c : Command α} (hclear : c ≠ .clearScreen) (s : Scene σ α)
    (view : ViewStep α) :
    session.apply (s.facing view) c =
      ((session.apply s c).1, (session.apply s c).2.facing view) := by
  have happly : ∀ t : Scene σ α, session.apply t c = _ := apply_eq hclear
  rw [happly, happly]
  cases view <;> rfl

theorem entries_facing [Surface σ α] {limits : Limits} {entries : List (Entry α)}
    (hclear : .clearScreen ∉ limits.calls entries) (s : Scene σ α) (view : ViewStep α) :
    Entry.reportsOn limits session (s.facing view) entries =
        Entry.reportsOn limits session s entries ∧
      Entry.stateAfter limits session (s.facing view) entries =
        (Entry.stateAfter limits session s entries).facing view := by
  refine Entry.lockstep_of_calls (fun s t : Scene σ α => s = t.facing view) (fun _ => True)
    (fun _ => True) ?_ rfl (fun _ _ => trivial) fun _ _ => trivial
  rintro c hc s t rfl - -
  have hne : c ≠ .clearScreen := fun heq => hclear (heq ▸ hc)
  rw [apply_facing hne]
  exact ⟨rfl, rfl⟩

variable {s t : Scene (LineBuffer α) α}

theorem Alike.look_eq (h : s.Alike t) (view : ViewStep α) : s.look view = t.look view := by
  have hfacing : (s.facing view).Alike (t.facing view) := by
    cases view with
    | drag amount => exact { h with orbit := congrArg (·.drag amount) h.orbit }
    | moveCamera position => exact { h with camera := congrArg (·.movedTo position) h.camera }
  rw [Scene.look_eq, Scene.look_eq, hfacing.redraw_eq]

theorem look_look (s : Scene (LineBuffer α) α) (first second : ViewStep α) :
    (s.look first).2.look second = ((s.facing first).facing second).redraw := by
  rw [look_eq s first, (alike_redraw _).look_eq, look_eq]

theorem run_look {limits : Limits} {program : String}
    (hclear : (.clearScreen : Command α) ∉ limits.commandsOf program) (s : Scene (LineBuffer α) α)
    (view : ViewStep α) :
    limits.run session program (s.look view).2 =
      ((limits.run session program s).1, ((limits.run session program s).2.look view).2) := by
  obtain ⟨hreports, hstate⟩ := entries_facing hclear s view
  rw [look_eq, (alike_redraw _).run_eq, limits.run_eq, limits.run_eq, hreports, hstate]
  dsimp only [session]
  rw [(alike_redraw _).look_eq, look_eq]

end Scene

/-- **View and turtle are independent.**  If a program is run in which the screen is
    not cleared, it gives the same reports before and after a change of the view, and
    both orders lead to the same state.  A drag and a move of the camera lead to the
    same state in either order, and the second has the same number of lines.  No
    change of the view changes the turtle. -/
theorem view_independent [Scalar α] :
    (∀ (limits : Limits) (program : String) (s : Scene (LineBuffer α) α),
        .apply .clearScreen ∉ (limits.run Scene.session.logged program (s, [])).2.2 →
          ∀ view : Scene.ViewStep α,
            limits.run Scene.session program (s.look view).2 =
              ((limits.run Scene.session program s).1,
                ((limits.run Scene.session program s).2.look view).2)) ∧
      (∀ (s : Scene (LineBuffer α) α) (amount : Vec2 α) (position : Vec3 α),
        (s.drag amount).2.moveCamera position = (s.moveCamera position).2.drag amount) ∧
      ∀ {σ : Type} [Surface σ α] (s : Scene σ α) (view : Scene.ViewStep α),
        (s.look view).2.turtle = s.turtle := by
  refine ⟨?_, ?_, Scene.turtle_look⟩
  · intro limits program s hclear
    rw [limits.apply_mem_log] at hclear
    exact Scene.run_look hclear s
  · intro s amount position
    have hdragFirst := s.look_look (.drag amount) (.moveCamera position)
    have hmoveFirst := s.look_look (.moveCamera position) (.drag amount)
    exact hdragFirst.trans hmoveFirst.symm

/-- A program in which the screen would be cleared in a block that is never run. -/
theorem view_independent_uncleared :
    let limits : Limits := .standard
    let program := "ss 3; repeat 2; fd 40; koch 1 30; dt 15; end; repeat 0; cs; end; sc <; sierp 1 9"
    let s : Scene (LineBuffer Float) Float := .start (.empty ⟨800, 600⟩) 350
    let view : Scene.ViewStep Float := .drag ⟨30, -45⟩
    .apply .clearScreen ∉ (limits.run Scene.session.logged program (s, [])).2.2 ∧
      limits.run Scene.session program (s.look view).2 =
        ((limits.run Scene.session program s).1,
          ((limits.run Scene.session program s).2.look view).2) := by
  intro limits program s view
  have hclear :
      .apply .clearScreen ∉ (limits.run Scene.session.logged program (s, [])).2.2 := by
    rw [limits.apply_mem_log]
    decide +kernel
  exact ⟨hclear, view_independent.1 limits program s hclear view⟩

end TurtleGraphics
