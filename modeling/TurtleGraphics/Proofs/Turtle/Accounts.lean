/-
  Accounts: what the calls of a walk tell.

  Whoever looks on while a turtle is told where to go sees a row of calls.  It can be told from
  them which poses were handed out and taken back, and which moves ahead were made with the pen
  down.

  * `Turtle.Call.move` is the move that a call is made for; `Walk.Balanced.map_move_calls`: the
    calls of a balanced walk are made for its moves, one for each;
  * `Turtle.Matched` are calls that put the turtle back into the poses that it was asked for, the
    last one first; `Walk.Balanced.matched`: so do those of a balanced walk;
  * `Walk.strides` are the moves ahead of a walk, each with the pen;
  * `Walk.Hopping` are walks that lift the pen for one move ahead only, and
    `Walk.Hopping.between`: such a move stands alone between lifting and lowering it.
-/
import TurtleGraphics.Proofs.Turtle.Calls
import TurtleGraphics.Proofs.Turtle.Excursions

namespace TurtleGraphics

variable {τ α ρ : Type}

/-! ## Poses -/

namespace Turtle

/-- The move that a call is made for. -/
def Call.move : Call α ρ → Move α
  | forward distance => .forward distance
  | backward distance => .backward distance
  | turnLeft degrees => .left degrees
  | turnRight degrees => .right degrees
  | liftPen => .liftPen
  | lowerPen => .lowerPen
  | pose => .save
  | setPose _ => .restore

variable [Turtle τ α ρ]

/-- From the turtle on, all poses that it is asked for are gone back to, like brackets that are
    closed: to the one that it answered last, with just what it answered.  The poses in `answered`
    are still to be gone back to, and no pose may be left in the end. -/
def Matched (t : τ) (answered : List ρ) : List (Call α ρ) → Prop
  | [] => answered = []
  | .pose :: rest => Matched t (Turtle.pose t :: answered) rest
  | .setPose target :: rest => match answered with
    | [] => False
    | pose :: answered => target = pose ∧ Matched (Turtle.setPose t target) answered rest
  | call :: rest => Matched (call.perform t) answered rest

end Turtle

namespace Walk.Balanced

variable [Turtle τ α ρ] {moves : List (Move α)}

theorem map_move_calls (h : Balanced moves) (t : τ) (saved : List ρ) :
    (Turtle.calls (t, saved) moves).map Turtle.Call.move = moves := by
  induction h generalizing t saved with
  | nil => rfl
  | @cons move rest hmove _ ih =>
    have hcall : (move.calls saved).map Turtle.Call.move = [move] := by
      cases move with
      | save | restore => exact hmove.elim
      | _ => rfl
    rw [Turtle.calls, List.map_append, hcall, hmove.step_eq, ih]
    rfl
  | @excursion inner rest hinner _ ihinner ihrest =>
    simp only [Turtle.calls, Turtle.calls_append, Move.calls, Move.step, hinner.walkFrom_eq,
      List.map_append, List.map_cons, List.map_nil, ihinner, ihrest, Turtle.Call.move,
      List.head?_cons, Option.toList_some, List.cons_append, List.nil_append]

theorem matched_append (h : Balanced moves) {t : τ} {answered : List ρ}
    {rest : List (Turtle.Call α ρ)} (hrest : Turtle.Matched (Turtle.walk t moves) answered rest) :
    Turtle.Matched t answered (Turtle.calls (t, answered) moves ++ rest) := by
  induction h generalizing t answered rest with
  | nil => exact hrest
  | @cons move behind hmove _ ih =>
    cases move with
    | save | restore => exact hmove.elim
    | forward | backward | left | right | liftPen | lowerPen => exact ih hrest
  | @excursion inner behind hinner _ ihinner ihbehind =>
    have hwalk : Turtle.walk t (.save :: (inner ++ .restore :: behind)) =
        Turtle.walk (Turtle.setPose (Turtle.walk t inner) (Turtle.pose t)) behind := by
      rw [← hinner.walk_excursion, ← hinner.of_excursion.walk_append, Walk.excursion]
      simp
    rw [hwalk] at hrest
    simp only [Turtle.calls, Turtle.calls_append, Move.calls, Move.step, hinner.walkFrom_eq,
      List.head?_cons, Option.toList_some, List.map_cons, List.map_nil, List.append_assoc,
      List.cons_append, List.nil_append, Turtle.Matched]
    exact ihinner ⟨rfl, ihbehind hrest⟩

/-- **A balanced walk** goes back to the poses that the turtle answers. -/
theorem matched (h : Balanced moves) (t : τ) :
    Turtle.Matched t [] (Turtle.calls (t, []) moves) := by
  rw [← List.append_nil (Turtle.calls _ moves)]
  exact h.matched_append rfl

end Walk.Balanced

/-! ## Moves -/

namespace Move

/-- The move saves a pose. -/
def isSave : Move α → Bool
  | save => true
  | _ => false

/-- The move goes back to a pose. -/
def isRestore : Move α → Bool
  | restore => true
  | _ => false

/-- The move leads back. -/
def isBackward : Move α → Bool
  | backward _ => true
  | _ => false

/-- A move ahead, with whether the pen is down. -/
def strides (down : Bool) : Move α → List (Bool × α)
  | forward distance => [(down, distance)]
  | _ => []

end Move

namespace Walk

/-- The moves ahead of a walk, in order, each with whether the pen is down. -/
def strides (down : Bool) : List (Move α) → List (Bool × α)
  | [] => []
  | move :: rest => move.strides down ++ strides (move.penBehind down) rest

theorem strides_append (down : Bool) (first second : List (Move α)) :
    strides down (first ++ second) =
      strides down first ++ strides (penBehind down first) second := by
  induction first generalizing down with
  | nil => rfl
  | cons move rest ih => simp [strides, ih]

/-- Walks that lift the pen only to move ahead once, and lower it behind that. -/
inductive Hopping : List (Move α) → Prop where
  | nil : Hopping []
  | cons {move : Move α} {rest : List (Move α)} : move ≠ .liftPen → Hopping rest →
      Hopping (move :: rest)
  | hop (distance : α) {rest : List (Move α)} : Hopping rest →
      Hopping (.liftPen :: .forward distance :: .lowerPen :: rest)

namespace Hopping

variable {moves first second before after : List (Move α)} {distance : α}

theorem of_not_mem (h : .liftPen ∉ moves) : Hopping moves := by
  induction moves with
  | nil => exact .nil
  | cons move rest ih =>
    obtain ⟨hmove, hrest⟩ := not_or.1 (mt List.mem_cons.2 h)
    exact .cons (Ne.symm hmove) (ih hrest)

theorem append (hfirst : Hopping first) (hsecond : Hopping second) : Hopping (first ++ second) := by
  induction hfirst with
  | nil => exact hsecond
  | cons hmove _ ih => exact .cons hmove ih
  | hop distance _ ih => exact .hop distance ih

/-- **A move ahead with the pen up** stands alone between lifting the pen and lowering it. -/
theorem between (h : Hopping moves) (hmoves : moves = before ++ .forward distance :: after)
    (hpen : penBehind true before = false) :
    (∃ earlier, before = earlier ++ [.liftPen]) ∧ ∃ later, after = .lowerPen :: later := by
  induction h generalizing before with
  | nil => simp at hmoves
  | @cons move rest hmove _ ih =>
    cases before with
    | nil => cases hpen
    | cons move' before =>
      obtain ⟨rfl, hrest⟩ := List.cons.inj hmoves
      have hdown : move.penBehind true = true := by
        cases move with
        | liftPen => exact absurd rfl hmove
        | _ => rfl
      rw [penBehind_cons, hdown] at hpen
      obtain ⟨⟨earlier, rfl⟩, hlater⟩ := ih hrest hpen
      exact ⟨⟨move :: earlier, rfl⟩, hlater⟩
  | @hop distance' rest _ ih =>
    match before with
    | [] => cases hpen
    | [_] =>
      simp only [List.cons_append, List.nil_append, List.cons.injEq] at hmoves
      exact ⟨⟨[], by rw [← hmoves.1]; rfl⟩, rest, hmoves.2.2.symm⟩
    | [_, _] => simp at hmoves
    | _ :: _ :: _ :: before =>
      simp only [List.cons_append, List.cons.injEq] at hmoves
      obtain ⟨rfl, rfl, rfl, hrest⟩ := hmoves
      obtain ⟨⟨earlier, rfl⟩, hlater⟩ := ih hrest hpen
      exact ⟨⟨.liftPen :: .forward distance' :: .lowerPen :: earlier, rfl⟩, hlater⟩

end Hopping

end Walk

end TurtleGraphics
