/-
  Koch curves, unfolded.

  A curve is made of four smaller ones.  Seen from its end it is one row of equal steps, with
  a turn between each two of them, and the turns can be told without the curves in between:
  the one behind step `k` is decided by the lowest digit of `k` in base four that is not zero.

  * `Koch.lowestDigit` is this digit; `Koch.lowestDigit_add`: it is not changed by what stands
    above it;
  * `Koch.turnBehind` is the turn behind a step, and `Koch.unfolded` the whole curve;
  * `Koch.calls_curve`: the recursion comes to this;
  * `koch_calls`: what is called on a turtle that walks a curve or a snowflake.

  Nothing is known of numbers here, nor of the turtle.
-/
import Mathlib.Data.List.Basic
import Mathlib.Data.Nat.Digits.Defs
import TurtleGraphics.Fractal.Koch
import TurtleGraphics.Proofs.Turtle.Calls

namespace TurtleGraphics

variable {α : Type}

namespace Koch

/-! ## Digits -/

/-- The lowest digit of a number in base four that is not zero.  Zero has none. -/
def lowestDigit (k : Nat) : Nat := ((Nat.digits 4 k).find? (· ≠ 0)).getD 0

theorem lowestDigit_of_mod_ne_zero {k : Nat} (h : k % 4 ≠ 0) : lowestDigit k = k % 4 := by
  have hpos : 0 < k := by omega
  rw [lowestDigit, Nat.digits_def' (by norm_num) hpos, List.find?_cons_of_pos (by simpa using h)]
  rfl

theorem lowestDigit_four_mul (k : Nat) : lowestDigit (4 * k) = lowestDigit k := by
  rcases Nat.eq_zero_or_pos k with rfl | hpos
  · rfl
  · rw [lowestDigit, Nat.digits_base_mul (by norm_num) hpos, List.find?_cons_of_neg (by simp)]
    rfl

theorem lowestDigit_cases {k : Nat} (h : 0 < k) :
    lowestDigit k = 1 ∨ lowestDigit k = 2 ∨ lowestDigit k = 3 := by
  induction k using Nat.strongRecOn with
  | ind k ih =>
    by_cases hmod : k % 4 = 0
    · obtain ⟨m, rfl⟩ := Nat.dvd_of_mod_eq_zero hmod
      rw [lowestDigit_four_mul]
      exact ih m (by omega) (by omega)
    · rw [lowestDigit_of_mod_ne_zero hmod]
      omega

/-- **What stands above** the lowest digit does not matter. -/
theorem lowestDigit_add (j : Nat) {level i : Nat} (hpos : 0 < i) (hlt : i < 4 ^ level) :
    lowestDigit (j * 4 ^ level + i) = lowestDigit i := by
  induction level generalizing i with
  | zero => omega
  | succ level ih =>
    have hsplit : j * 4 ^ (level + 1) = 4 * (j * 4 ^ level) := by ring
    rw [hsplit]
    by_cases hmod : i % 4 = 0
    · obtain ⟨m, rfl⟩ := Nat.dvd_of_mod_eq_zero hmod
      rw [← Nat.mul_add, lowestDigit_four_mul, lowestDigit_four_mul]
      exact ih (by omega) (by rw [Nat.pow_succ] at hlt; omega)
    · rw [lowestDigit_of_mod_ne_zero hmod, lowestDigit_of_mod_ne_zero (by omega)]
      omega

theorem lowestDigit_mul_pow {j : Nat} (level : Nat) (hpos : 0 < j) (hlt : j < 4) :
    lowestDigit (j * 4 ^ level) = j := by
  induction level with
  | zero =>
    rw [Nat.pow_zero, Nat.mul_one, lowestDigit_of_mod_ne_zero (by omega), Nat.mod_eq_of_lt hlt]
  | succ level ih =>
    have hsplit : j * 4 ^ (level + 1) = 4 * (j * 4 ^ level) := by ring
    rw [hsplit, lowestDigit_four_mul, ih]

/-! ## Curves -/

variable [Scalar α] {τ ρ : Type} [Turtle τ α ρ]

/-- The turn behind step `k` of a curve. -/
def turnBehind (k : Nat) : Turtle.Call α ρ :=
  if lowestDigit k = 2 then .turnRight (120 : Nat) else .turnLeft (60 : Nat)

/-- Steps number `first` and following, each with the turn before it. -/
def stretch (step : α) (first count : Nat) : List (Turtle.Call α ρ) :=
  (List.range' first count).flatMap fun k => [turnBehind k, .forward step]

/-- A curve of so many steps, unfolded. -/
def unfolded (steps : Nat) (step : α) : List (Turtle.Call α ρ) :=
  .forward step :: stretch step 1 (steps - 1)

theorem turnBehind_cases {k : Nat} (h : 0 < k) :
    (lowestDigit k = 1 ∨ lowestDigit k = 3) ∧
        (turnBehind k : Turtle.Call α ρ) = .turnLeft (60 : Nat) ∨
      lowestDigit k = 2 ∧ (turnBehind k : Turtle.Call α ρ) = .turnRight (120 : Nat) := by
  rcases lowestDigit_cases h with hdigit | hdigit | hdigit
  · exact .inl ⟨.inl hdigit, by simp [turnBehind, hdigit]⟩
  · exact .inr ⟨hdigit, by simp [turnBehind, hdigit]⟩
  · exact .inl ⟨.inr hdigit, by simp [turnBehind, hdigit]⟩

theorem turnBehind_mul_pow {j : Nat} (level : Nat) (hpos : 0 < j) (hlt : j < 4) :
    (turnBehind (j * 4 ^ level) : Turtle.Call α ρ) = turnBehind j := by
  have hdigit : lowestDigit j = j := by
    simpa using lowestDigit_mul_pow 0 hpos hlt
  rw [turnBehind, lowestDigit_mul_pow level hpos hlt, turnBehind, hdigit]

theorem stretch_append (step : α) (first count more : Nat) :
    (stretch step first (count + more) : List (Turtle.Call α ρ)) =
      stretch step first count ++ stretch step (first + count) more := by
  rw [stretch, ← List.range'_append_1, List.flatMap_append]
  rfl

theorem stretch_succ (step : α) (first count : Nat) :
    (stretch step first (count + 1) : List (Turtle.Call α ρ)) =
      turnBehind first :: .forward step :: stretch step (first + 1) count := by
  rw [stretch, List.range'_succ, List.flatMap_cons]
  rfl

/-- **Each quarter** of a curve is the first one, behind a turn of its own. -/
theorem stretch_quarter (step : α) {j : Nat} (level : Nat) (hpos : 0 < j) (hlt : j < 4) :
    (stretch step (j * 4 ^ level) (4 ^ level) : List (Turtle.Call α ρ)) =
      turnBehind j :: unfolded (4 ^ level) step := by
  have hsteps : 0 < 4 ^ level := Nat.pow_pos (by decide)
  obtain ⟨count, hcount⟩ := Nat.exists_eq_add_one.2 hsteps
  have hrest : (stretch step (j * 4 ^ level + 1) count : List (Turtle.Call α ρ)) =
      stretch step 1 count := by
    rw [stretch, ← List.map_add_range', List.flatMap_map, stretch]
    refine List.flatMap_congr fun i hi => ?_
    obtain ⟨hlow, hhigh⟩ := List.mem_range'_1.1 hi
    rw [turnBehind, lowestDigit_add j (by omega) (by omega), turnBehind]
  calc (stretch step (j * 4 ^ level) (4 ^ level) : List (Turtle.Call α ρ))
      = stretch step (j * 4 ^ level) (count + 1) := by rw [← hcount]
    _ = turnBehind j :: .forward step :: stretch step 1 count := by
        rw [stretch_succ, hrest, turnBehind_mul_pow level hpos hlt]
    _ = turnBehind j :: unfolded (4 ^ level) step := by
        rw [unfolded, hcount, Nat.add_sub_cancel]

theorem unfolded_succ (level : Nat) (step : α) :
    (unfolded (4 ^ (level + 1)) step : List (Turtle.Call α ρ)) =
      let side := unfolded (4 ^ level) step
      side ++ .turnLeft (60 : Nat) :: (side ++ .turnRight (120 : Nat) ::
        (side ++ .turnLeft (60 : Nat) :: side)) := by
  have hpos : 0 < 4 ^ level := Nat.pow_pos (by decide)
  have hcount : 4 ^ (level + 1) - 1 = 4 ^ level - 1 + 4 ^ level + 4 ^ level + 4 ^ level := by
    rw [Nat.pow_succ]
    omega
  have hfirst : 1 + (4 ^ level - 1) = 1 * 4 ^ level := by omega
  have hsecond : 1 + (4 ^ level - 1 + 4 ^ level) = 2 * 4 ^ level := by omega
  have hthird : 1 + (4 ^ level - 1 + 4 ^ level + 4 ^ level) = 3 * 4 ^ level := by omega
  have hone : (turnBehind 1 : Turtle.Call α ρ) = .turnLeft (60 : Nat) := rfl
  have htwo : (turnBehind 2 : Turtle.Call α ρ) = .turnRight (120 : Nat) := rfl
  have hthree : (turnBehind 3 : Turtle.Call α ρ) = .turnLeft (60 : Nat) := rfl
  rw [unfolded, hcount, stretch_append, stretch_append, stretch_append, hfirst, hsecond, hthird,
    stretch_quarter step level (by norm_num) (by norm_num),
    stretch_quarter step level (by norm_num) (by norm_num),
    stretch_quarter step level (by norm_num) (by norm_num), hone, htwo, hthree]
  simp only [unfolded, List.cons_append, List.append_assoc]

theorem filter_unfolded {steps : Nat} (hsteps : 0 < steps) (step : α) :
    (unfolded steps step : List (Turtle.Call α ρ)).filter Turtle.Call.isForward =
      List.replicate steps (.forward step) := by
  have hpair : ∀ k, [turnBehind k, .forward step].filter Turtle.Call.isForward =
      [(.forward step : Turtle.Call α ρ)] := by
    intro k
    unfold turnBehind
    split <;> rfl
  have hstretch : (stretch step 1 (steps - 1)).filter Turtle.Call.isForward =
      List.replicate (steps - 1) (.forward step : Turtle.Call α ρ) := by
    rw [stretch, List.filter_flatMap]
    simp only [hpair]
    rw [List.flatMap_def, List.map_const', List.flatten_replicate_singleton, List.length_range']
  obtain ⟨rest, rfl⟩ := Nat.exists_eq_add_one.2 hsteps
  rw [unfolded, List.filter_cons_of_pos rfl, hstretch, List.replicate_succ, Nat.add_sub_cancel]

/-- **A curve**, as it is called on a turtle, is unfolded: the recursion comes to a row of
    steps, each a third of a third, and so on, of the length. -/
theorem calls_curve (level : Nat) (length : α) (walker : τ × List ρ) :
    Turtle.calls walker (curve level length) =
      unfolded (4 ^ level) ((· / ((3 : Nat) : α))^[level] length) := by
  induction level generalizing length walker with
  | zero => rfl
  | succ level ih =>
    simp only [curve, Turtle.calls_append, Turtle.calls, ih, unfolded_succ, Move.calls,
      Function.iterate_succ_apply, List.cons_append, List.nil_append]

theorem calls_triangle (level : Nat) (length : α) (walker : τ × List ρ) :
    Turtle.calls walker (triangle level length) =
      (List.replicate 3 (unfolded (4 ^ level) ((· / ((3 : Nat) : α))^[level] length) ++
        [.turnRight (120 : Nat)])).flatten := by
  simp [triangle, Turtle.calls_append, Turtle.calls, calls_curve, Move.calls, List.replicate_succ]

end Koch

variable [Scalar α]

/-- **Koch curves in closed form.**  Whatever turtle walks a curve of level `n`, and whatever
    becomes of its moves, it is asked for `4 ^ n` moves ahead, all by the length divided by
    three `n` times, and between move `k` and the next one for a single turn: by 60 degrees to
    the left if the lowest digit of `k` in base four that is not zero is 1 or 3, and by 120
    degrees to the right if it is 2.  Nothing else is asked of it.  A snowflake of the plane
    is a step to the left with the pen up and then three such curves, each with a turn by 120
    degrees behind it; one of space has the three curves between two turns by 30 degrees. -/
theorem koch_calls {τ ρ : Type} [Turtle τ α ρ] (t : τ) (level : Nat) (length : α) :
    let step := (· / ((3 : Nat) : α))^[level] length
    let side : List (Turtle.Call α ρ) :=
      .forward step ::
        (List.range' 1 (4 ^ level - 1)).flatMap fun k => [Koch.turnBehind k, .forward step]
    let sides := (List.replicate 3 (side ++ [.turnRight (120 : Nat)])).flatten
    Turtle.calls (t, []) (Koch.curve level length) = side ∧
      Turtle.walk t (Koch.curve level length) = side.foldl Turtle.Call.perform t ∧
      side.filter Turtle.Call.isForward = List.replicate (4 ^ level) (.forward step) ∧
      (∀ k, 0 < k →
        (Koch.lowestDigit k = 1 ∨ Koch.lowestDigit k = 3) ∧
            (Koch.turnBehind k : Turtle.Call α ρ) = .turnLeft (60 : Nat) ∨
          Koch.lowestDigit k = 2 ∧ (Koch.turnBehind k : Turtle.Call α ρ) = .turnRight (120 : Nat)) ∧
      Turtle.calls (t, []) (Koch.planeSnowflake level length) =
        [.liftPen, .turnLeft (90 : Nat), .forward (100 : Nat), .turnRight (90 : Nat), .lowerPen] ++
          sides ∧
      Turtle.calls (t, []) (Koch.spaceSnowflake level length) =
        .turnRight (30 : Nat) :: (sides ++ [.turnLeft (30 : Nat)]) := by
  intro step side sides
  have hcalls : Turtle.calls (t, []) (Koch.curve level length) = side :=
    Koch.calls_curve level length _
  refine ⟨hcalls, ?_, Koch.filter_unfolded (Nat.pow_pos (by decide)) step,
    fun k => Koch.turnBehind_cases, ?_, ?_⟩
  · rw [← hcalls]
    exact Turtle.walkFrom_eq_perform (t, []) _
  · rw [Koch.planeSnowflake, Turtle.calls_append, Koch.calls_triangle]
    rfl
  · simp only [Koch.spaceSnowflake, Turtle.calls, Turtle.calls_append, Koch.calls_triangle]
    rfl

/-- The second level: fifteen turns between sixteen steps. -/
example : (List.range' 1 15).map Koch.lowestDigit =
    [1, 2, 3, 1, 1, 2, 3, 2, 1, 2, 3, 3, 1, 2, 3] := by
  decide

end TurtleGraphics
