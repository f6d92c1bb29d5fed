/-
  Tallies: what triangles ask of a turtle.

  All triangles in a triangle are alike, but for their size, and there are three times as many at
  each depth.  So the calls that a turtle gets can be counted by the depth at which they are
  made.  In space, where the edges are walked behind the triangles at their starts, even their
  order can be told from the depths.

  * `Sierpinski.halved` is the size of something at some depth, and `Sierpinski.triangles` the
    number of all triangles;
  * `Sierpinski.paces_outline`, `Sierpinski.countP_outline`: the moves of a triangle of the plane,
    ahead and of any kind, depth by depth; `Sierpinski.hopping_outline`: where the pen is up;
  * `sierpinski_triangle_calls`: all that is called on a turtle for a triangle of the plane;
  * `Sierpinski.depths` are the depths of the edges of a triangle of space, in order, and
    `Sierpinski.calls_edges`: its calls; `Sierpinski.heralded_depths`: what is in front of an edge;
  * `sierpinski_edges_calls`: all that is called on a turtle for a triangle of space.

  Nothing is known of numbers here, nor of the turtle.
-/
import Mathlib.Algebra.BigOperators.Ring.Finset
import Mathlib.Algebra.Order.Ring.GeomSum
import Mathlib.Tactic.Abel
import TurtleGraphics.Proofs.Fractal.Levels
import TurtleGraphics.Proofs.Turtle.Accounts

namespace TurtleGraphics

variable {α : Type} [Scalar α]

/-! ## Triangles of the plane -/

namespace Sierpinski

/-- A number that is halved again and again. -/
def halved (times : Nat) (a : α) : α := (· / ((2 : Nat) : α))^[times] a

theorem halved_zero (a : α) : halved 0 a = a := rfl

theorem halved_succ (times : Nat) (a : α) :
    halved (times + 1) a = halved times (a / (2 : Nat)) := rfl

theorem halved_succ' (times : Nat) (a : α) : halved (times + 1) a = halved times a / (2 : Nat) :=
  Function.iterate_succ_apply' ..

/-- The moves ahead of a triangle itself, without those in its corners: its sides, its height, on
    which the pen is up, and three ways of half a side between its corners. -/
def ownStrides (side height : α) : List (Bool × α) :=
  List.replicate 3 (true, side) ++ (false, height) :: List.replicate 3 (true, side / (2 : Nat))

theorem coe_ownStrides (side height : α) :
    (ownStrides side height : Multiset (Bool × α)) =
      3 • {(true, side)} + {(false, height)} + 3 • {(true, side / (2 : Nat))} := by
  rw [ownStrides, ← Multiset.coe_add, ← Multiset.cons_coe, ← Multiset.singleton_add, ← add_assoc,
    Multiset.coe_replicate, Multiset.coe_replicate, Multiset.nsmul_singleton,
    Multiset.nsmul_singleton]

/-- The moves ahead of a walk from a turtle with the pen down, in whatever order. -/
def paces (moves : List (Move α)) : Multiset (Bool × α) := Walk.strides true moves

theorem paces_around {upper right left : List (Move α)} (hupper : Corner upper)
    (hright : Corner right) (hleft : Corner left) (side height : α) :
    paces (around side height upper right left) =
      ownStrides side height + (paces upper + paces right + paces left) := by
  simp only [paces, around, sides, toRight, onward, Walk.excursion, Walk.strides_append,
    Walk.strides, Move.strides, Walk.penBehind_append, Walk.penBehind_cons, Walk.penBehind_nil,
    Move.penBehind, hupper.penBehind, hright.penBehind, hleft.penBehind, ← Multiset.coe_add,
    Multiset.coe_nil, Multiset.coe_singleton, coe_ownStrides]
  abel

/-- **The moves ahead of a triangle**: at each depth there are three times as many triangles, of
    half the size. -/
theorem paces_outline (level : Nat) (side height : α) :
    paces (outline level side height) =
      ∑ depth ∈ Finset.range level, 3 ^ depth •
        (ownStrides (halved depth side) (halved depth height) : Multiset (Bool × α)) := by
  induction level generalizing side height with
  | zero => rfl
  | succ level ih =>
    have hcorner := corner_outline level (side / (2 : Nat)) (height / (2 : Nat))
    rw [outline_succ, paces_around hcorner hcorner hcorner, ih, Finset.sum_range_succ']
    simp only [pow_succ, mul_nsmul, Finset.sum_nsmul, ← halved_succ, pow_zero, one_nsmul,
      halved_zero]
    abel

/-- The number of triangles of all depths. -/
def triangles (level : Nat) : Nat := ∑ depth ∈ Finset.range level, 3 ^ depth

theorem triangles_mul_two (level : Nat) : triangles level * 2 + 1 = 3 ^ level :=
  geom_sum_mul_add 2 level

theorem triangles_succ (level : Nat) : triangles (level + 1) = 3 * triangles level + 1 := by
  have hlevel := triangles_mul_two level
  have hnext := triangles_mul_two (level + 1)
  omega

theorem countP_strides {p : Bool × α → Bool} {count : Nat}
    (hown : ∀ side height, (ownStrides side height).countP p = count) (level : Nat)
    (side height : α) :
    (Walk.strides true (outline level side height)).countP p = count * triangles level := by
  have hpaces : (paces (outline level side height)).countP (p · = true) =
      ∑ depth ∈ Finset.range level, count * 3 ^ depth := by
    rw [paces_outline, ← Multiset.coe_countPAddMonoidHom, map_sum]
    refine Finset.sum_congr rfl ?_
    intro depth _
    rw [map_nsmul, Multiset.coe_countPAddMonoidHom, Multiset.coe_countP]
    simp only [Bool.decide_eq_true]
    rw [hown, nsmul_eq_mul, Nat.cast_id, mul_comm]
  rw [triangles, Finset.mul_sum, ← hpaces, paces, Multiset.coe_countP]
  simp only [Bool.decide_eq_true]

theorem countP_around (p : Move α → Bool) (side height : α) (upper right left : List (Move α)) :
    (around side height upper right left).countP p =
      (around side height [] [] []).countP p +
        (upper.countP p + right.countP p + left.countP p) := by
  simp only [around, Walk.excursion, List.countP_append, List.countP_cons, List.countP_nil]
  omega

theorem countP_outline {p : Move α → Bool} {count : Nat}
    (hown : ∀ side height, (around side height [] [] []).countP p = count) (level : Nat)
    (side height : α) :
    (outline level side height).countP p = count * triangles level := by
  induction level generalizing side height with
  | zero => rfl
  | succ level ih =>
    rw [outline_succ, countP_around, hown, ih, triangles_succ]
    ring

theorem hopping_outline (level : Nat) (side height : α) :
    Walk.Hopping (outline level side height) := by
  induction level generalizing side height with
  | zero => exact .nil
  | succ level ih =>
    have hexcursion : ∀ {turn : Move α}, turn ≠ .liftPen → Walk.Hopping
        (Walk.excursion (turn :: outline level (side / (2 : Nat)) (height / (2 : Nat)))) :=
      fun hturn => .cons (by simp) (.cons hturn ((ih _ _).append (.cons (by simp) .nil)))
    rw [outline_succ]
    refine .append (.of_not_mem (by simp [sides])) (.append (hexcursion (by simp)) ?_)
    refine .append (.hop height (.of_not_mem (by simp))) (.append (hexcursion (by simp)) ?_)
    exact .append (.of_not_mem (by simp [onward]))
      (.append (hexcursion (by simp)) (.of_not_mem (by simp [onward])))

end Sierpinski

/-- **Triangles of the plane, call by call.**  Whatever turtle walks a triangle of level `n`, and
    whatever becomes of its moves, it is told to go to the apex, and then, unless the level is
    zero, around the triangles.

    It is asked for its pose `3 * (3 ^ n - 1) / 2` times, and told as often to go back to the pose
    that it answered last and was not told to go back to yet.  It is told to move ahead
    `7 * (3 ^ n - 1) / 2` times: by each of the `3 ^ j` triangles of depth `j` three times by the
    side, halved `j` times, once by the height, and three times by half of this side.  The pen
    is up on the heights, each time just for that one move.  Never is it told to move back. -/
theorem sierpinski_triangle_calls {τ ρ : Type} [Turtle τ α ρ] (t : τ) (level : Nat) (side : α) :
    let height := side * Scalar.sqrt ((3 : Nat) : α) / (2 : Nat)
    let opening : List (Turtle.Call α ρ) := [.liftPen, .forward (300 : Nat), .lowerPen]
    let t' := opening.foldl Turtle.Call.perform t
    let calls := Turtle.calls (t', []) (Sierpinski.outline level side height)
    let moves := calls.map Turtle.Call.move
    let strides := Walk.strides true moves
    (Turtle.calls (t, []) (Sierpinski.planeTriangle level side) = opening ++ calls ∧
      Turtle.walk t (Sierpinski.planeTriangle level side) = calls.foldl Turtle.Call.perform t') ∧
    (Turtle.Matched t' [] calls ∧
      moves.countP Move.isSave = 3 * (3 ^ level - 1) / 2 ∧
      moves.countP Move.isRestore = 3 * (3 ^ level - 1) / 2) ∧
    (strides.length = 7 * (3 ^ level - 1) / 2 ∧
      strides.countP (fun stride => !stride.1) = (3 ^ level - 1) / 2 ∧
      strides.countP (fun stride => stride.1) = 3 ^ (level + 1) - 3) ∧
    (strides : Multiset (Bool × α)) = ∑ depth ∈ Finset.range level, 3 ^ depth •
      (3 • {(true, Sierpinski.halved depth side)} + {(false, Sierpinski.halved depth height)} +
        3 • {(true, Sierpinski.halved (depth + 1) side)}) ∧
    (∀ before distance after, moves = before ++ .forward distance :: after →
      Walk.penBehind true before = false →
        (∃ earlier, before = earlier ++ [.liftPen]) ∧ ∃ later, after = .lowerPen :: later) ∧
    (∀ distance, .backward distance ∉ moves) ∧
    Turtle.calls (t, []) (Sierpinski.planeTriangle 0 side) = opening := by
  intro height opening t' calls moves strides
  have hbalanced := (Sierpinski.corner_outline level side height).balanced
  have hmoves : moves = Sierpinski.outline level side height := hbalanced.map_move_calls t' []
  have hstrides : strides = Walk.strides true (Sierpinski.outline level side height) :=
    congrArg _ hmoves
  have hcalls : Turtle.calls (t, []) (Sierpinski.planeTriangle level side) = opening ++ calls :=
    Turtle.calls_append (t, []) _ _
  have hwalk : Turtle.walk t (Sierpinski.planeTriangle level side) =
      calls.foldl Turtle.Call.perform t' := by
    rw [← List.foldl_append, ← hcalls]
    exact Turtle.walkFrom_eq_perform (t, []) _
  -- each triangle saves three poses, and makes seven moves ahead, one of them with the pen up
  have htriangles := Sierpinski.triangles_mul_two level
  have hsaves : moves.countP Move.isSave = 3 * Sierpinski.triangles level := by
    rw [hmoves, Sierpinski.countP_outline fun _ _ => rfl]
  have hrestores : moves.countP Move.isRestore = 3 * Sierpinski.triangles level := by
    rw [hmoves, Sierpinski.countP_outline fun _ _ => rfl]
  have hbackward : moves.countP Move.isBackward = 0 * Sierpinski.triangles level := by
    rw [hmoves, Sierpinski.countP_outline fun _ _ => rfl]
  have hall : strides.countP (fun _ => true) = 7 * Sierpinski.triangles level := by
    rw [hstrides, Sierpinski.countP_strides fun _ _ => rfl]
  have hup : strides.countP (fun stride => !stride.1) = 1 * Sierpinski.triangles level := by
    rw [hstrides, Sierpinski.countP_strides fun _ _ => rfl]
  have hdown : strides.countP (fun stride => stride.1) = 6 * Sierpinski.triangles level := by
    rw [hstrides, Sierpinski.countP_strides fun _ _ => rfl]
  rw [List.countP_true] at hall
  refine ⟨⟨hcalls, hwalk⟩, ⟨?_, ?_, ?_⟩, ⟨?_, ?_, ?_⟩, ?_, ?_, ?_, rfl⟩
  · exact hbalanced.matched t'
  · omega
  · omega
  · omega
  · omega
  · omega
  · rw [hstrides]
    simp only [Sierpinski.halved_succ', ← Sierpinski.coe_ownStrides]
    exact Sierpinski.paces_outline level side height
  · intro before distance after hbefore
    exact (Sierpinski.hopping_outline level side height).between (hmoves ▸ hbefore)
  · intro distance hmem
    have hpos : 0 < moves.countP Move.isBackward := List.countP_pos_iff.2 ⟨_, hmem, rfl⟩
    omega

/-- A single triangle with floating point numbers: three poses, seven moves ahead, and the pen is up
    on the height. -/
theorem sierpinski_triangle_calls_single :
    let t : SpaceTurtle Float := .initial
    let side : Float := 200
    let height := side * Scalar.sqrt ((3 : Nat) : Float) / (2 : Nat)
    let opening : List (Turtle.Call Float (SpacePose Float)) :=
      [.liftPen, .forward (300 : Nat), .lowerPen]
    let t' := opening.foldl Turtle.Call.perform t
    let calls := Turtle.calls (t', []) (Sierpinski.outline 1 side height)
    let moves := calls.map Turtle.Call.move
    let before : List (Move Float) :=
      Sierpinski.sides side ++ Walk.excursion [.right ((180 : Nat) : Float)] ++ [.liftPen]
    let after : List (Move Float) :=
      .lowerPen :: .left (150 : Nat) :: .forward (side / (2 : Nat)) ::
        (Walk.excursion [.right ((330 : Nat) : Float)] ++ (Sierpinski.onward side ++
          (Walk.excursion [.left ((270 : Nat) : Float)] ++ Sierpinski.onward side)))
    (moves = before ++ .forward height :: after ∧ Walk.penBehind true before = false) ∧
      (moves.countP Move.isSave = 3 ∧ moves.countP Move.isRestore = 3) ∧
      (Walk.strides true moves).length = 7 ∧ (∃ earlier, before = earlier ++ [.liftPen]) ∧
      ∃ later, after = .lowerPen :: later := by
  intro t side height opening t' calls moves before after
  obtain ⟨-, ⟨-, hsaves, hrestores⟩, ⟨hstrides, -⟩, -, hbetween, -⟩ :=
    sierpinski_triangle_calls t 1 side
  have hmoves : moves = before ++ .forward height :: after := rfl
  exact ⟨⟨hmoves, rfl⟩, ⟨hsaves, hrestores⟩, hstrides, hbetween before height after hmoves rfl⟩

/-! ## Triangles of space -/

namespace Sierpinski

/-- The depths of all edges of a triangle, in the order in which they are walked: in front of each
    edge of the triangle itself there are those of the smaller triangle at its start. -/
def depths : Nat → List Nat
  | 0 => []
  | level + 1 =>
    let edge := (depths level).map (· + 1) ++ [0]
    edge ++ (edge ++ edge)

example : depths 2 = [1, 1, 1, 0, 1, 1, 1, 0, 1, 1, 1, 0] := rfl

theorem length_depths (level : Nat) : (depths level).length * 2 + 3 = 3 ^ (level + 1) := by
  induction level with
  | zero => rfl
  | succ level ih =>
    simp only [depths, List.length_append, List.length_map, List.length_singleton]
    omega

theorem count_depths {level depth : Nat} (h : depth < level) :
    (depths level).count depth = 3 ^ (depth + 1) := by
  induction level generalizing depth with
  | zero => omega
  | succ level ih =>
    simp only [depths, List.count_append]
    cases depth with
    | zero =>
      have hnone : ((depths level).map (· + 1)).count 0 = 0 := by simp [List.count_eq_zero]
      simp [hnone]
    | succ depth =>
      have hsome : ((depths level).map (· + 1)).count (depth + 1) = 3 ^ (depth + 1) := by
        rw [List.count_map_of_injective _ _ (add_left_injective 1), ih (by omega)]
      simp [hsome]
      ring

theorem lt_of_mem_depths {level depth : Nat} (h : depth ∈ depths level) : depth < level := by
  induction level generalizing depth with
  | zero => cases h
  | succ level ih =>
    simp only [depths, List.mem_append, List.mem_map, List.mem_singleton, or_self] at h
    rcases h with ⟨smaller, hsmaller, rfl⟩ | rfl
    · exact Nat.succ_lt_succ (ih hsmaller)
    · exact Nat.succ_pos level

/-- The edges of the smaller triangle at the start of an edge. -/
def herald (level depth : Nat) : List Nat := (depths (level - 1 - depth)).map (· + (depth + 1))

theorem herald_succ (level depth : Nat) :
    herald (level + 1) (depth + 1) = (herald level depth).map (· + 1) := by
  have hlevel : level + 1 - 1 - (depth + 1) = level - 1 - depth := by omega
  rw [herald, herald, hlevel, List.map_map]
  rfl

/-- Directly in front of each edge in a row are those of the smaller triangle at its start. -/
def Heralded (level : Nat) (row : List Nat) : Prop :=
  ∀ before depth after, row = before ++ depth :: after → herald level depth <:+ before

namespace Heralded

variable {level : Nat} {first second row : List Nat}

theorem append (hfirst : Heralded level first) (hsecond : Heralded level second) :
    Heralded level (first ++ second) := by
  intro before depth after h
  rcases List.append_eq_append_iff.1 h with ⟨middle, rfl, hrest⟩ | ⟨middle, rfl, hrest⟩
  · exact (hsecond middle depth after hrest).trans (List.suffix_append _ _)
  · cases middle with
    | nil =>
      have hnone := hsecond [] depth after hrest.symm
      rw [List.suffix_nil.1 hnone]
      exact List.nil_suffix
    | cons depth' middle =>
      obtain ⟨rfl, -⟩ := List.cons.inj hrest
      exact hfirst before depth middle rfl

theorem edge (h : Heralded level (depths level)) :
    Heralded (level + 1) ((depths level).map (· + 1) ++ [0]) := by
  intro before depth after hrow
  rcases List.eq_nil_or_concat after with rfl | ⟨after, last, rfl⟩
  · obtain ⟨rfl, hdepth⟩ := List.append_inj' hrow rfl
    obtain rfl := List.singleton_inj.1 hdepth
    exact List.suffix_refl _
  · rw [List.concat_eq_append, ← List.cons_append, ← List.append_assoc] at hrow
    obtain ⟨hsmaller, -⟩ := List.append_inj' hrow rfl
    obtain ⟨before, rest, hdepths, rfl, hrest⟩ := List.map_eq_append_iff.1 hsmaller
    obtain ⟨depth, after, rfl, rfl, rfl⟩ := List.map_eq_cons_iff.1 hrest
    rw [herald_succ]
    exact (h before depth after hdepths).map _

end Heralded

theorem heralded_depths (level : Nat) : Heralded level (depths level) := by
  induction level with
  | zero => simp [Heralded, depths]
  | succ level ih => exact ih.edge.append (ih.edge.append ih.edge)

variable {τ ρ : Type} [Turtle τ α ρ]

/-- The edges of a row, each with the turn behind it. -/
def pairs (side : α) (row : List Nat) : List (Turtle.Call α ρ) :=
  row.flatMap fun depth => [.forward (halved depth side), .turnRight (120 : Nat)]

theorem pairs_append (side : α) (first second : List Nat) :
    (pairs side (first ++ second) : List (Turtle.Call α ρ)) =
      pairs side first ++ pairs side second :=
  List.flatMap_append

theorem pairs_map_add (side : α) (row : List Nat) (depth : Nat) :
    (pairs side (row.map (· + depth)) : List (Turtle.Call α ρ)) =
      pairs (halved depth side) row := by
  simp only [pairs, List.flatMap_map, halved, Function.iterate_add_apply]

/-- **Triangles, as they are called on a turtle.** -/
theorem calls_edges (level : Nat) (side : α) (walker : τ × List ρ) :
    Turtle.calls walker (edges level side) = pairs side (depths level) := by
  induction level generalizing side walker with
  | zero => rfl
  | succ level ih =>
    have hedge : ∀ walker : τ × List ρ,
        Turtle.calls walker
            (edges level (side / (2 : Nat)) ++ [.forward side, .right (120 : Nat)]) =
          pairs side ((depths level).map (· + 1) ++ [0]) := by
      intro walker
      rw [Turtle.calls_append, ih, pairs_append, pairs_map_add]
      rfl
    rw [edges, depths]
    generalize edges level (side / (2 : Nat)) ++ [.forward side, .right (120 : Nat)] = edge
      at hedge ⊢
    generalize (depths level).map (· + 1) ++ [0] = row at hedge ⊢
    simp only [Turtle.calls_append, hedge, pairs_append]

end Sierpinski

/-- **Triangles of space, call by call.**  Whatever turtle walks a triangle of level `n`, and
    whatever becomes of its moves, it is told to turn by 30 degrees, to walk `(3 ^ (n + 1) - 3) / 2`
    edges, each with a turn by 120 degrees behind it, and to turn back.  For each depth `j` below
    the level, `3 ^ (j + 1)` edges are as long as the side, halved `j` times; and directly in front
    of each of them it is told to walk the triangle of level `n - 1 - j` with half of this
    side. -/
theorem sierpinski_edges_calls {τ ρ : Type} [Turtle τ α ρ] (t : τ) (level : Nat) (side : α) :
    let pairs (row : List Nat) : List (Turtle.Call α ρ) :=
      row.flatMap fun depth => [.forward (Sierpinski.halved depth side), .turnRight (120 : Nat)]
    let row := Sierpinski.depths level
    let calls := Turtle.calls (t, []) (Sierpinski.spaceTriangle level side)
    (calls = .turnRight (30 : Nat) :: (pairs row ++ [.turnLeft (30 : Nat)]) ∧
      Turtle.walk t (Sierpinski.spaceTriangle level side) = calls.foldl Turtle.Call.perform t) ∧
    (row.length = (3 ^ (level + 1) - 3) / 2 ∧ (∀ depth ∈ row, depth < level) ∧
      ∀ depth < level, row.count depth = 3 ^ (depth + 1)) ∧
    (∀ before depth after, row = before ++ depth :: after → ∃ earlier,
      pairs before = pairs earlier ++ Turtle.calls (t, [])
        (Sierpinski.edges (level - 1 - depth) (Sierpinski.halved (depth + 1) side))) ∧
    ∀ call ∈ calls, call ≠ .liftPen ∧ call ≠ .lowerPen ∧ call ≠ .pose ∧
      (∀ target, call ≠ .setPose target) ∧ ∀ distance, call ≠ .backward distance := by
  intro pairs row calls
  have hcalls : calls = .turnRight (30 : Nat) :: (pairs row ++ [.turnLeft (30 : Nat)]) := by
    simp only [calls, Sierpinski.spaceTriangle, Turtle.calls, Turtle.calls_append,
      Sierpinski.calls_edges]
    rfl
  have hlength : row.length * 2 + 3 = 3 ^ (level + 1) := Sierpinski.length_depths level
  refine ⟨⟨hcalls, Turtle.walkFrom_eq_perform (t, []) _⟩, ⟨?_, ?_, ?_⟩, ?_, ?_⟩
  · omega
  · exact fun depth => Sierpinski.lt_of_mem_depths
  · exact fun depth => Sierpinski.count_depths
  · intro before depth after hrow
    obtain ⟨earlier, rfl⟩ := Sierpinski.heralded_depths level before depth after hrow
    refine ⟨earlier, ?_⟩
    rw [Sierpinski.calls_edges, ← Sierpinski.pairs_map_add]
    exact Sierpinski.pairs_append side _ _
  · intro call hcall
    simp only [hcalls, pairs, List.mem_cons, List.mem_append, List.mem_flatMap, List.not_mem_nil,
      or_false] at hcall
    rcases hcall with rfl | ⟨depth, -, rfl | rfl⟩ | rfl <;> simp

/-- A triangle of level 2 with floating point numbers: in front of its first edge there are three
    edges of half the length. -/
theorem sierpinski_edges_calls_second :
    let t : SpaceTurtle Float := .initial
    let side : Float := 100
    let pairs (row : List Nat) : List (Turtle.Call Float (SpacePose Float)) :=
      row.flatMap fun depth => [.forward (Sierpinski.halved depth side), .turnRight (120 : Nat)]
    (Sierpinski.depths 2 = [1, 1, 1] ++ 0 :: [1, 1, 1, 0, 1, 1, 1, 0] ∧ 0 < 2) ∧
      (Sierpinski.depths 2).count 0 = 3 ∧
      ∃ earlier, pairs [1, 1, 1] =
        pairs earlier ++ Turtle.calls (t, []) (Sierpinski.edges 1 (side / (2 : Nat))) := by
  intro t side pairs
  obtain ⟨-, ⟨-, -, hcount⟩, hbefore, -⟩ := sierpinski_edges_calls t 2 side
  exact ⟨⟨rfl, by decide⟩, hcount 0 (by decide), hbefore [1, 1, 1] 0 _ rfl⟩

end TurtleGraphics
