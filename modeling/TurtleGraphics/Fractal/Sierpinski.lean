/-
  Sierpinski triangles, as walks.

  * `planeTriangle` strokes the outer triangle and then the three triangles of
    half its size in the corners, each from a saved pose;
  * `spaceTriangle` strokes, at every level, the triangle of half the length
    and then one edge, three times.  It saves no pose, because every triangle
    ends where it began.
-/
import TurtleGraphics.Turtle.Basic

namespace TurtleGraphics.Sierpinski

variable {α : Type} [Scalar α]

/-- The triangle of the given side and height and the triangles in it, with
    the turtle at its apex. -/
def outline : Nat → α → α → List (Move α)
  | 0, _, _ => []
  | level + 1, side, height =>
    let half := side / (2 : Nat)
    let corner := outline level half (height / (2 : Nat))
    [.left (150 : Nat), .forward side, .left (120 : Nat), .forward side, .left (120 : Nat),
      .forward side, .left (150 : Nat)]
    ++ (.save :: .right (180 : Nat) :: (corner ++ [.restore]))
    ++ [.liftPen, .forward height, .lowerPen, .left (150 : Nat), .forward half]
    ++ (.save :: .right (330 : Nat) :: (corner ++ [.restore]))
    ++ [.left (120 : Nat), .forward half]
    ++ (.save :: .left (270 : Nat) :: (corner ++ [.restore]))
    ++ [.left (120 : Nat), .forward half]

/-- The triangle of the plane.  Its apex lies 300 units ahead of the turtle. -/
def planeTriangle (level : Nat) (side : α) : List (Move α) :=
  [.liftPen, .forward (300 : Nat), .lowerPen]
    ++ outline level side (side * Scalar.sqrt ((3 : Nat) : α) / (2 : Nat))

/-- The edges of the triangle of the given side and of the triangles in it. -/
def edges : Nat → α → List (Move α)
  | 0, _ => []
  | level + 1, side =>
    let edge := edges level (side / (2 : Nat)) ++ [.forward side, .right (120 : Nat)]
    edge ++ (edge ++ edge)

/-- The triangle of space: a turn of 30 degrees before it is undone after
    it. -/
def spaceTriangle (level : Nat) (side : α) : List (Move α) :=
  .right (30 : Nat) :: (edges level side ++ [.left (30 : Nat)])

end TurtleGraphics.Sierpinski
