/-
  The shortest decimal that reads back as a given double.

  The reals that round to `m · 2 ^ q` form an interval around it.  Its ends
  lie halfway to the neighbouring doubles and belong to it when `m` is even.
  Below a power of two the neighbour is only half as far away.  On every grid
  of multiples of `10 ^ k` at most two points matter, the neighbours of the
  value itself; the coarsest grid with a point in the interval gives the
  shortest decimal, and of two such points the nearer one is taken.

  * `onGrid?` is the point taken from one grid, if it has any;
  * `shortest` is the point of the coarsest grid that has one.
-/
import TurtleGraphics.Binary64
import TurtleGraphics.Decimal.Basic

namespace TurtleGraphics

namespace Decimal

/-- The multiple of `10 ^ k` that is nearest to `m · 2 ^ q` among those that
    round to it.  A tie goes up.  All lengths are counted in quarters of
    `2 ^ q`, times `scale`, so that they are natural numbers. -/
def onGrid? (m : Nat) (q k : Int) : Option Decimal :=
  let scale := Nat.pow 2 (q - 2).toNat * Nat.pow 10 (-k).toNat
  let step := Nat.pow 2 (2 - q).toNat * Nat.pow 10 k.toNat
  let value := 4 * m * scale
  let closer := m = Binary64.minNormal ∧ Binary64.minExponent < q
  let low := (4 * m - if closer then 1 else 2) * scale
  let high := (4 * m + 2) * scale
  let rounds (c : Nat) : Bool :=
    if m % 2 = 0 then low ≤ c * step && c * step ≤ high
    else low < c * step && c * step < high
  let c := value / step
  match rounds c, rounds (c + 1) with
  | true, true => if 2 * value < (2 * c + 1) * step then some ⟨c, k⟩ else some ⟨c + 1, k⟩
  | true, false => some ⟨c, k⟩
  | false, true => some ⟨c + 1, k⟩
  | false, false => none

/-- All digits of `m · 2 ^ q`. -/
def exact (m : Nat) (q : Int) : Decimal :=
  if 0 ≤ q then ⟨m * Nat.pow 2 q.toNat, 0⟩ else ⟨m * Nat.pow 5 (-q).toNat, q⟩

/-- The exponent of a power of ten above `m · 2 ^ q`, from the number of its
    bits: a bit is worth a little less than `0.30103` digits. -/
def exponentAbove (m : Nat) (q : Int) : Int :=
  (Int.ofNat (m.log2 + 1) + q) * 30103 / 100000 + 1

/-- The shortest decimal that reads back as `m · 2 ^ q`, and the nearest of
    those.  Seventeen digits always suffice; the grids start a little above
    the value. -/
def shortest (m : Nat) (q : Int) : Decimal :=
  let top := exponentAbove m q
  ((List.range 24).findSome? fun i => onGrid? m q (top - Int.ofNat i)).getD (exact m q)

example : shortest 1 (-1074) = ⟨5, -324⟩ := by decide +kernel
example : shortest 0x1999999999999a (-56) = ⟨1, -1⟩ := by decide +kernel

end Decimal

/-! ## The text of a double -/

namespace Binary64

/-- The text of a number: the fewest digits that read back, in positional
    notation.  A negative zero keeps its sign. -/
def text : Binary64 → String
  | .undefined => "NaN"
  | .infinite negative => if negative then "-inf" else "inf"
  | .finite negative m q =>
    let digits := if m = 0 then ['0'] else (Decimal.shortest m q).positional
    String.ofList (if negative then '-' :: digits else digits)

end Binary64

instance : NumberText Float where
  text x := (Binary64.ofFloat x).text

end TurtleGraphics
