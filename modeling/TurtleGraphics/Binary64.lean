/-
  IEEE doubles as scalars.

  * `Binary64.ofFloat` takes a double apart: undefined, infinite, or
    `± significand · 2 ^ exponent`;
  * `Binary64.remainder` is the exact remainder of two doubles.  Both are
    brought to the smaller of their exponents, where the remainder is one of
    natural numbers.  It is below `2 ^ 53` there, so nothing is rounded;
  * the instance `Scalar Float`.
-/
import TurtleGraphics.Scalar

namespace TurtleGraphics

/-- A double, taken apart. -/
inductive Binary64 where
  /-- Not a number. -/
  | undefined
  /-- An infinity. -/
  | infinite (negative : Bool)
  /-- The number `± significand · 2 ^ exponent`; zero has a sign, too. -/
  | finite (negative : Bool) (significand : Nat) (exponent : Int)
deriving DecidableEq

namespace Binary64

/-- The exponent of the subnormal numbers, and the smallest there is. -/
def minExponent : Int := -1074

/-- The smallest significand of a normal number. -/
def minNormal : Nat := Nat.pow 2 52

/-- Takes a double apart: one bit of sign, eleven of exponent, fifty-two of
    fraction.  A normal number has a leading bit that is not stored. -/
def ofFloat (x : Float) : Binary64 :=
  let bits := x.toBits.toNat
  let negative := decide (Nat.pow 2 63 ≤ bits)
  let exponent := bits / Nat.pow 2 52 % Nat.pow 2 11
  let fraction := bits % Nat.pow 2 52
  if exponent = 2047 then
    if fraction = 0 then .infinite negative else .undefined
  else if exponent = 0 then .finite negative fraction minExponent
  else .finite negative (minNormal + fraction) (Int.ofNat exponent - 1075)

/-- The value that is not a number. -/
def nan : Float := 0.0 / 0.0

/-- Positive infinity. -/
def infinity : Float := 1.0 / 0.0

/-- The power of two with an exponent between `minExponent` and `1023`. -/
def powerOfTwo (exponent : Int) : Float :=
  if exponent < -1022 then .ofBits (UInt64.ofNat (Nat.pow 2 (exponent + 1074).toNat))
  else .ofBits (UInt64.ofNat ((exponent + 1023).toNat * Nat.pow 2 52))

/-- The remainder of `x` by `y`, with the sign of `x`.  There is none by
    zero, nor of an infinity; a finite `x` is its own remainder by an
    infinity. -/
def remainder (x y : Float) : Float :=
  match ofFloat x, ofFloat y with
  | .finite negative m p, .finite _ n q =>
    if n = 0 then nan
    else
      let e := min p q
      let r := m * Nat.pow 2 (p - e).toNat % (n * Nat.pow 2 (q - e).toNat)
      let magnitude := Float.ofNat r * powerOfTwo e
      if negative then -magnitude else magnitude
  | .finite .., .infinite _ => x
  | _, _ => nan

end Binary64

instance : Scalar Float where
  natCast := Float.ofNat
  decidableLT := Float.decLt
  decidableLE := Float.decLe
  pi := .ofBits 0x400921FB54442D18
  sqrt := Float.sqrt
  sin := Float.sin
  cos := Float.cos
  rem := Binary64.remainder
  isFinite := Float.isFinite

end TurtleGraphics
