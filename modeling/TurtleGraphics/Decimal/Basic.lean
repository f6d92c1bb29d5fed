/-
  Decimals, and how they are laid out in positional notation.

  A `Decimal` is `significand · 10 ^ exponent`.  `Decimal.positional` writes
  all of its digits, never an exponent: zeros fill up to the point on either
  side, and a number below one has a single zero in front of the point.
-/
namespace TurtleGraphics

/-- The number `significand · 10 ^ exponent`. -/
structure Decimal where
  significand : Nat
  exponent : Int
deriving DecidableEq

namespace Decimal

/-- The digits of a decimal in positional notation. -/
def positional (d : Decimal) : List Char :=
  let digits := Nat.toDigits 10 d.significand
  if 0 ≤ d.exponent then digits ++ List.replicate d.exponent.toNat '0'
  else
    let places := (-d.exponent).toNat
    let padded := List.replicate (places + 1 - digits.length) '0' ++ digits
    padded.take (padded.length - places) ++ '.' :: padded.drop (padded.length - places)

example : (Decimal.mk 125 (-2)).positional = ['1', '.', '2', '5'] := by decide
example : (Decimal.mk 7 (-3)).positional = ['0', '.', '0', '0', '7'] := by decide
example : (Decimal.mk 5 2).positional = ['5', '0', '0'] := by decide

end Decimal

end TurtleGraphics
