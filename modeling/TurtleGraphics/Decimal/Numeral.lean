/-
  Reading numbers.

  * `Numeral.read?` reads the numbers of programs: an optional sign, digits,
    and optionally a point with more digits;
  * `readCount?` reads counts and levels: an optional plus sign and digits,
    below `2 ^ 32`;
  * `Literal.read?` reads the numbers of configurations, which may also have
    an exponent, lack the digits on one side of the point, or name an
    infinity or the undefined value.

  Every reader takes the whole text or nothing.
-/
import TurtleGraphics.Binary64

namespace TurtleGraphics

/-! ## Digits -/

/-- The value of a row of decimal digits. -/
def digitsValue (digits : List Char) : Nat :=
  digits.foldl (fun n c => 10 * n + (c.toNat - '0'.toNat)) 0

/-- Splits off a sign: whether it is a minus, and what follows it. -/
def splitSign : List Char → Bool × List Char
  | '-' :: rest => (true, rest)
  | '+' :: rest => (false, rest)
  | text => (false, text)

/-! ## Numbers of programs -/

/-- A number as a program writes it: `± digits · 10 ^ -places`. -/
structure Numeral where
  negative : Bool
  digits : Nat
  places : Nat
deriving DecidableEq

namespace Numeral

/-- Reads `[+-]?[0-9]+(\.[0-9]+)?`. -/
def read? (text : List Char) : Option Numeral :=
  let (negative, unsigned) := splitSign text
  let whole := unsigned.takeWhile Char.isDigit
  if whole.isEmpty then none
  else match unsigned.dropWhile Char.isDigit with
    | [] => some ⟨negative, digitsValue whole, 0⟩
    | '.' :: fraction =>
      if !fraction.isEmpty && fraction.all Char.isDigit then
        some ⟨negative, digitsValue (whole ++ fraction), fraction.length⟩
      else none
    | _ => none

/-- The scalar that a number denotes. -/
def value {α : Type} [Scalar α] (n : Numeral) : α :=
  let magnitude : α := OfScientific.ofScientific n.digits true n.places
  if n.negative then -magnitude else magnitude

end Numeral

/-- Reads a number below `2 ^ 32`: `\+?[0-9]+`. -/
def readCount? (text : List Char) : Option UInt32 :=
  let unsigned := match text with
    | '+' :: rest => rest
    | _ => text
  if !unsigned.isEmpty && unsigned.all Char.isDigit then
    let n := digitsValue unsigned
    if n < UInt32.size then some (UInt32.ofNat n) else none
  else none

/-! ## Numbers of configurations -/

/-- A number as a configuration writes it. -/
inductive Literal where
  /-- Not a number. -/
  | undefined
  /-- An infinity. -/
  | infinite (negative : Bool)
  /-- The number `± significand · 10 ^ exponent`. -/
  | decimal (negative : Bool) (significand : Nat) (exponent : Int)
deriving DecidableEq

namespace Literal

/-- Reads the exponent behind the digits of a number, zero if there is
    none. -/
def readExponent? : List Char → Option Int
  | [] => some 0
  | c :: rest =>
    if c = 'e' || c = 'E' then
      let (negative, digits) := splitSign rest
      if !digits.isEmpty && digits.all Char.isDigit then
        let n := Int.ofNat (digitsValue digits)
        some (if negative then -n else n)
      else none
    else none

/-- Reads a number in digits, without its sign. -/
def readDigits? (negative : Bool) (text : List Char) : Option Literal :=
  let whole := text.takeWhile Char.isDigit
  let (fraction, rest) := match text.dropWhile Char.isDigit with
    | '.' :: rest => (rest.takeWhile Char.isDigit, rest.dropWhile Char.isDigit)
    | rest => ([], rest)
  if whole.isEmpty && fraction.isEmpty then none
  else (readExponent? rest).map fun exponent =>
    .decimal negative (digitsValue (whole ++ fraction)) (exponent - Int.ofNat fraction.length)

/-- Reads a number: digits with an optional point and exponent, or the name
    of an infinity or of the undefined value in letters of either case. -/
def read? (text : List Char) : Option Literal :=
  let (negative, unsigned) := splitSign text
  let name := String.ofList (unsigned.map Char.toLower)
  if name = "inf" || name = "infinity" then some (.infinite negative)
  else if name = "nan" then some .undefined
  else readDigits? negative unsigned

/-- The double nearest to a number.  A number whose first digit lies far
    beyond the range of doubles is infinite or zero, whatever its other
    digits are. -/
def toFloat : Literal → Float
  | .undefined => Binary64.nan
  | .infinite negative => if negative then -Binary64.infinity else Binary64.infinity
  | .decimal negative significand exponent =>
    let size := exponent + Int.ofNat (Nat.toDigits 10 significand).length
    let magnitude : Float :=
      if significand = 0 || size < -400 then 0.0
      else if 400 < size then Binary64.infinity
      else OfScientific.ofScientific significand (decide (exponent < 0)) exponent.natAbs
    if negative then -magnitude else magnitude

end Literal

end TurtleGraphics
