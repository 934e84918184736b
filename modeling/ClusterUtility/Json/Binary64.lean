/-
Finite binary64 numbers in exact arithmetic.

A JSON number that is no 64-bit integer is a binary64 number. It is kept
here as `± mantissa * 2 ^ exponent`, and every step that rounds is an
integer division with a tie to the even side, so that reading and writing
a number are total functions that the kernel can evaluate.

# Reading

`ofDecimal?` takes the digits as one integer and a power of ten. It rounds
twice: the integer and the power are each rounded to binary64, and their
product or quotient is rounded again. The two roundings are part of the
format, since a single one would differ in the last place for long digit
strings.

# Writing

`shortest` looks for the fewest digits that read back as the same number,
among the two neighbours of the number on each decimal grid.
-/
namespace ClusterUtility

/-- A finite binary64 number, `± mantissa * 2 ^ exponent`. -/
structure Binary64 where
  negative : Bool
  mantissa : Nat
  exponent : Int
deriving DecidableEq, Repr

namespace Binary64

-- ====================================================== rounding

/-- A non-negative number `mantissa * 2 ^ exponent`. -/
structure Magnitude where
  mantissa : Nat
  exponent : Int
deriving DecidableEq, Repr

/-- The integer nearest to `num / den`, an exact tie going to the even one. -/
def roundHalfEven (num den : Nat) : Nat :=
  let quotient := num / den
  let twice := 2 * (num % den)
  if twice < den then quotient
  else if den < twice then quotient + 1
  else quotient + quotient % 2

/-- A ratio times a power of two, as a ratio of naturals. -/
def scaled (num den : Nat) (power : Int) : Nat × Nat :=
  if power < 0 then (num, den * Nat.pow 2 (-power).toNat)
  else (num * Nat.pow 2 power.toNat, den)

namespace Magnitude

/-- The largest exponent of a finite number whose mantissa has 53 bits. -/
def maxExponent : Int := 971

/-- The exponent below which the grid of representable numbers gets no
finer. -/
def minExponent : Int := -1074

/-- The magnitude nearest to `num / den`, with 53 significant bits where the
exponent allows; the result may exceed `maxExponent`. -/
def nearest (num den : Nat) : Magnitude :=
  if num = 0 then ⟨0, 0⟩
  else
    let guess := max ((num.log2 : Int) - (den.log2 : Int) - 53) minExponent
    let (a, b) := scaled num den (-guess)
    let (exponent, b) := if Nat.pow 2 53 ≤ a / b then (guess + 1, 2 * b)
      else (guess, b)
    let mantissa := roundHalfEven a b
    if mantissa = Nat.pow 2 53 then ⟨Nat.pow 2 52, exponent + 1⟩
    else if mantissa = 0 then ⟨0, 0⟩
    else ⟨mantissa, exponent⟩

/-- The magnitude as a ratio of naturals. -/
def ratio (x : Magnitude) : Nat × Nat :=
  scaled x.mantissa 1 x.exponent

/-- The magnitude nearest to a product. -/
def mul (x y : Magnitude) : Magnitude :=
  let (a, b) := x.ratio
  let (c, d) := y.ratio
  nearest (a * c) (b * d)

/-- The magnitude nearest to a quotient. -/
def div (x y : Magnitude) : Magnitude :=
  let (a, b) := x.ratio
  let (c, d) := y.ratio
  nearest (a * d) (b * c)

/-- Whether the magnitude lies beyond the finite numbers. -/
def isInfinite (x : Magnitude) : Bool :=
  decide (maxExponent < x.exponent)

/-- The magnitude nearest to a power of ten. -/
def powerOfTen (n : Nat) : Magnitude :=
  nearest (Nat.pow 10 n) 1

end Magnitude

-- ====================================================== reading

/-- The largest power of ten that is itself a finite number. -/
def maxPower : Nat := 308

/-- Divides by powers of ten until none is left: by the largest one while
more are asked for than it takes away. -/
def divPowers (x : Magnitude) : Nat → Nat → Magnitude
  | 0, _ => x
  | fuel + 1, power =>
      if power ≤ maxPower then x.div (Magnitude.powerOfTen power)
      else if x.mantissa = 0 then x
      else divPowers (x.div (Magnitude.powerOfTen maxPower)) fuel
        (power - maxPower)

/-- The number that the digits of `significand`, times a power of ten, are
read as; none where it is not finite. -/
def ofDecimal? (negative : Bool) (significand : Nat) (exponent : Int) :
    Option Binary64 :=
  let start := Magnitude.nearest significand 1
  let magnitude : Option Magnitude :=
    if exponent < 0 then
      let power := (-exponent).toNat
      some (divPowers start (power / maxPower + 1) power)
    else if exponent.toNat ≤ maxPower then
      let product := start.mul (Magnitude.powerOfTen exponent.toNat)
      if product.isInfinite then none else some product
    else if start.mantissa = 0 then some start
    else none
  magnitude.map fun m => ⟨negative, m.mantissa, m.exponent⟩

-- ====================================================== writing

/-- The magnitude of a number. -/
def magnitude (x : Binary64) : Magnitude := ⟨x.mantissa, x.exponent⟩

/-- A number of decimal places that shows a digit of every positive number. -/
def places : Nat := 400

/-- The power of ten of the leading digit of a positive ratio. -/
def leadingPower (num den : Nat) : Int :=
  ((Nat.toDigits 10 (num * Nat.pow 10 places / den)).length : Int) - 1 - places

/-- A whole number times a power of ten, as a ratio. -/
def decimalRatio (digits : Nat) (power : Int) : Nat × Nat :=
  if power < 0 then (digits, Nat.pow 10 (-power).toNat)
  else (digits * Nat.pow 10 power.toNat, 1)

/-- The nearest multiple of `10 ^ power` that reads back as `x`, if the
neighbour below or above on that grid does. -/
def onGrid? (x : Magnitude) (power : Int) : Option Nat :=
  let (num, den) := x.ratio
  let (gridNum, gridDen) := decimalRatio 1 power
  let below := num * gridDen / (den * gridNum)
  let readsBack (digits : Nat) : Bool :=
    let (a, b) := decimalRatio digits power
    decide (Magnitude.nearest a b = x)
  let rest := num * gridDen - below * (den * gridNum)
  let nearer := if 2 * rest ≤ den * gridNum then below else below + 1
  let further := if 2 * rest ≤ den * gridNum then below + 1 else below
  if readsBack nearer then some nearer
  else if readsBack further then some further
  else none

/-- The first grid, from one digit to seventeen, with a multiple that reads
back. -/
def searchGrids (x : Magnitude) (lead : Int) : Nat → Nat → Nat × Int
  | 0, count => ((onGrid? x (lead - count)).getD 0, lead - count)
  | fuel + 1, count =>
      match onGrid? x (lead - count) with
      | some digits => (digits, lead - count)
      | none => searchGrids x lead fuel (count + 1)

/-- Removes trailing zeros from a decimal. -/
def trimZeros : Nat → Nat × Int → Nat × Int
  | 0, decimal => decimal
  | fuel + 1, (digits, power) =>
      if digits % 10 = 0 ∧
        digits ≠ 0 then trimZeros fuel (digits / 10, power + 1)
      else (digits, power)

/-- The fewest digits, with a power of ten, that read back as the number. -/
def shortest (x : Binary64) : Nat × Int :=
  if x.mantissa = 0 then (0, 0)
  else
    let (num, den) := x.magnitude.ratio
    trimZeros 20 (searchGrids x.magnitude (leadingPower num den) 17 0)

/-- The text of a number: positional while the point stands within sixteen
digits of the leading one or at most four zeros follow it, else with an
exponent. -/
def text (x : Binary64) : String :=
  let sign := if x.negative then "-" else ""
  let (digits, power) := x.shortest
  let shown := Nat.toDigits 10 digits
  let point : Int := shown.length + power
  let zeros (n : Nat) : List Char := List.replicate n '0'
  let body : String :=
    if digits = 0 then "0.0"
    else if 0 ≤ power ∧ point ≤ 16 then
      String.ofList (shown ++ zeros power.toNat) ++ ".0"
    else if 0 < point ∧ point ≤ 16 then
      String.ofList (shown.take point.toNat) ++ "."
        ++ String.ofList (shown.drop point.toNat)
    else if -5 < point ∧ point ≤ 0 then
      "0." ++ String.ofList (zeros (-point).toNat ++ shown)
    else
      let mark := String.ofList (shown.take 1)
      let rest := shown.drop 1
      let fraction := if rest.isEmpty then "" else "." ++ String.ofList rest
      mark ++ fraction ++ "e" ++ toString (point - 1)
  sign ++ body

end Binary64

end ClusterUtility
