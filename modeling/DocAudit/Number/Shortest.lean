import DocAudit.Number.Binary64

/-!
# Shortest decimal text

The fewest digits that read back as a given number, the nearest such digits where there is a
choice, and the text made of them: positional from `0.0001` up to sixteen digits before the
point, with an exponent of at least two digits otherwise.
-/

namespace DocAudit.Number

/-- Decimal digits with the position of the point: `digits * 10 ^ (point - number of digits)`. -/
structure Decimal where
  digits : Text
  point : Int
  deriving DecidableEq, Repr

/-- The reals that round to a number, as a quotient with common denominator: the number itself
and its distance to the lower and to the upper end. The ends belong to it if the significand is
even. -/
private structure Interval where
  value : Nat
  below : Nat
  above : Nat
  denominator : Nat
  closed : Bool

private def intervalOf (significand : Nat) (exponent : Int) : Interval :=
  let atPower := significand = Nat.pow 2 52 ∧ Binary64.leastExponent < exponent
  let below := if atPower then 1 else 2
  let closed := significand % 2 = 0
  if exponent < 0 then
    ⟨significand * 4, below, 2, 4 * Nat.pow 2 (-exponent).toNat, closed⟩
  else
    let unit := Nat.pow 2 exponent.toNat
    ⟨significand * 4 * unit, below * unit, 2 * unit, 4, closed⟩

private def Interval.holds (interval : Interval) (numerator denominator : Nat) : Bool :=
  -- compare numerator / denominator with the two ends, multiplied by both denominators
  let point := numerator * interval.denominator
  let low := (interval.value - interval.below) * denominator
  let high := (interval.value + interval.above) * denominator
  if interval.closed then low ≤ point && point ≤ high else low < point && point < high

/-- The least power of ten above a positive quotient, searched upwards from a start that is not
above it. -/
private def powerAbove (numerator denominator : Nat) : Nat → Int → Int
  | 0, power => power
  | fuel + 1, power =>
    let above : Bool :=
      if power < 0 then numerator * Nat.pow 10 (-power).toNat < denominator
      else numerator < denominator * Nat.pow 10 power.toNat
    if above then power else powerAbove numerator denominator fuel (power + 1)

/-- The digits on the grid of `10 ^ scale` that lie in the interval, the nearer one if both
neighbours of the value do, the even one if they are equally near. -/
private def onGrid (interval : Interval) (scale : Int) : Option Nat :=
  let num := if scale < 0 then interval.value * Nat.pow 10 (-scale).toNat else interval.value
  let den :=
    if scale < 0 then interval.denominator else interval.denominator * Nat.pow 10 scale.toNat
  let lower := num / den
  let holds (digits : Nat) : Bool :=
    if scale < 0 then interval.holds digits (Nat.pow 10 (-scale).toNat)
    else interval.holds (digits * Nat.pow 10 scale.toNat) 1
  let remainder := num % den
  match holds lower, holds (lower + 1) with
  | true, true =>
    if 2 * remainder < den then some lower
    else if den < 2 * remainder then some (lower + 1)
    else some (lower + lower % 2)
  | true, false => some lower
  | false, true => some (lower + 1)
  | false, false => none

/-- Try one digit, two digits and so on. -/
private def shortestFrom (interval : Interval) (point : Int) : Nat → Nat → Nat × Int
  | 0, count => ((onGrid interval (point - Int.ofNat count)).getD 0, point - Int.ofNat count)
  | fuel + 1, count =>
    let scale := point - Int.ofNat count
    match onGrid interval scale with
    | some digits => (digits, scale)
    | none => shortestFrom interval point fuel (count + 1)

/-- Remove trailing zeros of a positive number of digits. -/
private def dropZeros : Text → Text :=
  Text.dropEndWhile (· == '0')

/-- The shortest digits of a finite number other than zero. -/
def shortest (significand : Nat) (exponent : Int) : Decimal :=
  let interval := intervalOf significand exponent
  let point := powerAbove interval.value interval.denominator 700 (-330)
  let (digits, scale) := shortestFrom interval point 17 1
  let numeral := Text.ofNat digits
  ⟨dropZeros numeral, Int.ofNat numeral.length + scale⟩

/-- An exponent with its sign and at least two digits. -/
private def exponentText (exponent : Int) : Text :=
  let digits := Text.ofNat exponent.natAbs
  (if exponent < 0 then "-" else "+") ++ List.replicate (2 - digits.length) '0' ++ digits

/-- Decimal digits as text. -/
def Decimal.render (decimal : Decimal) : Text :=
  let count := Int.ofNat decimal.digits.length
  let point := decimal.point
  if point ≤ -4 ∨ 16 < point then
    let mantissa :=
      match decimal.digits with
      | [] => []
      | [digit] => [digit]
      | digit :: rest => digit :: '.' :: rest
    mantissa ++ "e" ++ exponentText (point - 1)
  else if point ≤ 0 then
    "0." ++ List.replicate (-point).toNat '0' ++ decimal.digits
  else if count ≤ point then
    decimal.digits ++ List.replicate (point - count).toNat '0' ++ ".0"
  else decimal.digits.take point.toNat ++ "." ++ decimal.digits.drop point.toNat

/-- The text of a number. -/
def Binary64.render : Binary64 → Text
  | .nan => "nan"
  | .infinite negative => if negative then "-inf" else "inf"
  | .finite negative significand exponent =>
    (if negative then "-" else "") ++
      (if significand = 0 then ("0.0" : Text) else (shortest significand exponent).render)

end DocAudit.Number
