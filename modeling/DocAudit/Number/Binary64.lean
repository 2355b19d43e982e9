import DocAudit.Text.Basic

/-!
# Binary floating point

Numbers with a 53-bit significand, as exact pairs of a significand and a power of two, and the
rounding of a decimal number to the nearest of them, halves to even.
-/

namespace DocAudit.Number

/-- A double-precision number. A finite one is `significand * 2 ^ exponent`; its significand has
53 bits unless the exponent is the least one. -/
inductive Binary64 where
  | nan
  | infinite (negative : Bool)
  | finite (negative : Bool) (significand : Nat) (exponent : Int)
  deriving DecidableEq, Repr

namespace Binary64

/-- The least exponent of a finite number. -/
def leastExponent : Int := -1074

/-- The greatest exponent of a finite number. -/
def greatestExponent : Int := 971

/-- The quotient rounded to the nearest integer, halves to even. -/
def roundDiv (numerator denominator : Nat) : Nat :=
  let quotient := numerator / denominator
  let twice := 2 * (numerator % denominator)
  if twice < denominator then quotient
  else if denominator < twice then quotient + 1
  else quotient + quotient % 2

/-- Round the positive quotient `numerator / denominator` at the given exponent. -/
private def roundAt (negative : Bool) (numerator denominator : Nat) (exponent : Int) : Binary64 :=
  let significand :=
    if exponent < 0 then roundDiv (numerator * Nat.pow 2 (-exponent).toNat) denominator
    else roundDiv numerator (denominator * Nat.pow 2 exponent.toNat)
  let (significand, exponent) :=
    if significand = Nat.pow 2 53 then (Nat.pow 2 52, exponent + 1) else (significand, exponent)
  if greatestExponent < exponent then .infinite negative else .finite negative significand exponent

/-- The exponent at which a positive quotient has a significand of 53 bits, but no less than the
least exponent. -/
private def exponentOf (numerator denominator : Nat) : Int :=
  let guess : Int := Int.ofNat numerator.log2 - Int.ofNat denominator.log2 - 52
  let reached : Bool :=
    if guess < 0 then Nat.pow 2 52 * denominator ≤ numerator * Nat.pow 2 (-guess).toNat
    else Nat.pow 2 52 * denominator * Nat.pow 2 guess.toNat ≤ numerator
  max leastExponent (if reached then guess else guess - 1)

/-- The number nearest to `digits * 10 ^ scale`. -/
def ofDecimal (negative : Bool) (digits : Nat) (scale : Int) : Binary64 :=
  if digits = 0 then .finite negative 0 leastExponent
  else
    let magnitude : Int := Int.ofNat (Text.ofNat digits).length + scale
    if 310 < magnitude then .infinite negative
    else if magnitude < -330 then .finite negative 0 leastExponent
    else
      let numerator := if scale < 0 then digits else digits * Nat.pow 10 scale.toNat
      let denominator := if scale < 0 then Nat.pow 10 (-scale).toNat else 1
      roundAt negative numerator denominator (exponentOf numerator denominator)

end Binary64

end DocAudit.Number
