/-!
# Double-precision numbers

A finite number is a sign and `mantissa * 2 ^ exponent`, held exactly. Arithmetic on natural
numbers rounds a quotient to the nearest representable number, and of two equally near ones to the
one with an even mantissa, so nothing here depends on the machine's floating point.
-/

namespace DocHarvest

/-- A double-precision number. Finite numbers are in the form that `Binary64.ofRatio` gives. -/
inductive Binary64
  | finite (negative : Bool) (mantissa : Nat) (exponent : Int)
  | infinite (negative : Bool)
  | nan
deriving DecidableEq, Repr, Inhabited

namespace Binary64

/-- The exponent of the smallest positive number. -/
def leastExponent : Int := -1074

/-- The exponent of the largest finite numbers. -/
def greatestExponent : Int := 971

/-- Zero with a sign. -/
def zero (negative : Bool) : Binary64 :=
  .finite negative 0 leastExponent

/-- A quotient rounded to the nearest natural number, ties to even. -/
def roundDiv (numerator denominator : Nat) : Nat :=
  let quotient := numerator / denominator
  let remainder := numerator % denominator
  if 2 * remainder < denominator then quotient
  else if denominator < 2 * remainder then quotient + 1
  else quotient + quotient % 2

/-- The quotient divided by a power of two, as a quotient again. -/
def scaleDown (numerator denominator : Nat) (exponent : Int) : Nat × Nat :=
  (numerator * Nat.pow 2 (-exponent).toNat, denominator * Nat.pow 2 exponent.toNat)

/-- The exponent at which a positive quotient has a mantissa of 53 bits, or the least one. -/
def exponentFor (numerator denominator : Nat) : Int :=
  let guess : Int := (Nat.log2 numerator : Int) - (Nat.log2 denominator : Int) - 52
  let (scaled, base) := scaleDown numerator denominator guess
  max leastExponent (if scaled < base * Nat.pow 2 52 then guess - 1 else guess)

/-- The number nearest to a quotient of natural numbers. -/
def ofRatio (negative : Bool) (numerator denominator : Nat) : Binary64 :=
  if numerator == 0 then zero negative
  else
    let exponent := exponentFor numerator denominator
    let (scaled, base) := scaleDown numerator denominator exponent
    let mantissa := roundDiv scaled base
    let (mantissa, exponent) :=
      if mantissa == Nat.pow 2 53 then (Nat.pow 2 52, exponent + 1) else (mantissa, exponent)
    if greatestExponent < exponent then .infinite negative
    else .finite negative mantissa exponent

/-- The number of decimal digits of a positive natural number. -/
def decimalLength (number : Nat) : Nat :=
  (Nat.toDigits 10 number).length

/--
The number nearest to `digits * 10 ^ exponent`. Quotients far outside the range of finite numbers
are decided by their size, so that no huge power is computed.
-/
def ofDecimal (negative : Bool) (digits : Nat) (exponent : Int) : Binary64 :=
  let size : Int := (decimalLength digits : Int) + exponent
  if digits == 0 || size < -330 then zero negative
  else if 310 < size then .infinite negative
  else ofRatio negative (digits * Nat.pow 10 exponent.toNat) (Nat.pow 10 (-exponent).toNat)

/-- The integer that a number is, if it is one. -/
def toInt? : Binary64 → Option Int
  | .finite negative mantissa exponent =>
      let scale := Nat.pow 2 (-exponent).toNat
      if mantissa % scale == 0 then
        let magnitude : Int := ((mantissa / scale * Nat.pow 2 exponent.toNat : Nat) : Int)
        some (if negative then -magnitude else magnitude)
      else none
  | .infinite _ => none
  | .nan => none

/-- Whether a number is one of the two zeros. -/
def isZero : Binary64 → Bool
  | .finite _ mantissa _ => mantissa == 0
  | .infinite _ => false
  | .nan => false

end Binary64

end DocHarvest
