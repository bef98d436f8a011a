import DocHarvest.Number.Binary64

/-!
# Shortest decimal text

A finite number is written with the fewest decimal digits that read back as the same number, and
of the decimals with that many digits with the nearest one. For one digit, two digits and so on,
only the two neighbours of the number on that decimal grid can be the answer; seventeen digits
always suffice. `NumberFormat` holds the decisions about layout.
-/

namespace DocHarvest.Binary64

/-- The decimal `digits * 10 ^ exponent`. -/
structure Decimal where
  digits : Nat
  exponent : Int
deriving DecidableEq, Repr

/-- A positive number `mantissa * 2 ^ exponent` as a quotient of natural numbers. -/
def toRatio (mantissa : Nat) (exponent : Int) : Nat × Nat :=
  (mantissa * Nat.pow 2 exponent.toNat, Nat.pow 2 (-exponent).toNat)

/-- The exponent of the leading decimal digit of a positive quotient. -/
def leadingExponent (numerator denominator : Nat) : Int :=
  if denominator ≤ numerator then
    (decimalLength (numerator / denominator) : Int) - 1
  else
    -- the quotient of the denominator says how many zeros follow the point, up to one
    let guess := decimalLength (denominator / numerator)
    if denominator ≤ numerator * Nat.pow 10 (guess - 1) then -((guess - 1 : Nat) : Int)
    else -(guess : Int)

/-- The grid with `count` digits: the decimals on both sides of a quotient, the nearer one first. -/
def neighbours (numerator denominator : Nat) (leading : Int) (count : Nat) : List Decimal :=
  let exponent := leading - (count : Int) + 1
  let scaled := numerator * Nat.pow 10 (-exponent).toNat
  let base := denominator * Nat.pow 10 exponent.toNat
  let below := scaled / base
  let nearest := roundDiv scaled base
  let other := if nearest == below then below + 1 else below
  [⟨nearest, exponent⟩, ⟨other, exponent⟩]

/-- The nearest decimal that reads back, with at most `fuel` digits from `count` on. -/
def shortestFrom (mantissa : Nat) (exponent : Int) (count : Nat) : Nat → Option Decimal
  | 0 => none
  | fuel + 1 =>
      let (numerator, denominator) := toRatio mantissa exponent
      let leading := leadingExponent numerator denominator
      let readsBack (decimal : Decimal) : Bool :=
        ofDecimal false decimal.digits decimal.exponent == .finite false mantissa exponent
      match (neighbours numerator denominator leading count).find? readsBack with
      | some decimal => some decimal
      | none => shortestFrom mantissa exponent (count + 1) fuel

/-- The exact decimal of a number, which always reads back. -/
def exactDecimal (mantissa : Nat) (exponent : Int) : Decimal :=
  if 0 ≤ exponent then ⟨mantissa * Nat.pow 2 exponent.toNat, 0⟩
  else ⟨mantissa * Nat.pow 5 (-exponent).toNat, exponent⟩

/-- The decimal with the fewest digits that reads back as a positive number. -/
def shortest (mantissa : Nat) (exponent : Int) : Decimal :=
  (shortestFrom mantissa exponent 1 17).getD (exactDecimal mantissa exponent)

/-- How numbers are laid out. -/
structure NumberFormat where
  /-- The first exponent below which numbers get an exponent part. -/
  leastPositional : Int
  /-- The first exponent from which on numbers get an exponent part. -/
  firstScientific : Int
  /-- The least number of digits of an exponent. -/
  exponentWidth : Nat
  /-- The names of infinity and of the number that is none. -/
  infinity : String
  notANumber : String

/-- Drops the zeros at the end of a digit sequence but keeps one digit. -/
def trimZeros (digits : List Char) : List Char :=
  match (digits.reverse.dropWhile (· == '0')).reverse with
  | [] => ['0']
  | kept => kept

/-- An exponent with its sign and at least `width` digits. -/
def exponentText (width : Nat) (exponent : Int) : List Char :=
  let digits := Nat.toDigits 10 exponent.natAbs
  (if exponent < 0 then '-' else '+') :: (List.replicate (width - digits.length) '0' ++ digits)

/-- Digits with a point `scale` places after the first digit; integers end in `.0`. -/
def positional (digits : List Char) (scale : Int) : List Char :=
  if scale < 0 then
    ['0', '.'] ++ List.replicate ((-scale).toNat - 1) '0' ++ digits
  else
    let whole := scale.toNat + 1
    let padded := digits ++ List.replicate (whole - digits.length) '0'
    let fraction := padded.drop whole
    padded.take whole ++ ['.'] ++ (if fraction.isEmpty then ['0'] else fraction)

/-- Digits with the point after the first one and an exponent part. -/
def scientific (format : NumberFormat) (digits : List Char) (scale : Int) : List Char :=
  let fraction := digits.drop 1
  digits.take 1 ++ (if fraction.isEmpty then [] else '.' :: fraction) ++ ['e'] ++
    exponentText format.exponentWidth scale

/-- The text of a number. -/
def render (format : NumberFormat) : Binary64 → String
  | .nan => format.notANumber
  | .infinite negative => (if negative then "-" else "") ++ format.infinity
  | .finite negative mantissa exponent =>
      let sign := if negative then ['-'] else []
      if mantissa == 0 then String.ofList (sign ++ ['0', '.', '0'])
      else
        let decimal := shortest mantissa exponent
        let written := Nat.toDigits 10 decimal.digits
        let scale := decimal.exponent + (written.length : Int) - 1
        let digits := trimZeros written
        let body :=
          if scale < format.leastPositional || format.firstScientific ≤ scale then
            scientific format digits scale
          else positional digits scale
        String.ofList (sign ++ body)

end DocHarvest.Binary64
