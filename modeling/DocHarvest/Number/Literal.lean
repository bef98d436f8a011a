import DocHarvest.Number.Binary64
import DocHarvest.Text.Basic
import DocHarvest.Text.Digit

/-!
# Number literals

The text of a number literal is read as an integer of any size if it has the form of one, and
otherwise as a double-precision number. Separators `_` and the suffix `n` are dropped first.
Integers are written in base ten without leading zeros, or in base two, eight or sixteen after
`0b`, `0o` or `0x`. Digits of every script are read by their value.
-/

namespace DocHarvest

/-- What a number literal denotes. -/
inductive Numeral
  | integer (value : Int)
  | real (value : Binary64)
deriving DecidableEq, Repr

namespace Numeral

/-- The most decimal digits that are read or written as an integer. -/
def maxDecimalDigits : Nat := 4300

/-- Whitespace that may surround a numeral. -/
def isMargin (character : Char) : Bool :=
  Text.isBlank character && !(0x1c ≤ character.toNat && character.toNat < 0x20)

/-- A digit of any script as the ASCII digit of the same value; other characters are kept. -/
def plainDigit (character : Char) : Char :=
  match Text.digitValue? character with
  | some value => Char.ofNat (0x30 + value)
  | none => character

/-- A numeral without its margins and in ASCII digits. -/
def plain (text : List Char) : List Char :=
  (Text.dropEndWhile isMargin (text.dropWhile isMargin)).map plainDigit

/-- The value of a digit in bases up to sixteen. -/
def digitOf? (character : Char) : Option Nat :=
  let code := character.toNat
  if character.isDigit then some (code - 0x30)
  else if 0x61 ≤ code && code < 0x67 then some (code - 0x57)
  else if 0x41 ≤ code && code < 0x47 then some (code - 0x37)
  else none

/-- The number that digits denote in a base after a number that was read before them. -/
def digitsFrom? (base : Nat) (read : Nat) : List Char → Option Nat
  | [] => some read
  | character :: rest =>
      match digitOf? character with
      | some digit => if digit < base then digitsFrom? base (read * base + digit) rest else none
      | none => none

/-- The number that a non-empty sequence of digits denotes in a base. -/
def digits? (base : Nat) (text : List Char) : Option Nat :=
  if text.isEmpty then none else digitsFrom? base 0 text

/-- Splits an optional sign from a text and says whether it was a minus. -/
def splitSign : List Char → Bool × List Char
  | '-' :: rest => (true, rest)
  | '+' :: rest => (false, rest)
  | text => (false, text)

/-- A decimal integer: no zero in front of other digits, and not longer than the limit. -/
def decimal? (text : List Char) : Option Nat :=
  if maxDecimalDigits < text.length then none
  else
    match digits? 10 text with
    | some value => if text.head? == some '0' && value != 0 then none else some value
    | none => none

/-- The magnitude of an integer, in the base that its first two characters name. -/
def magnitude? : List Char → Option Nat
  | '0' :: mark :: rest =>
      if mark == 'x' || mark == 'X' then digits? 16 rest
      else if mark == 'o' || mark == 'O' then digits? 8 rest
      else if mark == 'b' || mark == 'B' then digits? 2 rest
      else decimal? ('0' :: mark :: rest)
  | text => decimal? text

/-- Gives a magnitude its sign. -/
def signed (negative : Bool) (magnitude : Nat) : Int :=
  if negative then -(magnitude : Int) else magnitude

/-- Reads a plain numeral as an integer. -/
def integer? (text : List Char) : Option Int :=
  let (negative, rest) := splitSign text
  (magnitude? rest).map (signed negative)

/-- Reads the exponent part of a real number, which may be missing. -/
def exponent? : List Char → Option Int
  | [] => some 0
  | mark :: rest =>
      if mark == 'e' || mark == 'E' then
        let (negative, digits) := splitSign rest
        (digits? 10 digits).map (signed negative)
      else none

/-- Reads digits, an optional point with more digits, and an optional exponent. -/
def decimalReal? (negative : Bool) (text : List Char) : Option Binary64 :=
  let whole := text.takeWhile Char.isDigit
  let afterWhole := text.dropWhile Char.isDigit
  let (fraction, afterFraction) :=
    match afterWhole with
    | '.' :: rest => (rest.takeWhile Char.isDigit, rest.dropWhile Char.isDigit)
    | rest => ([], rest)
  match digits? 10 (whole ++ fraction), exponent? afterFraction with
  | some digits, some exponent =>
      some (.ofDecimal negative digits (exponent - (fraction.length : Int)))
  | _, _ => none

/-- Reads a plain numeral as a real number; infinity and the number that is none have names. -/
def real? (text : List Char) : Option Binary64 :=
  let (negative, rest) := splitSign text
  let name := String.ofList (rest.map Char.toLower)
  if name == "inf" || name == "infinity" then some (.infinite negative)
  else if name == "nan" then some .nan
  else decimalReal? negative rest

/-- A literal without separators and without the suffix of a big integer. -/
def withoutMarks (text : List Char) : List Char :=
  Text.dropEndWhile (· == 'n') (text.filter (· != '_'))

/-- What the text of a number literal denotes, if it is a numeral at all. -/
def ofLiteral? (text : String) : Option Numeral :=
  let numeral := plain (withoutMarks text.toList)
  match integer? numeral with
  | some value => some (.integer value)
  | none => (real? numeral).map .real

end Numeral

end DocHarvest
