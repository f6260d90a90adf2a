import Chip8.Text.Numeral

/-!
Reading decimal fractions as binary floating point numbers, rounded to the nearest.
-/

namespace Chip8.Text

/-- The number `mantissa * 10 ^ exponent`; exponents beyond the range of the result are cut
short. -/
def scientific (mantissa : Nat) (exponent : Int) : Float :=
  let magnitude := exponent + (Nat.toDigits 10 mantissa).length
  if mantissa = 0 ∨ magnitude < -400 then 0
  else if 400 < magnitude then 1 / 0
  else Float.ofScientific mantissa (exponent < 0) exponent.natAbs

def decimalDigits (digits : List Char) : Nat :=
  digits.foldl (fun value c => 10 * value + (c.toNat - '0'.toNat)) 0

/-- The parts of a number: the digits before and after its point and its exponent. -/
structure DecimalParts where
  whole : List Char
  fraction : List Char
  exponent : Int

def DecimalParts.value (parts : DecimalParts) : Float :=
  scientific (decimalDigits (parts.whole ++ parts.fraction))
    (parts.exponent - parts.fraction.length)

/-- Splits a fraction off: a point and the digits after it. -/
def takeFraction : List Char → List Char × List Char
  | '.' :: rest => (rest.takeWhile isAsciiDigit, rest.dropWhile isAsciiDigit)
  | rest => ([], rest)

/-- Splits an exponent off: the letter, a sign and at least one digit. -/
def takeExponent? : List Char → Option (Int × List Char)
  | c :: rest =>
    if c == 'e' || c == 'E' then
      let (negative, digits) := takeSign rest
      let exponent := digits.takeWhile isAsciiDigit
      if exponent.isEmpty then none
      else some (applySign negative (decimalDigits exponent), digits.dropWhile isAsciiDigit)
    else none
  | [] => none

/-- Leaves out underscores that stand between digits; any other one refuses the text. -/
def dropUnderscores? (before : Bool) : List Char → Option (List Char)
  | [] => some []
  | '_' :: c :: rest =>
    if before && isAsciiDigit c then (dropUnderscores? true rest).map (c :: ·) else none
  | '_' :: [] => none
  | c :: rest => (dropUnderscores? (isAsciiDigit c) rest).map (c :: ·)

def parts? (chars : List Char) : Option DecimalParts := do
  let chars ← dropUnderscores? false chars
  let whole := chars.takeWhile isAsciiDigit
  let (fraction, rest) := takeFraction (chars.dropWhile isAsciiDigit)
  if whole.isEmpty && fraction.isEmpty then none
  else
    let (exponent, rest) := (takeExponent? rest).getD (0, rest)
    if rest.isEmpty then some { whole, fraction, exponent } else none

/-- The names of infinity and of the value that is no number, in any case. -/
def named? (chars : List Char) : Option Float :=
  let name := String.ofList (chars.map Char.toLower)
  if name == "inf" || name == "infinity" then some (1 / 0)
  else if name == "nan" then some (0 / 0)
  else none

/-- Reads a fraction in base ten. -/
def float? (text : String) : Option Float :=
  let (negative, chars) := takeSign (numeralChars text)
  let magnitude := (named? chars).orElse fun _ => (parts? chars).map DecimalParts.value
  magnitude.map fun value => if negative then -value else value

end Chip8.Text
