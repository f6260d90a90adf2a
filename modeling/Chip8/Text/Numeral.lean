import Chip8.Text.Blank
import Chip8.Text.DecimalDigit

/-!
Numbers written by people: blanks around them, a sign, digits of any script and single underscores
between digits.

The information separators are no blanks here; all other blanks may surround a number.
-/

namespace Chip8.Text

def isSeparator (c : Char) : Bool :=
  0x1C ≤ c.toNat && c.toNat ≤ 0x1F

def surroundsNumeral (c : Char) : Bool :=
  isBlank c && !isSeparator c

def isAsciiDigit (c : Char) : Bool :=
  '0' ≤ c && c ≤ '9'

/-- The ASCII digit for a decimal digit of any script; other characters stay. -/
def plainDigit (c : Char) : Char :=
  match decimalValue? c with
  | some value => Char.ofNat ('0'.toNat + value)
  | none => c

/-- The characters of a number without the blanks around it, its digits in ASCII. -/
def numeralChars (text : String) : List Char :=
  (trimEnds surroundsNumeral text.toList).map plainDigit

/-- Whether a number is negative, and what follows its sign. -/
def takeSign : List Char → Bool × List Char
  | '-' :: rest => (true, rest)
  | '+' :: rest => (false, rest)
  | chars => (false, chars)

/-- The number that digits continue from `high`, single underscores between them left out. -/
def digitsValue? (base high : Nat) : List Char → Option Nat
  | [] => some high
  | '_' :: c :: rest =>
    (digitValue? base c).bind fun digit => digitsValue? base (base * high + digit) rest
  | c :: rest => (digitValue? base c).bind fun digit => digitsValue? base (base * high + digit) rest

/-- A number without a sign: a digit, followed by further ones. -/
def natural? (base : Nat) : List Char → Option Nat
  | [] => none
  | c :: rest => (digitValue? base c).bind fun digit => digitsValue? base digit rest

/-- The digits after a mark such as `0x`, which an underscore may follow. -/
def dropBaseMark : List Char → List Char
  | '0' :: 'x' :: '_' :: rest => rest
  | '0' :: 'X' :: '_' :: rest => rest
  | '0' :: 'x' :: rest => rest
  | '0' :: 'X' :: rest => rest
  | chars => chars

def applySign (negative : Bool) (value : Nat) : Int :=
  if negative then -value else value

def integer? (text : String) : Option Int :=
  let (negative, digits) := takeSign (numeralChars text)
  (natural? 10 digits).map (applySign negative)

/-- Reads a whole number in base sixteen, marked or not. -/
def hexInteger? (text : String) : Option Int :=
  let (negative, digits) := takeSign (numeralChars text)
  (natural? 16 (dropBaseMark digits)).map (applySign negative)

end Chip8.Text
