import Chip8.Assembly.Source
import Chip8.Json.Basic
import Chip8.Text.Decimal

/-!
Reading JSON text.

Between tokens stand spaces, tabs and line ends. A text holds one value and nothing after it.
Besides the numbers of the grammar, `NaN`, `Infinity` and `-Infinity` are read; a control character
inside a string is refused.
-/

namespace Chip8.Json

def isSpace (c : Char) : Bool :=
  c == ' ' || c == '\t' || c == '\n' || c == '\r'

def skipSpaces (text : List Char) : List Char :=
  text.dropWhile isSpace

/-- The text after a word that it has to start with. -/
def expect? : List Char → List Char → Option (List Char)
  | [], text => some text
  | _ :: _, [] => none
  | c :: word, d :: text => if c = d then expect? word text else none

/-- A value that is written as a fixed word. -/
def literals : List (String × Json) :=
  [("null", null), ("true", bool true), ("false", bool false), ("NaN", real (0 / 0)),
    ("Infinity", real (1 / 0)), ("-Infinity", real (-1 / 0))]

def readLiteral? (text : List Char) : Option (Json × List Char) :=
  literals.findSome? fun (word, value) => (expect? word.toList text).map (value, ·)

/-- The digits before the point: a lone zero, or digits that do not start with one. -/
def takeWhole? : List Char → Option (List Char × List Char)
  | '0' :: rest => some (['0'], rest)
  | text =>
    let digits := text.takeWhile Text.isAsciiDigit
    if digits.isEmpty then none else some (digits, text.dropWhile Text.isAsciiDigit)

def readNumber? (text : List Char) : Option (Json × List Char) := do
  let (negative, unsigned) :=
    match text with
    | '-' :: rest => (true, rest)
    | rest => (false, rest)
  let (whole, rest) ← takeWhole? unsigned
  let (fraction, afterFraction) :=
    match Text.takeFraction rest with
    | ([], _) => ([], rest)
    | split => split
  let (exponent, afterExponent) :=
    match Text.takeExponent? afterFraction with
    | some (exponent, rest) => (some exponent, rest)
    | none => (none, afterFraction)
  if fraction.isEmpty && exponent.isNone then
    return (integer (Text.applySign negative (Text.decimalDigits whole)), afterExponent)
  else
    let magnitude := Text.DecimalParts.value { whole, fraction, exponent := exponent.getD 0 }
    return (real (if negative then -magnitude else magnitude), afterExponent)

/-- The number of the four hexadecimal digits at the start of a text. -/
def readUnit? : List Char → Option (Nat × List Char)
  | a :: b :: c :: d :: rest => (Assembly.hexValue? 0 [a, b, c, d]).map (·, rest)
  | _ => none

def isHighSurrogate (unit : Nat) : Bool :=
  0xD800 ≤ unit && unit < 0xDC00

def isLowSurrogate (unit : Nat) : Bool :=
  0xDC00 ≤ unit && unit < 0xE000

/-- The character of a code point; a lone surrogate becomes the replacement character. -/
def charOfUnit (unit : Nat) : Char :=
  if isHighSurrogate unit || isLowSurrogate unit then '\uFFFD' else Char.ofNat unit

/-- The character after the `\u` of an escape, made of two units if they are a surrogate pair. -/
def readEscapedUnit? (text : List Char) : Option (Char × List Char) := do
  let (high, rest) ← readUnit? text
  match rest with
  | '\\' :: 'u' :: following =>
    match readUnit? following with
    | some (low, after) =>
      if isHighSurrogate high && isLowSurrogate low then
        some (Char.ofNat (0x10000 + 0x400 * (high - 0xD800) + (low - 0xDC00)), after)
      else some (charOfUnit high, rest)
    | none => some (charOfUnit high, rest)
  | _ => some (charOfUnit high, rest)

/-- The character after the backslash of a short escape. -/
def shortEscape? (c : Char) : Option Char :=
  if c == '\x22' || c == '\\' || c == '/' then some c
  else if c == 'b' then some '\x08'
  else if c == 'f' then some '\x0C'
  else if c == 'n' then some '\n'
  else if c == 'r' then some '\r'
  else if c == 't' then some '\t'
  else none

/-- The rest of a string after its opening quote. -/
def readString? : Nat → List Char → Option (List Char × List Char)
  | 0, _ => none
  | _ + 1, [] => none
  | fuel + 1, c :: rest =>
    if c == '\x22' then some ([], rest)
    else if c == '\\' then
      match rest with
      | 'u' :: unit => do
        let (char, rest) ← readEscapedUnit? unit
        (readString? fuel rest).map fun (chars, rest) => (char :: chars, rest)
      | d :: rest => do
        let char ← shortEscape? d
        (readString? fuel rest).map fun (chars, rest) => (char :: chars, rest)
      | [] => none
    else if c.toNat < 0x20 then none
    else (readString? fuel rest).map fun (chars, rest) => (c :: chars, rest)

def readQuoted? : List Char → Option (String × List Char)
  | '\x22' :: rest =>
    (readString? (rest.length + 1) rest).map fun (chars, rest) => (String.ofList chars, rest)
  | _ => none

mutual

def readValue? : Nat → List Char → Option (Json × List Char)
  | 0, _ => none
  | fuel + 1, text =>
    match text with
    | '[' :: rest =>
      match skipSpaces rest with
      | ']' :: rest => some (array [], rest)
      | items => (readItems? fuel items).map fun (items, rest) => (array items, rest)
    | '\x7b' :: rest =>
      match skipSpaces rest with
      | '\x7d' :: rest => some (object [], rest)
      | fields => (readFields? fuel fields).map fun (fields, rest) => (ofFields fields, rest)
    | '\x22' :: _ => (readQuoted? text).map fun (value, rest) => (string value, rest)
    | _ => (readLiteral? text).orElse fun _ => readNumber? text

def readItems? : Nat → List Char → Option (List Json × List Char)
  | 0, _ => none
  | fuel + 1, text => do
    let (item, rest) ← readValue? fuel text
    match skipSpaces rest with
    | ']' :: rest => some ([item], rest)
    | ',' :: rest =>
      (readItems? fuel (skipSpaces rest)).map fun (items, rest) => (item :: items, rest)
    | _ => none

def readFields? : Nat → List Char → Option (List (String × Json) × List Char)
  | 0, _ => none
  | fuel + 1, text => do
    let (name, rest) ← readQuoted? text
    match skipSpaces rest with
    | ':' :: rest =>
      let (value, rest) ← readValue? fuel (skipSpaces rest)
      match skipSpaces rest with
      | '\x7d' :: rest => some ([(name, value)], rest)
      | ',' :: rest =>
        (readFields? fuel (skipSpaces rest)).map fun (fields, rest) =>
          ((name, value) :: fields, rest)
      | _ => none
    | _ => none

end

/-- The value that a text holds. Two units of fuel for each character are always enough. -/
def parse? (text : String) : Option Json :=
  let chars := text.toList
  match readValue? (2 * chars.length + 2) (skipSpaces chars) with
  | some (value, rest) => if (skipSpaces rest).isEmpty then some value else none
  | none => none

end Chip8.Json
