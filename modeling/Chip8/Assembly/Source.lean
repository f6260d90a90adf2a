import Chip8.Failure
import Chip8.Text.Blank

/-!
Program text: hexadecimal words of one to four digits, separated by blanks and commas.

A line ends at a line feed, and a comment runs from the first `;` or `#` of a line to its end. The
first piece of the text that is not a word is the reason a text is refused.
-/

namespace Chip8.Assembly

def startsComment (c : Char) : Bool :=
  c == ';' || c == '#'

def separatesTokens (c : Char) : Bool :=
  Text.isBlank c || c == ','

def hexDigit? (c : Char) : Option Nat :=
  if '0' ≤ c ∧ c ≤ '9' then some (c.toNat - '0'.toNat)
  else if 'a' ≤ c ∧ c ≤ 'f' then some (c.toNat - 'a'.toNat + 10)
  else if 'A' ≤ c ∧ c ≤ 'F' then some (c.toNat - 'A'.toNat + 10)
  else none

/-- The number that a text of hexadecimal digits continues from `high`. -/
def hexValue? (high : Nat) : List Char → Option Nat
  | [] => some high
  | c :: rest => (hexDigit? c).bind fun digit => hexValue? (16 * high + digit) rest

/-- The token without its `0x` or `0X`. -/
def dropMark : List Char → List Char
  | '0' :: 'x' :: digits => digits
  | '0' :: 'X' :: digits => digits
  | digits => digits

def wordOfToken? (token : List Char) : Option Nat :=
  let digits := dropMark token
  if 1 ≤ digits.length ∧ digits.length ≤ 4 then hexValue? 0 digits else none

/-- The tokens of one line; a separator at an end of the line leaves an empty token. -/
def tokensOfLine (line : List Char) : List (List Char) :=
  match Text.strip (line.takeWhile (!startsComment ·)) with
  | [] => []
  | code => Text.splitOnRuns separatesTokens code

def tokens (source : List Char) : List (List Char) :=
  (Text.splitOn (· == '\n') source).flatMap tokensOfLine

/-- The words of a list of tokens, or the first token that is not a word. -/
def wordsOfTokens : List (List Char) → Except Failure (List Nat)
  | [] => .ok []
  | token :: rest =>
    match wordOfToken? token with
    | none => .error (.invalidWord (String.ofList token))
    | some word => (wordsOfTokens rest).map (word :: ·)

/-- The two bytes of a word, high byte first. -/
def bytesOfWord (word : Nat) : List UInt8 :=
  [UInt8.ofNat (word / 0x100), UInt8.ofNat word]

def words (source : String) : Except Failure (List Nat) :=
  wordsOfTokens (tokens source.toList)

def parse (source : String) : Except Failure (List UInt8) :=
  (words source).map (·.flatMap bytesOfWord)

end Chip8.Assembly
