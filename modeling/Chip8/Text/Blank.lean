/-!
Blank characters, the ends of a text without them, and the pieces between separators.

The table holds the white space of Unicode together with the four information separators, so it is
wider than `Char.isWhitespace`.
-/

namespace Chip8.Text

def isBlank (c : Char) : Bool :=
  let code := c.toNat
  (0x09 ≤ code && code ≤ 0x0D) || (0x1C ≤ code && code ≤ 0x20) || code == 0x85 || code == 0xA0 ||
    code == 0x1680 || (0x2000 ≤ code && code ≤ 0x200A) || code == 0x2028 || code == 0x2029 ||
    code == 0x202F || code == 0x205F || code == 0x3000

/-- The text without the characters of a class at its two ends. -/
def trimEnds (dropped : Char → Bool) (text : List Char) : List Char :=
  ((text.dropWhile dropped).reverse.dropWhile dropped).reverse

def strip (text : List Char) : List Char :=
  trimEnds isBlank text

/-- Puts a character in front of the first piece. -/
def consPiece (c : Char) : List (List Char) → List (List Char)
  | [] => [[c]]
  | piece :: pieces => (c :: piece) :: pieces

/-- The pieces between single separators; a separator at an end leaves an empty piece. -/
def splitOn (separates : Char → Bool) : List Char → List (List Char)
  | [] => [[]]
  | c :: rest =>
    if separates c then [] :: splitOn separates rest else consPiece c (splitOn separates rest)

/-- The pieces between runs of separators; a run at an end leaves one empty piece. -/
def splitOnRuns (separates : Char → Bool) : List Char → List (List Char)
  | [] => [[]]
  | c :: rest =>
    if separates c then
      if rest.head?.any separates then splitOnRuns separates rest
      else [] :: splitOnRuns separates rest
    else consPiece c (splitOnRuns separates rest)

end Chip8.Text
