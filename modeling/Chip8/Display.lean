import Chip8.Failure
import Chip8.Frame

/-!
The display: a grid of cells that sprites are drawn on by flipping.

Cells right of the last column and below the last row are dropped. Other cells are found by their
number in the grid counted row by row, a negative number counting from the end of the grid.
-/

namespace Chip8

structure Display where
  width : Int
  height : Int
  cells : Array Bool
  deriving DecidableEq

/-- What a drawing leaves: the display, and whether a lit cell was turned off. -/
structure Drawing where
  display : Display
  collision : Except Failure Bool

namespace Display

def spriteWidth : Nat := 8

def blankCells (width height : Int) : Array Bool :=
  Array.replicate (width * height).toNat false

def ofSize (width height : Int) : Except Failure Display :=
  if width * height < 0 then .error .gridSize
  else .ok { width, height, cells := blankCells width height }

def blank : Display :=
  { width := 64, height := 32, cells := blankCells 64 32 }

def clear (display : Display) : Display :=
  { display with cells := blankCells display.width display.height }

def lit (display : Display) (x y : Int) : Except Failure Bool :=
  match SignedIndex.get? display.cells (y * display.width + x) with
  | some cell => .ok cell
  | none => .error .outOfRange

/-- Whether a row of a sprite has a pixel in a column, the leftmost being the highest bit. -/
def spritePixel (bits : UInt8) (column : Nat) : Bool :=
  bits.toNat.testBit (spriteWidth - 1 - column)

/-- The numbers of the cells that one row of a sprite flips. -/
def rowTargets (display : Display) (x y : Int) (bits : UInt8) : List Int :=
  if y < display.height then
    (List.range spriteWidth).filterMap fun (column : Nat) =>
      if x + column < display.width ∧ spritePixel bits column then
        some (y * display.width + (x + column))
      else none
  else []

/-- The numbers of the cells that a sprite with its top left corner at `(x, y)` flips, in order. -/
def targets (display : Display) (x y : Int) : List UInt8 → List Int
  | [] => []
  | bits :: rest => display.rowTargets x y bits ++ display.targets x (y + 1) rest

/-- Flips cells in turn and stops at the first that is outside the grid. -/
def flip (display : Display) (collision : Bool) : List Int → Drawing
  | [] => { display, collision := .ok collision }
  | target :: rest =>
    match SignedIndex.resolve? display.cells.size target with
    | none => { display, collision := .error .outOfRange }
    | some place =>
      let wasLit := display.cells.getD place false
      flip { display with cells := display.cells.modify place not } (collision || wasLit) rest

def draw (display : Display) (x y : Int) (sprite : List UInt8) : Drawing :=
  display.flip false (display.targets x y sprite)

def frame (display : Display) : Frame :=
  { width := display.width
    height := display.height
    pixels := display.cells.map fun cell => if cell then 1 else 0 }

end Display

end Chip8
