import Chip8.Render.Phosphor

/-!
The picture of a phosphor: every cell a square block of pixels, its intensity shown as green with
some red.
-/

namespace Chip8.Playground

structure Colour where
  red : UInt8
  green : UInt8
  blue : UInt8
  deriving DecidableEq, Repr

def black : Colour := ⟨0, 0, 0⟩

structure Picture where
  columns : Nat
  rows : Nat
  /-- The colours of the cells row by row. -/
  cells : List Colour

namespace Picture

/-- The side of the block of pixels that shows a cell. -/
def scale : Nat := 8

/-- The part of a full channel that an intensity gives, in single precision and cut to a whole
number. -/
def level (intensity : Float) (full : Float32) : UInt8 :=
  (intensity.toFloat32 * full).toUInt8

def colour (intensity : Float) : Colour :=
  ⟨level intensity 64, level intensity 255, 0⟩

def blank : Picture :=
  { columns := 64, rows := 32, cells := List.replicate (64 * 32) black }

def ofPhosphor (phosphor : Phosphor) : Picture :=
  { columns := phosphor.width.toNat
    rows := phosphor.height.toNat
    cells := phosphor.rows.flatMap fun row => row.toList.map colour }

def shape (picture : Picture) : Nat × Nat × Nat :=
  (scale * picture.rows, scale * picture.columns, 3)

def total (picture : Picture) (channel : Colour → UInt8) : Nat :=
  scale * scale * (picture.cells.map fun cell => (channel cell).toNat).foldl (· + ·) 0

end Picture

end Chip8.Playground
