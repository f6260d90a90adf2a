import Chip8.SignedIndex

/-!
Frames: what a display shows at one moment, as bytes row by row. A cell is lit unless its byte is
zero.
-/

namespace Chip8

structure Frame where
  width : Int
  height : Int
  pixels : Array UInt8
  deriving DecidableEq

namespace Frame

def isLit (pixel : UInt8) : Bool :=
  pixel != 0

def rowNumbers (height : Int) : List Int :=
  (List.range height.toNat).map (Int.ofNat ·)

def lit? (frame : Frame) (x y : Int) : Option Bool :=
  (SignedIndex.get? frame.pixels (y * frame.width + x)).map isLit

/-- The rows; one that the pixels do not fill is short. -/
def rows (frame : Frame) : List (List Bool) :=
  (rowNumbers frame.height).map fun y =>
    let start := y * frame.width
    (SignedIndex.block frame.pixels start (start + frame.width)).toList.map isLit

/-- The sum of the pixels, which counts the lit cells if each of them is one. -/
def litCount (frame : Frame) : Nat :=
  frame.pixels.foldl (fun count pixel => count + pixel.toNat) 0

def rowText (on off : String) (row : List Bool) : String :=
  String.join (row.map fun lit => if lit then on else off)

def toText (frame : Frame) (on off : String) : String :=
  "\n".intercalate (frame.rows.map (rowText on off))

end Frame

end Chip8
