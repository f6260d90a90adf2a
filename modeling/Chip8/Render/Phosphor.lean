import Chip8.Event
import Chip8.Failure

/-!
Phosphor persistence: a lit pixel glows at full intensity, and once it is unlit it fades by a
constant rate each frame until it falls under a floor.
-/

namespace Chip8

structure Phosphor where
  width : Int
  height : Int
  rate : Float
  floor : Float
  intensity : Array Float

namespace Phosphor

def create (width height : Int) (rate floor : Float) : Except Failure Phosphor :=
  if 0 ≤ rate && rate < 1 then
    .ok { width, height, rate, floor, intensity := Array.replicate (width * height).toNat 0 }
  else .error .decayRate

/-- The phosphor of the display, fading by a tenth each frame. -/
def standard : Phosphor :=
  { width := 64
    height := 32
    rate := 0.9
    floor := 0.01
    intensity := Array.replicate (64 * 32) 0 }

def fade (phosphor : Phosphor) (intensity : Float) : Float :=
  let value := intensity * phosphor.rate
  if phosphor.floor ≤ value then value else 0

/-- The next intensity of a cell; a cell that the frame has no pixel for stays as it is. -/
def next (phosphor : Phosphor) (pixel : Option UInt8) (intensity : Float) : Float :=
  match pixel with
  | none => intensity
  | some pixel => if Frame.isLit pixel then 1 else phosphor.fade intensity

def fold (phosphor : Phosphor) (pixels : Array UInt8) : Phosphor :=
  { phosphor with
    intensity := phosphor.intensity.mapIdx fun cell intensity =>
      phosphor.next pixels[cell]? intensity }

/-- Takes a frame. One with more pixels than cells still changes every cell, and is then refused. -/
def update (frame : Frame) : EStateM Failure Phosphor Unit := fun phosphor =>
  if frame.pixels.size ≤ phosphor.intensity.size then .ok () (phosphor.fold frame.pixels)
  else .error .outOfRange (phosphor.fold frame.pixels)

def handle : Event → EStateM Failure Phosphor Unit
  | .redraw _ _ => pure ()
  | .frame _ frame _ => update frame

def rows (phosphor : Phosphor) : List (Array Float) :=
  (Frame.rowNumbers phosphor.height).map fun y =>
    SignedIndex.block phosphor.intensity (y * phosphor.width) ((y + 1) * phosphor.width)

end Phosphor

end Chip8
