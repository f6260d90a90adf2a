import Chip8.Event

/-!
A terminal that shows frames as text and writes only those that differ from the one before.
-/

namespace Chip8

structure Terminal where
  on : String
  off : String
  /-- Whether the screen is cleared before each frame. -/
  clear : Bool
  drawn : Nat
  last : Option (Array UInt8)

namespace Terminal

def clearSequence : String := "\x1b[H\x1b[2J"

def create (on off : String) (clear : Bool) : Terminal :=
  { on, off, clear, drawn := 0, last := none }

def block (terminal : Terminal) (frame : Frame) : String :=
  (if terminal.clear then clearSequence else "") ++ frame.toText terminal.on terminal.off ++ "\n"

/-- Takes an event; the result is the text to write. -/
def handle (terminal : Terminal) : Event → String × Terminal
  | .redraw _ _ => ("", terminal)
  | .frame _ frame _ =>
    if terminal.last = some frame.pixels then ("", terminal)
    else
      (terminal.block frame,
        { terminal with last := some frame.pixels, drawn := terminal.drawn + 1 })

end Terminal

end Chip8
