import Chip8.Frame

/-!
Events: what a machine and its clock tell their listeners.
-/

namespace Chip8

inductive Event where
  /-- An instruction changed the display; the cycle is the number of that instruction. -/
  | redraw (cycle : Int) (frame : Frame)
  /-- A frame is due; frames are numbered from one. -/
  | frame (number : Int) (frame : Frame) (soundActive : Bool)
  deriving DecidableEq

structure Delivery where
  listener : String
  event : Event
  deriving DecidableEq

def Event.deliver (event : Event) (listeners : List String) : List Delivery :=
  listeners.map (⟨·, event⟩)

end Chip8
