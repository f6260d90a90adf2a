import Chip8.Config.Basic
import Chip8.Display
import Chip8.Event
import Chip8.Instruction.Decode
import Chip8.Keypad
import Chip8.Note
import Chip8.Random.Source
import Chip8.State.Effect
import Chip8.State.Report

/-!
The machine: state, display, keypad and a source of random bytes, with the trace of what it executed
and the events and notes that it has sent.

An `Action` is a call that may fail; what it had changed before failing stays changed.
-/

namespace Chip8

structure TraceEntry where
  cycle : Int
  pc : Int
  /-- The instruction, unless fetching it failed. -/
  instruction : Option Instruction
  before : Snapshot
  after : Snapshot
  /-- The text of its fault. -/
  error : Option String
  deriving DecidableEq

structure Machine (source : Type) where
  config : Config
  state : State
  display : Display
  keypad : Keypad
  random : source
  /-- The instructions executed since the last load, oldest first. -/
  trace : Array TraceEntry
  listeners : List String
  /-- The events sent so far, oldest first. -/
  deliveries : Array Delivery
  /-- Notes of a lower level are not kept. -/
  noteLevel : Level
  /-- The notes written so far, oldest first. -/
  notes : Array Note

namespace Machine

variable {source α : Type}

abbrev Action (source α : Type) := EStateM Failure (Machine source) α

def create (config : Config) (random : source) : Machine source :=
  { config
    state := State.empty
    display := Display.blank
    keypad := Keypad.released
    random
    trace := #[]
    listeners := []
    deliveries := #[]
    noteLevel := .warning
    notes := #[] }

def ask (question : State → Except Failure α) : Action source α := fun machine =>
  match question machine.state with
  | .ok answer => .ok answer machine
  | .error failure => .error failure machine

/-- Changes the state, also where the change fails in the middle. -/
def update (change : State.Action Unit) : Action source Unit := fun machine =>
  match change machine.state with
  | .ok _ state => .ok () { machine with state }
  | .error failure state => .error failure { machine with state }

theorem update_ok {machine : Machine source} {change : State.Action Unit} {after : State}
    (hchange : change machine.state = .ok () after) :
    update change machine = .ok () { machine with state := after } := by
  rw [update, hchange]

theorem update_error {machine : Machine source} {change : State.Action Unit}
    {failure : Failure} {after : State}
    (hchange : change machine.state = .error failure after) :
    update change machine = .error failure { machine with state := after } := by
  rw [update, hchange]

/-- As `update`, for the keypad. -/
def updateKeypad (change : Keypad.Change) : Action source Unit := fun machine =>
  match change machine.keypad with
  | .ok _ keypad => .ok () { machine with keypad }
  | .error failure keypad => .error failure { machine with keypad }

theorem updateKeypad_withKey (machine : Machine source) (number : Int)
    (change : Keypad → Key → Keypad) :
    updateKeypad (Keypad.withKey number change) machine =
      match Key.ofInt? number with
      | some key => .ok () { machine with keypad := change machine.keypad key }
      | none => .error (.invalidKey number) machine := by
  rw [updateKeypad, Keypad.withKey_eq]
  cases Key.ofInt? number <;> rfl

def note (machine : Machine source) (level : Level) (topic : Topic) (text : Unit → String) :
    Machine source :=
  if machine.noteLevel.rank ≤ level.rank then
    { machine with notes := machine.notes.push { level, topic, text := text () } }
  else machine

def send (machine : Machine source) (listeners : List String) (event : Event) : Machine source :=
  { machine with deliveries := machine.deliveries ++ event.deliver listeners }

def addListener (machine : Machine source) (listener : String) : Machine source :=
  { machine with listeners := machine.listeners ++ [listener] }

/-- Tells the listeners that the current instruction changed the display. -/
def requestRedraw (machine : Machine source) : Machine source :=
  machine.send machine.listeners (.redraw (machine.state.cycleCount + 1) machine.display.frame)

/-- Returns everything but memory and the program counter to its first state. -/
def reset (machine : Machine source) : Machine source :=
  let machine :=
    { machine with
      state := machine.state.reset
      display := machine.display.clear
      keypad := Keypad.released
      trace := #[] }
  machine.note .debug .cpu fun _ => "VM reset."

def randomByte [ByteSource source] : Action source UInt8 := fun machine =>
  let (byte, random) := ByteSource.next machine.random
  .ok byte { machine with random }

/-- Draws a sprite; the result is whether a lit cell was turned off. -/
def draw (x y : Int) (sprite : List UInt8) : Action source Bool := fun machine =>
  let drawing := machine.display.draw x y sprite
  let machine := { machine with display := drawing.display }
  match drawing.collision with
  | .ok collision => .ok collision machine
  | .error failure => .error failure machine

end Machine

end Chip8
