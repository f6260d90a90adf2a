import Chip8.Failure
import Chip8.Font
import Chip8.SignedIndex

/-!
The memory and the registers of the machine.

Numbers are unbounded here and each operation that wraps says so; `State.Valid` is the range that a
running machine stays in. Memory, registers and stack are addressed by signed positions
(`SignedIndex`).
-/

namespace Chip8

def memorySize : Nat := 4096

def programStart : Nat := 0x200

def programCapacity : Nat := memorySize - programStart

def registerCount : Nat := 16

def flagRegister : Int := 15

structure State where
  memory : Array UInt8
  registers : Array Int
  index : Int
  pc : Int
  /-- Return addresses, the most recent one first. -/
  stack : List Int
  delayTimer : Int
  soundTimer : Int
  awaitingKey : Bool
  keyRegister : Int
  /-- Where execution goes on after an awaited key. -/
  resumePc : Int
  halted : Bool
  cycleCount : Int
  deriving DecidableEq

def lowByte (value : Int) : Int :=
  value % 0x100

def lowWord (value : Int) : Int :=
  value % 0x10000

/-- The bytes of a list of numbers, if all of them are bytes. -/
def bytes? (values : List Int) : Option (List UInt8) :=
  if ∀ value ∈ values, 0 ≤ value ∧ value < 0x100 then
    some (values.map fun value => UInt8.ofNat value.toNat)
  else none

/-- Memory with the font at its start and an image at the program's start, zero elsewhere. -/
def memoryOfImage (image : List UInt8) : Array UInt8 :=
  (Font.glyphs ++ List.replicate (programStart - Font.glyphs.length) 0 ++ image ++
    List.replicate (programCapacity - image.length) 0).toArray

namespace State

/-- All of memory zero, the font included. -/
def blank : State :=
  { memory := Array.replicate memorySize 0
    registers := Array.replicate registerCount 0
    index := 0
    pc := programStart
    stack := []
    delayTimer := 0
    soundTimer := 0
    awaitingKey := false
    keyRegister := 0
    resumePc := programStart
    halted := false
    cycleCount := 0 }

/-- A call on the state that may fail; what it had changed before failing stays changed. -/
abbrev Action (α : Type) := EStateM Failure State α

/-- The answer to a question, which changes nothing. -/
def ask {α : Type} (question : State → Except Failure α) : Action α := fun state =>
  match question state with
  | .ok answer => .ok answer state
  | .error failure => .error failure state

section Action

variable {α β : Type} {state after : State}

theorem bind_of_ok {first : Action α} {next : α → Action β} {answer : α}
    (hfirst : first state = .ok answer after) :
    (first >>= next) state = next answer after := by
  change EStateM.bind first next state = _
  rw [EStateM.bind, hfirst]

theorem bind_of_error {first : Action α} {next : α → Action β} {failure : Failure}
    (hfirst : first state = .error failure after) :
    (first >>= next) state = .error failure after := by
  change EStateM.bind first next state = _
  rw [EStateM.bind, hfirst]

theorem ask_of_ok {question : State → Except Failure α} {answer : α}
    (hanswer : question state = .ok answer) : ask question state = .ok answer state := by
  rw [ask, hanswer]

theorem ask_of_error {question : State → Except Failure α} {failure : Failure}
    (hanswer : question state = .error failure) :
    ask question state = .error failure state := by
  rw [ask, hanswer]

theorem ask_bind {question : State → Except Failure α} {next : α → Action β} {answer : α}
    (hanswer : question state = .ok answer) :
    (ask question >>= next) state = next answer state :=
  bind_of_ok (ask_of_ok hanswer)

end Action

def register (state : State) (number : Int) : Except Failure Int :=
  match SignedIndex.get? state.registers number with
  | some value => .ok value
  | none => .error .outOfRange

/-- Stores the low byte of `value`. -/
def setRegister (number value : Int) : Action Unit := fun state =>
  match SignedIndex.set? state.registers number (lowByte value) with
  | some registers => .ok () { state with registers }
  | none => .error .outOfRange state

def setFlag (flag : Bool) : Action Unit :=
  setRegister flagRegister (if flag then 1 else 0)

/-- The word at the program counter, high byte first. -/
def fetch (state : State) : Except Failure Int :=
  if memorySize ≤ state.pc + 1 then .error (.fault (.fetchOutOfBounds state.pc))
  else
    match SignedIndex.get? state.memory state.pc, SignedIndex.get? state.memory (state.pc + 1) with
    | some high, some low => .ok (0x100 * high.toNat + low.toNat)
    | _, _ => .error .outOfRange

/-- Refuses a block of memory that is not inside the address space. -/
def checkRange (state : State) (address length : Int) : Except Failure Unit :=
  if address < 0 ∨ memorySize < address + length then
    .error (.fault (.accessOutOfBounds (address + length - 1) (some state.pc)))
  else .ok ()

def readBlock (state : State) (address length : Int) : Except Failure (List UInt8) := do
  state.checkRange address length
  return (SignedIndex.block state.memory address (address + length)).toList

def writeBlock (address : Int) (data : List UInt8) : Action Unit := do
  ask (·.checkRange address data.length)
  modify fun state =>
    { state with
      memory :=
        SignedIndex.replaceBlock state.memory address (address + data.length) data.toArray }

/-- Replaces memory by the font and a program and starts it. A pending key read stays pending. -/
def loadImage (image : List UInt8) : Action Unit := do
  if programCapacity < image.length then
    throw (.fault (.programTooLarge image.length programCapacity))
  modify fun state =>
    { state with
      memory := memoryOfImage image
      pc := programStart
      resumePc := programStart
      halted := false }

theorem loadImage_eq (state : State) (image : List UInt8) :
    state.loadImage image =
      if programCapacity < image.length then
        .error (.fault (.programTooLarge image.length programCapacity)) state
      else
        .ok () { state with
          memory := memoryOfImage image
          pc := programStart
          resumePc := programStart
          halted := false } := by
  rw [loadImage]
  split <;> rfl

/-- Clears everything but memory and the program counter. -/
def reset (state : State) : State :=
  { blank with memory := state.memory, pc := state.pc }

def initial (image : List UInt8) : Except Failure State :=
  blank.loadImage image

def empty : State :=
  { blank with memory := memoryOfImage [] }

theorem loadImage_nil : blank.loadImage [] = .ok () empty := rfl

/-- Counts the delay timer down, stopping at zero. -/
def tickDelay (state : State) : State :=
  if 0 < state.delayTimer then { state with delayTimer := state.delayTimer - 1 } else state

/-- Counts the sound timer down, stopping at zero. -/
def tickSound (state : State) : State :=
  if 0 < state.soundTimer then { state with soundTimer := state.soundTimer - 1 } else state

def tick (state : State) : State :=
  state.tickDelay.tickSound

/-- Whether a tone is to be heard. -/
def soundActive (state : State) : Bool :=
  decide (0 < state.soundTimer)

/-- Every number is in the range that the machine keeps it in. -/
def Valid (state : State) : Prop :=
  state.memory.size = memorySize ∧
    state.registers.size = registerCount ∧
    (∀ value ∈ state.registers.toList, 0 ≤ value ∧ value ≤ 0xFF) ∧
    (0 ≤ state.index ∧ state.index ≤ 0xFFFF) ∧
    (0 ≤ state.pc ∧ state.pc ≤ 0xFFFF) ∧
    (0 ≤ state.resumePc ∧ state.resumePc ≤ 0xFFFF) ∧
    (∀ address ∈ state.stack, 0 ≤ address ∧ address ≤ 0xFFFF) ∧
    (0 ≤ state.delayTimer ∧ state.delayTimer ≤ 0xFF) ∧
    (0 ≤ state.soundTimer ∧ state.soundTimer ≤ 0xFF) ∧
    (0 ≤ state.keyRegister ∧ state.keyRegister < registerCount) ∧
    0 ≤ state.cycleCount

instance (state : State) : Decidable state.Valid := by
  unfold Valid
  infer_instance

end State

end Chip8
