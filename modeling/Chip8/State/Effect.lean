import Chip8.State.Basic

/-!
The effects of instructions on memory and registers.

The program counter already stands behind the instruction, so a skip adds two to it and the
instruction itself was fetched at `pc - 2`. Instructions that set the flag register compute result
and flag from the old values, store the flag first and the result second.
-/

namespace Chip8.State

/-- The address that the current instruction was fetched from. -/
def fetchAddress (state : State) : Int :=
  state.pc - 2

/-- Refuses a word that is no instruction. -/
def refuse (word : Int) : Action Unit := fun state =>
  .error (.fault (.unsupportedOpcode word state.fetchAddress)) state

def jump (state : State) (target : Int) : State :=
  { state with pc := target }

def skipIf (state : State) (condition : Bool) : State :=
  if condition then { state with pc := state.pc + 2 } else state

/-- Takes the most recent return address off the stack. -/
def pop : Action Int := fun state =>
  match state.stack with
  | [] => .error (.fault (.stackUnderflow state.fetchAddress)) state
  | address :: stack => .ok address { state with stack }

/-- Puts the program counter on the stack; without a capacity the stack grows without bound. -/
def push (capacity : Option Int) : Action Unit := fun state =>
  if capacity.any (decide <| · ≤ (state.stack.length : Int)) then
    .error (.fault (.stackOverflow state.fetchAddress state.stack.length)) state
  else .ok () { state with stack := state.pc :: state.stack }

def ret : Action Unit := do
  let address ← pop
  modify (·.jump address)

def call (capacity : Option Int) (target : Int) : Action Unit := do
  push capacity
  modify (·.jump target)

theorem ret_eq (state : State) :
    state.ret =
      match state.stack with
      | [] => .error (.fault (.stackUnderflow state.fetchAddress)) state
      | address :: stack => .ok () { state with stack, pc := address } := by
  change EStateM.bind pop _ state = _
  rw [EStateM.bind, pop]
  cases state.stack <;> rfl

theorem call_eq (state : State) (capacity : Option Int) (target : Int) :
    state.call capacity target =
      if capacity.any (decide <| · ≤ (state.stack.length : Int)) then
        .error (.fault (.stackOverflow state.fetchAddress state.stack.length)) state
      else .ok () { state with stack := state.pc :: state.stack, pc := target } := by
  change EStateM.bind (push capacity) _ state = _
  rw [EStateM.bind, push]
  cases capacity.any (decide <| · ≤ (state.stack.length : Int)) <;> rfl

def jumpOffset (target : Int) : Action Unit := do
  let offset ← ask (·.register 0)
  modify (·.jump (lowWord (target + offset)))

def skipIfRegister (x : Int) (condition : Int → Bool) : Action Unit := do
  let vx ← ask (·.register x)
  modify (·.skipIf (condition vx))

def skipIfRegisters (x y : Int) (condition : Int → Int → Bool) : Action Unit := do
  let vx ← ask (·.register x)
  let vy ← ask (·.register y)
  modify (·.skipIf (condition vx vy))

/-- Replaces register `x` by a value made of it and of register `y`. -/
def combine (x y : Int) (result : Int → Int → Int) : Action Unit := do
  let vx ← ask (·.register x)
  let vy ← ask (·.register y)
  setRegister x (result vx vy)

/-- As `combine`, with a flag. -/
def combineWithFlag (x y : Int) (flag : Int → Int → Bool) (result : Int → Int → Int) :
    Action Unit := do
  let vx ← ask (·.register x)
  let vy ← ask (·.register y)
  setFlag (flag vx vy)
  setRegister x (result vx vy)

/-- Replaces register `x` by a value made of it alone, with a flag. -/
def shift (x : Int) (flag : Int → Bool) (result : Int → Int) : Action Unit := do
  let vx ← ask (·.register x)
  setFlag (flag vx)
  setRegister x (result vx)

def onLowBytes (operation : Nat → Nat → Nat) (left right : Int) : Int :=
  operation (lowByte left).toNat (lowByte right).toNat

def addByte (x byte : Int) : Action Unit := do
  let vx ← ask (·.register x)
  setRegister x (vx + byte)

def copy (x y : Int) : Action Unit := do
  let vy ← ask (·.register y)
  setRegister x vy

def add (x y : Int) : Action Unit :=
  combineWithFlag x y (fun vx vy => decide (0xFF < vx + vy)) (· + ·)

def subtract (x y : Int) : Action Unit :=
  combineWithFlag x y (fun vx vy => decide (vy ≤ vx)) (· - ·)

def subtractFrom (x y : Int) : Action Unit :=
  combineWithFlag x y (fun vx vy => decide (vx ≤ vy)) fun vx vy => vy - vx

/-- The flag is the bit shifted out at the right. -/
def shiftRight (x : Int) : Action Unit :=
  shift x (fun vx => vx % 2 == 1) (· / 2)

/-- The flag is the bit shifted out at the left. -/
def shiftLeft (x : Int) : Action Unit :=
  shift x (fun vx => vx / 0x80 % 2 == 1) (· * 2)

def loadIndex (state : State) (address : Int) : State :=
  { state with index := address }

def addIndex (x : Int) : Action Unit := do
  let vx ← ask (·.register x)
  modify fun state => state.loadIndex (lowWord (state.index + vx))

def glyph (x : Int) : Action Unit := do
  let vx ← ask (·.register x)
  modify (·.loadIndex (vx * Font.stride))

/-- Writes `values` to memory at the index; all of them have to be bytes. -/
def writeNumbers (values : List Int) : Action Unit := do
  match bytes? values with
  | some data => writeBlock (← get).index data
  | none => throw .notAByte

def decimal (x : Int) : Action Unit := do
  let vx ← ask (·.register x)
  writeNumbers [vx / 100, vx / 10 % 10, vx % 10]

def store (x : Int) : Action Unit := do
  let registers := (← get).registers
  writeNumbers (SignedIndex.block registers 0 (x + 1)).toList

/-- Puts bytes in the place of the first `count` registers. -/
def replaceRegisters (state : State) (count : Int) (data : List UInt8) : State :=
  let values := (data.map fun byte => (byte.toNat : Int)).toArray
  { state with registers := SignedIndex.replaceBlock state.registers 0 count values }

def load (x : Int) : Action Unit := do
  let data ← ask fun state => state.readBlock state.index (x + 1)
  modify (·.replaceRegisters (x + 1) data)

def readDelay (x : Int) : Action Unit := do
  setRegister x (← get).delayTimer

def setDelay (x : Int) : Action Unit := do
  let vx ← ask (·.register x)
  modify fun state => { state with delayTimer := vx }

def setSound (x : Int) : Action Unit := do
  let vx ← ask (·.register x)
  modify fun state => { state with soundTimer := vx }

/-- Waits for a key on the current instruction and remembers where to go on. -/
def awaitKey (state : State) (x : Int) : State :=
  { state with
    keyRegister := x
    resumePc := state.pc
    pc := state.fetchAddress
    awaitingKey := true }

/-- Stores a key in the register that waits for it and goes on. -/
def resume (key : Int) : Action Unit := do
  setRegister (← get).keyRegister key
  modify fun state => { state with awaitingKey := false, pc := state.resumePc }

end Chip8.State
