import Chip8.Machine.Basic

/-!
The instruction set: what each operation does to the machine.
-/

namespace Chip8.Machine

variable {source : Type}

def clearDisplay : Action source Unit :=
  modify fun machine =>
    let machine := { machine with display := machine.display.clear }
    machine.requestRedraw

def call (target : Int) : Action source Unit := fun machine =>
  update (State.call machine.config.maxStackDepth target) machine

/-- Draws `rows` rows of memory at the index; registers `x` and `y` are read before the flag is
set. -/
def drawSprite (x y rows : Int) : Action source Unit := do
  let column ← ask (·.register x)
  let row ← ask (·.register y)
  let sprite ← ask fun state => state.readBlock state.index rows
  let collision ← draw column row sprite
  update (State.setFlag collision)
  modify requestRedraw

def skipIfPressed (x : Int) (pressed : Bool) : Action source Unit := fun machine =>
  let condition key := machine.keypad.isPressed key == pressed
  update (State.skipIfRegister x condition) machine

/-- Stores a random byte of which only the bits of `mask` are kept. -/
def storeRandom [ByteSource source] (x mask : Int) : Action source Unit := do
  let byte ← randomByte
  update (State.setRegister x (State.onLowBytes (· &&& ·) byte.toNat mask))

/-- Starts the wait for a key; a key handed over before is forgotten. -/
def awaitKey (x : Int) : Action source Unit :=
  modify fun machine =>
    let machine :=
      { machine with
        keypad := machine.keypad.clearPending
        state := machine.state.awaitKey x }
    machine.note .debug .registry fun _ =>
      "Waiting for key press into " ++ Instruction.register x ++ "."

def perform [ByteSource source] (instruction : Instruction) : Action source Unit :=
  let { operation, word, x, y, n, nn, nnn, .. } := instruction
  match operation with
  | .clear => clearDisplay
  | .ret => update State.ret
  | .jump => update (modify (·.jump nnn))
  | .call => call nnn
  | .skipIfByte => update (State.skipIfRegister x (· == nn))
  | .skipUnlessByte => update (State.skipIfRegister x (· != nn))
  | .skipIfEqual => update (State.skipIfRegisters x y (· == ·))
  | .loadByte => update (State.setRegister x nn)
  | .addByte => update (State.addByte x nn)
  | .copy => update (State.copy x y)
  | .bitOr => update (State.combine x y (State.onLowBytes (· ||| ·)))
  | .bitAnd => update (State.combine x y (State.onLowBytes (· &&& ·)))
  | .bitXor => update (State.combine x y (State.onLowBytes (· ^^^ ·)))
  | .add => update (State.add x y)
  | .subtract => update (State.subtract x y)
  | .shiftRight => update (State.shiftRight x)
  | .subtractFrom => update (State.subtractFrom x y)
  | .shiftLeft => update (State.shiftLeft x)
  | .skipUnlessEqual => update (State.skipIfRegisters x y (· != ·))
  | .loadIndex => update (modify (·.loadIndex nnn))
  | .jumpOffset => update (State.jumpOffset nnn)
  | .random => storeRandom x nn
  | .draw => drawSprite x y n
  | .skipIfPressed => skipIfPressed x true
  | .skipUnlessPressed => skipIfPressed x false
  | .readDelay => update (State.readDelay x)
  | .awaitKey => awaitKey x
  | .setDelay => update (State.setDelay x)
  | .setSound => update (State.setSound x)
  | .addIndex => update (State.addIndex x)
  | .glyph => update (State.glyph x)
  | .decimal => update (State.decimal x)
  | .store => update (State.store x)
  | .load => update (State.load x)
  | .invalid => update (State.refuse word)

def countCycle (machine : Machine source) : Machine source :=
  { machine with state := { machine.state with cycleCount := machine.state.cycleCount + 1 } }

/-- Performs an instruction whose word the program counter has passed, and counts it. -/
def execute [ByteSource source] (instruction : Instruction) : Action source Unit := do
  perform instruction
  modify countCycle

end Chip8.Machine
