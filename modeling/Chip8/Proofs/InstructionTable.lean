import Chip8.Machine.Step
import Chip8.Proofs.Memory
import Chip8.Proofs.Sprite

/-!
# The instruction table

The table gives a word's effect by its four hexadecimal digits, row by row, with the values that the
effect uses taken from the machine as it is before the effect. `Effect.apply` carries an effect out:
it names everything that changes, so all else stays as it was. A transition moves the program
counter past the word, carries out the effect of its row and counts one cycle.
-/

namespace Chip8

inductive Refusal where
  | unsupported
  | emptyStack
  | fullStack
  /-- The block of so many bytes at the index is not inside memory. -/
  | outside (count : Nat)

/-- The fault that a refused word is reported as; the program counter has passed the word. -/
def Refusal.fault (state : State) (word : Nat) : Refusal → Fault
  | unsupported => .unsupportedOpcode word state.fetchAddress
  | emptyStack => .stackUnderflow state.fetchAddress
  | fullStack => .stackOverflow state.fetchAddress state.stack.length
  | outside count => state.outside state.i count

/-- What a row of the table does. -/
inductive Effect where
  | clear
  | ret
  | jump (target : Nat)
  | call (target : Nat)
  | skip (condition : Bool)
  | assign (x : Nat) (value : UInt8)
  /-- The flag is stored first. -/
  | assignWithFlag (x : Nat) (flag : Bool) (value : UInt8)
  | random (x : Nat) (mask : UInt8)
  | point (index : Nat)
  | write (data : List UInt8)
  | load (x : Nat)
  | draw (column row : UInt8) (rows : Nat)
  | delay (value : UInt8)
  | sound (value : UInt8)
  | awaitKey (x : Nat)
  | unsupported

namespace Effect

variable {source : Type}

/-- The number with two hexadecimal digits, as a byte. -/
def constant (high low : Nat) : UInt8 :=
  UInt8.ofNat (0x10 * high + low)

def address (high middle low : Nat) : Nat :=
  0x100 * high + 0x10 * middle + low

/-- The instruction table: the effect of the word with the given hexadecimal digits, the highest
first. -/
def ofDigits (state : State) (keypad : Keypad) : Nat → Nat → Nat → Nat → Effect
  | 0x0, 0x0, 0xE, 0x0 => .clear
  | 0x0, 0x0, 0xE, 0xE => .ret
  | 0x1, a, b, c => .jump (address a b c)
  | 0x2, a, b, c => .call (address a b c)
  | 0x3, x, b, c => .skip (state.v x == constant b c)
  | 0x4, x, b, c => .skip (state.v x != constant b c)
  | 0x5, x, y, 0x0 => .skip (state.v x == state.v y)
  | 0x6, x, b, c => .assign x (constant b c)
  | 0x7, x, b, c => .assign x (state.v x + constant b c)
  | 0x8, x, y, 0x0 => .assign x (state.v y)
  | 0x8, x, y, 0x1 => .assign x (state.v x ||| state.v y)
  | 0x8, x, y, 0x2 => .assign x (state.v x &&& state.v y)
  | 0x8, x, y, 0x3 => .assign x (state.v x ^^^ state.v y)
  | 0x8, x, y, 0x4 =>
    .assignWithFlag x (0xFF < (state.v x).toNat + (state.v y).toNat) (state.v x + state.v y)
  | 0x8, x, y, 0x5 => .assignWithFlag x (state.v y ≤ state.v x) (state.v x - state.v y)
  | 0x8, x, _, 0x6 => .assignWithFlag x ((state.v x).toNat.testBit 0) (state.v x >>> 1)
  | 0x8, x, y, 0x7 => .assignWithFlag x (state.v x ≤ state.v y) (state.v y - state.v x)
  | 0x8, x, _, 0xE => .assignWithFlag x ((state.v x).toNat.testBit 7) (state.v x <<< 1)
  | 0x9, x, y, 0x0 => .skip (state.v x != state.v y)
  | 0xA, a, b, c => .point (address a b c)
  | 0xB, a, b, c => .jump ((address a b c + (state.v 0).toNat) % 0x10000)
  | 0xC, x, b, c => .random x (constant b c)
  | 0xD, x, y, n => .draw (state.v x) (state.v y) n
  | 0xE, x, 0x9, 0xE => .skip (keypad.mask.testBit (state.v x).toNat)
  | 0xE, x, 0xA, 0x1 => .skip !(keypad.mask.testBit (state.v x).toNat)
  | 0xF, x, 0x0, 0x7 => .assign x (UInt8.ofInt state.delayTimer)
  | 0xF, x, 0x0, 0xA => .awaitKey x
  | 0xF, x, 0x1, 0x5 => .delay (state.v x)
  | 0xF, x, 0x1, 0x8 => .sound (state.v x)
  | 0xF, x, 0x1, 0xE => .point ((state.i + (state.v x).toNat) % 0x10000)
  | 0xF, x, 0x2, 0x9 => .point (5 * (state.v x).toNat)
  | 0xF, x, 0x3, 0x3 => .write (State.digits (state.v x))
  | 0xF, x, 0x5, 0x5 => .write (state.vs (x + 1))
  | 0xF, x, 0x6, 0x5 => .load x
  | _, _, _, _ => .unsupported

def ofWord (state : State) (keypad : Keypad) (word : Nat) : Effect :=
  ofDigits state keypad (word / 0x1000) (word / 0x100 % 0x10) (word / 0x10 % 0x10) (word % 0x10)

def apply [ByteSource source] (machine : Machine source) :
    Effect → Except Refusal (Machine source)
  | clear => .ok { machine with display := Display.blank }.requestRedraw
  | ret =>
    match machine.state.stack with
    | [] => .error .emptyStack
    | address :: stack => .ok { machine with state := { machine.state with pc := address, stack } }
  | jump target => .ok { machine with state := { machine.state with pc := target } }
  | call target =>
    if machine.config.maxStackDepth.any (decide <| · ≤ (machine.state.stack.length : Int)) then
      .error .fullStack
    else
      .ok { machine with
        state :=
          { machine.state with pc := target, stack := machine.state.pc :: machine.state.stack } }
  | skip condition =>
    .ok { machine with
      state := { machine.state with pc := machine.state.pc + if condition then 2 else 0 } }
  | assign x value => .ok { machine with state := machine.state.setV x value }
  | assignWithFlag x flag value =>
    .ok { machine with state := (machine.state.raise flag).setV x value }
  | random x mask =>
    let (byte, rest) := ByteSource.next machine.random
    .ok { machine with state := machine.state.setV x (byte &&& mask), random := rest }
  | point index => .ok { machine with state := { machine.state with index := index } }
  | write data =>
    if memorySize < machine.state.i + data.length then .error (.outside data.length)
    else .ok { machine with state := machine.state.putBytes machine.state.i data }
  | load x =>
    if memorySize < machine.state.i + (x + 1) then .error (.outside (x + 1))
    else
      .ok { machine with
        state := machine.state.setVs (machine.state.bytes machine.state.i (x + 1)) }
  | draw column row rows =>
    if memorySize < machine.state.i + rows then .error (.outside rows)
    else
      let sprite := machine.state.bytes machine.state.i rows
      let collision := machine.display.collides column.toNat row.toNat sprite
      .ok { machine with
        display := machine.display.blit column.toNat row.toNat sprite
        state := machine.state.raise collision }.requestRedraw
  | delay value => .ok { machine with state := { machine.state with delayTimer := value.toNat } }
  | sound value => .ok { machine with state := { machine.state with soundTimer := value.toNat } }
  | awaitKey x =>
    let waiting : Machine source :=
      { machine with
        keypad := { machine.keypad with pending := none }
        state :=
          { machine.state with
            keyRegister := x
            resumePc := machine.state.pc
            pc := machine.state.pc - 2
            awaitingKey := true } }
    .ok <| waiting.note .debug .registry fun _ =>
      "Waiting for key press into " ++ Instruction.register x ++ "."
  | unsupported => .error .unsupported

end Effect

/-- The machine after the instruction at the program counter, unless that is refused. -/
def Machine.transition {source : Type} [ByteSource source] (machine : Machine source) :
    Except Refusal (Machine source) := do
  let effect := Effect.ofWord machine.state machine.keypad machine.state.word
  return (← effect.apply machine.advancePc).countCycle

end Chip8
