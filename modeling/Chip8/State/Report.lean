import Chip8.Instruction.Mnemonic
import Chip8.State.Basic

/-!
Views of a state: the copy kept in a trace, the named registers and the status line.
-/

namespace Chip8

/-- The registers and the control state, without memory. -/
structure Snapshot where
  registers : Array Int
  index : Int
  pc : Int
  stack : List Int
  delayTimer : Int
  soundTimer : Int
  awaitingKey : Bool
  resumePc : Int
  halted : Bool
  cycleCount : Int
  deriving DecidableEq

namespace State

def snapshot (state : State) : Snapshot :=
  { registers := state.registers
    index := state.index
    pc := state.pc
    stack := state.stack
    delayTimer := state.delayTimer
    soundTimer := state.soundTimer
    awaitingKey := state.awaitingKey
    resumePc := state.resumePc
    halted := state.halted
    cycleCount := state.cycleCount }

def namedRegisters (state : State) : List (String × Int) :=
  state.registers.toList.mapIdx fun number value => (Instruction.register number, value)

/-- What the status line ends with. -/
def status (state : State) : String :=
  if state.halted then " HALTED" else if state.awaitingKey then " WAIT-KEY" else ""

def text (state : State) : String :=
  let registers := state.namedRegisters.map fun (name, value) =>
    name ++ "=" ++ HexFormat.byte.render value
  "[Cycle " ++ toString state.cycleCount ++ "] PC=" ++ HexFormat.address.render state.pc ++
    " I=" ++ HexFormat.address.render state.index ++ " " ++ " ".intercalate registers ++
    " DT=" ++ toString state.delayTimer ++ " ST=" ++ toString state.soundTimer ++ state.status

end State

end Chip8
