import Chip8.Text.Hexadecimal

/-!
What can go wrong.

A `Fault` is an error of the running program and halts the machine; a `Failure` is a fault or an
error of the host that called it, such as a key outside the keypad.

A change that may fail is an `EStateM` action: what it had changed before failing stays changed.
-/

namespace Chip8

inductive Fault where
  | unsupportedOpcode (opcode pc : Int)
  | stackUnderflow (pc : Int)
  | stackOverflow (pc depth : Int)
  | fetchOutOfBounds (pc : Int)
  | accessOutOfBounds (address : Int) (pc : Option Int)
  | programTooLarge (size capacity : Int)
  /-- The machine was stepped after a fault. -/
  | halted (text : String)
  /-- A fault of no particular kind. -/
  | other (text : String)
  deriving DecidableEq, Repr

def Fault.message : Fault → String
  | unsupportedOpcode opcode pc =>
    "Unsupported opcode " ++ HexFormat.word.render opcode ++ " at " ++
      HexFormat.markedAddress.render pc
  | stackUnderflow pc => "Return with empty call stack at " ++ HexFormat.markedAddress.render pc
  | stackOverflow pc depth =>
    "Call stack overflow (depth " ++ toString depth ++ ") at " ++ HexFormat.markedAddress.render pc
  | fetchOutOfBounds pc =>
    "Instruction fetch outside memory at " ++ HexFormat.markedWord.render pc
  | accessOutOfBounds address pc =>
    "Memory access outside memory (" ++ HexFormat.markedWord.render address ++ ")" ++
      (pc.map fun pc => " at " ++ HexFormat.markedAddress.render pc).getD ""
  | programTooLarge size capacity =>
    "Program is " ++ toString size ++ " bytes, only " ++ toString capacity ++ " bytes available"
  | halted text => text
  | other text => text

inductive Failure where
  | fault (cause : Fault)
  /-- A register, a byte of memory or a cell outside its sequence. -/
  | outOfRange
  | invalidKey (key : Int)
  | invalidWord (token : String)
  /-- A number that is to be a byte is not one. -/
  | notAByte
  | noCycleLimit
  | negativeElapsed
  | clockRate
  | stackCapacity
  | decayRate
  | gridSize
  | registryFrozen
  | divisionByZero
  | notANumber
  | infiniteTime
  /-- A loop that would go on for ever was given up. -/
  | endless
  | wrongType
  | notAnObject
  | malformedJson
  | malformedText
  | fileNotFound
  | isADirectory
  /-- A label that is no number in base 16, as it is quoted. -/
  | invalidLabel (quoted : String)
  | negativeShift
  deriving DecidableEq, Repr

def Failure.message : Failure → String
  | fault cause => cause.message
  | outOfRange => "index out of range"
  | invalidKey key => "Invalid key index: " ++ toString key
  | invalidWord token => "Invalid instruction word: " ++ token
  | notAByte => "bytes must be in range(0, 256)"
  | noCycleLimit => "run() needs a cycle limit"
  | negativeElapsed => "Elapsed time cannot be negative"
  | clockRate => "Clock rates must be positive"
  | stackCapacity => "max_stack_depth must be at least 1"
  | decayRate => "Decay rate must be in [0, 1)"
  | gridSize => "negative count"
  | registryFrozen => "Cannot register handlers: registry is frozen"
  | divisionByZero => "integer division or modulo by zero"
  | notANumber => "cannot convert float NaN to integer"
  | infiniteTime => "cannot convert float infinity to integer"
  | endless => "no end in sight"
  | wrongType => "wrong type"
  | notAnObject => "not an object"
  | malformedJson => "malformed JSON"
  | malformedText => "malformed text"
  | fileNotFound => "file not found"
  | isADirectory => "is a directory"
  | invalidLabel quoted => "invalid literal for int() with base 16: " ++ quoted
  | negativeShift => "negative shift count"

/-- The new value, for a caller that has no use for what a failed change leaves behind. -/
def changed {σ : Type} : EStateM.Result Failure σ Unit → Except Failure σ
  | .ok _ value => .ok value
  | .error failure _ => .error failure

instance {σ : Type} : Coe (EStateM.Result Failure σ Unit) (Except Failure σ) :=
  ⟨changed⟩

end Chip8
