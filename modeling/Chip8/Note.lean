/-!
Notes: the lines that the machine writes to its log.
-/

namespace Chip8

inductive Level where
  | debug
  | info
  | warning
  | error
  deriving DecidableEq, Repr

def Level.rank : Level → Nat
  | debug => 10
  | info => 20
  | warning => 30
  | error => 40

def Level.name : Level → String
  | debug => "DEBUG"
  | info => "INFO"
  | warning => "WARNING"
  | error => "ERROR"

inductive Topic where
  | cpu
  | registry
  | keypad
  | clock
  | timers
  deriving DecidableEq, Repr

def Topic.name : Topic → String
  | cpu => "chip8_vm.cpu"
  | registry => "chip8_vm.registry"
  | keypad => "chip8_vm.keypad"
  | clock => "chip8_vm.clock"
  | timers => "chip8_vm.timers"

structure Note where
  level : Level
  topic : Topic
  text : String
  deriving DecidableEq, Repr

def Note.line (note : Note) : String :=
  "[" ++ note.level.name ++ "] " ++ note.topic.name ++ ": " ++ note.text

end Chip8
