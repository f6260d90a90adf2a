import Chip8.Machine.Basic

/-!
Reports on a machine: the summary of a run and its trace as text.
-/

namespace Chip8

structure Summary where
  cycles : Int
  halted : Bool
  awaitingKey : Bool
  registers : List (String × Int)
  index : Int
  pc : Int
  stackDepth : Nat
  delayTimer : Int
  soundTimer : Int
  litPixels : Nat
  traceLength : Nat
  errors : List String
  deriving DecidableEq

namespace TraceEntry

/-- The text of the entry's fault, unless there is none or it is empty. -/
def fault? (entry : TraceEntry) : Option String :=
  entry.error.filter (!·.isEmpty)

def headLine (entry : TraceEntry) : String :=
  let status :=
    match entry.fault? with
    | none => "OK"
    | some error => "ERROR: " ++ error
  "[Cycle " ++ toString entry.cycle ++ "] " ++ status

/-- The registers that differ before and after, with both values. -/
def changes (entry : TraceEntry) : List String :=
  let pairs := entry.before.registers.toList.zip entry.after.registers.toList
  (pairs.mapIdx fun number (before, after) => (number, before, after)).filterMap
    fun (number, before, after) =>
      if before = after then none
      else some (Instruction.register number ++ ": " ++ toString before ++ " -> " ++ toString after)

/-- The entry as text, after an empty line. -/
def lines (entry : TraceEntry) : List String :=
  let changes := entry.changes
  ["", entry.headLine] ++
    (entry.instruction.map fun instruction =>
      "  " ++ HexFormat.address.render entry.pc ++ ": " ++ instruction.text).toList ++
    (if changes.isEmpty then [] else ["  Changes: " ++ ", ".intercalate changes]) ++
    (if entry.before.index = entry.after.index then []
      else
        ["  I: " ++ HexFormat.address.render entry.before.index ++ " -> " ++
          HexFormat.address.render entry.after.index])

end TraceEntry

namespace Machine

variable {source : Type}

def summary (machine : Machine source) : Summary :=
  { cycles := machine.state.cycleCount
    halted := machine.state.halted
    awaitingKey := machine.state.awaitingKey
    registers := machine.state.namedRegisters
    index := machine.state.index
    pc := machine.state.pc
    stackDepth := machine.state.stack.length
    delayTimer := machine.state.delayTimer
    soundTimer := machine.state.soundTimer
    litPixels := machine.display.frame.litCount
    traceLength := machine.trace.size
    errors := machine.trace.toList.filterMap TraceEntry.fault? }

def heading (title : String) : List String :=
  let rule := String.ofList (List.replicate 70 '=')
  [rule, title, rule]

def traceLines (machine : Machine source) : List String :=
  heading "CHIP-8 EXECUTION TRACE" ++ machine.trace.toList.flatMap TraceEntry.lines ++ [""] ++
    heading "FINAL STATE" ++ ["  " ++ machine.state.text]

/-- Lines as a text in which every line is ended. -/
def textOfLines (lines : List String) : String :=
  String.join (lines.map (· ++ "\n"))

def traceText (machine : Machine source) : String :=
  textOfLines machine.traceLines

end Machine

end Chip8
