import Chip8.Clock.Host
import Chip8.CommandLine.Options
import Chip8.Config.Draft
import Chip8.Machine.Report
import Chip8.Random.Twister

/-!
What the command line does: it loads a program, runs it for a number of cycles or under the clock,
and reports the outcome.
-/

namespace Chip8.CommandLine

inductive Entry where
  | missing
  | directory
  | file (bytes : List UInt8)

/-- The output of a run, and its exit code unless a failure ended it. -/
structure Report where
  stdout : String
  stderr : String
  outcome : Except Failure Nat

structure Session where
  options : Options
  machine : Machine Twister
  stdout : String

/-- How far a run gets before real time is needed. -/
inductive Progress where
  | done (report : Report)
  | live (session : Session) (clock : Clock Twister) (duration : Int)

namespace Session

def stderr (machine : Machine Twister) : String :=
  Machine.textOfLines (machine.notes.toList.map Note.line)

def print (session : Session) (line : String) : Session :=
  { session with stdout := session.stdout ++ line ++ "\n" }

def printUnlessQuiet (session : Session) (line : String) : Session :=
  if session.options.quiet then session else session.print line

def report (session : Session) (outcome : Except Failure Nat) : Report :=
  { stdout := session.stdout, stderr := stderr session.machine, outcome }

def truthText (value : Bool) : String :=
  if value then "True" else "False"

/-- The registers with their values, in braces. -/
def registersText (registers : List (String × Int)) : String :=
  let entries := registers.map fun (name, value) => "'" ++ name ++ "': " ++ toString value
  "\x7b" ++ ", ".intercalate entries ++ "\x7d"

def summaryLines (summary : Summary) : List String :=
  [ "",
    "Cycles: " ++ toString summary.cycles,
    "Halted: " ++ truthText summary.halted,
    "Waiting for key: " ++ truthText summary.awaitingKey,
    "PC: " ++ HexFormat.markedAddress.render summary.pc ++ "  I: " ++
      HexFormat.markedAddress.render summary.index,
    "Registers: " ++ registersText summary.registers ]

/-- The registers that are not zero. -/
def quietLines (registers : List (String × Int)) : List String :=
  registers.filterMap fun (name, value) =>
    if value = 0 then none else some (name ++ "=" ++ toString value)

/-- The lines that describe a machine after a run. -/
def resultLines (options : Options) (machine : Machine Twister) : List String :=
  if options.trace then machine.traceLines
  else if options.quiet then quietLines machine.state.namedRegisters
  else summaryLines machine.summary

/-- Ends a run: a fault is printed before the result, any other failure ends the output. -/
def finish (session : Session) (result : Except Failure Unit) : Report :=
  let printResult (session : Session) : Session :=
    let session := (resultLines session.options session.machine).foldl print session
    if session.options.screen && session.options.realtime.isNone then
      session.print (session.machine.display.frame.toText "*" " ")
    else session
  match result with
  | .ok _ => (printResult session).report (.ok 0)
  | .error (.fault fault) =>
    (printResult (session.print ("Execution error: " ++ fault.message))).report (.ok 1)
  | .error failure => session.report (.error failure)

def act {α : Type} (session : Session) (action : Machine.Action Twister α) :
    Except Failure α × Session :=
  match action session.machine with
  | .ok value machine => (.ok value, { session with machine })
  | .error failure machine => (.error failure, { session with machine })

/-- Runs a loaded program. Under the clock nothing happens unless the time is positive. -/
def run (session : Session) (now : Int) : Progress :=
  match session.options.realtime with
  | none =>
    let (result, session) := session.act (Machine.run session.options.cycles)
    .done (session.finish result)
  | some seconds =>
    match Clock.start session.machine none none none ["terminal"] now with
    | .error failure => .done (session.finish (.error failure))
    | .ok clock =>
      match nanoseconds seconds with
      | .error failure => .done (session.finish (.error failure))
      | .ok duration =>
        if duration ≤ 0 then .done (session.finish (.ok ()))
        else .live session clock duration

def refuse (session : Session) (reason : String) : Report :=
  (session.print ("Error: " ++ reason)).report (.ok 1)

def loadAndRun (session : Session) (load : Machine.Action Twister Unit) (loaded : String)
    (now : Int) : Progress :=
  match session.act load with
  | (.error failure, session) => .done (session.refuse failure.message)
  | (.ok _, session) => (session.printUnlessQuiet loaded).run now

/-- Loads the program that the options name, a file before an inline text. -/
def start (session : Session) (entryAt : String → Entry) (now : Int) : Progress :=
  let path := session.options.rom.getD ""
  if path.isEmpty then
    let text := (session.options.inline.getD "").map fun c => if c == ';' then '\n' else c
    session.loadAndRun (Machine.loadSource text) "Running inline program" now
  else
    match entryAt path with
    | .missing => .done (session.refuse ("ROM file not found: " ++ path))
    | .directory => .done (session.report (.error .isADirectory))
    | .file bytes => session.loadAndRun (Machine.loadProgram bytes) ("Loading ROM: " ++ path) now

end Session

def configOfEntry : Entry → Except Failure Config
  | .missing => .error .fileNotFound
  | .directory => .error .isADirectory
  | .file bytes =>
    match String.fromUTF8? (ByteArray.mk bytes.toArray) with
    | none => .error .malformedText
    | some text => do (← ConfigDraft.parse text).config

/-- The configuration that the options ask for. Zero is no instruction rate; others are not
checked. -/
def configOfOptions (options : Options) (entryAt : String → Entry) : Except Failure Config := do
  let path := options.config.getD ""
  let config ← if path.isEmpty then pure {} else configOfEntry (entryAt path)
  return { config with
    cpuHz := Clock.rate options.cpuHz config.cpuHz
    seed := options.seed.or config.seed
    trace := options.trace || config.trace }

/-- Runs the command line; `entropy` is the seed of a machine that is given none. -/
def run (options : Options) (entryAt : String → Entry) (entropy now : Int) : Progress :=
  match configOfOptions options entryAt with
  | .error failure => .done { stdout := "", stderr := "", outcome := .error failure }
  | .ok config =>
    let machine := Machine.create config (Twister.ofSeed (config.seed.getD entropy))
    let noteLevel := if options.verbose then Level.debug else .warning
    Session.start { options, machine := { machine with noteLevel }, stdout := "" } entryAt now

end Chip8.CommandLine
