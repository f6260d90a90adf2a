import Chip8.Assembly.Source
import Chip8.Machine.Execute

/-!
Running a machine: loading a program, stepping it, and the keys that the host presses.

A step fetches and executes one instruction, unless the machine is halted or waits for a key. A
fault halts the machine; other failures leave it as it was left.
-/

namespace Chip8.Machine

variable {source : Type}

def loadProgram (image : List UInt8) : Action source Unit := do
  modify fun machine => if machine.config.resetOnLoad then machine.reset else machine
  update (State.loadImage image)
  modify fun machine =>
    let machine := { machine with trace := #[] }
    machine.note .info .cpu fun _ => "Loaded program of " ++ toString image.length ++ " bytes."

def loadSource (text : String) : Action source Unit := fun machine =>
  match Assembly.parse text with
  | .ok image => loadProgram image machine
  | .error failure => .error failure machine

/-- The last `count` entries of a trace; none if `count` is negative. -/
def lastEntries (count : Int) (trace : Array TraceEntry) : Array TraceEntry :=
  if count < trace.size then trace.extract (trace.size - count.toNat) else trace

/-- Adds an instruction to the trace if there is one, keeping as many entries as the trace may
have. -/
def record (machine : Machine source) (pc : Int) (instruction : Option Instruction)
    (before : Snapshot) (error : Option String) : Machine source :=
  if machine.config.trace then
    let entry : TraceEntry :=
      { cycle := machine.state.cycleCount
        pc
        instruction
        before
        after := machine.state.snapshot
        error }
    { machine with trace := lastEntries machine.config.maxTrace (machine.trace.push entry) }
  else machine

def halt (machine : Machine source) : Machine source :=
  { machine with state := { machine.state with halted := true } }

/-- Ends a cycle that failed: a fault halts the machine and goes into the trace. -/
def failCycle (pc : Int) (instruction : Option Instruction) (before : Snapshot)
    (failure : Failure) (machine : Machine source) : Machine source :=
  match failure with
  | .fault fault =>
    let machine := machine.halt.note .error .cpu fun _ =>
      "Fault at " ++ HexFormat.markedAddress.render pc ++ ": " ++ fault.message
    machine.record pc instruction before (some fault.message)
  | _ => machine

def finishCycle (pc : Int) (instruction : Instruction) (before : Snapshot)
    (machine : Machine source) : Machine source :=
  let machine := machine.note .debug .cpu fun _ =>
    HexFormat.address.render pc ++ ": " ++ instruction.text
  machine.record pc (some instruction) before none

def advancePc (machine : Machine source) : Machine source :=
  { machine with state := { machine.state with pc := machine.state.pc + 2 } }

def cycle [ByteSource source] : Action source Instruction := fun machine =>
  let pc := machine.state.pc
  let before := machine.state.snapshot
  match ask State.fetch machine with
  | .error failure machine => .error failure (machine.failCycle pc none before failure)
  | .ok word machine =>
    let instruction := Instruction.decode word
    match execute instruction machine.advancePc with
    | .error failure machine =>
      .error failure (machine.failCycle pc (some instruction) before failure)
    | .ok _ machine => .ok instruction (machine.finishCycle pc instruction before)

/-- Stores a key that was waited for and ends the wait. -/
def storeKey (key : Key) : Action source Unit := do
  update (State.resume key.val)
  modify fun machine => machine.note .debug .cpu fun _ =>
    "Stored key " ++ HexFormat.digit.render key.val ++ " in " ++
      Instruction.register machine.state.keyRegister ++ ", resuming."

/-- Ends the wait for a key if one has been handed over. -/
def pollKey : Action source Unit := fun machine =>
  match machine.keypad.takePending with
  | (none, _) => .ok () machine
  | (some key, keypad) => storeKey key { machine with keypad }

def haltedFault : Failure :=
  .fault (.halted "VM is halted")

/-- One step; the result is the instruction executed, none if the machine waits for a key. -/
def step [ByteSource source] : Action source (Option Instruction) := fun machine =>
  if machine.state.halted then .error haltedFault machine
  else if machine.state.awaitingKey then (pollKey *> pure none) machine
  else (some <$> cycle) machine

/-- Steps until `count` instructions are executed or the machine waits for a key. -/
def runSteps [ByteSource source] : Nat → Action source Unit
  | 0 => pure ()
  | count + 1 => do
    if (← get).state.awaitingKey then pure ()
    else
      discard step
      runSteps count

/-- Runs up to a limit, that of the configuration if none is given. -/
def run [ByteSource source] (limit : Option Int) : Action source Unit := fun machine =>
  match limit.or machine.config.maxCycles with
  | none => .error .noCycleLimit machine
  | some limit => runSteps limit.toNat machine

def setHeldKeys (mask : Int) : Action source Unit :=
  modify fun machine => { machine with keypad := machine.keypad.setMask mask }

/-- Hands a key to a waiting program without holding it. -/
def deliverKey (key : Int) : Action source Unit := do
  updateKeypad (Keypad.deliver key)
  modify fun machine => machine.note .debug .keypad fun _ =>
    "Key " ++ HexFormat.digit.render key ++ " delivered to blocking read."

/-- Holds a key, and hands it over if the program waits for one. -/
def pressKey (key : Int) : Action source Unit := do
  updateKeypad (Keypad.press key)
  if (← get).state.awaitingKey then deliverKey key

def releaseKey (key : Int) : Action source Unit :=
  updateKeypad (Keypad.release key)

def tickDelay (machine : Machine source) : Machine source :=
  { machine with state := machine.state.tickDelay }

def tickSound (machine : Machine source) : Machine source :=
  let ticked := { machine with state := machine.state.tickSound }
  if machine.state.soundActive && !ticked.state.soundActive then
    ticked.note .debug .timers fun _ => "Sound timer expired, tone off."
  else ticked

def tickTimers (machine : Machine source) : Machine source :=
  machine.tickDelay.tickSound

end Chip8.Machine
