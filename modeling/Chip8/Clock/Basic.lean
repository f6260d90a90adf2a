import Chip8.Machine.Step

/-!
The clock: it turns elapsed time into instructions and frames at two fixed rates.

Both rates have a backlog of elapsed time not yet used up. Advancing the clock adds to the backlogs
and takes whole periods off them: first one step of the machine for each instruction period, then
one tick of the timers and one frame event for each frame period. All times are in nanoseconds.
-/

namespace Chip8

def nanosPerSecond : Int := 1000000000

structure Clock (source : Type) where
  machine : Machine source
  cpuPeriod : Int
  framePeriod : Int
  /-- The greatest number of steps in one advance; the rest of the backlog is dropped. -/
  stepCap : Option Int
  frameCount : Int
  listeners : List String
  last : Int
  cpuBacklog : Int
  frameBacklog : Int

structure Tick where
  steps : Int
  frames : Int
  deriving DecidableEq

namespace Clock

variable {source α : Type}

abbrev Action (source α : Type) := EStateM Failure (Clock source) α

/-- The rate in force: the one given, unless there is none or it is zero. -/
def rate (given : Option Int) (preset : Int) : Int :=
  match given with
  | none => preset
  | some hz => if hz = 0 then preset else hz

def start (machine : Machine source) (cpuHz frameHz stepCap : Option Int) (listeners : List String)
    (now : Int) : Except Failure (Clock source) :=
  let cpuHz := rate cpuHz machine.config.cpuHz
  let frameHz := rate frameHz machine.config.frameHz
  if cpuHz ≤ 0 ∨ frameHz ≤ 0 then .error .clockRate
  else
    .ok
      { machine
        cpuPeriod := nanosPerSecond / cpuHz
        framePeriod := nanosPerSecond / frameHz
        stepCap
        frameCount := 0
        listeners
        last := now
        cpuBacklog := 0
        frameBacklog := 0 }

def addListener (clock : Clock source) (listener : String) : Clock source :=
  { clock with listeners := clock.listeners ++ [listener] }

def onMachine (action : Machine.Action source α) : Action source α := fun clock =>
  match action clock.machine with
  | .ok value machine => .ok value { clock with machine }
  | .error failure machine => .error failure { clock with machine }

def restart (clock : Clock source) (now : Int) : Clock source :=
  { clock with last := now, cpuBacklog := 0, frameBacklog := 0 }

/-- Whether `steps` steps are as many as one advance may make. -/
def capped (clock : Clock source) (steps : Int) : Bool :=
  clock.stepCap.any fun cap => decide (cap ≤ steps)

def noteDropped (machine : Machine source) (count : Int) : Machine source :=
  machine.note .debug .clock fun _ => "Dropped " ++ toString count ++ " CPU steps of backlog."

def dropBacklog : Action source Unit := fun clock =>
  if clock.cpuPeriod = 0 then .error .divisionByZero clock
  else
    .ok () { clock with
      machine := noteDropped clock.machine (clock.cpuBacklog / clock.cpuPeriod)
      cpuBacklog := clock.cpuBacklog % clock.cpuPeriod }

def spendCpuPeriod (clock : Clock source) : Clock source :=
  { clock with cpuBacklog := clock.cpuBacklog - clock.cpuPeriod }

/-- The turns that a loop is given if its period uses up no time, more than can ever be made. -/
def patience : Nat := 1000000000000000000

/-- One more than the number of periods in a backlog. -/
def drainFuel (backlog period : Int) : Nat :=
  if period ≤ 0 then patience else (backlog / period).toNat + 1

/-- One more than the number of steps that an advance may make. -/
def stepFuel (clock : Clock source) : Nat :=
  match clock.stepCap with
  | none => drainFuel clock.cpuBacklog clock.cpuPeriod
  | some cap => cap.toNat + 1

/-- Steps while the backlog holds a period; the result is the number of steps, `steps` included. -/
def drainSteps [ByteSource source] : Nat → Int → Action source Int
  | 0, _ => throw .endless
  | fuel + 1, steps => do
    let clock ← get
    if clock.cpuBacklog < clock.cpuPeriod then pure steps
    else if clock.capped steps then
      dropBacklog
      pure steps
    else
      discard (onMachine Machine.step)
      modify spendCpuPeriod
      drainSteps fuel (steps + 1)

def runCpu [ByteSource source] (elapsed : Int) : Action source Int := do
  modify fun clock => { clock with cpuBacklog := clock.cpuBacklog + elapsed }
  let clock ← get
  drainSteps clock.stepFuel 0

def showFrame (clock : Clock source) : Clock source :=
  let machine := clock.machine.tickTimers
  let number := clock.frameCount + 1
  let event := Event.frame number machine.display.frame machine.state.soundActive
  { clock with
    machine := machine.send clock.listeners event
    frameCount := number
    frameBacklog := clock.frameBacklog - clock.framePeriod }

/-- Shows frames while the backlog holds a period; the result is their number, `frames` included. -/
def drainFrames : Nat → Int → Action source Int
  | 0, _ => throw .endless
  | fuel + 1, frames => do
    let clock ← get
    if clock.frameBacklog < clock.framePeriod then pure frames
    else
      modify showFrame
      drainFrames fuel (frames + 1)

def runFrames (elapsed : Int) : Action source Int := do
  modify fun clock => { clock with frameBacklog := clock.frameBacklog + elapsed }
  let clock ← get
  drainFrames (drainFuel clock.frameBacklog clock.framePeriod) 0

/-- Lets time pass. If a step fails, the time is added to the instructions' backlog alone. -/
def advance [ByteSource source] (elapsed : Int) : Action source Tick := do
  if elapsed < 0 then throw .negativeElapsed
  let steps ← runCpu elapsed
  let frames ← runFrames elapsed
  pure { steps, frames }

def tick [ByteSource source] (now : Int) : Action source Tick := do
  let elapsed := now - (← get).last
  modify fun clock => { clock with last := now }
  advance elapsed

end Clock

end Chip8
