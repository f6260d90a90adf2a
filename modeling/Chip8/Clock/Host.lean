import Chip8.Clock.Basic
import Chip8.Nanoseconds

/-!
A host that drives a clock by a time of its own making, as a simulation does.
-/

namespace Chip8

structure Host (source : Type) where
  clock : Clock source
  now : Int

namespace Host

variable {source α : Type}

abbrev Action (source α : Type) := EStateM Failure (Host source) α

def onClock (action : Clock.Action source α) : Action source α := fun host =>
  match action host.clock with
  | .ok value clock => .ok value { host with clock }
  | .error failure clock => .error failure { host with clock }

def wait (duration : Int) : Action source Unit :=
  modify fun host => { host with now := host.now + duration }

def restart : Action source Unit :=
  modify fun host => { host with clock := host.clock.restart host.now }

def tick [ByteSource source] : Action source Tick := do
  onClock (Clock.tick (← get).now)

/-- Ticks a number of times. After each tick the host sleeps if `idle` is positive, and every sleep
takes the time `nap`, however long it was meant to be; the result is the number of sleeps. -/
def tickTimes [ByteSource source] (idle : Float) (nap : Int) : Nat → Action source Nat
  | 0 => pure 0
  | count + 1 => do
    discard tick
    if 0 < idle then
      wait nap
      return (← tickTimes idle nap count) + 1
    else tickTimes idle nap count

def run [ByteSource source] (count : Nat) (idle : Float) (nap : Int) : Action source Nat := do
  restart
  tickTimes idle nap count

def read (cost : Int) : Action source Int := do
  wait cost
  return (← get).now

/-- Ticks while the time is before a deadline; asking for the time and ticking read it once each. -/
def tickUntil [ByteSource source] (deadline cost : Int) : Nat → Action source Unit
  | 0 => throw .endless
  | fuel + 1 => do
    if (← read cost) < deadline then
      wait cost
      discard tick
      tickUntil deadline cost fuel
    else pure ()

/-- One more than the number of readings before a deadline, each of which takes `cost`. -/
def readFuel (deadline now cost : Int) : Nat :=
  if cost ≤ 0 then 1 else ((deadline - now) / cost).toNat + 1

/-- Runs the clock for some seconds, reading the time costing `cost` on every occasion. -/
def runFor [ByteSource source] (seconds : Float) (cost : Int) : Action source Unit := do
  let started ← read cost
  match nanoseconds seconds with
  | .error failure => throw failure
  | .ok duration =>
    wait cost
    restart
    let host ← get
    tickUntil (started + duration) cost (readFuel (started + duration) host.now cost)

end Host

end Chip8
