import Chip8.Failure

/-!
The parameters of a machine and its clock.
-/

namespace Chip8

structure Config where
  cpuHz : Int := 700
  frameHz : Int := 60
  /-- Whether loading a program clears the registers, the display and the keypad, too. -/
  resetOnLoad : Bool := false
  /-- The capacity of the call stack, unbounded if there is none. -/
  maxStackDepth : Option Int := none
  seed : Option Int := none
  trace : Bool := false
  /-- How many entries of a trace are kept. -/
  maxTrace : Int := 10000
  /-- The limit of a run that is given none. -/
  maxCycles : Option Int := none
  deriving DecidableEq, Repr

namespace Config

/-- The parameters that a machine accepts. -/
def Valid (config : Config) : Prop :=
  0 < config.cpuHz ∧ 0 < config.frameHz ∧ ∀ depth ∈ config.maxStackDepth, 1 ≤ depth

instance (config : Config) : Decidable config.Valid := by
  unfold Valid
  infer_instance

end Config

end Chip8
