import Chip8.Config.Basic
import Chip8.Json.Printer
import Chip8.Json.Reader

/-!
Configurations as JSON.

A draft holds the value written for each parameter. It is refused unless the rates are positive
numbers and the stack capacity is null or a number of at least one; the other parameters are kept as
they are written. A draft whose values have the types of the parameters is a configuration.
-/

namespace Chip8

namespace Json

/-- Compares a number with an integer; true and false count as one and zero. -/
def compare? (whole : Int → Bool) (fractional : Float → Bool) : Json → Option Bool
  | bool value => some (whole (if value then 1 else 0))
  | integer value => some (whole value)
  | real value => some (fractional value)
  | _ => none

def integer? : Json → Option Int
  | bool value => some (if value then 1 else 0)
  | integer value => some value
  | _ => none

def optionalInteger? : Json → Option (Option Int)
  | null => some none
  | value => (integer? value).map some

def ofOption : Option Int → Json
  | none => null
  | some value => integer value

end Json

structure ConfigDraft where
  cpuHz : Json
  frameHz : Json
  resetOnLoad : Json
  maxStackDepth : Json
  seed : Json
  trace : Json
  maxTrace : Json
  maxCycles : Json

namespace ConfigDraft

/-- Refuses a value that is not a number, or of which the condition fails. -/
def guardNumber (value : Json) (whole : Int → Bool) (fractional : Float → Bool)
    (failure : Failure) : Except Failure Unit :=
  match value.compare? whole fractional with
  | none => .error .wrongType
  | some true => .ok ()
  | some false => .error failure

def guardRate (value : Json) : Except Failure Unit :=
  guardNumber value (fun rate => decide (0 < rate)) (fun rate => !(rate ≤ 0)) .clockRate

def guardStackDepth : Json → Except Failure Unit
  | .null => .ok ()
  | value =>
    guardNumber value (fun depth => decide (1 ≤ depth)) (fun depth => !(depth < 1)) .stackCapacity

/-- Checks the rates first, the instruction rate before the frame rate. -/
def check (draft : ConfigDraft) : Except Failure Unit := do
  guardRate draft.cpuHz
  guardRate draft.frameHz
  guardStackDepth draft.maxStackDepth

def ofConfig (config : Config) : ConfigDraft :=
  { cpuHz := .integer config.cpuHz
    frameHz := .integer config.frameHz
    resetOnLoad := .bool config.resetOnLoad
    maxStackDepth := .ofOption config.maxStackDepth
    seed := .ofOption config.seed
    trace := .bool config.trace
    maxTrace := .integer config.maxTrace
    maxCycles := .ofOption config.maxCycles }

/-- The parameters with their names, in the order in which they are written. -/
def fields (draft : ConfigDraft) : List (String × Json) :=
  [("cpu_hz", draft.cpuHz), ("frame_hz", draft.frameHz), ("reset_on_load", draft.resetOnLoad),
    ("max_stack_depth", draft.maxStackDepth), ("seed", draft.seed), ("trace", draft.trace),
    ("max_trace", draft.maxTrace), ("max_cycles", draft.maxCycles)]

/-- The draft that named values make, with the defaults for parameters not among them. -/
def ofFields (values : List (String × Json)) : ConfigDraft :=
  let preset := ofConfig {}
  let pick (name : String) (value : Json) := (Json.field? name values).getD value
  { cpuHz := pick "cpu_hz" preset.cpuHz
    frameHz := pick "frame_hz" preset.frameHz
    resetOnLoad := pick "reset_on_load" preset.resetOnLoad
    maxStackDepth := pick "max_stack_depth" preset.maxStackDepth
    seed := pick "seed" preset.seed
    trace := pick "trace" preset.trace
    maxTrace := pick "max_trace" preset.maxTrace
    maxCycles := pick "max_cycles" preset.maxCycles }

/-- As `ofFields`, checked; other names are ignored. -/
def read (values : List (String × Json)) : Except Failure ConfigDraft := do
  let draft := ofFields values
  draft.check
  return draft

def parse (text : String) : Except Failure ConfigDraft :=
  match Json.parse? text with
  | none => .error .malformedJson
  | some (.object values) => read values
  | some _ => .error .notAnObject

def save (draft : ConfigDraft) : String :=
  Json.render (.object draft.fields)

/-- The configuration, if every value has the type of its parameter. -/
def config? (draft : ConfigDraft) : Option Config := do
  return {
    cpuHz := ← draft.cpuHz.integer?
    frameHz := ← draft.frameHz.integer?
    resetOnLoad := draft.resetOnLoad.isTrue
    maxStackDepth := ← draft.maxStackDepth.optionalInteger?
    seed := ← draft.seed.optionalInteger?
    trace := draft.trace.isTrue
    maxTrace := ← draft.maxTrace.integer?
    maxCycles := ← draft.maxCycles.optionalInteger? }

def config (draft : ConfigDraft) : Except Failure Config :=
  match draft.config? with
  | some config => .ok config
  | none => .error .wrongType

theorem config?_ofConfig (config : Config) : (ofConfig config).config? = some config := by
  obtain ⟨_, _, _, depth, seed, _, _, cycles⟩ := config
  cases depth <;> cases seed <;> cases cycles <;> rfl

end ConfigDraft

end Chip8
