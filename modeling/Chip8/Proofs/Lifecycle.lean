import Chip8.Proofs.Lockstep
import Chip8.Proofs.MachineInvariant

/-!
# Resets and loads

A reset leaves a machine its memory, its program counter and its random bytes, and nothing else of
what it did before. A load that resets leaves it the random bytes alone. Either way the machine then
goes on as a newly built one would that had been given the rest. A load that is refused changes
nothing, unless it resets the machine before it is refused.
-/

namespace Chip8

/-- What decides how a machine goes on, apart from its random bytes, and the trace of how it came
there. -/
structure Core where
  config : Config
  state : State
  display : Display
  keypad : Keypad
  trace : Array TraceEntry
  deriving DecidableEq

namespace Machine

open ByteSource (SameBytes)

variable {source other : Type}

def core (machine : Machine source) : Core :=
  { config := machine.config
    state := machine.state
    display := machine.display
    keypad := machine.keypad
    trace := machine.trace }

/-- A newly built machine that is given a memory and an address to start at. -/
def powerOn (config : Config) (random : source) (memory : Array UInt8) (pc : Int) :
    Machine source :=
  let machine := create config random
  { machine with state := { machine.state with memory, pc } }

example (config : Config) (random : source) :
    powerOn config random (memoryOfImage []) programStart = create config random :=
  rfl

@[simp]
theorem core_note (machine : Machine source) (level : Level) (topic : Topic)
    (text : Unit → String) : (machine.note level topic text).core = machine.core := by
  rw [note_eq]
  rfl

@[simp]
theorem random_note (machine : Machine source) (level : Level) (topic : Topic)
    (text : Unit → String) : (machine.note level topic text).random = machine.random := by
  rw [note_eq]

section Alike

variable [ByteSource source] [ByteSource other]

/-- Two machines with one core whose sources hand out the same bytes. -/
structure Alike (machine : Machine source) (twin : Machine other) : Prop where
  core_eq : machine.core = twin.core
  bytes : SameBytes machine.random twin.random

theorem lockstep_alike : Lockstep (Alike : Machine source → Machine other → Prop) where
  config_eq halike := congrArg (·.config.untraced) halike.core_eq
  state_eq halike := congrArg Core.state halike.core_eq
  display_eq halike := congrArg Core.display halike.core_eq
  keypad_eq halike := congrArg Core.keypad halike.core_eq
  byte_eq halike := (ByteSource.sameBytes_next halike.bytes).1
  setState halike state := ⟨congrArg ({ · with state }) halike.core_eq, halike.bytes⟩
  setDisplay halike display := ⟨congrArg ({ · with display }) halike.core_eq, halike.bytes⟩
  setKeypad halike keypad := ⟨congrArg ({ · with keypad }) halike.core_eq, halike.bytes⟩
  dropByte halike := ⟨halike.core_eq, (ByteSource.sameBytes_next halike.bytes).2⟩
  clearTrace halike := ⟨congrArg ({ · with trace := #[] }) halike.core_eq, halike.bytes⟩
  record {first second} halike pc instruction before error := by
    have hconfig : first.config = second.config := congrArg Core.config halike.core_eq
    have hstate : first.state = second.state := congrArg Core.state halike.core_eq
    have htrace : first.trace = second.trace := congrArg Core.trace halike.core_eq
    have hrecorded : (first.record pc instruction before error).trace =
        (second.record pc instruction before error).trace := by
      rw [record, record, hconfig, hstate, htrace]
      split
      · rfl
      · exact htrace
    rw [record_eq first, record_eq second, hrecorded]
    exact ⟨congrArg (fun core : Core =>
      { core with trace := (second.record pc instruction before error).trace }) halike.core_eq,
      halike.bytes⟩
  requestRedraw halike := ⟨halike.core_eq, halike.bytes⟩
  note halike level topic text := by
    constructor
    · rw [core_note, core_note]
      exact halike.core_eq
    · rw [random_note, random_note]
      exact halike.bytes
  addListener halike listener := ⟨halike.core_eq, halike.bytes⟩

/-- What follows on machines with one core and the same bytes. -/
theorem afterCalls_of_core_eq {machine : Machine source} {twin : Machine other}
    (hcore : machine.core = twin.core) (hbytes : SameBytes machine.random twin.random)
    (calls : List HostCall) :
    (machine.afterCalls calls).core = (twin.afterCalls calls).core ∧
      machine.failures calls = twin.failures calls := by
  obtain ⟨halike, hfailures⟩ := lockstep_alike.afterCalls ⟨hcore, hbytes⟩ calls
  exact ⟨halike.core_eq, hfailures⟩

end Alike

variable [ByteSource source] {config : Config} {machine : Machine source}

/-! ### Resets -/

theorem Reachable.core_reset (hreachable : Reachable config machine) (bytes : other) :
    machine.reset.core = (powerOn config bytes machine.state.memory machine.state.pc).core := by
  have hsound := hreachable.sound
  rw [reset, core_note, core, hsound.config_eq, hsound.display.clear_eq_blank]
  rfl

omit [ByteSource source] in
theorem random_reset (machine : Machine source) : machine.reset.random = machine.random := by
  rw [reset, random_note]

/-- A reset machine is a newly built one with the memory and the program counter that it had. It is
one that starts at the program's start only if it stood there, and it goes on as the newly built one
does. -/
theorem Reachable.reset_eq_powerOn [ByteSource other] (hreachable : Reachable config machine)
    (bytes : other) :
    let fresh := powerOn config bytes machine.state.memory machine.state.pc
    machine.reset.core = fresh.core ∧
      (machine.reset.core = (powerOn config bytes machine.state.memory programStart).core ↔
        machine.state.pc = programStart) ∧
      (SameBytes machine.random bytes → ∀ calls : List HostCall,
        (machine.reset.afterCalls calls).core = (fresh.afterCalls calls).core ∧
          machine.reset.failures calls = fresh.failures calls) := by
  intro fresh
  have hcore : machine.reset.core = fresh.core := hreachable.core_reset bytes
  refine ⟨hcore, ⟨?_, ?_⟩, ?_⟩
  · intro hstart
    rw [hcore] at hstart
    exact congrArg (·.state.pc) hstart
  · intro hpc
    rw [hcore, ← hpc]
  · intro hbytes calls
    refine afterCalls_of_core_eq hcore ?_ calls
    rw [random_reset]
    exact hbytes

/-- A machine that waits for a key in a subroutine, with the key at hand. -/
def waitingInSubroutine : Machine ByteCycle :=
  (Machine.create { resetOnLoad := true, trace := true } (ByteCycle.mk #[7] 0)).afterCalls
    [.load [0x22, 0x04, 0x12, 0x00, 0xF3, 0x0A], .step, .step, .pressKey 9]

theorem reachable_waitingInSubroutine :
    Reachable { resetOnLoad := true, trace := true } waitingInSubroutine :=
  (Reachable.create (by decide) (ByteCycle.mk #[7] 0) .warning).afterCalls _

/-- It starts in the subroutine again, with nothing to return to. -/
theorem reset_eq_powerOn_waiting :
    waitingInSubroutine.state.stack = [0x202] ∧ waitingInSubroutine.keypad.pending = Key.ofInt? 9 ∧
      waitingInSubroutine.reset.failures [.step, .step] =
        (powerOn { resetOnLoad := true, trace := true } waitingInSubroutine.random
          waitingInSubroutine.state.memory 0x204).failures [.step, .step] := by
  have hpc : waitingInSubroutine.state.pc = 0x204 := by decide +kernel
  have hreset := reachable_waitingInSubroutine.reset_eq_powerOn waitingInSubroutine.random
  rw [hpc] at hreset
  exact ⟨by decide +kernel, by decide +kernel, (hreset.2.2 (SameBytes.refl _) [.step, .step]).2⟩

/-- Not every reset machine starts where a newly built one does. -/
theorem exists_reset_elsewhere :
    ∃ (config : Config) (machine : Machine ByteCycle), Reachable config machine ∧
      machine.reset.state.pc ≠ (Machine.create config machine.random).state.pc :=
  ⟨_, waitingInSubroutine, reachable_waitingInSubroutine, by decide +kernel⟩

/-! ### Loads -/

/-- A load that resets leaves a newly built machine with the image in its memory. -/
theorem Reachable.exists_load_of_resets (hreachable : Reachable config machine)
    (hresets : config.resetOnLoad = true) {image : List UInt8}
    (himage : image.length ≤ programCapacity) (bytes : other) :
    ∃ loaded, loadProgram image machine = .ok () loaded ∧ loaded.random = machine.random ∧
      loaded.core = (powerOn config bytes (memoryOfImage image) programStart).core := by
  have hreset := hreachable.core_reset bytes
  have hmachine : machine.config.resetOnLoad = true := by
    rw [hreachable.sound.config_eq]
    exact hresets
  rw [loadProgram_eq, hmachine, if_pos rfl, if_neg (by omega)]
  refine ⟨_, rfl, ?_, ?_⟩
  · rw [random_note]
    exact random_reset machine
  · rw [core_note]
    exact congrArg (fun core : Core => { core with
      state := { core.state with
        memory := memoryOfImage image
        pc := programStart
        resumePc := programStart
        halted := false }
      trace := #[] }) hreset

/-- Where loads reset, two machines that load the same program have one core, whatever either had
done before. On the same random bytes they go on with one core, and fail alike. -/
theorem Reachable.load_forgets [ByteSource other] {first : Machine source}
    {second : Machine other} (hfirst : Reachable config first) (hsecond : Reachable config second)
    (hresets : config.resetOnLoad = true) {image : List UInt8} (himage : image.length ≤ 3584) :
    ∃ loaded reloaded, loadProgram image first = .ok () loaded ∧
      loadProgram image second = .ok () reloaded ∧ loaded.core = reloaded.core ∧
      (SameBytes first.random second.random → ∀ calls : List HostCall,
        (loaded.afterCalls calls).core = (reloaded.afterCalls calls).core ∧
          loaded.failures calls = reloaded.failures calls) := by
  obtain ⟨loaded, hload, hrandom, hcore⟩ :=
    hfirst.exists_load_of_resets hresets himage second.random
  obtain ⟨reloaded, hreload, hrerandom, hrecore⟩ :=
    hsecond.exists_load_of_resets hresets himage second.random
  have hsame : loaded.core = reloaded.core := hcore.trans hrecore.symm
  refine ⟨loaded, reloaded, hload, hreload, hsame, ?_⟩
  intro hbytes calls
  refine afterCalls_of_core_eq hsame ?_ calls
  rw [hrandom, hrerandom]
  exact hbytes

/-- A fresh machine and one that waits for a key run the same program, which uses a random byte and
then returns from no subroutine. -/
theorem load_forgets_waiting :
    ∃ loaded reloaded : Machine ByteCycle,
      loadProgram [0xC1, 0xFF, 0x00, 0xEE]
        (Machine.create { resetOnLoad := true, trace := true } waitingInSubroutine.random) =
          .ok () loaded ∧
      loadProgram [0xC1, 0xFF, 0x00, 0xEE] waitingInSubroutine = .ok () reloaded ∧
      (loaded.afterCalls [.step, .tickTimers, .step]).core =
        (reloaded.afterCalls [.step, .tickTimers, .step]).core ∧
      loaded.failures [.step, .tickTimers, .step] =
        reloaded.failures [.step, .tickTimers, .step] := by
  generalize hrandom : waitingInSubroutine.random = bytes
  have hfresh : Reachable { resetOnLoad := true, trace := true }
      (Machine.create { resetOnLoad := true, trace := true } bytes) :=
    .create (by decide) bytes .warning
  have himage : [0xC1, 0xFF, 0x00, (0xEE : UInt8)].length ≤ 3584 := by decide
  have hbytes : SameBytes bytes waitingInSubroutine.random := by
    rw [hrandom]
    exact SameBytes.refl bytes
  obtain ⟨loaded, reloaded, hload, hreload, -, hafter⟩ :=
    hfresh.load_forgets reachable_waitingInSubroutine rfl himage
  exact ⟨loaded, reloaded, hload, hreload, hafter hbytes _⟩

/-- A load that is refused leaves a machine as it was, or as a reset leaves it where loads reset. A
text that is refused is not loaded at all. -/
theorem Reachable.refused_load (hreachable : Reachable config machine) :
    (∀ image : List UInt8, 3584 < image.length →
      failure? (loadProgram image machine) =
          some (.fault (.programTooLarge image.length 3584)) ∧
        (config.resetOnLoad = false → machine.after (.load image) = machine) ∧
        (config.resetOnLoad = true → machine.after (.load image) = machine.reset)) ∧
      ∀ text failure, Assembly.parse text = .error failure →
        loadSource text machine = .error failure machine := by
  have hconfig := hreachable.sound.config_eq
  constructor
  · intro image himage
    have hlarge : programCapacity < image.length := himage
    have hload := loadProgram_eq machine image
    simp only [if_pos hlarge, hconfig] at hload
    refine ⟨?_, ?_, ?_⟩
    · rw [hload]
      rfl
    · intro hkeeps
      rw [after, HostCall.action, hload, hkeeps]
      rfl
    · intro hresets
      rw [after, HostCall.action, hload, hresets]
      rfl
  · intro text failure hparse
    rw [loadSource, hparse]

/-- A machine halted by a word that the table does not have. -/
def haltedMachine (resets : Bool) : Machine ByteCycle :=
  (Machine.create { resetOnLoad := resets } (ByteCycle.mk #[] 0)).afterCalls [.load [0, 0], .step]

theorem reachable_haltedMachine (resets : Bool) :
    Reachable { resetOnLoad := resets } (haltedMachine resets) :=
  (Reachable.create (by cases resets <;> decide) (ByteCycle.mk #[] 0) .warning).afterCalls _

/-- One byte too many, on a machine that loads do not reset and on one that they do. -/
theorem refused_load_halted :
    failure? (loadProgram (List.replicate 3585 0) (haltedMachine false)) =
        some (.fault (.programTooLarge 3585 3584)) ∧
      (haltedMachine false).after (.load (List.replicate 3585 0)) = haltedMachine false ∧
      (haltedMachine true).after (.load (List.replicate 3585 0)) = (haltedMachine true).reset ∧
      loadSource "12345" (haltedMachine true) =
        .error (.invalidWord "12345") (haltedMachine true) := by
  have hkeeping := (reachable_haltedMachine false).refused_load
  have hresetting := (reachable_haltedMachine true).refused_load
  have himage : 3584 < (List.replicate 3585 (0 : UInt8)).length := by
    rw [List.length_replicate]
    decide
  obtain ⟨hfailure, hkept, -⟩ := hkeeping.1 _ himage
  obtain ⟨-, -, hreset⟩ := hresetting.1 _ himage
  rw [List.length_replicate] at hfailure
  exact ⟨hfailure, hkept rfl, hreset rfl, hresetting.2 _ _ (by decide +kernel)⟩

/-- A load that is refused can make a halted machine go on. -/
theorem exists_halt_lifted :
    ∃ (config : Config) (machine : Machine ByteCycle) (image : List UInt8),
      Reachable config machine ∧ 3584 < image.length ∧ machine.state.halted = true ∧
        failure? (loadProgram image machine) =
          some (.fault (.programTooLarge image.length 3584)) ∧
        (machine.after (.load image)).state.halted = false := by
  refine ⟨{ resetOnLoad := true }, haltedMachine true, List.replicate 3585 0,
    reachable_haltedMachine true, ?_, ?_, ?_, ?_⟩
  · rw [List.length_replicate]
    decide
  · decide +kernel
  · decide +kernel
  · decide +kernel

end Machine

end Chip8
