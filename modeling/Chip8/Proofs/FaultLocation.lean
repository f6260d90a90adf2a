import Chip8.Proofs.Faults

/-!
# Where a fault is reported

A fault names the address that its instruction was fetched from, and its entry in the trace does so,
too. Only an access outside memory is reported two bytes on: the range is checked when the program
counter has passed the instruction.
-/

namespace Chip8

namespace Fault

/-- The address that a fault names. -/
def pc? : Fault → Option Int
  | unsupportedOpcode _ pc | stackUnderflow pc | stackOverflow pc _ | fetchOutOfBounds pc => some pc
  | accessOutOfBounds _ pc => pc
  | _ => none

/-- Where a fault of the instruction at `pc` is reported. -/
def location (pc : Int) : Fault → Int
  | accessOutOfBounds _ _ => pc + 2
  | _ => pc

end Fault

theorem Refusal.pc?_fault (state : State) (word : Nat) (refusal : Refusal) :
    (refusal.fault state word).pc? =
      some ((refusal.fault state word).location state.fetchAddress) := by
  have hbehind : state.pc = state.fetchAddress + 2 := by
    rw [State.fetchAddress]
    omega
  cases refusal with
  | unsupported | emptyStack | fullStack => rfl
  | outside count => exact congrArg some hbehind

namespace Machine

variable {source : Type} {config : Config} {machine : Machine source}

theorem back?_lastEntries {count : Int} (hcount : 1 ≤ count) (trace : Array TraceEntry) :
    (lastEntries count trace).back? = trace.back? := by
  rw [lastEntries]
  split
  · rw [Array.back?, Array.back?, Array.getElem?_extract, Array.size_extract]
    grind
  · rfl

theorem back?_appendTrace (htrace : machine.config.trace = true)
    (hkept : 1 ≤ machine.config.maxTrace) (entry : TraceEntry) :
    (machine.appendTrace entry).back? = some entry := by
  rw [appendTrace, if_pos htrace, back?_lastEntries hkept, Array.back?_push]

theorem back?_trace_failCycle (htrace : machine.config.trace = true)
    (hkept : 1 ≤ machine.config.maxTrace) (pc : Int) (instruction : Option Instruction)
    (before : Snapshot) (fault : Fault) :
    ∃ entry, (machine.failCycle pc instruction before (.fault fault)).trace.back? = some entry ∧
      entry.pc = pc ∧ entry.error = some fault.message := by
  obtain ⟨entry, hpc, -, herror, hentry⟩ :=
    machine.exists_entry_failCycle pc instruction before fault
  refine ⟨entry, ?_, hpc, herror⟩
  rw [hentry, back?_appendTrace htrace hkept]

variable [ByteSource source]

/-- A fault of a step names the address of the instruction that failed, two bytes on if it is an
access outside memory. A trace that has room for an entry ends with that of the fault, which has the
address of the instruction in every case. -/
theorem Reachable.fault_located (hreachable : Reachable config machine) {fault : Fault}
    {after : Machine source} (hstep : step machine = .error (.fault fault) after)
    (hfault : ∀ text, fault ≠ .halted text) :
    fault.pc? = some (fault.location machine.state.pc) ∧
      (config.trace = true → 1 ≤ config.maxTrace →
        ∃ entry, after.trace.back? = some entry ∧ entry.pc = machine.state.pc ∧
          entry.error = some fault.message) := by
  have hsound := hreachable.sound
  have hconfig := hsound.config_eq
  obtain ⟨hfetch, hafter⟩ | ⟨refusal, hrefusal, hafter⟩ := step_fault_cases hsound hstep hfault
  · constructor
    · rw [hfetch]
      rfl
    · intro htrace hkept
      rw [← hconfig] at htrace hkept
      rw [hafter]
      exact back?_trace_failCycle htrace hkept _ _ _ _
  · constructor
    · have hfetched : machine.advancePc.state.fetchAddress = machine.state.pc := by
        change machine.state.pc + 2 - 2 = machine.state.pc
        omega
      rw [hrefusal, Refusal.pc?_fault, hfetched]
    · intro htrace hkept
      rw [← hconfig] at htrace hkept
      have htraceBehind : machine.advancePc.config.trace = true := htrace
      rw [hafter]
      exact back?_trace_failCycle htraceBehind hkept _ _ _ _

/-- Two registers stored at the last byte of memory, by the instruction at `0x202`. -/
def storingOutside : Machine ByteCycle :=
  (Machine.create { trace := true } (ByteCycle.mk #[] 0)).afterCalls
    [.load [0xAF, 0xFF, 0xF1, 0x55], .step]

theorem reachable_storingOutside : Reachable { trace := true } storingOutside :=
  (Reachable.create (by decide) (ByteCycle.mk #[] 0) .warning).afterCalls _

theorem exists_step_storingOutside :
    ∃ after, step storingOutside = .error (.fault (.accessOutOfBounds 0x1000 (some 0x204))) after :=
  have hfailure : failure? (step storingOutside) =
      some (.fault (.accessOutOfBounds 0x1000 (some 0x204))) := by decide +kernel
  ⟨_, eq_error_of_failure? hfailure⟩

theorem fault_located_storingOutside :
    ∃ after entry,
      step storingOutside = .error (.fault (.accessOutOfBounds 0x1000 (some 0x204))) after ∧
        after.trace.back? = some entry ∧ entry.pc = 0x202 := by
  obtain ⟨after, hstep⟩ := exists_step_storingOutside
  have hlocated := reachable_storingOutside.fault_located hstep fun text => Fault.noConfusion
  obtain ⟨entry, hentry, hpc, -⟩ := hlocated.2 rfl (by decide)
  have hfetched : storingOutside.state.pc = 0x202 := by decide +kernel
  exact ⟨after, entry, hstep, hentry, hpc.trans hfetched⟩

/-- Not every fault is reported at its instruction. -/
theorem exists_fault_elsewhere :
    ∃ (machine after : Machine ByteCycle) (fault : Fault),
      Reachable { trace := true } machine ∧ step machine = .error (.fault fault) after ∧
        (∀ text, fault ≠ .halted text) ∧ fault.pc? ≠ some machine.state.pc := by
  obtain ⟨after, hstep⟩ := exists_step_storingOutside
  refine ⟨storingOutside, after, _, reachable_storingOutside, hstep, fun _ => Fault.noConfusion, ?_⟩
  have hfetched : storingOutside.state.pc = 0x202 := by decide +kernel
  rw [hfetched]
  decide

end Machine

end Chip8
