import Chip8.Proofs.MachineInvariant

/-!
# Steps follow the instruction table

A machine that a host has come to, and that is neither halted nor waiting, takes the transition that
the instruction table gives for the word at its program counter. Where the table refuses the word,
the step fails with its fault and the machine is halted behind it.
-/

namespace Chip8.Machine

variable {source : Type} {config : Config}

theorem withoutReports_finishCycle (machine : Machine source) (pc : Int)
    (instruction : Instruction) (before : Snapshot) :
    (machine.finishCycle pc instruction before).withoutReports = machine.withoutReports := by
  rw [finishCycle_eq]
  rfl

theorem withoutReports_failCycle (machine : Machine source) (pc : Int)
    (instruction : Option Instruction) (before : Snapshot) (fault : Fault) :
    (machine.failCycle pc instruction before (.fault fault)).withoutReports =
      machine.halt.withoutReports := by
  rw [failCycle_eq]
  rfl

variable [ByteSource source] {machine : Machine source}

theorem Reachable.step_eq_transition (hreachable : Reachable config machine)
    (hrunning : machine.state.halted = false) (hnotWaiting : machine.state.awaitingKey = false)
    (hpc : machine.state.pc ≤ 4094) :
    match machine.transition with
    | .ok after =>
      ∃ result, step machine = .ok (some (.decode machine.state.word)) result ∧
        result.withoutReports = after.withoutReports
    | .error refusal =>
      ∃ result,
        step machine =
          .error (.fault (refusal.fault machine.advancePc.state machine.state.word)) result ∧
        result.withoutReports = machine.advancePc.halt.withoutReports := by
  have hsound := hreachable.sound
  have hstep := step_of_inside hsound.state.valid hsound.display hrunning hnotWaiting hpc
  cases htransition : machine.transition with
  | ok after =>
      rw [htransition] at hstep
      exact ⟨_, hstep, withoutReports_finishCycle _ _ _ _⟩
  | error refusal =>
      rw [htransition] at hstep
      exact ⟨_, hstep, withoutReports_failCycle _ _ _ _ _⟩

/-- A sum stored in the flag register replaces the carry. -/
theorem step_flagSum :
    ∃ result,
      step ((Machine.create {} (ByteCycle.mk #[] 0)).afterCalls
        [.load [0x6F, 0x81, 0x8F, 0xF4], .step]) = .ok (some (.decode 0x8FF4)) result ∧
      result.state.v 0xF = 0x02 ∧ result.state.pc = 0x204 := by
  generalize hmachine : (Machine.create {} (ByteCycle.mk #[] 0)).afterCalls
    [.load [0x6F, 0x81, 0x8F, 0xF4], .step] = machine
  have hreachable : Reachable {} machine :=
    hmachine ▸ (Reachable.create (by decide) (ByteCycle.mk #[] 0) .warning).afterCalls _
  have hrunning : machine.state.halted = false := hmachine ▸ by decide +kernel
  have hnotWaiting : machine.state.awaitingKey = false := hmachine ▸ by decide +kernel
  have hpc : machine.state.pc ≤ 4094 := hmachine ▸ by decide +kernel
  have hword : machine.state.word = 0x8FF4 := hmachine ▸ by decide +kernel
  have hafter : machine.transition.toOption.map (fun after => (after.state.v 0xF, after.state.pc)) =
      some (0x02, 0x204) := hmachine ▸ by decide +kernel
  have hstep := hreachable.step_eq_transition hrunning hnotWaiting hpc
  cases htransition : machine.transition with
  | error refusal =>
      rw [htransition] at hafter
      cases hafter
  | ok after =>
      rw [htransition] at hstep hafter
      obtain ⟨result, hresult, hreports⟩ := hstep
      rw [hword] at hresult
      refine ⟨result, hresult, ?_⟩
      change result.withoutReports.state.v 0xF = 0x02 ∧ result.withoutReports.state.pc = 0x204
      rw [hreports]
      exact Prod.mk.inj (Option.some.inj hafter)

end Chip8.Machine
