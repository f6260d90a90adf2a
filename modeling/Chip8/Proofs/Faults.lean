import Chip8.Machine.Table
import Chip8.Proofs.MachineInvariant

/-!
# Faults

A step fails only by a fault. It has then changed nothing yet except the program counter: it halts
the machine, goes into the trace and leaves everything else as it was. A halted machine fails every
further step, and apart from the keypad nothing of it changes until the host loads or resets it.
-/

namespace Chip8

/-- Whether a call only tells the keypad something. -/
def HostCall.IsKeyCall : HostCall → Prop
  | setHeldKeys _ | pressKey _ | releaseKey _ | deliverKey _ => True
  | _ => False

/-- The program counter after a fault of the instruction at `pc`: a fetch that fails leaves it. -/
def Fault.pcAfter (pc : Int) : Fault → Int
  | fetchOutOfBounds _ => pc
  | _ => pc + 2

/-- Whether a fault is one that a single instruction can meet. -/
def Fault.OfInstruction : Fault → Prop
  | unsupportedOpcode _ _ | stackUnderflow _ | stackOverflow _ _ => True
  | fetchOutOfBounds _ | accessOutOfBounds _ _ => True
  | _ => False

theorem Refusal.ofInstruction_fault (state : State) (word : Nat) (refusal : Refusal) :
    (refusal.fault state word).OfInstruction := by
  cases refusal <;> exact trivial

namespace Machine

variable {source : Type} {base machine : Machine source}

/-- The machine differs from another in the keypad and the notes alone. -/
def DiffersInKeypad (base machine : Machine source) : Prop :=
  machine = { base with keypad := machine.keypad, notes := machine.notes }

theorem DiffersInKeypad.setKeypad (hdiffers : DiffersInKeypad base machine) (keypad : Keypad) :
    DiffersInKeypad base { machine with keypad } := by
  rw [DiffersInKeypad] at hdiffers ⊢
  rw [hdiffers]

theorem DiffersInKeypad.note (hdiffers : DiffersInKeypad base machine) (level : Level)
    (topic : Topic) (text : Unit → String) :
    DiffersInKeypad base (machine.note level topic text) := by
  rw [DiffersInKeypad] at hdiffers ⊢
  rw [note_eq, hdiffers]

theorem keeps_differsInKeypad_updateKeypad (change : Keypad.Change) :
    Keeps (DiffersInKeypad base) (updateKeypad change) :=
  Keeps.updateKeypad fun _ keypad hdiffers => hdiffers.setKeypad keypad

theorem keeps_differsInKeypad_deliverKey (key : Int) :
    Keeps (DiffersInKeypad base) (deliverKey key) :=
  Keeps.bind (keeps_differsInKeypad_updateKeypad _) fun _ =>
    Keeps.modify fun _ hdiffers => hdiffers.note _ _ _

theorem keeps_differsInKeypad_action [ByteSource source] {call : HostCall}
    (hcall : call.IsKeyCall) : Keeps (DiffersInKeypad base) call.action := by
  cases call with
  | setHeldKeys mask => exact Keeps.modify fun _ hdiffers => hdiffers.setKeypad _
  | pressKey key =>
      refine Keeps.bind (keeps_differsInKeypad_updateKeypad _) fun _ =>
        Keeps.bind (fun _ hdiffers => hdiffers) fun machine => ?_
      split
      · exact keeps_differsInKeypad_deliverKey key
      · exact Keeps.pure ()
  | releaseKey key => exact keeps_differsInKeypad_updateKeypad (Keypad.release key)
  | deliverKey key => exact keeps_differsInKeypad_deliverKey key
  | _ => exact hcall.elim

/-- The trace with an entry more, of which only as many as it may have are kept. -/
def appendTrace (machine : Machine source) (entry : TraceEntry) : Array TraceEntry :=
  if machine.config.trace then lastEntries machine.config.maxTrace (machine.trace.push entry)
  else machine.trace

theorem trace_record (machine : Machine source) (pc : Int) (instruction : Option Instruction)
    (before : Snapshot) (error : Option String) :
    (machine.record pc instruction before error).trace =
      machine.appendTrace
        { cycle := machine.state.cycleCount
          pc
          instruction
          before
          after := machine.state.snapshot
          error } := by
  rw [record, appendTrace]
  split <;> rfl

theorem exists_entry_failCycle (machine : Machine source) (pc : Int)
    (instruction : Option Instruction) (before : Snapshot) (fault : Fault) :
    ∃ entry : TraceEntry, entry.pc = pc ∧ entry.instruction = instruction ∧
      entry.error = some fault.message ∧
      (machine.failCycle pc instruction before (.fault fault)).trace =
        machine.appendTrace entry := by
  rw [failCycle, note_eq, trace_record]
  exact ⟨_, rfl, rfl, rfl, rfl⟩

theorem exists_trace_failCycle (machine : Machine source) (pc : Int)
    (instruction : Option Instruction) (before : Snapshot) (fault : Fault) :
    ∃ entry : TraceEntry, entry.error = some fault.message ∧
      (machine.failCycle pc instruction before (.fault fault)).trace =
        machine.appendTrace entry := by
  obtain ⟨entry, -, -, herror, htrace⟩ :=
    machine.exists_entry_failCycle pc instruction before fault
  exact ⟨entry, herror, htrace⟩

variable [ByteSource source]

theorem step_of_differsInKeypad (hhalted : base.state.halted = true)
    (hdiffers : DiffersInKeypad base machine) : step machine = .error haltedFault machine := by
  refine step_of_halted ?_
  rw [hdiffers]
  exact hhalted

/-- Steps and key calls change a halted machine in the keypad alone. -/
theorem differsInKeypad_afterCalls (hhalted : base.state.halted = true) {calls : List HostCall}
    (hcalls : ∀ call ∈ calls, call = .step ∨ call.IsKeyCall) :
    DiffersInKeypad base (base.afterCalls calls) := by
  refine Keeps.afterCalls ?_ rfl
  intro call hcall
  cases hcalls call hcall with
  | inl hstep =>
      subst hstep
      refine Keeps.map _ ?_
      intro machine hdiffers
      rw [step_of_differsInKeypad hhalted hdiffers]
      exact hdiffers
  | inr hkey => exact keeps_differsInKeypad_action hkey

variable {config : Config}

/-- A halted machine refuses a step, a waiting one never fails it, and any other fails it by a fault
of the instruction or not at all: no register, cell or byte is ever out of range, and every word
decodes to an operation of the table. -/
theorem Reachable.step_fails_by_fault (hreachable : Reachable config machine) :
    (machine.state.halted = true → step machine = .error haltedFault machine) ∧
      (machine.state.halted = false → machine.state.awaitingKey = true →
        ∃ after, step machine = .ok none after) ∧
      (machine.state.halted = false → machine.state.awaitingKey = false →
        (∃ instruction after, step machine = .ok (some instruction) after) ∨
          ∃ fault after, fault.OfInstruction ∧ step machine = .error (.fault fault) after) ∧
      ∀ word, (Instruction.decode word).operation ∈ OperationTable.standard.operations := by
  have hsound := hreachable.sound
  have hresult := stepResult_step hsound.state.valid hsound.display
  refine ⟨step_of_halted, ?_, ?_, fun word => Operation.mem_all _⟩
  · intro hrunning hwaiting
    generalize step machine = result at hresult ⊢
    cases hresult with
    | waiting => exact ⟨_, rfl⟩
    | key => exact ⟨_, rfl⟩
    | halted hhalted => simp [hrunning] at hhalted
    | outside _ hnotWaiting | carriedOut _ hnotWaiting | refused _ hnotWaiting =>
        simp [hwaiting] at hnotWaiting
  · intro hrunning hnotWaiting
    generalize step machine = result at hresult ⊢
    cases hresult with
    | carriedOut => exact Or.inl ⟨_, _, rfl⟩
    | outside => exact Or.inr ⟨.fetchOutOfBounds _, _, trivial, rfl⟩
    | refused _ _ _ refusal => exact Or.inr ⟨_, _, refusal.ofInstruction_fault _ _, rfl⟩
    | halted hhalted => simp [hrunning] at hhalted
    | waiting _ hwaiting | key _ hwaiting => simp [hnotWaiting] at hwaiting

/-- A machine that the farthest jump has led behind the end of memory. -/
def farJump : Machine ByteCycle :=
  (Machine.create { trace := true, maxTrace := -1 } (ByteCycle.mk #[] 0)).afterCalls
    [.load [0x60, 0xFF, 0xBF, 0xFF], .step, .step]

theorem reachable_farJump : Reachable { trace := true, maxTrace := -1 } farJump :=
  (Reachable.create (by decide) (ByteCycle.mk #[] 0) .warning).afterCalls _

/-- A step behind the end of memory, the step after it, and one that waits for a key. -/
theorem step_fails_by_fault_farJump :
    (∃ fault after, fault.OfInstruction ∧ step farJump = .error (.fault fault) after) ∧
      step (farJump.after .step) = .error haltedFault (farJump.after .step) ∧
      ∃ after, step ((Machine.create {} (ByteCycle.mk #[] 0)).afterCalls
        [.load [0xF3, 0x0A], .step]) = .ok none after := by
  refine ⟨?_, ?_, ?_⟩
  · have hfailure : failure? (step farJump) = some (.fault (.fetchOutOfBounds 0x10FE)) := by
      decide +kernel
    obtain ⟨instruction, after, hstep⟩ | hfault :=
      reachable_farJump.step_fails_by_fault.2.2.1 (by decide +kernel) (by decide +kernel)
    · rw [hstep] at hfailure
      cases hfailure
    · exact hfault
  · exact (reachable_farJump.call .step).step_fails_by_fault.1 (by decide +kernel)
  · have hcreated : Reachable {} (Machine.create {} (ByteCycle.mk #[] 0)) :=
      .create (by decide) (ByteCycle.mk #[] 0) .warning
    exact (hcreated.afterCalls [.load [0xF3, 0x0A], .step]).step_fails_by_fault.2.1
      (by decide +kernel) (by decide +kernel)

/-- What a failed step leaves, by the place at which it failed. -/
theorem step_fault_cases (hsound : Sound config machine) {fault : Fault} {after : Machine source}
    (hstep : step machine = .error (.fault fault) after) (hfault : ∀ text, fault ≠ .halted text) :
    (fault = .fetchOutOfBounds machine.state.pc ∧
        after = machine.failCycle machine.state.pc none machine.state.snapshot (.fault fault)) ∨
      ∃ refusal : Refusal,
        fault = refusal.fault machine.advancePc.state machine.state.word ∧
        after = machine.advancePc.failCycle machine.state.pc (some (.decode machine.state.word))
          machine.state.snapshot (.fault fault) := by
  have hresult := stepResult_step hsound.state.valid hsound.display
  rw [hstep] at hresult
  cases hresult with
  | halted hhalted => exact absurd rfl (hfault _)
  | outside hrunning hnotWaiting hpc => exact Or.inl ⟨rfl, rfl⟩
  | refused hrunning hnotWaiting hpc refusal htransition => exact Or.inr ⟨refusal, rfl, rfl⟩

/-- A fault halts the machine and moves the program counter past the word, unless the word could not
be fetched; it adds an entry to the trace and changes nothing else. From then on every step fails,
and steps and key calls change nothing but the keypad. -/
theorem Reachable.fault_atomic (hreachable : Reachable config machine) {fault : Fault}
    {after : Machine source} (hstep : step machine = .error (.fault fault) after)
    (hfault : ∀ text, fault ≠ .halted text) :
    (∃ entry : TraceEntry, entry.error = some fault.message ∧
      after =
        { machine with
          state :=
            { machine.state with
              halted := true
              pc := fault.pcAfter machine.state.pc }
          trace := machine.appendTrace entry
          notes := after.notes }) ∧
      ∀ calls : List HostCall, (∀ call ∈ calls, call = .step ∨ call.IsKeyCall) →
        step (after.afterCalls calls) = .error haltedFault (after.afterCalls calls) ∧
          DiffersInKeypad after (after.afterCalls calls) := by
  have hcases := step_fault_cases hreachable.sound hstep hfault
  have hhalted : after.state.halted = true := by
    obtain ⟨-, hafter⟩ | ⟨refusal, -, hafter⟩ := hcases
    · rw [hafter, failCycle_eq]
      rfl
    · rw [hafter, failCycle_eq]
      rfl
  constructor
  · obtain ⟨hfetch, hafter⟩ | ⟨refusal, hrefusal, hafter⟩ := hcases
    · obtain ⟨entry, herror, htrace⟩ := exists_trace_failCycle machine machine.state.pc none
        machine.state.snapshot fault
      refine ⟨entry, herror, ?_⟩
      rw [hafter, failCycle_eq, htrace, hfetch]
      rfl
    · obtain ⟨entry, herror, htrace⟩ := exists_trace_failCycle machine.advancePc machine.state.pc
        (some (.decode machine.state.word)) machine.state.snapshot fault
      refine ⟨entry, herror, ?_⟩
      rw [hafter, failCycle_eq, htrace, hrefusal]
      -- No refusal is reported as a failed fetch, so the program counter has moved in each case.
      cases refusal <;> rfl
  · intro calls hcalls
    have hdiffers := differsInKeypad_afterCalls hhalted hcalls
    exact ⟨step_of_differsInKeypad hhalted hdiffers, hdiffers⟩

/-- A program that sets two registers, draws a glyph and calls a subroutine, which is about to store
the registers over the end of memory. -/
def storingOverEnd : Machine ByteCycle :=
  (Machine.create { trace := true, maxTrace := 2 } (ByteCycle.mk #[] 0)).afterCalls
    [.load [0x60, 0x05, 0x61, 0x07, 0xD0, 0x15, 0x22, 0x08, 0xAF, 0xFF, 0xF1, 0x55],
      .step, .step, .step, .step, .step]

theorem reachable_storingOverEnd : Reachable { trace := true, maxTrace := 2 } storingOverEnd :=
  (Reachable.create (by decide) (ByteCycle.mk #[] 0) .warning).afterCalls _

/-- The store leaves the registers, the stack, the memory and the glyph on the display as they are.
The machine stays halted, though a key is pressed and it is stepped again. -/
theorem fault_atomic_storingOverEnd :
    storingOverEnd.state.registers.toList.take 2 = [5, 7] ∧
      storingOverEnd.state.stack = [0x208] ∧ storingOverEnd.display.lit 5 7 = .ok true ∧
      ∃ after entry,
        step storingOverEnd = .error (.fault (.accessOutOfBounds 0x1000 (some 0x20C))) after ∧
        entry.error = some "Memory access outside memory (0x1000) at 0x20c" ∧
        after =
          { storingOverEnd with
            state := { storingOverEnd.state with halted := true, pc := 0x20C }
            trace := storingOverEnd.appendTrace entry
            notes := after.notes } ∧
        step (after.afterCalls [.pressKey 3, .step]) =
          .error haltedFault (after.afterCalls [.pressKey 3, .step]) := by
  obtain ⟨hregisters, hstack, hlit, hpc, hfailure⟩ :
      storingOverEnd.state.registers.toList.take 2 = [5, 7] ∧
        storingOverEnd.state.stack = [0x208] ∧ storingOverEnd.display.lit 5 7 = .ok true ∧
        storingOverEnd.state.pc = 0x20A ∧
        failure? (step storingOverEnd) =
          some (.fault (.accessOutOfBounds 0x1000 (some 0x20C))) := by
    decide +kernel
  have hstep := eq_error_of_failure? hfailure
  obtain ⟨⟨entry, herror, hafter⟩, hfinal⟩ :=
    reachable_storingOverEnd.fault_atomic hstep fun text => Fault.noConfusion
  rw [hpc] at hafter
  refine ⟨hregisters, hstack, hlit, _, entry, hstep, ?_, hafter,
    (hfinal [.pressKey 3, .step] ?_).1⟩
  · exact herror.trans (by decide)
  · simp [HostCall.IsKeyCall]

end Machine

end Chip8
