import Chip8.Proofs.Perform

/-!
# One step

A machine that is neither halted nor waiting takes the transition of the word at its program
counter, or fails to fetch one. Notes and the trace are reports on a step: they never influence one.
-/

namespace Chip8

theorem Instruction.decode_natCast {word : Nat} (hword : word < 0x10000) :
    decode word = ofWord word := by
  have hlow : ((word : Int) % 0x10000).toNat = word := by omega
  rw [decode, hlow]

theorem Effect.ofWord_advancePc {source : Type} (machine : Machine source) (word : Nat) :
    ofWord machine.advancePc.state machine.advancePc.keypad word =
      ofWord machine.state machine.keypad word :=
  rfl

namespace Machine

variable {source : Type}

/-- The machine without its trace and its notes. -/
def withoutReports (machine : Machine source) : Machine source :=
  { machine with trace := #[], notes := #[] }

section Reports

variable (machine : Machine source) (level : Level) (topic : Topic) (text : Unit → String)
  (pc : Int) (instruction : Instruction) (before : Snapshot) (fault : Fault)

theorem note_eq :
    machine.note level topic text =
      { machine with notes := (machine.note level topic text).notes } := by
  rw [note]
  split <;> rfl

theorem record_eq (instruction : Option Instruction) (error : Option String) :
    machine.record pc instruction before error =
      { machine with trace := (machine.record pc instruction before error).trace } := by
  rw [record]
  split <;> rfl

theorem finishCycle_eq :
    machine.finishCycle pc instruction before =
      { machine with
        trace := (machine.finishCycle pc instruction before).trace
        notes := (machine.finishCycle pc instruction before).notes } := by
  rw [finishCycle, record_eq, note_eq]

theorem failCycle_eq (instruction : Option Instruction) :
    machine.failCycle pc instruction before (.fault fault) =
      { machine.halt with
        trace := (machine.failCycle pc instruction before (.fault fault)).trace
        notes := (machine.failCycle pc instruction before (.fault fault)).notes } := by
  rw [failCycle]
  dsimp only
  rw [record_eq, note_eq]

theorem tickSound_eq :
    machine.tickSound =
      { machine with
        state := machine.state.tickSound
        notes := machine.tickSound.notes } := by
  rw [tickSound]
  dsimp only
  split
  · rw [note_eq]
  · rfl

end Reports

variable [ByteSource source] {machine : Machine source}

theorem exists_apply_of_transition {after : Machine source}
    (htransition : machine.transition = .ok after) :
    ∃ carried, (Effect.ofWord machine.state machine.keypad machine.state.word).apply
        machine.advancePc = .ok carried ∧ after = carried.countCycle := by
  simp only [transition, bind, Except.bind] at htransition
  split at htransition
  · cases htransition
  · rename_i carried happly
    cases htransition
    exact ⟨carried, happly, rfl⟩

/-- What no effect changes: the configuration, the trace, the listeners and the count of cycles. A
key that was handed over is kept or dropped. -/
structure Framed (machine after : Machine source) : Prop where
  eq_with : after =
    { machine with
      state := after.state
      display := after.display
      keypad := after.keypad
      random := after.random
      deliveries := after.deliveries
      notes := after.notes }
  cycleCount_eq : after.state.cycleCount = machine.state.cycleCount
  pending_eq : after.keypad.pending = machine.keypad.pending ∨ after.keypad.pending = none

theorem framed_apply {effect : Effect} {after : Machine source}
    (happly : effect.apply machine = .ok after) : Framed machine after := by
  cases effect with
  | clear | jump | skip | assign | assignWithFlag | random | point | delay | sound =>
      cases happly
      exact ⟨rfl, rfl, .inl rfl⟩
  | ret | call | write | load | draw =>
      simp only [Effect.apply] at happly
      split at happly
      · cases happly
      · cases happly
        exact ⟨rfl, rfl, .inl rfl⟩
  | awaitKey x =>
      cases happly
      rw [note_eq]
      exact ⟨rfl, rfl, .inr rfl⟩
  | unsupported => cases happly

theorem transition_eq {after : Machine source} (htransition : machine.transition = .ok after) :
    after =
      { machine with
        state := after.state
        display := after.display
        keypad := after.keypad
        random := after.random
        deliveries := after.deliveries
        notes := after.notes } := by
  obtain ⟨carried, happly, rfl⟩ := exists_apply_of_transition htransition
  exact congrArg countCycle (framed_apply happly).eq_with

theorem cycleCount_transition {after : Machine source}
    (htransition : machine.transition = .ok after) :
    after.state.cycleCount = machine.state.cycleCount + 1 := by
  obtain ⟨carried, happly, rfl⟩ := exists_apply_of_transition htransition
  exact congrArg (· + 1) (framed_apply happly).cycleCount_eq

theorem pending_transition {after : Machine source} (htransition : machine.transition = .ok after)
    (hnone : machine.keypad.pending = none) : after.keypad.pending = none := by
  obtain ⟨carried, happly, rfl⟩ := exists_apply_of_transition htransition
  exact (framed_apply happly).pending_eq.elim (·.trans hnone) id

theorem step_of_halted (hhalted : machine.state.halted = true) :
    step machine = .error haltedFault machine := by
  rw [step, if_pos hhalted]

theorem step_of_waiting (hrunning : machine.state.halted = false)
    (hwaiting : machine.state.awaitingKey = true) (hpending : machine.keypad.pending = none) :
    step machine = .ok none machine := by
  have hpoll : pollKey machine = .ok () machine := by
    rw [pollKey, Keypad.takePending, hpending]
  rw [step, if_neg (by simp [hrunning]), if_pos hwaiting]
  change EStateM.bind pollKey (fun _ => pure none) machine = _
  rw [EStateM.bind, hpoll]
  rfl

/-- Stores the key that was handed over and goes on behind the instruction that waited for it. -/
def takeKey (machine : Machine source) (key : Key) : Machine source :=
  { machine with
    keypad := { machine.keypad with pending := none }
    state :=
      { machine.state.setV machine.state.keyRegister.toNat (UInt8.ofNat key) with
        awaitingKey := false
        pc := machine.state.resumePc } }

omit [ByteSource source] in
theorem exists_storeKey (machine : Machine source) {key : Key} {after : State}
    (hresume : machine.state.resume key.val = .ok () after) :
    ∃ text, storeKey key machine =
      .ok () ({ machine with state := after }.note .debug .cpu text) := by
  change ∃ text, EStateM.bind (update (State.resume key.val)) _ machine = _
  rw [EStateM.bind, update_ok hresume]
  exact ⟨_, rfl⟩

theorem step_of_key (hvalid : machine.state.Valid) (hrunning : machine.state.halted = false)
    (hwaiting : machine.state.awaitingKey = true) {key : Key}
    (hpending : machine.keypad.pending = some key) :
    ∃ text, step machine = .ok none ((machine.takeKey key).note .debug .cpu text) := by
  have hregister : machine.state.keyRegister = machine.state.keyRegister.toNat := by
    have hrange := hvalid.keyRegister_range
    omega
  have hx : machine.state.keyRegister.toNat < 16 := by
    have hrange := hvalid.keyRegister_range
    omega
  have hset := State.setRegister_eq hvalid.registers_size hx key.val
  rw [← hregister, State.ofInt_natCast] at hset
  have hresume : machine.state.resume key.val = .ok () (machine.takeKey key).state :=
    State.bind_of_ok hset
  have hstep : step machine = EStateM.bind pollKey (fun _ => pure none) machine := by
    rw [step, if_neg (by simp [hrunning]), if_pos hwaiting]
    rfl
  rw [hstep]
  obtain ⟨text, hstored⟩ :=
    exists_storeKey { machine with keypad := machine.keypad.clearPending } hresume
  simp only [EStateM.bind, pollKey, Keypad.takePending, hpending, hstored]
  exact ⟨text, rfl⟩

theorem step_of_outside (hrunning : machine.state.halted = false)
    (hnotWaiting : machine.state.awaitingKey = false) (hpc : 4094 < machine.state.pc) :
    step machine =
      .error (.fault (.fetchOutOfBounds machine.state.pc))
        (machine.failCycle machine.state.pc none machine.state.snapshot
          (.fault (.fetchOutOfBounds machine.state.pc))) := by
  have hfetch := State.fetch_fault hpc
  rw [step, if_neg (by simp [hrunning]), if_neg (by simp [hnotWaiting])]
  change EStateM.map some cycle machine = _
  simp only [EStateM.map, cycle, ask, hfetch]

theorem step_of_inside (hvalid : machine.state.Valid) (hsize : machine.display.HasSize 64 32)
    (hrunning : machine.state.halted = false) (hnotWaiting : machine.state.awaitingKey = false)
    (hpc : machine.state.pc ≤ 4094) :
    step machine =
      match machine.transition with
      | .ok after =>
        .ok (some (.decode machine.state.word))
          (after.finishCycle machine.state.pc (.decode machine.state.word) machine.state.snapshot)
      | .error refusal =>
        .error (.fault (refusal.fault machine.advancePc.state machine.state.word))
          (machine.advancePc.failCycle machine.state.pc (some (.decode machine.state.word))
            machine.state.snapshot
            (.fault (refusal.fault machine.advancePc.state machine.state.word))) := by
  have hword := machine.state.word_lt
  have hadvanced : machine.advancePc.state.Valid :=
    hvalid.jump (by have hrange := hvalid.pc_range; omega)
  have hperform := perform_ofWord hadvanced hsize hword
  rw [step, if_neg (by simp [hrunning]), if_neg (by simp [hnotWaiting])]
  change EStateM.map some cycle machine = _
  simp only [EStateM.map, cycle, ask, State.fetch_eq hvalid hpc, Instruction.decode_natCast hword,
    execute, bind, EStateM.bind, hperform, transition, Effect.ofWord_advancePc]
  cases happly : (Effect.ofWord machine.state machine.keypad machine.state.word).apply
      machine.advancePc with
  | ok after =>
      simp only [Effect.run, happly]
      rfl
  | error refusal =>
      simp only [Effect.run, happly]
      rfl

/-- The results that a step can have, one for each thing that a machine can do next. -/
inductive StepResult (machine : Machine source) :
    EStateM.Result Failure (Machine source) (Option Instruction) → Prop where
  | halted (hhalted : machine.state.halted = true) :
    StepResult machine (.error haltedFault machine)
  | waiting (hrunning : machine.state.halted = false)
    (hwaiting : machine.state.awaitingKey = true) (hpending : machine.keypad.pending = none) :
    StepResult machine (.ok none machine)
  | key (hrunning : machine.state.halted = false) (hwaiting : machine.state.awaitingKey = true)
    (key : Key) (hpending : machine.keypad.pending = some key) (text : Unit → String) :
    StepResult machine (.ok none ((machine.takeKey key).note .debug .cpu text))
  | outside (hrunning : machine.state.halted = false)
    (hnotWaiting : machine.state.awaitingKey = false) (hpc : 4094 < machine.state.pc) :
    StepResult machine
      (.error (.fault (.fetchOutOfBounds machine.state.pc))
        (machine.failCycle machine.state.pc none machine.state.snapshot
          (.fault (.fetchOutOfBounds machine.state.pc))))
  | carriedOut (hrunning : machine.state.halted = false)
    (hnotWaiting : machine.state.awaitingKey = false) (hpc : machine.state.pc ≤ 4094)
    (after : Machine source) (htransition : machine.transition = .ok after) :
    StepResult machine
      (.ok (some (.decode machine.state.word))
        (after.finishCycle machine.state.pc (.decode machine.state.word) machine.state.snapshot))
  | refused (hrunning : machine.state.halted = false)
    (hnotWaiting : machine.state.awaitingKey = false) (hpc : machine.state.pc ≤ 4094)
    (refusal : Refusal) (htransition : machine.transition = .error refusal) :
    StepResult machine
      (.error (.fault (refusal.fault machine.advancePc.state machine.state.word))
        (machine.advancePc.failCycle machine.state.pc (some (.decode machine.state.word))
          machine.state.snapshot
          (.fault (refusal.fault machine.advancePc.state machine.state.word))))

theorem stepResult_step (hvalid : machine.state.Valid) (hsize : machine.display.HasSize 64 32) :
    StepResult machine (step machine) := by
  cases hhalted : machine.state.halted with
  | true =>
      rw [step_of_halted hhalted]
      exact .halted hhalted
  | false =>
      cases hwaiting : machine.state.awaitingKey with
      | true =>
          cases hpending : machine.keypad.pending with
          | none =>
              rw [step_of_waiting hhalted hwaiting hpending]
              exact .waiting hhalted hwaiting hpending
          | some key =>
              obtain ⟨text, hstep⟩ := step_of_key hvalid hhalted hwaiting hpending
              rw [hstep]
              exact .key hhalted hwaiting key hpending text
      | false =>
          by_cases hpc : machine.state.pc ≤ 4094
          · rw [step_of_inside hvalid hsize hhalted hwaiting hpc]
            cases htransition : machine.transition with
            | ok after => exact .carriedOut hhalted hwaiting hpc after htransition
            | error refusal => exact .refused hhalted hwaiting hpc refusal htransition
          · rw [step_of_outside hhalted hwaiting (by omega)]
            exact .outside hhalted hwaiting (by omega)

end Machine

end Chip8
