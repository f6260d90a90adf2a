import Chip8.Proofs.Alongside
import Mathlib.Logic.Function.Iterate

/-!
# Steps and ticks

A tick of the timers and an instruction that does not use them can be exchanged: every instruction
but the three that are about the timers does the same on a machine whose timers have been counted
down first, and leaves them as they are.
-/

namespace Chip8

def Instruction.usesTimers (instruction : Instruction) : Bool :=
  match instruction.operation with
  | .readDelay | .setDelay | .setSound => true
  | _ => false

def Event.isRedraw : Event → Bool
  | redraw _ _ => true
  | frame _ _ _ => false

/-- One tick of a timer. -/
def countDown (timer : Int) : Int :=
  if 0 < timer then timer - 1 else timer

namespace State

variable {α β : Type}

def withTimers (state : State) (delay sound : Int) : State :=
  { state with delayTimer := delay, soundTimer := sound }

def afterTicks (state : State) (count : Nat) : State :=
  state.withTimers (countDown^[count] state.delayTimer) (countDown^[count] state.soundTimer)

theorem tickDelay_eq (state : State) :
    state.tickDelay = state.withTimers (countDown state.delayTimer) state.soundTimer := by
  unfold tickDelay countDown
  split <;> rfl

theorem tickSound_eq (state : State) :
    state.tickSound = state.withTimers state.delayTimer (countDown state.soundTimer) := by
  unfold tickSound countDown
  split <;> rfl

theorem tick_afterTicks (state : State) (count : Nat) :
    (state.afterTicks count).tickDelay.tickSound = state.afterTicks (count + 1) := by
  rw [tickDelay_eq, tickSound_eq, afterTicks, afterTicks, Function.iterate_succ_apply',
    Function.iterate_succ_apply']
  rfl

theorem afterTicks_afterTicks (state : State) (first second : Nat) :
    (state.afterTicks first).afterTicks second = state.afterTicks (second + first) := by
  rw [afterTicks, afterTicks, afterTicks, Function.iterate_add_apply, Function.iterate_add_apply]
  rfl

/-- What is read of a state does not depend on its timers. -/
def Ignored (question : State → Except Failure α) : Prop :=
  ∀ state delay sound, question (state.withTimers delay sound) = question state

/-- The result with a change made to the state that is left. -/
def onLeft (change : State → State) :
    EStateM.Result Failure State α → EStateM.Result Failure State α
  | .ok answer state => .ok answer (change state)
  | .error failure state => .error failure (change state)

/-- An action neither reads nor sets the timers. -/
def Timeless (action : Action α) : Prop :=
  ∀ state delay sound,
    action (state.withTimers delay sound) = onLeft (·.withTimers delay sound) (action state)

theorem Timeless.timers_kept {action : Action α} (htimeless : Timeless action) (state : State) :
    action state = onLeft (·.withTimers state.delayTimer state.soundTimer) (action state) :=
  htimeless state state.delayTimer state.soundTimer

theorem Timeless.afterTicks {action : Action α} (htimeless : Timeless action) (state : State)
    (count : Nat) :
    action (state.afterTicks count) = onLeft (·.afterTicks count) (action state) := by
  have hkept := htimeless.timers_kept state
  rw [State.afterTicks, htimeless]
  -- The timers of the state that is left are those of the state before, so both sides tick them.
  cases hresult : action state with
  | ok answer after =>
      rw [hresult] at hkept
      injection hkept with _ hafter
      rw [hafter]
      rfl
  | error failure after =>
      rw [hresult] at hkept
      injection hkept with _ hafter
      rw [hafter]
      rfl

theorem Timeless.ask {question : State → Except Failure α} (hignored : Ignored question) :
    Timeless (ask question) := by
  intro state delay sound
  rw [State.ask, State.ask, hignored]
  cases question state <;> rfl

theorem Timeless.modify {change : State → State}
    (hchange : ∀ state delay sound,
      change (state.withTimers delay sound) = (change state).withTimers delay sound) :
    Timeless (modify change) :=
  fun state delay sound => congrArg (EStateM.Result.ok ()) (hchange state delay sound)

theorem Timeless.bind {first : Action α} {next : α → Action β} (hfirst : Timeless first)
    (hnext : ∀ answer, Timeless (next answer)) : Timeless (first >>= next) := by
  intro state delay sound
  change EStateM.bind first next _ = onLeft _ (EStateM.bind first next state)
  rw [EStateM.bind, EStateM.bind, hfirst]
  cases first state with
  | ok answer after => exact hnext answer after delay sound
  | error failure after => rfl

/-! ### The changes that instructions make -/

theorem ignored_register (number : Int) : Ignored (·.register number) :=
  fun _ _ _ => rfl

theorem ignored_readBlock (length : Int) :
    Ignored fun state => state.readBlock state.index length :=
  fun _ _ _ => rfl

theorem timeless_register (number : Int) : Timeless (ask (·.register number)) :=
  .ask (ignored_register number)

theorem timeless_setRegister (number value : Int) : Timeless (setRegister number value) := by
  intro state delay sound
  cases hset : SignedIndex.set? state.registers number (lowByte value) <;>
    simp [setRegister, withTimers, onLeft, hset]

theorem timeless_refuse (word : Int) : Timeless (refuse word) :=
  fun _ _ _ => rfl

theorem timeless_jump (target : Int) : Timeless (modify (·.jump target)) :=
  .modify fun _ _ _ => rfl

theorem timeless_loadIndex (address : Int) : Timeless (modify (·.loadIndex address)) :=
  .modify fun _ _ _ => rfl

theorem timeless_ret : Timeless ret := by
  refine .bind ?_ fun address => timeless_jump address
  intro state delay sound
  cases hstack : state.stack <;> simp [pop, withTimers, onLeft, hstack, fetchAddress]

theorem timeless_call (capacity : Option Int) (target : Int) : Timeless (call capacity target) := by
  refine .bind ?_ fun _ => timeless_jump target
  intro state delay sound
  rw [push, push]
  change (if capacity.any (decide <| · ≤ (state.stack.length : Int)) then _ else _) = _
  cases capacity.any (decide <| · ≤ (state.stack.length : Int)) <;> rfl

theorem timeless_skipIf (condition : Bool) : Timeless (modify (·.skipIf condition)) := by
  refine .modify fun state delay sound => ?_
  cases condition <;> rfl

theorem timeless_skipIfRegister (x : Int) (condition : Int → Bool) :
    Timeless (skipIfRegister x condition) :=
  .bind (timeless_register x) fun _ => timeless_skipIf _

theorem timeless_skipIfRegisters (x y : Int) (condition : Int → Int → Bool) :
    Timeless (skipIfRegisters x y condition) :=
  .bind (timeless_register x) fun _ => .bind (timeless_register y) fun _ => timeless_skipIf _

theorem timeless_jumpOffset (target : Int) : Timeless (jumpOffset target) :=
  .bind (timeless_register 0) fun _ => timeless_jump _

theorem timeless_addByte (x byte : Int) : Timeless (addByte x byte) :=
  .bind (timeless_register x) fun _ => timeless_setRegister x _

theorem timeless_copy (x y : Int) : Timeless (copy x y) :=
  .bind (timeless_register y) fun _ => timeless_setRegister x _

theorem timeless_combine (x y : Int) (result : Int → Int → Int) : Timeless (combine x y result) :=
  .bind (timeless_register x) fun _ => .bind (timeless_register y) fun _ =>
    timeless_setRegister x _

theorem timeless_combineWithFlag (x y : Int) (flag : Int → Int → Bool)
    (result : Int → Int → Int) : Timeless (combineWithFlag x y flag result) :=
  .bind (timeless_register x) fun _ => .bind (timeless_register y) fun _ =>
    .bind (timeless_setRegister flagRegister _) fun _ => timeless_setRegister x _

theorem timeless_shift (x : Int) (flag : Int → Bool) (result : Int → Int) :
    Timeless (shift x flag result) :=
  .bind (timeless_register x) fun _ =>
    .bind (timeless_setRegister flagRegister _) fun _ => timeless_setRegister x _

theorem timeless_addIndex (x : Int) : Timeless (addIndex x) :=
  .bind (timeless_register x) fun _ => .modify fun _ _ _ => rfl

theorem timeless_glyph (x : Int) : Timeless (glyph x) :=
  .bind (timeless_register x) fun _ => timeless_loadIndex _

theorem timeless_writeBlock (address : Int) (data : List UInt8) :
    Timeless (writeBlock address data) :=
  .bind (.ask fun _ _ _ => rfl) fun _ => .modify fun _ _ _ => rfl

theorem timeless_writeNumbers (values : List Int) : Timeless (writeNumbers values) := by
  intro state delay sound
  rw [writeNumbers]
  cases bytes? values with
  | none => rfl
  | some data => exact timeless_writeBlock state.index data state delay sound

theorem timeless_decimal (x : Int) : Timeless (decimal x) :=
  .bind (timeless_register x) fun _ => timeless_writeNumbers _

theorem timeless_store (x : Int) : Timeless (store x) :=
  fun state delay sound =>
    timeless_writeNumbers (SignedIndex.block state.registers 0 (x + 1)).toList state delay sound

theorem timeless_load (x : Int) : Timeless (load x) :=
  .bind (.ask (ignored_readBlock (x + 1))) fun _ => .modify fun _ _ _ => rfl

theorem timeless_resume (key : Int) : Timeless (resume key) :=
  fun state delay sound =>
    (timeless_setRegister state.keyRegister key).bind (fun _ => .modify fun _ _ _ => rfl)
      state delay sound

end State

namespace Machine

open State (Ignored Timeless)

variable {source : Type} {count : Nat}

/-- The machine with its timers counted down so often. -/
def afterTicks (machine : Machine source) (count : Nat) : Machine source :=
  { machine with state := machine.state.afterTicks count }

@[simp]
theorem display_afterTicks (machine : Machine source) :
    (machine.afterTicks count).display = machine.display :=
  rfl

@[simp]
theorem keypad_afterTicks (machine : Machine source) :
    (machine.afterTicks count).keypad = machine.keypad :=
  rfl

/-- The twin is the machine with its timers counted down so often. -/
def IsTicked (count : Nat) (machine twin : Machine source) : Prop :=
  twin = machine.afterTicks count

/-- The action and so many ticks can be exchanged. -/
def Commutes {α : Type} (count : Nat) (action : Action source α) : Prop :=
  Matched (IsTicked count) action action

/-! ### Instructions -/

theorem isTicked_note (machine : Machine source) (level : Level) (topic : Topic)
    (text : Unit → String) :
    IsTicked count (machine.note level topic text)
      ((machine.afterTicks count).note level topic text) := by
  unfold IsTicked note
  change (if machine.noteLevel.rank ≤ level.rank then _ else _) = _
  split <;> rfl

theorem commutes_update {change : State.Action Unit} (htimeless : Timeless change) :
    Commutes count (update change : Action source Unit) := by
  rintro machine _ rfl
  have hchange : change (machine.afterTicks count).state =
      State.onLeft (·.afterTicks count) (change machine.state) :=
    htimeless.afterTicks machine.state count
  rw [update, update, hchange]
  cases change machine.state with
  | ok _ state => exact .ok () rfl
  | error failure state => exact .error failure rfl

theorem commutes_ask {α : Type} {question : State → Except Failure α}
    (hignored : Ignored question) :
    Commutes count (ask question : Action source α) := by
  rintro machine _ rfl
  have hquestion : question (machine.afterTicks count).state = question machine.state :=
    hignored machine.state _ _
  rw [ask, ask, hquestion]
  cases question machine.state with
  | error failure => exact .error failure rfl
  | ok answer => exact .ok answer rfl

theorem commutes_requestRedraw : Commutes count (modify requestRedraw : Action source Unit) := by
  refine Matched.modify ?_
  rintro machine _ rfl
  rfl

theorem commutes_clearDisplay : Commutes count (clearDisplay : Action source Unit) := by
  refine Matched.modify ?_
  rintro machine _ rfl
  rfl

theorem commutes_call (target : Int) : Commutes count (call target : Action source Unit) := by
  rintro machine _ rfl
  exact commutes_update (State.timeless_call machine.config.maxStackDepth target) machine _ rfl

theorem commutes_draw (x y : Int) (sprite : List UInt8) :
    Commutes count (draw x y sprite : Action source Bool) := by
  rintro machine _ rfl
  rw [draw, draw, display_afterTicks]
  cases (machine.display.draw x y sprite).collision with
  | error failure => exact .error failure rfl
  | ok collision => exact .ok collision rfl

theorem commutes_drawSprite (x y rows : Int) :
    Commutes count (drawSprite x y rows : Action source Unit) :=
  (commutes_ask (State.ignored_register x)).bind fun column =>
    (commutes_ask (State.ignored_register y)).bind fun row =>
      (commutes_ask (State.ignored_readBlock rows)).bind fun sprite =>
        (commutes_draw column row sprite).bind fun _ =>
          (commutes_update (State.timeless_setRegister flagRegister _)).bind fun _ =>
            commutes_requestRedraw

theorem commutes_skipIfPressed (x : Int) (pressed : Bool) :
    Commutes count (skipIfPressed x pressed : Action source Unit) := by
  rintro machine _ rfl
  exact commutes_update (State.timeless_skipIfRegister x _) machine _ rfl

theorem commutes_awaitKey (x : Int) : Commutes count (awaitKey x : Action source Unit) := by
  refine Matched.modify ?_
  rintro machine _ rfl
  exact isTicked_note _ _ _ _

theorem commutes_storeKey (key : Key) : Commutes count (storeKey key : Action source Unit) := by
  refine (commutes_update (State.timeless_resume key.val)).bind fun _ => Matched.modify ?_
  rintro machine _ rfl
  exact isTicked_note _ _ _ _

theorem commutes_pollKey : Commutes count (pollKey : Action source Unit) := by
  rintro machine _ rfl
  rw [pollKey, pollKey, keypad_afterTicks]
  cases hpending : machine.keypad.pending with
  | none =>
      simp only [Keypad.takePending, hpending]
      exact .ok () rfl
  | some key =>
      simp only [Keypad.takePending, hpending]
      exact commutes_storeKey key { machine with keypad := machine.keypad.clearPending } _ rfl

variable [ByteSource source]

theorem commutes_storeRandom (x mask : Int) :
    Commutes count (storeRandom x mask : Action source Unit) := by
  refine Matched.bind ?_ fun _ => commutes_update (State.timeless_setRegister x _)
  rintro machine _ rfl
  exact .ok _ rfl

theorem commutes_perform {instruction : Instruction} (huntimed : instruction.usesTimers = false) :
    Commutes count (perform instruction : Action source Unit) := by
  obtain ⟨operation, word, x, y, n, nn, nnn, valid, error⟩ := instruction
  cases operation with
  | clear => exact commutes_clearDisplay
  | ret => exact commutes_update State.timeless_ret
  | jump => exact commutes_update (State.timeless_jump nnn)
  | call => exact commutes_call nnn
  | skipIfByte | skipUnlessByte => exact commutes_update (State.timeless_skipIfRegister x _)
  | skipIfEqual | skipUnlessEqual => exact commutes_update (State.timeless_skipIfRegisters x y _)
  | loadByte => exact commutes_update (State.timeless_setRegister x nn)
  | addByte => exact commutes_update (State.timeless_addByte x nn)
  | copy => exact commutes_update (State.timeless_copy x y)
  | bitOr | bitAnd | bitXor => exact commutes_update (State.timeless_combine x y _)
  | add | subtract | subtractFrom => exact commutes_update (State.timeless_combineWithFlag x y _ _)
  | shiftRight | shiftLeft => exact commutes_update (State.timeless_shift x _ _)
  | loadIndex => exact commutes_update (State.timeless_loadIndex nnn)
  | jumpOffset => exact commutes_update (State.timeless_jumpOffset nnn)
  | random => exact commutes_storeRandom x nn
  | draw => exact commutes_drawSprite x y n
  | skipIfPressed => exact commutes_skipIfPressed x true
  | skipUnlessPressed => exact commutes_skipIfPressed x false
  | awaitKey => exact commutes_awaitKey x
  | addIndex => exact commutes_update (State.timeless_addIndex x)
  | glyph => exact commutes_update (State.timeless_glyph x)
  | decimal => exact commutes_update (State.timeless_decimal x)
  | store => exact commutes_update (State.timeless_store x)
  | load => exact commutes_update (State.timeless_load x)
  | invalid => exact commutes_update (State.timeless_refuse word)
  | readDelay | setDelay | setSound => cases huntimed

theorem commutes_execute {instruction : Instruction} (huntimed : instruction.usesTimers = false) :
    Commutes count (execute instruction : Action source Unit) := by
  refine (commutes_perform huntimed).bind fun _ => Matched.modify ?_
  rintro machine _ rfl
  rfl

/-! ### Steps -/

variable {machine twin : Machine source}

/-- The twin is where the machine would be if its timers had been counted down so often. The two may
differ in what they report, as long as they send the same redraws. -/
def Ticked (count : Nat) (machine twin : Machine source) : Prop :=
  Alongside Event.isRedraw (machine.afterTicks count) twin

theorem Ticked.of_commutes {α : Type} {action : Action source α}
    (hcommutes : Commutes count action)
    (hlockstep : Matched (Alongside Event.isRedraw) action action)
    (hticked : Ticked count machine twin) :
    SameOutcome (Ticked count) (action machine) (action twin) := by
  have hfirst := hcommutes machine _ rfl
  have hsecond := hlockstep _ twin hticked
  generalize action machine = result at hfirst ⊢
  generalize action (machine.afterTicks count) = middle at hfirst hsecond
  generalize action twin = resultTwin at hsecond ⊢
  cases hfirst with
  | ok value hafter =>
      subst hafter
      cases hsecond with
      | ok _ halong => exact .ok value halong
  | error failure hafter =>
      subst hafter
      cases hsecond with
      | error _ halong => exact .error failure halong

theorem Ticked.finishCycle (hticked : Ticked count machine twin) (pc : Int)
    (instruction : Instruction) (before twinBefore : Snapshot) :
    Ticked count (machine.finishCycle pc instruction before)
      (twin.finishCycle pc instruction twinBefore) := by
  rw [finishCycle_eq machine, finishCycle_eq twin]
  exact { hticked with }

theorem Ticked.failCycle (hticked : Ticked count machine twin) (pc : Int)
    (instruction : Option Instruction) (before twinBefore : Snapshot) (failure : Failure) :
    Ticked count (machine.failCycle pc instruction before failure)
      (twin.failCycle pc instruction twinBefore failure) := by
  cases failure with
  | fault fault =>
      have hhalted := lockstep_alongside.halt hticked
      rw [failCycle_eq machine, failCycle_eq twin]
      exact { hhalted with }
  | _ => exact hticked

theorem Ticked.cycle (hticked : Ticked count machine twin)
    (huntimed : ∀ word, machine.state.fetch = .ok word →
      (Instruction.decode word).usesTimers = false) :
    SameOutcome (Ticked count) (cycle machine) (cycle twin) := by
  have hstate := hticked.state_eq
  have hfetch : twin.state.fetch = machine.state.fetch := by
    rw [← hstate]
    rfl
  have hpc : twin.state.pc = machine.state.pc := by
    rw [← hstate]
    rfl
  rw [Machine.cycle, Machine.cycle]
  simp only [ask, hfetch, hpc]
  cases hword : machine.state.fetch with
  | error failure => exact .error failure (hticked.failCycle _ _ _ _ _)
  | ok word =>
      have hadvanced : Ticked count machine.advancePc twin.advancePc :=
        lockstep_alongside.advancePc hticked
      have hexecuted := hadvanced.of_commutes (commutes_execute (huntimed word hword))
        (lockstep_alongside.execute _)
      dsimp only
      generalize execute (.decode word) machine.advancePc = result at hexecuted ⊢
      generalize execute (.decode word) twin.advancePc = resultTwin at hexecuted ⊢
      cases hexecuted with
      | error failure hafter => exact .error failure (hafter.failCycle _ _ _ _ _)
      | ok _ hafter => exact .ok _ (hafter.finishCycle _ _ _ _)

/-- The instruction that the next step is to execute, if it neither is refused nor polls for a
key. -/
def next? (machine : Machine source) : Option Instruction :=
  if machine.state.halted || machine.state.awaitingKey then none
  else machine.state.fetch.toOption.map Instruction.decode

theorem Ticked.next?_eq (hticked : Ticked count machine twin) : twin.next? = machine.next? := by
  rw [next?, ← hticked.state_eq]
  rfl

omit [ByteSource source] in
theorem next?_of_fetch {word : Int} (hrunning : machine.state.halted = false)
    (hnotWaiting : machine.state.awaitingKey = false) (hfetch : machine.state.fetch = .ok word) :
    machine.next? = some (.decode word) := by
  rw [next?, hrunning, hnotWaiting, hfetch]
  rfl

theorem exists_fetch_of_cycle {instruction : Instruction} {after : Machine source}
    (hcycle : Machine.cycle machine = .ok instruction after) :
    ∃ word, machine.state.fetch = .ok word ∧ Instruction.decode word = instruction := by
  rw [Machine.cycle, ask] at hcycle
  cases hfetch : machine.state.fetch with
  | error failure => simp [hfetch] at hcycle
  | ok word =>
      simp only [hfetch] at hcycle
      cases hexecute : execute (.decode word) machine.advancePc with
      | error failure failed => simp [hexecute] at hcycle
      | ok _ carried =>
          simp only [hexecute] at hcycle
          cases hcycle
          exact ⟨word, rfl, rfl⟩

theorem next?_of_step {executed : Option Instruction} {after : Machine source}
    (hstep : step machine = .ok executed after) : machine.next? = executed := by
  unfold step at hstep
  cases hhalted : machine.state.halted with
  | true =>
      rw [if_pos hhalted] at hstep
      cases hstep
  | false =>
      rw [if_neg (by simp [hhalted])] at hstep
      cases hwaiting : machine.state.awaitingKey with
      | true =>
          rw [if_pos hwaiting] at hstep
          change EStateM.bind pollKey (fun _ => pure none) machine = _ at hstep
          rw [EStateM.bind] at hstep
          rw [next?, if_pos (by simp [hwaiting])]
          cases hpoll : pollKey machine with
          | error failure polled => simp [hpoll] at hstep
          | ok _ polled =>
              rw [hpoll] at hstep
              cases hstep
              rfl
      | false =>
          rw [if_neg (by simp [hwaiting])] at hstep
          change EStateM.map some Machine.cycle machine = _ at hstep
          rw [EStateM.map] at hstep
          cases hcycle : Machine.cycle machine with
          | error failure failed => simp [hcycle] at hstep
          | ok instruction carried =>
              rw [hcycle] at hstep
              cases hstep
              obtain ⟨word, hfetch, rfl⟩ := exists_fetch_of_cycle hcycle
              exact next?_of_fetch hhalted hwaiting hfetch

/-- Ticks before a step have no influence on it, unless its instruction uses the timers. -/
theorem Ticked.step (hticked : Ticked count machine twin)
    (huntimed : ∀ instruction ∈ machine.next?, instruction.usesTimers = false) :
    SameOutcome (Ticked count) (step machine) (step twin) := by
  have hstate := hticked.state_eq
  rw [Machine.step, Machine.step, ← hstate]
  change SameOutcome _
    (if machine.state.halted then _ else if machine.state.awaitingKey then _ else _)
    (if machine.state.halted then _ else if machine.state.awaitingKey then _ else _)
  cases hhalted : machine.state.halted with
  | true => exact .error haltedFault hticked
  | false =>
      cases hwaiting : machine.state.awaitingKey with
      | true =>
          exact hticked.of_commutes (commutes_pollKey.bind fun _ => Matched.pure none)
            (lockstep_alongside.pollKey.bind fun _ => Matched.pure none)
      | false =>
          have hcycle := hticked.cycle fun word hfetch =>
            huntimed _ (next?_of_fetch hhalted hwaiting hfetch)
          change SameOutcome _ (EStateM.map some Machine.cycle machine)
            (EStateM.map some Machine.cycle twin)
          rw [EStateM.map, EStateM.map]
          generalize Machine.cycle machine = result at hcycle ⊢
          generalize Machine.cycle twin = resultTwin at hcycle ⊢
          cases hcycle with
          | ok instruction hafter => exact .ok (some instruction) hafter
          | error failure hafter => exact .error failure hafter

end Machine

end Chip8
