import Chip8.Proofs.HostCalls

/-!
# Machines called alike

Two machines are related, and their hosts make the same calls. If no single operation tells related
machines apart (`Lockstep`), then no call does: they answer or fail alike and stay related, however
long the calls go on. What a relation compares, and whether the two draw their random bytes from
sources of one kind, is left open.
-/

namespace Chip8

namespace ByteSource

variable {source other : Type} [ByteSource source] [ByteSource other]

/-- Two sources hand out the same bytes, however many are taken. -/
def SameBytes (first : source) (second : other) : Prop :=
  ∀ count, (take count first).1 = (take count second).1

theorem SameBytes.refl (bytes : source) : SameBytes bytes bytes :=
  fun _ => rfl

theorem sameBytes_next {first : source} {second : other} (hsame : SameBytes first second) :
    (next first).1 = (next second).1 ∧ SameBytes (next first).2 (next second).2 := by
  have hcons : ∀ count, (next first).1 :: (take count (next first).2).1 =
      (next second).1 :: (take count (next second).2).1 := fun count => hsame (count + 1)
  exact ⟨(List.cons.inj (hcons 0)).1, fun count => (List.cons.inj (hcons count)).2⟩

end ByteSource

namespace Machine

variable {source other α β : Type} {relation : Machine source → Machine other → Prop}

/-- The same answer or the same failure, and related machines. -/
inductive SameOutcome (relation : Machine source → Machine other → Prop) :
    EStateM.Result Failure (Machine source) α →
      EStateM.Result Failure (Machine other) α → Prop where
  | ok (value : α) {first : Machine source} {second : Machine other}
    (hrelated : relation first second) : SameOutcome relation (.ok value first) (.ok value second)
  | error (failure : Failure) {first : Machine source} {second : Machine other}
    (hrelated : relation first second) :
    SameOutcome relation (.error failure first) (.error failure second)

section SameOutcome

variable {first : EStateM.Result Failure (Machine source) α}
  {second : EStateM.Result Failure (Machine other) α}

theorem SameOutcome.left (hsame : SameOutcome relation first second) :
    relation (left first) (left second) := by
  cases hsame <;> assumption

theorem SameOutcome.failure?_eq (hsame : SameOutcome relation first second) :
    failure? first = failure? second := by
  cases hsame <;> rfl

theorem SameOutcome.executed?_eq
    {first : EStateM.Result Failure (Machine source) (Option Instruction)}
    {second : EStateM.Result Failure (Machine other) (Option Instruction)}
    (hsame : SameOutcome relation first second) : executed? first = executed? second := by
  cases hsame <;> rfl

end SameOutcome

/-- Two actions that related machines answer alike. -/
def Matched (relation : Machine source → Machine other → Prop) (first : Action source α)
    (second : Action other α) : Prop :=
  ∀ machine twin, relation machine twin → SameOutcome relation (first machine) (second twin)

section Matched

theorem Matched.pure (value : α) :
    Matched relation (Pure.pure value : Action source α) (Pure.pure value) :=
  fun _ _ hrelated => .ok value hrelated

theorem Matched.modify {change : Machine source → Machine source}
    {changeTwin : Machine other → Machine other}
    (hchange : ∀ machine twin, relation machine twin →
      relation (change machine) (changeTwin twin)) :
    Matched relation (modify change : Action source Unit) (modify changeTwin) :=
  fun machine twin hrelated => .ok () (hchange machine twin hrelated)

theorem Matched.bind {first : Action source α} {second : Action other α}
    {next : α → Action source β} {nextTwin : α → Action other β}
    (hfirst : Matched relation first second)
    (hnext : ∀ value, Matched relation (next value) (nextTwin value)) :
    Matched relation (first >>= next) (second >>= nextTwin) := by
  intro machine twin hrelated
  have hsame := hfirst machine twin hrelated
  change SameOutcome relation (EStateM.bind first next machine) (EStateM.bind second nextTwin twin)
  rw [EStateM.bind, EStateM.bind]
  generalize first machine = result at hsame ⊢
  generalize second twin = resultTwin at hsame ⊢
  cases hsame with
  | ok value hleft => exact hnext value _ _ hleft
  | error failure hleft => exact .error failure hleft

theorem Matched.map (change : α → β) {first : Action source α} {second : Action other α}
    (hfirst : Matched relation first second) :
    Matched relation (change <$> first) (change <$> second) :=
  hfirst.bind fun value => Matched.pure (change value)

/-- Two actions that begin by looking at their machines. -/
theorem Matched.get {next : Machine source → Action source α}
    {nextTwin : Machine other → Action other α}
    (hnext : ∀ machine twin, relation machine twin →
      Matched relation (next machine) (nextTwin twin)) :
    Matched relation (MonadState.get >>= next) (MonadState.get >>= nextTwin) :=
  fun machine twin hrelated => hnext machine twin hrelated machine twin hrelated

end Matched

end Machine

/-- The parameters without those of the trace. -/
def Config.untraced (config : Config) : Config :=
  { config with trace := false, maxTrace := 0 }

namespace Machine

variable {source other : Type} [ByteSource source] [ByteSource other]

/-- No single operation tells related machines apart: they agree in what it reads, and stay related
by what it writes. -/
structure Lockstep (relation : Machine source → Machine other → Prop) : Prop where
  config_eq {first second} : relation first second →
    first.config.untraced = second.config.untraced
  state_eq {first second} : relation first second → first.state = second.state
  display_eq {first second} : relation first second → first.display = second.display
  keypad_eq {first second} : relation first second → first.keypad = second.keypad
  byte_eq {first second} : relation first second →
    (ByteSource.next first.random).1 = (ByteSource.next second.random).1
  setState {first second} : relation first second → ∀ state,
    relation { first with state } { second with state }
  setDisplay {first second} : relation first second → ∀ display,
    relation { first with display } { second with display }
  setKeypad {first second} : relation first second → ∀ keypad,
    relation { first with keypad } { second with keypad }
  dropByte {first second} : relation first second →
    relation { first with random := (ByteSource.next first.random).2 }
      { second with random := (ByteSource.next second.random).2 }
  clearTrace {first second} : relation first second →
    relation { first with trace := #[] } { second with trace := #[] }
  record {first second} : relation first second → ∀ pc instruction before error,
    relation (first.record pc instruction before error) (second.record pc instruction before error)
  requestRedraw {first second} : relation first second →
    relation first.requestRedraw second.requestRedraw
  note {first second} : relation first second → ∀ level topic text,
    relation (first.note level topic text) (second.note level topic text)
  addListener {first second} : relation first second → ∀ listener,
    relation (first.addListener listener) (second.addListener listener)

namespace Lockstep

variable {relation : Machine source → Machine other → Prop} (hlockstep : Lockstep relation)

include hlockstep

theorem maxStackDepth_eq {machine : Machine source} {twin : Machine other}
    (hrelated : relation machine twin) :
    machine.config.maxStackDepth = twin.config.maxStackDepth := by
  have hdepth := congrArg Config.maxStackDepth (hlockstep.config_eq hrelated)
  exact hdepth

theorem resetOnLoad_eq {machine : Machine source} {twin : Machine other}
    (hrelated : relation machine twin) : machine.config.resetOnLoad = twin.config.resetOnLoad := by
  have hreset := congrArg Config.resetOnLoad (hlockstep.config_eq hrelated)
  exact hreset

theorem maxCycles_eq {machine : Machine source} {twin : Machine other}
    (hrelated : relation machine twin) : machine.config.maxCycles = twin.config.maxCycles := by
  have hcycles := congrArg Config.maxCycles (hlockstep.config_eq hrelated)
  exact hcycles

theorem update (change : State.Action Unit) :
    Matched relation (update change) (update change) := by
  intro machine twin hrelated
  rw [Machine.update, Machine.update, hlockstep.state_eq hrelated]
  cases change twin.state with
  | ok _ state => exact .ok () (hlockstep.setState hrelated state)
  | error failure state => exact .error failure (hlockstep.setState hrelated state)

theorem updateKeypad (change : Keypad.Change) :
    Matched relation (updateKeypad change) (updateKeypad change) := by
  intro machine twin hrelated
  rw [Machine.updateKeypad, Machine.updateKeypad, hlockstep.keypad_eq hrelated]
  cases change twin.keypad with
  | ok _ keypad => exact .ok () (hlockstep.setKeypad hrelated keypad)
  | error failure keypad => exact .error failure (hlockstep.setKeypad hrelated keypad)

theorem ask {α : Type} (question : State → Except Failure α) :
    Matched relation (ask question) (ask question) := by
  intro machine twin hrelated
  rw [Machine.ask, Machine.ask, hlockstep.state_eq hrelated]
  cases question twin.state with
  | ok answer => exact .ok answer hrelated
  | error failure => exact .error failure hrelated

/-! ### Instructions -/

theorem clearDisplay : Matched relation clearDisplay clearDisplay := by
  refine Matched.modify fun machine twin hrelated => hlockstep.requestRedraw ?_
  rw [hlockstep.display_eq hrelated]
  exact hlockstep.setDisplay hrelated _

theorem call (target : Int) : Matched relation (call target) (call target) := by
  intro machine twin hrelated
  rw [Machine.call, Machine.call, hlockstep.maxStackDepth_eq hrelated]
  exact hlockstep.update _ machine twin hrelated

theorem draw (x y : Int) (sprite : List UInt8) :
    Matched relation (draw x y sprite) (draw x y sprite) := by
  intro machine twin hrelated
  rw [Machine.draw, Machine.draw, hlockstep.display_eq hrelated]
  have hdrawn := hlockstep.setDisplay hrelated (twin.display.draw x y sprite).display
  cases (twin.display.draw x y sprite).collision with
  | ok collision => exact .ok collision hdrawn
  | error failure => exact .error failure hdrawn

theorem drawSprite (x y rows : Int) :
    Matched relation (drawSprite x y rows) (drawSprite x y rows) :=
  (hlockstep.ask _).bind fun column => (hlockstep.ask _).bind fun row =>
    (hlockstep.ask _).bind fun sprite => (hlockstep.draw column row sprite).bind fun _ =>
      (hlockstep.update _).bind fun _ => Matched.modify fun _ _ => hlockstep.requestRedraw

theorem skipIfPressed (x : Int) (pressed : Bool) :
    Matched relation (skipIfPressed x pressed) (skipIfPressed x pressed) := by
  intro machine twin hrelated
  rw [Machine.skipIfPressed, Machine.skipIfPressed, hlockstep.keypad_eq hrelated]
  exact hlockstep.update _ machine twin hrelated

theorem randomByte : Matched relation randomByte randomByte := by
  intro machine twin hrelated
  change SameOutcome relation (.ok (ByteSource.next machine.random).1 _)
    (.ok (ByteSource.next twin.random).1 _)
  rw [hlockstep.byte_eq hrelated]
  exact .ok _ (hlockstep.dropByte hrelated)

theorem storeRandom (x mask : Int) :
    Matched relation (storeRandom x mask) (storeRandom x mask) :=
  hlockstep.randomByte.bind fun _ => hlockstep.update _

theorem awaitKey (x : Int) : Matched relation (awaitKey x) (awaitKey x) := by
  refine Matched.modify fun machine twin hrelated => hlockstep.note ?_ _ _ _
  rw [hlockstep.keypad_eq hrelated, hlockstep.state_eq hrelated]
  have hcleared := hlockstep.setKeypad hrelated twin.keypad.clearPending
  exact hlockstep.setState hcleared (twin.state.awaitKey x)

theorem perform (instruction : Instruction) :
    Matched relation (perform instruction) (perform instruction) := by
  obtain ⟨operation, word, x, y, n, nn, nnn, valid, error⟩ := instruction
  cases operation with
  | clear => exact hlockstep.clearDisplay
  | call => exact hlockstep.call nnn
  | random => exact hlockstep.storeRandom x nn
  | draw => exact hlockstep.drawSprite x y n
  | skipIfPressed => exact hlockstep.skipIfPressed x true
  | skipUnlessPressed => exact hlockstep.skipIfPressed x false
  | awaitKey => exact hlockstep.awaitKey x
  | _ =>
      rw [Machine.perform]
      exact hlockstep.update _

/-! ### Steps -/

section Step

variable {machine : Machine source} {twin : Machine other}

theorem advancePc (hrelated : relation machine twin) :
    relation machine.advancePc twin.advancePc := by
  rw [Machine.advancePc, Machine.advancePc, hlockstep.state_eq hrelated]
  exact hlockstep.setState hrelated _

theorem halt (hrelated : relation machine twin) : relation machine.halt twin.halt := by
  rw [Machine.halt, Machine.halt, hlockstep.state_eq hrelated]
  exact hlockstep.setState hrelated _

theorem failCycle (hrelated : relation machine twin) (pc : Int) (instruction : Option Instruction)
    (before : Snapshot) (failure : Failure) :
    relation (machine.failCycle pc instruction before failure)
      (twin.failCycle pc instruction before failure) := by
  cases failure with
  | fault fault => exact hlockstep.record (hlockstep.note (hlockstep.halt hrelated) _ _ _) _ _ _ _
  | _ => exact hrelated

theorem finishCycle (hrelated : relation machine twin) (pc : Int) (instruction : Instruction)
    (before : Snapshot) :
    relation (machine.finishCycle pc instruction before)
      (twin.finishCycle pc instruction before) :=
  hlockstep.record (hlockstep.note hrelated _ _ _) _ _ _ _

end Step

theorem execute (instruction : Instruction) :
    Matched relation (execute instruction) (execute instruction) := by
  refine (hlockstep.perform instruction).bind fun _ => Matched.modify ?_
  intro machine twin hrelated
  rw [countCycle, countCycle, hlockstep.state_eq hrelated]
  exact hlockstep.setState hrelated _

theorem cycle : Matched relation cycle cycle := by
  intro machine twin hrelated
  have hfetched := hlockstep.ask State.fetch machine twin hrelated
  rw [Machine.cycle, Machine.cycle, hlockstep.state_eq hrelated]
  dsimp only
  generalize Machine.ask State.fetch machine = result at hfetched ⊢
  generalize Machine.ask State.fetch twin = resultTwin at hfetched ⊢
  cases hfetched with
  | error failure hleft => exact .error failure (hlockstep.failCycle hleft _ _ _ _)
  | @ok word fetched fetchedTwin hleft =>
      have hexecuted := hlockstep.execute (.decode word) _ _ (hlockstep.advancePc hleft)
      dsimp only
      generalize Machine.execute (.decode word) fetched.advancePc = result at hexecuted ⊢
      generalize Machine.execute (.decode word) fetchedTwin.advancePc = resultTwin at hexecuted ⊢
      cases hexecuted with
      | error failure hafter => exact .error failure (hlockstep.failCycle hafter _ _ _ _)
      | ok _ hafter => exact .ok _ (hlockstep.finishCycle hafter _ _ _)

theorem storeKey (key : Key) : Matched relation (storeKey key) (storeKey key) := by
  refine (hlockstep.update _).bind fun _ => Matched.modify fun machine twin hrelated => ?_
  rw [hlockstep.state_eq hrelated]
  exact hlockstep.note hrelated _ _ _

theorem pollKey : Matched relation pollKey pollKey := by
  intro machine twin hrelated
  rw [Machine.pollKey, Machine.pollKey, hlockstep.keypad_eq hrelated]
  cases hpending : twin.keypad.pending with
  | none =>
      simp only [Keypad.takePending, hpending]
      exact .ok () hrelated
  | some key =>
      simp only [Keypad.takePending, hpending]
      exact hlockstep.storeKey key _ _ (hlockstep.setKeypad hrelated twin.keypad.clearPending)

theorem step : Matched relation step step := by
  intro machine twin hrelated
  rw [Machine.step, Machine.step, hlockstep.state_eq hrelated]
  split
  · exact .error _ hrelated
  · split
    · exact hlockstep.pollKey.bind (fun _ => Matched.pure none) machine twin hrelated
    · exact hlockstep.cycle.map some machine twin hrelated

/-! ### Calls of the host -/

theorem runSteps (count : Nat) : Matched relation (runSteps count) (runSteps count) := by
  induction count with
  | zero => exact Matched.pure ()
  | succ count ih =>
      refine Matched.get fun machine twin hrelated => ?_
      rw [hlockstep.state_eq hrelated]
      split
      · exact Matched.pure ()
      · exact (hlockstep.step.map _).bind fun _ => ih

theorem run (limit : Option Int) : Matched relation (run limit) (run limit) := by
  intro machine twin hrelated
  rw [Machine.run, Machine.run, hlockstep.maxCycles_eq hrelated]
  split
  · exact .error _ hrelated
  · exact hlockstep.runSteps _ machine twin hrelated

theorem reset {machine : Machine source} {twin : Machine other} (hrelated : relation machine twin) :
    relation machine.reset twin.reset := by
  rw [Machine.reset, Machine.reset, hlockstep.state_eq hrelated, hlockstep.display_eq hrelated]
  have hcleared := hlockstep.setDisplay (hlockstep.setState hrelated twin.state.reset)
    twin.display.clear
  exact hlockstep.note (hlockstep.clearTrace (hlockstep.setKeypad hcleared .released)) _ _ _

theorem loadProgram (image : List UInt8) :
    Matched relation (loadProgram image) (loadProgram image) := by
  refine (Matched.modify ?_).bind fun _ => (hlockstep.update _).bind fun _ => Matched.modify ?_
  · intro machine twin hrelated
    rw [hlockstep.resetOnLoad_eq hrelated]
    split
    · exact hlockstep.reset hrelated
    · exact hrelated
  · intro machine twin hrelated
    exact hlockstep.note (hlockstep.clearTrace hrelated) _ _ _

theorem loadSource (text : String) : Matched relation (loadSource text) (loadSource text) := by
  intro machine twin hrelated
  rw [Machine.loadSource, Machine.loadSource]
  split
  · exact hlockstep.loadProgram _ machine twin hrelated
  · exact .error _ hrelated

theorem deliverKey (key : Int) : Matched relation (deliverKey key) (deliverKey key) :=
  (hlockstep.updateKeypad _).bind fun _ =>
    Matched.modify fun _ _ hrelated => hlockstep.note hrelated _ _ _

theorem pressKey (key : Int) : Matched relation (pressKey key) (pressKey key) := by
  refine (hlockstep.updateKeypad _).bind fun _ => Matched.get fun machine twin hrelated => ?_
  rw [hlockstep.state_eq hrelated]
  split
  · exact hlockstep.deliverKey key
  · exact Matched.pure ()

theorem setHeldKeys (mask : Int) : Matched relation (setHeldKeys mask) (setHeldKeys mask) := by
  refine Matched.modify fun machine twin hrelated => ?_
  rw [hlockstep.keypad_eq hrelated]
  exact hlockstep.setKeypad hrelated _

section Timers

variable {machine : Machine source} {twin : Machine other}

theorem tickDelay (hrelated : relation machine twin) :
    relation machine.tickDelay twin.tickDelay := by
  rw [Machine.tickDelay, Machine.tickDelay, hlockstep.state_eq hrelated]
  exact hlockstep.setState hrelated _

theorem tickSound (hrelated : relation machine twin) :
    relation machine.tickSound twin.tickSound := by
  have hticked := hlockstep.setState hrelated twin.state.tickSound
  rw [Machine.tickSound, Machine.tickSound, hlockstep.state_eq hrelated]
  dsimp only
  split
  · exact hlockstep.note hticked _ _ _
  · exact hticked

end Timers

theorem action (call : HostCall) : Matched relation call.action call.action := by
  cases call with
  | load image => exact hlockstep.loadProgram image
  | loadSource text => exact hlockstep.loadSource text
  | reset => exact Matched.modify fun _ _ => hlockstep.reset
  | step => exact hlockstep.step.map _
  | run limit => exact hlockstep.run limit
  | setHeldKeys mask => exact hlockstep.setHeldKeys mask
  | pressKey key => exact hlockstep.pressKey key
  | releaseKey key => exact hlockstep.updateKeypad (Keypad.release key)
  | deliverKey key => exact hlockstep.deliverKey key
  | tickDelay => exact Matched.modify fun _ _ => hlockstep.tickDelay
  | tickSound => exact Matched.modify fun _ _ => hlockstep.tickSound
  | tickTimers =>
      exact Matched.modify fun _ _ hrelated => hlockstep.tickSound (hlockstep.tickDelay hrelated)
  | addListener listener =>
      exact Matched.modify fun _ _ hrelated => hlockstep.addListener hrelated listener

end Lockstep

/-- What each of a sequence of calls fails with, if it fails. -/
def failures (machine : Machine source) : List HostCall → List (Option Failure)
  | [] => []
  | call :: calls => failure? (call.action machine) :: (machine.after call).failures calls

/-- Related machines stay related under the same calls, and the same of the calls fail in the same
way. -/
theorem Lockstep.afterCalls {relation : Machine source → Machine other → Prop}
    (hlockstep : Lockstep relation) {machine : Machine source} {twin : Machine other}
    (hrelated : relation machine twin) (calls : List HostCall) :
    relation (machine.afterCalls calls) (twin.afterCalls calls) ∧
      machine.failures calls = twin.failures calls := by
  induction calls generalizing machine twin with
  | nil => exact ⟨hrelated, rfl⟩
  | cons call calls ih =>
      have hsame := hlockstep.action call machine twin hrelated
      obtain ⟨hlater, hfailures⟩ := ih hsame.left
      refine ⟨hlater, ?_⟩
      rw [failures, failures, hsame.failure?_eq]
      exact congrArg _ hfailures

end Machine

end Chip8
