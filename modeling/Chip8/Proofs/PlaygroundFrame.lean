import Chip8.Playground.Run
import Chip8.Proofs.KeyRead
import Chip8.Proofs.RateFidelity

/-!
# A frame of the playground

The playground offers a key at the start of each frame and then lets one frame period pass. That
many nanoseconds hold eleven or twelve instruction periods, so each frame makes at least one step,
and the key offered has been taken before the next. A frame whose steps return shows one frame; in
any other a step faults.
-/

namespace Chip8

/-- The hexadecimal digit that the playground lists for a key. -/
def Key.label (key : Key) : String :=
  HexFormat.digit.render key

theorem Key.hexInteger?_label (key : Key) : Text.hexInteger? key.label = some (key : Int) := by
  revert key
  decide +kernel

example : (List.finRange keyCount).map Key.label =
    ["0", "1", "2", "3", "4", "5", "6", "7", "8", "9", "A", "B", "C", "D", "E", "F"] := by
  decide

namespace Machine

variable {source : Type} [ByteSource source] {config : Config} {machine : Machine source}

theorem Keeps.stepTimes {property : Machine source → Prop}
    (hstep : Keeps property (step : Action source (Option Instruction))) (count : Nat) :
    Keeps property (stepTimes count) := by
  induction count with
  | zero => exact Keeps.pure ()
  | succ count ih => exact Keeps.bind (hstep.map _) fun _ => ih

omit [ByteSource source] in
theorem exists_deliverKey (machine : Machine source) (key : Key) :
    ∃ notes, deliverKey key machine =
      .ok () { machine with keypad := { machine.keypad with pending := some key }, notes } := by
  have hkey : Key.ofInt? key = some key := dif_pos ⟨by omega, by have hlt := key.isLt; omega⟩
  change ∃ notes, EStateM.bind (updateKeypad (Keypad.deliver key)) _ machine = _
  rw [EStateM.bind, Keypad.deliver, updateKeypad_withKey, hkey]
  exact ⟨_, congrArg (EStateM.Result.ok ()) (note_eq _ _ _ _)⟩

/-- A step takes the key that has been handed over to a waiting program. -/
theorem Sound.noKey_step (hsound : Sound config machine)
    (hpending : machine.keypad.pending = none ∨ machine.state.awaitingKey = true) :
    NoKey config (left (Machine.step machine)) := by
  cases hkey : machine.keypad.pending with
  | none => exact keeps_noKey_step machine ⟨hsound, hkey⟩
  | some key =>
      have hwaiting : machine.state.awaitingKey = true := hpending.resolve_left (by simp [hkey])
      have hrunning := (hsound.state.waiting hwaiting).1
      obtain ⟨text, hstep⟩ := step_of_key hsound.state.valid hrunning hwaiting hkey
      refine ⟨hsound.step, ?_⟩
      rw [hstep, left, note_eq]
      rfl

/-! ### Failures of a step -/

/-- A step of a sound machine fails with a fault and with nothing else, and halts the machine. -/
theorem Sound.exists_fault_of_step (hsound : Sound config machine) {failure : Failure}
    {failed : Machine source} (hstep : Machine.step machine = .error failure failed) :
    ∃ fault, failure = .fault fault ∧ failed.state.halted = true := by
  have hresult := stepResult_step hsound.state.valid hsound.display
  rw [hstep] at hresult
  cases hresult with
  | halted hhalted => exact ⟨_, rfl, hhalted⟩
  | outside hrunning hnotWaiting hpc =>
      refine ⟨_, rfl, ?_⟩
      rw [failCycle_eq]
      rfl
  | refused hrunning hnotWaiting hpc refusal htransition =>
      refine ⟨_, rfl, ?_⟩
      rw [failCycle_eq]
      rfl

theorem Sound.exists_fault_of_stepTimes (hsound : Sound config machine) {count : Nat}
    {failure : Failure} {failed : Machine source}
    (hsteps : stepTimes count machine = .error failure failed) :
    ∃ fault, failure = .fault fault ∧ failed.state.halted = true := by
  induction count generalizing machine with
  | zero => cases hsteps
  | succ count ih =>
      have hafter := hsound.step
      rw [stepTimes_succ] at hsteps
      cases hstep : Machine.step machine with
      | error other left =>
          rw [hstep] at hsteps
          cases hsteps
          exact hsound.exists_fault_of_step hstep
      | ok _ after =>
          rw [hstep] at hsteps hafter
          exact ih hafter hsteps

end Machine

namespace Clock

variable {source : Type}

theorem keypad_showFrame (clock : Clock source) :
    clock.showFrame.machine.keypad = clock.machine.keypad := by
  rw [showFrame, Machine.tickTimers, Machine.tickSound_eq]
  rfl

/-- The clock of a frame when its steps are over and its one frame is about to be shown. -/
def beforeFrame (clock : Clock source) (stepped : Machine source) : Clock source :=
  { clock with
    machine := stepped
    cpuBacklog := (clock.cpuBacklog + 16666666) % clock.cpuPeriod
    frameBacklog := clock.frameBacklog + 16666666 }

end Clock

namespace Playground

open Machine (stepTimes NoKey)

/-! ### Labels -/

theorem keyOfLabel_label (key : Key) : keyOfLabel key.label = .ok (key : Int) := by
  rw [keyOfLabel, key.hexInteger?_label]

theorem maskOfLabels_cons {label : String} {number : Nat} (hlabel : keyOfLabel label = .ok number)
    (mask : Nat) (labels : List String) :
    maskOfLabels mask (label :: labels) =
      maskOfLabels (if (number : Int) < keyCount then mask ||| 2 ^ number else mask) labels := by
  have hforward : ¬(number : Int) < 0 := by omega
  change (keyOfLabel label >>= _ : Except Failure Nat) = _
  rw [hlabel]
  change (if (number : Int) < 0 then throw Failure.negativeShift else maskOfLabels _ labels :
    Except Failure Nat) = _
  rw [if_neg hforward]
  rfl

theorem exists_maskOfLabels (keys : List Key) (mask : Nat) :
    ∃ held, maskOfLabels mask (keys.map Key.label) = .ok held := by
  induction keys generalizing mask with
  | nil => exact ⟨mask, rfl⟩
  | cons key keys ih =>
      rw [List.map_cons, maskOfLabels_cons (keyOfLabel_label key)]
      exact ih _

/-- A request that is taken: its program is there, is read and fits, and the keys are named by their
labels. -/
structure Accepted (request : Request) (image : List UInt8) (keys : List Key) : Prop where
  given : (request.rom.isNone && isBlankText request.program) = false
  image_eq : imageOf request = .ok image
  fits : image.length ≤ programCapacity
  heldKeys_eq : request.heldKeys = keys.map Key.label

/-- A screen that a run starts from: no time has passed, and no key has been handed over. -/
structure Opens (start : Screen) : Prop where
  stepCap_eq : start.clock.stepCap = none
  cpuPeriod_eq : start.clock.cpuPeriod = 1428571
  framePeriod_eq : start.clock.framePeriod = 16666666
  frameCount_eq : start.clock.frameCount = 0
  listeners_eq : start.clock.listeners = ["phosphor"]
  cpuBacklog_eq : start.clock.cpuBacklog = 0
  frameBacklog_eq : start.clock.frameBacklog = 0
  deliveries_eq : start.clock.machine.deliveries = #[]
  noKey : NoKey {} start.clock.machine

theorem Opens.cpuPeriod_pos {start : Screen} (hopens : Opens start) :
    0 < start.clock.cpuPeriod := by
  rw [hopens.cpuPeriod_eq]
  decide

theorem Opens.framePeriod_pos {start : Screen} (hopens : Opens start) :
    0 < start.clock.framePeriod := by
  rw [hopens.framePeriod_eq]
  decide

theorem exists_loadProgram {image : List UInt8} (hfits : image.length ≤ programCapacity)
    (random : Twister) :
    ∃ loaded, Machine.loadProgram image (Machine.create {} random) = .ok () loaded ∧
      loaded.deliveries = #[] ∧ NoKey {} loaded := by
  have hcall : (HostCall.load image).key? = none := rfl
  have hcreated : NoKey {} (Machine.create {} random) := ⟨Machine.Sound.create (by decide) _, rfl⟩
  have hnoKey := Machine.keeps_noKey_action hcall (Machine.create {} random) hcreated
  rw [HostCall.action, Machine.loadProgram_eq, if_neg (by omega)] at hnoKey
  rw [Machine.loadProgram_eq, if_neg (by omega)]
  refine ⟨_, rfl, ?_, hnoKey⟩
  rw [Machine.note_eq]
  rfl

/-- The clock that a run starts for a machine. -/
def openingClock (machine : Machine Twister) : Clock Twister where
  machine := machine
  cpuPeriod := 1428571
  framePeriod := 16666666
  stepCap := none
  frameCount := 0
  listeners := ["phosphor"]
  last := 0
  cpuBacklog := 0
  frameBacklog := 0

theorem start_openingClock {machine : Machine Twister} (hconfig : machine.config = {}) :
    Clock.start machine none none none ["phosphor"] 0 = .ok (openingClock machine) := by
  simp only [Clock.start, Clock.rate, hconfig]
  rfl

theorem Accepted.exists_prepare {request : Request} {image : List UInt8} {keys : List Key}
    (haccepted : Accepted request image keys) :
    ∃ start, prepare request image = .ok start ∧ Opens start := by
  obtain ⟨loaded, hload, hdeliveries, hloaded⟩ :=
    exists_loadProgram haccepted.fits (Twister.ofSeed (request.seed.getD 0))
  obtain ⟨mask, hmask⟩ := exists_maskOfLabels keys 0
  have hcall : (HostCall.setHeldKeys mask).key? = none := rfl
  let held := { loaded with keypad := loaded.keypad.setMask mask }
  have hheld : NoKey {} held := Machine.keeps_noKey_action hcall loaded hloaded
  have hstart := start_openingClock hheld.1.config_eq
  refine ⟨{ clock := openingClock held, phosphor := Phosphor.standard }, ?_, rfl, rfl, rfl, rfl,
    rfl, rfl, rfl, hdeliveries, hheld⟩
  rw [prepare, haccepted.heldKeys_eq]
  dsimp only
  rw [hload]
  dsimp only
  rw [hmask]
  change (Clock.start held none none none ["phosphor"] 0 >>= _ : Except Failure Screen) = _
  rw [hstart]
  rfl

/-! ### One frame -/

/-- What a frame begins with: the first key listed has been handed over if the program waits for
one, and nothing else has been done. -/
structure Offers (keys : List Key) (screen : Screen) (offered : Clock Twister) : Prop where
  offer_eq : offerKey (keys.map Key.label) screen.clock = .ok () offered
  clock_eq : offered = { screen.clock with machine := offered.machine }
  machine_eq : offered.machine =
    { screen.clock.machine with
      keypad :=
        { screen.clock.machine.keypad with
          pending := if screen.clock.machine.state.awaitingKey then keys.head? else none }
      notes := offered.machine.notes }

theorem offerKey_of_running {screen : Screen} (labels : List String)
    (hnotWaiting : screen.clock.machine.state.awaitingKey = false) :
    offerKey labels screen.clock = .ok () screen.clock := by
  change (if screen.clock.machine.state.awaitingKey = true then _ else pure () :
    Clock.Action Twister Unit) screen.clock = _
  rw [hnotWaiting]
  rfl

theorem offerKey_nil (clock : Clock Twister) : offerKey [] clock = .ok () clock := by
  change (if clock.machine.state.awaitingKey = true then pure () else pure () :
    Clock.Action Twister Unit) clock = _
  rw [ite_self]
  rfl

theorem offerKey_cons {clock : Clock Twister} (hwaiting : clock.machine.state.awaitingKey = true)
    {label : String} {key : Int} (hlabel : keyOfLabel label = .ok key) (labels : List String) :
    offerKey (label :: labels) clock = Clock.onMachine (Machine.deliverKey key) clock := by
  change (if clock.machine.state.awaitingKey = true then _ else pure () :
    Clock.Action Twister Unit) clock = _
  rw [hwaiting, if_pos rfl, hlabel]

theorem exists_offers (keys : List Key) {screen : Screen}
    (hnone : screen.clock.machine.keypad.pending = none) :
    ∃ offered, Offers keys screen offered := by
  have hkept : { screen.clock.machine.keypad with pending := none } =
      screen.clock.machine.keypad := by
    rw [← hnone]
  cases hwaiting : screen.clock.machine.state.awaitingKey with
  | false =>
      refine ⟨screen.clock, offerKey_of_running _ hwaiting, rfl, ?_⟩
      rw [hwaiting, if_neg Bool.false_ne_true, hkept]
  | true =>
      cases keys with
      | nil =>
          refine ⟨screen.clock, offerKey_nil _, rfl, ?_⟩
          rw [hwaiting, if_pos rfl, List.head?_nil, hkept]
      | cons key keys =>
          obtain ⟨notes, hdeliver⟩ := Machine.exists_deliverKey screen.clock.machine key
          have hoffer := offerKey_cons hwaiting (keyOfLabel_label key) (keys.map Key.label)
          rw [Clock.onMachine, hdeliver] at hoffer
          refine ⟨_, hoffer, rfl, ?_⟩
          rw [hwaiting, if_pos rfl, List.head?_cons]

/-- The instruction periods that so many frame periods hold. -/
def stepsBefore (number : Nat) : Int :=
  16666666 * number / 1428571

/-- The steps that a frame makes, the first having number zero. -/
def stepsOf (number : Nat) : Nat :=
  (stepsBefore (number + 1) - stepsBefore number).toNat

theorem stepsOf_eq (number : Nat) : stepsOf number = 11 ∨ stepsOf number = 12 := by
  unfold stepsOf stepsBefore
  omega

theorem natCast_stepsOf (number : Nat) :
    (stepsOf number : Int) = stepsBefore (number + 1) - stepsBefore number := by
  unfold stepsOf stepsBefore
  omega

/-- A run has come to a frame: the clock stands where the frame periods before have brought it, no
key is left to be taken, and the events of the frames before have been taken. -/
structure Serving (start : Screen) (number : Nat) (screen : Screen) : Prop where
  elapsed : Clock.Elapsed start.clock (16666666 * number) screen.clock
  listeners_eq : screen.clock.listeners = ["phosphor"]
  deliveries_eq : screen.clock.machine.deliveries = #[]
  noKey : NoKey {} screen.clock.machine

theorem Serving.frameCount_eq {start screen : Screen} {number : Nat}
    (hserving : Serving start number screen) (hopens : Opens start) :
    screen.clock.frameCount = number := by
  rw [hserving.elapsed.frameCount_eq, hopens.frameCount_eq, hopens.framePeriod_eq]
  omega

/-- What is left of a screen when a frame has been run: its events have been taken. -/
def Screen.take (screen : Screen) (clock : Clock Twister) : Screen :=
  { clock := { clock with machine := { clock.machine with deliveries := #[] } }
    phosphor := showFrames screen.phosphor clock.machine.deliveries.toList }

/-- One frame with the report of its clock, before its events are taken. -/
def playFrame (labels : List String) : Clock.Action Twister Tick := do
  offerKey labels
  Clock.advance (← get).framePeriod

theorem runFrame_eq (labels : List String) (screen : Screen) :
    runFrame labels screen =
      match playFrame labels screen.clock with
      | .ok _ clock => (.ok (), screen.take clock)
      | .error failure clock => (.error failure, screen.take clock) := by
  have hframe : (do
        offerKey labels
        discard (Clock.advance (← get).framePeriod) : Clock.Action Twister Unit) screen.clock =
      EStateM.map (fun _ => ()) (playFrame labels) screen.clock := by
    change EStateM.bind (offerKey labels) _ screen.clock =
      EStateM.map (fun _ => ()) (EStateM.bind (offerKey labels) _) screen.clock
    rw [EStateM.map, EStateM.bind, EStateM.bind]
    cases offerKey labels screen.clock <;> rfl
  rw [runFrame]
  dsimp only
  rw [hframe, EStateM.map]
  cases playFrame labels screen.clock <;> rfl

section Frame

variable {keys : List Key} {start screen : Screen} {offered : Clock Twister} {number : Nat}
  (hoffers : Offers keys screen offered)

include hoffers

theorem Offers.playFrame_eq :
    playFrame (keys.map Key.label) screen.clock = Clock.advance offered.framePeriod offered := by
  change EStateM.bind (offerKey (keys.map Key.label)) _ screen.clock = _
  rw [EStateM.bind, hoffers.offer_eq]
  rfl

theorem Offers.sound (hserving : Serving start number screen) :
    Machine.Sound {} offered.machine := by
  have hsound := hserving.noKey.1
  rw [hoffers.machine_eq]
  exact hsound.congr rfl hsound.state rfl

theorem Offers.pending :
    offered.machine.keypad.pending = none ∨ offered.machine.state.awaitingKey = true := by
  rw [hoffers.machine_eq]
  cases screen.clock.machine.state.awaitingKey with
  | false => exact Or.inl rfl
  | true => exact Or.inr rfl

/-- The machine after any step of a frame, since the first has taken the key. -/
theorem Offers.noKey_stepTimes (hserving : Serving start number screen) {count : Nat}
    {stepped : Machine Twister} (hsteps : stepTimes (count + 1) offered.machine = .ok () stepped) :
    NoKey {} stepped := by
  -- Only the first step can find a key; those after it start without one and stay so.
  have hfirst := (hoffers.sound hserving).noKey_step hoffers.pending
  rw [Machine.stepTimes_succ] at hsteps
  cases hstep : Machine.step offered.machine with
  | error failure failed =>
      rw [hstep] at hsteps
      cases hsteps
  | ok _ after =>
      rw [hstep] at hsteps hfirst
      have hkept := Machine.keeps_noKey_step.stepTimes count after hfirst
      dsimp only at hsteps
      rw [hsteps] at hkept
      exact hkept

theorem Offers.elapsed (hserving : Serving start number screen) :
    Clock.Elapsed start.clock (16666666 * number) offered := by
  rw [hoffers.clock_eq]
  exact { hserving.elapsed with }

variable (hopens : Opens start)

include hopens

theorem Offers.frameQuota_eq (hserving : Serving start number screen) :
    offered.frameQuota 16666666 = 1 := by
  have hforward : (0 : Int) ≤ 16666666 := by decide
  have hquota := (hoffers.elapsed hserving).frameQuota_eq hopens.framePeriod_pos hforward
  rw [hopens.framePeriod_eq] at hquota
  omega

theorem Offers.playFrame_of_steps (hserving : Serving start number screen) :
    playFrame (keys.map Key.label) screen.clock =
      match stepTimes (stepsOf number) offered.machine with
      | .ok _ stepped =>
        .ok { steps := stepsOf number, frames := 1 } (offered.finish 16666666 stepped)
      | .error failure failed => .error failure (offered.abandon 16666666 failed) := by
  have helapsed := hoffers.elapsed hserving
  have hforward : (0 : Int) ≤ 16666666 := by decide
  have hquota := helapsed.quota_eq hopens.cpuPeriod_pos hopens.stepCap_eq hforward
  rw [hopens.cpuPeriod_eq] at hquota
  have hsteps : offered.quota 16666666 = stepsOf number := by
    unfold stepsOf stepsBefore
    omega
  have hadvance := helapsed.advance_eq hopens.cpuPeriod_pos hopens.framePeriod_pos hforward
  rw [hsteps, hoffers.frameQuota_eq hopens hserving, Nat.cast_one] at hadvance
  rw [hoffers.playFrame_eq, helapsed.framePeriod_eq, hopens.framePeriod_eq, hadvance]
  cases stepTimes (stepsOf number) offered.machine <;> rfl

theorem Offers.finish_eq (hserving : Serving start number screen) (stepped : Machine Twister) :
    offered.finish 16666666 stepped = (offered.beforeFrame stepped).showFrame := by
  have huncapped := (hoffers.elapsed hserving).stepCap_eq.trans hopens.stepCap_eq
  rw [Clock.finish_of_uncapped huncapped, hoffers.frameQuota_eq hopens hserving,
    Function.iterate_one]
  rfl

theorem Offers.frameCount_eq (hserving : Serving start number screen) :
    offered.frameCount = number := by
  rw [hoffers.clock_eq]
  exact hserving.frameCount_eq hopens

omit hopens in
theorem Offers.hasShown_stepTimes (hserving : Serving start number screen) {count : Nat}
    {stepped : Machine Twister} (hsteps : stepTimes count offered.machine = .ok () stepped) :
    Machine.HasShown {} [] stepped := by
  have hnone : offered.machine.heeded Event.isFrame = [] := by
    rw [Machine.heeded, hoffers.machine_eq, hserving.deliveries_eq]
    rfl
  have hkept := Machine.keeps_hasShown_step.stepTimes count offered.machine
    ⟨hoffers.sound hserving, hnone⟩
  rw [hsteps] at hkept
  exact hkept

/-- A frame whose steps return tells the phosphor of one frame, and leads to the next. -/
theorem Offers.exists_frame (hserving : Serving start number screen) {stepped : Machine Twister}
    (hsteps : stepTimes (stepsOf number) offered.machine = .ok () stepped) :
    ∃ after, playFrame (keys.map Key.label) screen.clock =
        .ok { steps := stepsOf number, frames := 1 } after ∧
      after.machine.state = stepped.state.afterTicks 1 ∧
      after.machine.frameNumbers "phosphor" = [(number : Int) + 1] ∧
      Serving start (number + 1) (screen.take after) := by
  have hplay := hoffers.playFrame_of_steps hopens hserving
  simp only [hsteps, hoffers.finish_eq hopens hserving] at hplay
  have hforward : (0 : Int) ≤ 16666666 := by decide
  have helapsed := (hoffers.elapsed hserving).finish hopens.framePeriod_pos hforward stepped
  rw [hoffers.finish_eq hopens hserving] at helapsed
  have hcount : (offered.beforeFrame stepped).frameCount = number :=
    hoffers.frameCount_eq hopens hserving
  have hlisteners : (offered.beforeFrame stepped).listeners = ["phosphor"] := by
    rw [Clock.beforeFrame, hoffers.clock_eq]
    exact hserving.listeners_eq
  have hbefore : Machine.HasShown {} [] (offered.beforeFrame stepped).machine :=
    hoffers.hasShown_stepTimes hserving hsteps
  have hshown := Clock.hasShown_showFrame hbefore
  -- A frame makes at least one step, and that has taken the key.
  obtain ⟨more, hmore⟩ : ∃ more, stepsOf number = more + 1 := by
    have hmany := stepsOf_eq number
    exact ⟨stepsOf number - 1, by omega⟩
  rw [hmore] at hsteps
  have hnoKey := hoffers.noKey_stepTimes hserving hsteps
  refine ⟨_, hplay, (Clock.showFrame_iterate_machine (offered.beforeFrame stepped) 1).1, ?_, ?_,
    hlisteners, rfl, ?_, ?_⟩
  · rw [Machine.frameNumbers_eq_heeded, hshown.2, List.nil_append, hlisteners, hcount]
    exact numbersFor_deliver rfl _ _ _
  · have htotal : 16666666 * ((number + 1 : Nat) : Int) = 16666666 * number + 16666666 := by omega
    rw [htotal]
    exact { helapsed with }
  · exact hshown.1.congr rfl hshown.1.state rfl
  · change (offered.beforeFrame stepped).showFrame.machine.keypad.pending = none
    rw [Clock.keypad_showFrame]
    exact hnoKey.2

/-- A frame that a step fails in shows nothing and leaves the machine halted by a fault. -/
theorem Offers.exists_fault (hserving : Serving start number screen) {failure : Failure}
    {failed : Machine Twister}
    (hsteps : stepTimes (stepsOf number) offered.machine = .error failure failed) :
    ∃ fault after, failure = .fault fault ∧
      playFrame (keys.map Key.label) screen.clock = .error (.fault fault) after ∧
      after.frameCount = number ∧ after.machine.state.halted = true := by
  obtain ⟨fault, rfl, hhalted⟩ := (hoffers.sound hserving).exists_fault_of_stepTimes hsteps
  have hplay := hoffers.playFrame_of_steps hopens hserving
  simp only [hsteps] at hplay
  exact ⟨fault, _, rfl, hplay, hoffers.frameCount_eq hopens hserving, hhalted⟩

/-- What a frame can do: its steps return, and it leads to the next, or one of them faults. -/
theorem Offers.runFrame_cases (hserving : Serving start number screen) :
    (∃ stepped after, stepTimes (stepsOf number) offered.machine = .ok () stepped ∧
      playFrame (keys.map Key.label) screen.clock =
        .ok { steps := stepsOf number, frames := 1 } after ∧
      after.machine.state = stepped.state.afterTicks 1 ∧
      after.machine.frameNumbers "phosphor" = [(number : Int) + 1] ∧
      runFrame (keys.map Key.label) screen = (.ok (), screen.take after) ∧
      Serving start (number + 1) (screen.take after)) ∨
    ∃ fault failed after, stepTimes (stepsOf number) offered.machine =
        .error (.fault fault) failed ∧
      playFrame (keys.map Key.label) screen.clock = .error (.fault fault) after ∧
      runFrame (keys.map Key.label) screen = (.error (.fault fault), screen.take after) ∧
      after.frameCount = number ∧ after.machine.state.halted = true := by
  cases hsteps : stepTimes (stepsOf number) offered.machine with
  | ok _ stepped =>
      obtain ⟨after, hplay, hstate, hshown, hnext⟩ := hoffers.exists_frame hopens hserving hsteps
      refine Or.inl ⟨stepped, after, rfl, hplay, hstate, hshown, ?_, hnext⟩
      rw [runFrame_eq, hplay]
  | error failure failed =>
      obtain ⟨fault, after, rfl, hplay, hcount, hhalted⟩ :=
        hoffers.exists_fault hopens hserving hsteps
      refine Or.inr ⟨fault, failed, after, rfl, hplay, ?_, hcount, hhalted⟩
      rw [runFrame_eq, hplay]

end Frame

end Playground

end Chip8
