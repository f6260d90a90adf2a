import Chip8.Proofs.PlaygroundFrame

/-!
# A run of the playground

A run comes through all of its frames unless a step faults, and shows as many frames as it comes
through. A program that waits for a key is answered by the first step of the next frame if a key is
listed, and by none at all otherwise.
-/

namespace Chip8

namespace Machine

variable {source : Type} [ByteSource source] {config : Config} {machine : Machine source}

/-- The wait that a machine was in is over, and the register that it was for holds the key. -/
structure Answers (key : Key) (before after : Machine source) : Prop where
  notWaiting : after.state.awaitingKey = false
  register_eq : after.state.register before.state.keyRegister = .ok (key : Int)
  pc_eq : after.state.pc = before.state.resumePc

theorem Sound.exists_answers (hsound : Sound config machine)
    (hwaiting : machine.state.awaitingKey = true) {key : Key}
    (hpending : machine.keypad.pending = some key) :
    ∃ answered, Machine.step machine = .ok none answered ∧ Answers key machine answered := by
  have hvalid := hsound.state.valid
  obtain ⟨text, hstep⟩ :=
    step_of_key hvalid (hsound.state.waiting hwaiting).1 hwaiting hpending
  obtain ⟨x, hx⟩ := Int.eq_ofNat_of_zero_le hvalid.keyRegister_range.1
  have hinside : x < 16 := by
    have hrange := hvalid.keyRegister_range
    omega
  have hkey : (UInt8.ofNat key).toNat = key := by
    have hlt : (key : Nat) < 16 := key.isLt
    rw [UInt8.toNat_ofNat', Nat.mod_eq_of_lt (by omega)]
  have hstored := State.register_eq (hvalid.setV x (UInt8.ofNat key)).holdsBytes hinside
  rw [State.v_setV (by rw [hvalid.registers_size]; exact hinside), hkey] at hstored
  refine ⟨_, hstep, ?_⟩
  rw [note_eq, takeKey, hx, Int.toNat_natCast]
  exact ⟨rfl, hx ▸ hstored, rfl⟩

end Machine

namespace Playground

open Machine (stepTimes NoKey Answers WaitsFor)

/-! ### Frames in turn -/

section Frames

variable (labels : List String)

theorem runFrames_succ (count : Nat) (screen : Screen) :
    runFrames labels (count + 1) screen =
      match runFrames labels count screen with
      | (.ok _, last) => runFrame labels last
      | (.error failure, last) => (.error failure, last) := by
  induction count generalizing screen with
  | zero =>
      rw [runFrames, runFrames]
      dsimp only
      obtain ⟨_ | _, last⟩ := runFrame labels screen <;> rfl
  | succ count ih =>
      rw [runFrames, runFrames]
      obtain ⟨_ | _, next⟩ := runFrame labels screen
      · rfl
      · exact ih next

theorem runFrames_of_error {count : Nat} {screen last : Screen} {failure : Failure}
    (hrun : runFrames labels count screen = (.error failure, last)) (more : Nat) :
    runFrames labels (count + more) screen = (.error failure, last) := by
  induction more with
  | zero => exact hrun
  | succ more ih => rw [← Nat.add_assoc, runFrames_succ, ih]

end Frames

/-! ### What a run shows -/

/-- What the host is told about a frame: the report of its clock, and the numbers that the phosphor
is sent. -/
structure FrameRecord where
  tick : Tick
  shown : List Int

/-- The records of the frames that a run comes through. -/
def records (labels : List String) : Nat → Screen → List FrameRecord
  | 0, _ => []
  | count + 1, screen =>
    match playFrame labels screen.clock with
    | .ok tick clock =>
      { tick, shown := clock.machine.frameNumbers "phosphor" } ::
        records labels count (screen.take clock)
    | .error _ _ => []

theorem records_succ (labels : List String) (count : Nat) (screen : Screen) :
    records labels (count + 1) screen =
      records labels count screen ++
        match runFrames labels count screen with
        | (.ok _, last) => records labels 1 last
        | (.error _, _) => [] := by
  induction count generalizing screen with
  | zero => rfl
  | succ count ih =>
      rw [records, records, runFrames, runFrame_eq]
      cases playFrame labels screen.clock with
      | error failure clock => rfl
      | ok tick clock =>
          dsimp only
          rw [ih, List.cons_append]

/-- A run that has failed has no more records. -/
theorem records_of_error {labels : List String} {count : Nat} {screen last : Screen}
    {failure : Failure} (hrun : runFrames labels count screen = (.error failure, last))
    (more : Nat) : records labels (count + more) screen = records labels count screen := by
  induction more with
  | zero => rfl
  | succ more ih =>
      rw [← Nat.add_assoc, records_succ, ih, runFrames_of_error labels hrun more, List.append_nil]

/-- The record of the frame with a number, the first having number zero. -/
def frameRecord (number : Nat) : FrameRecord :=
  { tick := { steps := stepsOf number, frames := 1 }, shown := [(number : Int) + 1] }

theorem sum_stepsOf (count : Nat) :
    ((List.range count).map fun number => (stepsOf number : Int)).sum = stepsBefore count := by
  induction count with
  | zero => rfl
  | succ count ih =>
      rw [List.range_succ, List.map_append, List.sum_append, ih, List.map_singleton,
        List.sum_singleton, natCast_stepsOf]
      omega

section Run

variable {keys : List Key} {start screen : Screen} {number : Nat} (hopens : Opens start)

include hopens

theorem Opens.serving_zero : Serving start 0 start := by
  refine ⟨?_, hopens.listeners_eq, hopens.deliveries_eq, hopens.noKey⟩
  exact Clock.Elapsed.zero hopens.cpuBacklog_eq hopens.frameBacklog_eq

/-- However far a run has come, it stands where that many frames lead, and each of them has shown
its frame. -/
theorem Opens.serving (hrun : runFrames (keys.map Key.label) number start = (.ok (), screen)) :
    Serving start number screen ∧
      records (keys.map Key.label) number start = (List.range number).map frameRecord := by
  induction number generalizing screen with
  | zero =>
      cases hrun
      exact ⟨hopens.serving_zero, rfl⟩
  | succ number ih =>
      rw [runFrames_succ] at hrun
      rw [records_succ]
      rcases hbefore : runFrames (keys.map Key.label) number start with ⟨_ | _, before⟩
      · rw [hbefore] at hrun
        cases hrun
      · rw [hbefore] at hrun
        dsimp only at hrun ⊢
        obtain ⟨hserving, hrecords⟩ := ih hbefore
        obtain ⟨offered, hoffers⟩ := exists_offers keys hserving.noKey.2
        obtain ⟨-, after, -, hplay, -, hshown, hframe, hnext⟩ |
          ⟨fault, -, after, -, -, hframe, -⟩ := hoffers.runFrame_cases hopens hserving
        · rw [hframe] at hrun
          cases hrun
          refine ⟨hnext, ?_⟩
          rw [hrecords, List.range_succ, List.map_append, List.map_singleton, records, hplay]
          dsimp only
          rw [hshown]
          rfl
        · rw [hframe] at hrun
          cases hrun

omit hopens in
/-- A run stops at a frame because a step of it faults, and has come through those before. -/
structure Stops (keys : List Key) (start : Screen) (number : Nat) (before : Screen) (fault : Fault)
    (last : Screen) : Prop where
  before_eq : runFrames (keys.map Key.label) number start = (.ok (), before)
  faults : ∃ offered failed, Offers keys before offered ∧
    stepTimes (stepsOf number) offered.machine = .error (.fault fault) failed
  after_eq : ∀ more,
    runFrames (keys.map Key.label) (number + 1 + more) start = (.error (.fault fault), last)
  records_eq : ∀ more, records (keys.map Key.label) (number + 1 + more) start =
    (List.range number).map frameRecord
  frameCount_eq : last.clock.frameCount = number
  halted : last.clock.machine.state.halted = true

omit hopens in
theorem Stops.runFrames_eq {before last : Screen} {fault : Fault}
    (hstops : Stops keys start number before fault last) {frames : Nat} (hearly : number < frames) :
    runFrames (keys.map Key.label) frames start = (.error (.fault fault), last) := by
  have hrun := hstops.after_eq (frames - (number + 1))
  rw [show number + 1 + (frames - (number + 1)) = frames by omega] at hrun
  exact hrun

theorem Opens.frame_cases
    (hrun : runFrames (keys.map Key.label) number start = (.ok (), screen)) :
    (∃ next, runFrames (keys.map Key.label) (number + 1) start = (.ok (), next)) ∨
      ∃ fault last, Stops keys start number screen fault last := by
  obtain ⟨hserving, hrecords⟩ := hopens.serving hrun
  obtain ⟨offered, hoffers⟩ := exists_offers keys hserving.noKey.2
  have hsucc := runFrames_succ (keys.map Key.label) number start
  rw [hrun] at hsucc
  dsimp only at hsucc
  obtain ⟨-, after, -, -, -, -, hframe, -⟩ |
    ⟨fault, failed, after, hsteps, hplay, hframe, hcount, hhalted⟩ :=
      hoffers.runFrame_cases hopens hserving
  · exact Or.inl ⟨_, hsucc.trans hframe⟩
  · have hstop := hsucc.trans hframe
    refine Or.inr ⟨fault, _, hrun, ⟨offered, failed, hoffers, hsteps⟩,
      runFrames_of_error _ hstop, ?_, hcount, hhalted⟩
    intro more
    rw [records_of_error hstop, records_succ, hrun, hrecords]
    dsimp only
    rw [records, hplay, List.append_nil]

/-- In each frame that a run has come through, all steps returned. -/
theorem Opens.exists_stepTimes {count : Nat} {last : Screen}
    (hrun : runFrames (keys.map Key.label) count start = (.ok (), last))
    (hnumber : number < count) :
    ∃ screen offered stepped, runFrames (keys.map Key.label) number start = (.ok (), screen) ∧
      Offers keys screen offered ∧
      stepTimes (stepsOf number) offered.machine = .ok () stepped := by
  obtain ⟨more, rfl⟩ := Nat.exists_eq_add_of_le hnumber
  have hsucc := runFrames_succ (keys.map Key.label) number start
  rcases hbefore : runFrames (keys.map Key.label) number start with ⟨_ | _, screen⟩
  · rw [hbefore] at hsucc
    rw [runFrames_of_error _ hsucc more] at hrun
    cases hrun
  · rw [hbefore] at hsucc
    have hserving := (hopens.serving hbefore).1
    obtain ⟨offered, hoffers⟩ := exists_offers keys hserving.noKey.2
    obtain ⟨stepped, -, hsteps, -⟩ | ⟨fault, -, after, -, -, hframe, -⟩ :=
      hoffers.runFrame_cases hopens hserving
    · exact ⟨screen, offered, stepped, rfl, hoffers, hsteps⟩
    · rw [runFrames_of_error _ (hsucc.trans hframe) more] at hrun
      cases hrun

theorem Opens.completes_or_stops (keys : List Key) (count : Nat) :
    (∃ last, runFrames (keys.map Key.label) count start = (.ok (), last)) ∨
      ∃ number < count, ∃ before fault last, Stops keys start number before fault last := by
  induction count with
  | zero => exact Or.inl ⟨start, rfl⟩
  | succ count ih =>
      obtain ⟨before, hbefore⟩ | ⟨number, hnumber, hstops⟩ := ih
      · obtain hnext | hstops := hopens.frame_cases hbefore
        · exact Or.inl hnext
        · exact Or.inr ⟨count, by omega, before, hstops⟩
      · exact Or.inr ⟨number, by omega, hstops⟩

end Run

/-! ### Key reads -/

section KeyReads

variable {keys : List Key} {start screen : Screen} {offered : Clock Twister} {number count : Nat}
  {machine : Machine Twister} (hoffers : Offers keys screen offered)
  (hserving : Serving start number screen)

include hoffers

theorem Offers.state_eq : offered.machine.state = screen.clock.machine.state := by
  rw [hoffers.machine_eq]

theorem Offers.pending_eq (hwaiting : screen.clock.machine.state.awaitingKey = true) :
    offered.machine.keypad.pending = keys.head? := by
  rw [hoffers.machine_eq, hwaiting, if_pos rfl]

include hserving

/-- The only key that a step of a frame can find is the first one listed. -/
theorem Offers.pending_stepTimes (hsteps : stepTimes count offered.machine = .ok () machine) :
    machine.keypad.pending = none ∨ machine.keypad.pending = keys.head? := by
  cases count with
  | zero =>
      cases hsteps
      refine hoffers.pending.imp_right fun hwaiting => hoffers.pending_eq ?_
      rw [← hoffers.state_eq]
      exact hwaiting
  | succ count => exact Or.inl (hoffers.noKey_stepTimes hserving hsteps).2

/-- A wait that is pending when a frame starts ends with its first step. -/
theorem Offers.exists_first_answers (hwaiting : screen.clock.machine.state.awaitingKey = true)
    {first : Key} (hfirst : keys.head? = some first) :
    ∃ answered, Machine.step offered.machine = .ok none answered ∧
      Answers first offered.machine answered := by
  refine (hoffers.sound hserving).exists_answers ?_ ((hoffers.pending_eq hwaiting).trans hfirst)
  rw [hoffers.state_eq]
  exact hwaiting

/-- A wait is ended by the first key listed and by no other. -/
theorem Offers.answers (hsteps : stepTimes count offered.machine = .ok () machine)
    (hwaiting : machine.state.awaitingKey = true) {executed : Option Instruction}
    {answered : Machine Twister} (hstep : Machine.step machine = .ok executed answered)
    (hended : answered.state.awaitingKey = false) :
    ∃ first, keys.head? = some first ∧ Answers first machine answered := by
  have hsound := (hoffers.hasShown_stepTimes hserving hsteps).1
  cases hpending : machine.keypad.pending with
  | none =>
      rw [Machine.step_of_waiting (hsound.state.waiting hwaiting).1 hwaiting hpending] at hstep
      cases hstep
      rw [hwaiting] at hended
      cases hended
  | some key =>
      have hfirst := (hoffers.pending_stepTimes hserving hsteps).resolve_left (by simp [hpending])
      obtain ⟨other, hother, hanswers⟩ := hsound.exists_answers hwaiting hpending
      rw [hother] at hstep
      cases hstep
      exact ⟨key, hfirst.symm.trans hpending, hanswers⟩

theorem Offers.pending_eq_none (hkeys : keys = [])
    (hsteps : stepTimes count offered.machine = .ok () machine) :
    machine.keypad.pending = none := by
  obtain hnone | hfirst := hoffers.pending_stepTimes hserving hsteps
  · exact hnone
  · rw [hfirst, hkeys, List.head?_nil]

/-- A machine that waits without a key is left as it is by every step. -/
theorem Offers.stepTimes_of_waiting (hsteps : stepTimes count offered.machine = .ok () machine)
    (hwaiting : machine.state.awaitingKey = true) (hnone : machine.keypad.pending = none)
    (more : Nat) : stepTimes more machine = .ok () machine := by
  have hsound := (hoffers.hasShown_stepTimes hserving hsteps).1
  exact Machine.stepTimes_of_waiting (hsound.state.waiting hwaiting).1 hwaiting hnone more

end KeyReads

section Waiting

variable {keys : List Key} {start screen : Screen} {offered : Clock Twister} {number count : Nat}
  {machine : Machine Twister} (hopens : Opens start)
  (hrun : runFrames (keys.map Key.label) number start = (.ok (), screen))
  (hoffers : Offers keys screen offered)

include hopens hrun hoffers

/-- A wait without a key outlasts the frame, which only counts the timers down. -/
theorem Opens.exists_next_of_waiting (hcount : count ≤ stepsOf number)
    (hsteps : stepTimes count offered.machine = .ok () machine)
    (hwaiting : machine.state.awaitingKey = true) (hnone : machine.keypad.pending = none) :
    ∃ next, runFrames (keys.map Key.label) (number + 1) start = (.ok (), next) ∧
      next.clock.machine.state = machine.state.afterTicks 1 := by
  have hserving := (hopens.serving hrun).1
  have hrest := hoffers.stepTimes_of_waiting hserving hsteps hwaiting hnone (stepsOf number - count)
  have hall : stepTimes (stepsOf number) offered.machine = .ok () machine := by
    have hadd := Machine.stepTimes_add count (stepsOf number - count) offered.machine
    rw [Nat.add_sub_cancel' hcount, hsteps] at hadd
    exact hadd.trans hrest
  obtain ⟨after, hplay, hstate, -, -⟩ := hoffers.exists_frame hopens hserving hall
  refine ⟨screen.take after, ?_, hstate⟩
  rw [runFrames_succ, hrun]
  dsimp only
  rw [runFrame_eq, hplay]

theorem Opens.exists_later_of_waiting (hkeys : keys = []) (hcount : count ≤ stepsOf number)
    (hsteps : stepTimes count offered.machine = .ok () machine)
    (hwaiting : machine.state.awaitingKey = true) (later : Nat) :
    ∃ last, runFrames (keys.map Key.label) (number + (later + 1)) start = (.ok (), last) ∧
      last.clock.machine.state = machine.state.afterTicks (later + 1) := by
  induction later with
  | zero =>
      have hnone := hoffers.pending_eq_none (hopens.serving hrun).1 hkeys hsteps
      exact hopens.exists_next_of_waiting hrun hoffers hcount hsteps hwaiting hnone
  | succ later ih =>
      -- A later frame starts in the wait itself, so no step of it comes before.
      obtain ⟨last, hlast, hstate⟩ := ih
      have hserving := (hopens.serving hlast).1
      obtain ⟨again, hagain⟩ := exists_offers keys hserving.noKey.2
      have hstill : again.machine.state = machine.state.afterTicks (later + 1) :=
        hagain.state_eq.trans hstate
      have hzero : stepTimes 0 again.machine = .ok () again.machine := rfl
      obtain ⟨next, hnext, hticked⟩ := hopens.exists_next_of_waiting hlast hagain (Nat.zero_le _)
        hzero (by rw [hstill]; exact hwaiting) (hagain.pending_eq_none hserving hkeys hzero)
      refine ⟨next, hnext, ?_⟩
      rw [hticked, hstill, State.afterTicks_afterTicks, Nat.add_comm 1]

/-- A key read starts a wait that lasts to the end of the frame. -/
theorem Opens.exists_waiting_of_read (hcount : count < stepsOf number)
    (hsteps : stepTimes count offered.machine = .ok () machine)
    (hrunning : machine.state.halted = false) (hnotWaiting : machine.state.awaitingKey = false)
    (hpc : machine.state.pc ≤ 4094) {x : Nat} (hx : x < 16)
    (hword : machine.state.word = 0xF00A + 0x100 * x) :
    ∃ waiting, Machine.step machine = .ok (some (.decode machine.state.word)) waiting ∧
      waiting.WaitsFor {} x (machine.state.pc + 2) none ∧
      (∀ more, stepTimes more waiting = .ok () waiting) ∧
      ∃ next, runFrames (keys.map Key.label) (number + 1) start = (.ok (), next) ∧
        next.clock.machine.state = waiting.state.afterTicks 1 := by
  have hserving := (hopens.serving hrun).1
  have hsound := (hoffers.hasShown_stepTimes hserving hsteps).1
  obtain ⟨waiting, hstep, hwaits⟩ :=
    Machine.exists_waitsFor_step hsound hrunning hnotWaiting hpc hx hword
  have hnext : stepTimes (count + 1) offered.machine = .ok () waiting := by
    rw [Machine.stepTimes_add, hsteps]
    dsimp only
    rw [Machine.stepTimes_succ, hstep]
    rfl
  exact ⟨waiting, hstep, hwaits,
    hoffers.stepTimes_of_waiting hserving hnext hwaits.waiting hwaits.pending_eq,
    hopens.exists_next_of_waiting hrun hoffers hcount hnext hwaits.waiting hwaits.pending_eq⟩

end Waiting

/-! ### The whole run -/

def HasLine (text line : String) : Prop :=
  ∃ front back, text = textOfLines (front ++ line :: back)

theorem hasLine_frames (clock : Clock Twister) (fault : Option Fault) :
    HasLine (summaryText clock fault) ("Frames: " ++ toString clock.frameCount) := by
  refine ⟨heading "EXECUTION SUMMARY" 40, ?_⟩
  rw [summaryText, List.append_assoc]
  exact ⟨_, rfl⟩

theorem hasLine_halted (clock : Clock Twister) (fault : Option Fault) :
    HasLine (summaryText clock fault) ("Halted: " ++ answerText clock.machine.state.halted) := by
  refine ⟨heading "EXECUTION SUMMARY" 40 ++ ["Frames: " ++ toString clock.frameCount,
    "Cycles: " ++ toString clock.machine.summary.cycles], ?_⟩
  rw [summaryText, List.append_assoc]
  exact ⟨_, rfl⟩

/-- A run comes through all of its frames: each of them shows one frame and makes eleven or twelve
steps, none of which faults, all of them as many as their time has periods for. -/
structure Completes (request : Request) (image : List UInt8) (keys : List Key)
    (start last : Screen) : Prop where
  run_eq : run request = result image (.ok ()) last
  frames_eq : runFrames (keys.map Key.label) request.frames.toNat start = (.ok (), last)
  steps_return : ∀ number < request.frames.toNat, ∃ screen offered stepped,
    runFrames (keys.map Key.label) number start = (.ok (), screen) ∧ Offers keys screen offered ∧
      stepTimes (stepsOf number) offered.machine = .ok () stepped
  shown_eq : (records (keys.map Key.label) request.frames.toNat start).map FrameRecord.shown =
    (List.range request.frames.toNat).map fun number : Nat => [(number : Int) + 1]
  cadence : ∀ record ∈ records (keys.map Key.label) request.frames.toNat start,
    (record.tick.steps = 11 ∨ record.tick.steps = 12) ∧ record.tick.frames = 1
  steps_eq : ((records (keys.map Key.label) request.frames.toNat start).map (·.tick.steps)).sum =
    max 0 request.frames * 16666666 / 1428571
  reported : HasLine (run request).summary ("Frames: " ++ toString (max 0 request.frames))

/-- A run stops before its end because a step faults, and reports the frames that it has come
through and that the machine is halted. -/
structure StopsAt (request : Request) (image : List UInt8) (keys : List Key) (start : Screen)
    (number : Nat) (before : Screen) (fault : Fault) (last : Screen) : Prop where
  early : number < request.frames
  stops : Stops keys start number before fault last
  run_eq : run request = result image (.error (.fault fault)) last
  frames_reported : HasLine (run request).summary ("Frames: " ++ toString number)
  halted_reported : HasLine (run request).summary "Halted: Yes"

/-- How a frame serves the key reads of a program. Each machine named is one that the steps of the
frame come to. -/
structure ServesReads (keys : List Key) (start screen : Screen) (number : Nat)
    (offered : Clock Twister) : Prop where
  offers : Offers keys screen offered
  play_eq : playFrame (keys.map Key.label) screen.clock =
    match stepTimes (stepsOf number) offered.machine with
    | .ok _ stepped =>
      .ok { steps := stepsOf number, frames := 1 } (offered.finish 16666666 stepped)
    | .error failure failed => .error failure (offered.abandon 16666666 failed)
  /-- A key read starts a wait, which lasts to the end of the frame. -/
  waits : ∀ count < stepsOf number, ∀ machine, stepTimes count offered.machine = .ok () machine →
    machine.state.halted = false → machine.state.awaitingKey = false → machine.state.pc ≤ 4094 →
    ∀ x < 16, machine.state.word = 0xF00A + 0x100 * x →
      ∃ waiting, Machine.step machine = .ok (some (.decode machine.state.word)) waiting ∧
        waiting.WaitsFor {} x (machine.state.pc + 2) none ∧
        (∀ more, stepTimes more waiting = .ok () waiting) ∧
        ∃ next, runFrames (keys.map Key.label) (number + 1) start = (.ok (), next) ∧
          next.clock.machine.state = waiting.state.afterTicks 1
  /-- A wait pending at the start is over after the first step. -/
  answers_first : ∀ first, keys.head? = some first →
    screen.clock.machine.state.awaitingKey = true →
      ∃ answered, Machine.step offered.machine = .ok none answered ∧
        Answers first offered.machine answered
  /-- A wait that ends is answered by the first key. -/
  answers : ∀ first, keys.head? = some first →
    ∀ count machine executed answered, stepTimes count offered.machine = .ok () machine →
      machine.state.awaitingKey = true → Machine.step machine = .ok executed answered →
      answered.state.awaitingKey = false → Answers first machine answered
  /-- Without a key, a wait never ends: the steps that follow change nothing, in this frame or in a
  later one, and the frames count the timers down. -/
  waits_on : keys = [] → ∀ count ≤ stepsOf number, ∀ machine,
    stepTimes count offered.machine = .ok () machine → machine.state.awaitingKey = true →
      (∀ more, stepTimes more machine = .ok () machine) ∧
      ∀ later, ∃ last,
        runFrames (keys.map Key.label) (number + (later + 1)) start = (.ok (), last) ∧
        last.clock.machine.state = machine.state.afterTicks (later + 1)

theorem Opens.exists_servesReads {keys : List Key} {start screen : Screen} {number : Nat}
    (hopens : Opens start)
    (hrun : runFrames (keys.map Key.label) number start = (.ok (), screen)) :
    ∃ offered, ServesReads keys start screen number offered := by
  have hserving := (hopens.serving hrun).1
  obtain ⟨offered, hoffers⟩ := exists_offers keys hserving.noKey.2
  refine ⟨offered, hoffers, hoffers.playFrame_of_steps hopens hserving, ?_, ?_, ?_, ?_⟩
  · intro count hcount machine hsteps hrunning hnotWaiting hpc x hx hword
    exact hopens.exists_waiting_of_read hrun hoffers hcount hsteps hrunning hnotWaiting hpc hx hword
  · intro first hfirst hwaiting
    exact hoffers.exists_first_answers hserving hwaiting hfirst
  · intro first hfirst count machine executed answered hsteps hwaiting hstep hended
    obtain ⟨key, hkey, hanswers⟩ := hoffers.answers hserving hsteps hwaiting hstep hended
    rw [Option.some.inj (hfirst.symm.trans hkey)]
    exact hanswers
  · intro hkeys count hcount machine hsteps hwaiting
    have hnone := hoffers.pending_eq_none hserving hkeys hsteps
    exact ⟨hoffers.stepTimes_of_waiting hserving hsteps hwaiting hnone,
      hopens.exists_later_of_waiting hrun hoffers hkeys hcount hsteps hwaiting⟩

section Request

variable {request : Request} {image : List UInt8} {keys : List Key} {start last : Screen}
  (haccepted : Accepted request image keys) (hprepare : prepare request image = .ok start)

include haccepted hprepare

theorem Accepted.run_eq {outcome : Except Failure Unit}
    (hrun : runFrames (keys.map Key.label) request.frames.toNat start = (outcome, last)) :
    run request = result image outcome last := by
  rw [run, haccepted.given, if_neg Bool.false_ne_true]
  simp only [haccepted.image_eq, hprepare, haccepted.heldKeys_eq, hrun, bind, Except.bind, pure,
    Except.pure]

theorem Accepted.completes (hopens : Opens start)
    (hrun : runFrames (keys.map Key.label) request.frames.toNat start = (.ok (), last)) :
    Completes request image keys start last := by
  obtain ⟨hserving, hrecords⟩ := hopens.serving hrun
  have hresult := haccepted.run_eq hprepare hrun
  have hframes : (request.frames.toNat : Int) = max 0 request.frames := by omega
  refine ⟨hresult, hrun, fun number => hopens.exists_stepTimes hrun, ?_, ?_, ?_, ?_⟩
  · rw [hrecords, List.map_map]
    rfl
  · intro record hmem
    rw [hrecords] at hmem
    obtain ⟨number, -, rfl⟩ := List.mem_map.mp hmem
    refine ⟨?_, rfl⟩
    have hsteps := stepsOf_eq number
    rw [frameRecord]
    dsimp only
    omega
  · rw [hrecords, List.map_map]
    change ((List.range _).map fun number => (stepsOf number : Int)).sum = _
    rw [sum_stepsOf, stepsBefore, hframes, mul_comm]
  · have hcount : last.clock.frameCount = max 0 request.frames := by
      rw [← hframes, hserving.frameCount_eq hopens]
    rw [hresult, ← hcount]
    exact hasLine_frames last.clock none

theorem Accepted.stopsAt {number : Nat} (hearly : number < request.frames) {before : Screen}
    {fault : Fault} (hstops : Stops keys start number before fault last) :
    StopsAt request image keys start number before fault last := by
  have hresult := haccepted.run_eq hprepare (hstops.runFrames_eq (by omega))
  refine ⟨hearly, hstops, hresult, ?_, ?_⟩
  · have hline := hasLine_frames last.clock (some fault)
    rw [hstops.frameCount_eq] at hline
    rw [hresult]
    exact hline
  · have hline := hasLine_halted last.clock (some fault)
    rw [hstops.halted] at hline
    rw [hresult]
    exact hline

end Request

/-- A program that reads a key and starts over. -/
def readingImage : List UInt8 :=
  [0xF3, 0x0A, 0x12, 0x00]

def readingRequest : Request where
  program := ""
  rom := some readingImage
  frames := 3
  heldKeys := ["5", "A"]
  seed := none

def listedKeys : List Key :=
  [⟨5, by decide⟩, ⟨10, by decide⟩]

/-- The program stands before its key read, and no step of its frames faults. -/
theorem readingRequest_starts {start : Screen}
    (hprepare : prepare readingRequest readingImage = .ok start) :
    let state := start.clock.machine.state
    (state.halted = false ∧ state.awaitingKey = false ∧ state.pc ≤ 4094 ∧
      state.word = 0xF00A + 0x100 * 3) ∧
      (runFrames (listedKeys.map Key.label) 3 start).1.isOk = true := by
  have hchecked : (prepare readingRequest readingImage).toOption.any (fun start =>
      let state := start.clock.machine.state
      decide ((state.halted = false ∧ state.awaitingKey = false ∧ state.pc ≤ 4094 ∧
        state.word = 0xF00A + 0x100 * 3) ∧
        (runFrames (listedKeys.map Key.label) 3 start).1.isOk = true)) = true := by
    decide +kernel
  rw [hprepare] at hchecked
  exact of_decide_eq_true hchecked

end Playground

end Chip8
