import Chip8.Proofs.ClockCalls
import Chip8.Proofs.Redraws
import Chip8.Proofs.Ticking

/-!
# The sequence of frames

An advance shows its frames when its steps are over: each of them counts the timers down by one and
shows the display as the steps have left it. The frames are numbered by a count that nothing else
touches, so their numbers follow each other, whatever the host does in between.
-/

namespace Chip8

def Event.isFrame (event : Event) : Bool :=
  !event.isRedraw

def Event.frameNumber? : Event → Option Int
  | frame number _ _ => some number
  | redraw _ _ => none

theorem countDown_iterate {timer : Int} (htimer : 0 ≤ timer) (count : Nat) :
    countDown^[count] timer = max 0 (timer - count) := by
  induction count with
  | zero =>
      rw [Function.iterate_zero_apply]
      omega
  | succ count ih =>
      rw [Function.iterate_succ_apply', ih, countDown]
      split <;> omega

/-- The numbers of the frames among what is delivered to a listener. -/
def numbersFor (listener : String) (deliveries : List Delivery) : List Int :=
  deliveries.filterMap fun delivery =>
    if delivery.listener == listener then delivery.event.frameNumber? else none

theorem numbersFor_append (listener : String) (first second : List Delivery) :
    numbersFor listener (first ++ second) =
      numbersFor listener first ++ numbersFor listener second :=
  List.filterMap_append

theorem numbersFor_deliver {listener : String} {listeners : List String}
    (hlistens : listeners.count listener = 1) (number : Int) (frame : Frame) (soundActive : Bool) :
    numbersFor listener ((Event.frame number frame soundActive).deliver listeners) = [number] := by
  calc numbersFor listener ((Event.frame number frame soundActive).deliver listeners)
      = (listeners.filter (· == listener)).map fun _ => number := by
        rw [numbersFor, Event.deliver, List.filterMap_map, ← List.filterMap_eq_map,
          List.filterMap_filter]
        rfl
    _ = [number] := by
        rw [List.filter_beq, hlistens]
        rfl

namespace Machine

variable {source : Type} {config : Config} {machine : Machine source} {frames : List Delivery}

/-- The next frames of a machine, if so many have been shown before: the display stays, and the
sound is active as long as its timer lasts. -/
def frameEvents (machine : Machine source) (shown : Int) (count : Nat) : List Event :=
  (List.range count).map fun index : Nat =>
    .frame (shown + (index + 1)) machine.display.frame
      (decide ((index : Int) + 1 < machine.state.soundTimer))

theorem frameEvents_succ (machine : Machine source) (shown : Int) (count : Nat) :
    machine.frameEvents shown (count + 1) =
      machine.frameEvents shown count ++
        [.frame (shown + (count + 1)) machine.display.frame
          (decide ((count : Int) + 1 < machine.state.soundTimer))] := by
  rw [frameEvents, List.range_succ, List.map_append]
  rfl

/-- The numbers of the frames that a listener has heard of, the oldest first. -/
def frameNumbers (machine : Machine source) (listener : String) : List Int :=
  numbersFor listener machine.deliveries.toList

theorem frameNumbers_eq_heeded (machine : Machine source) (listener : String) :
    machine.frameNumbers listener = numbersFor listener (machine.heeded Event.isFrame) := by
  rw [frameNumbers, heeded, numbersFor, numbersFor, List.filterMap_filter]
  congr 1
  funext delivery
  obtain ⟨other, event⟩ := delivery
  cases event with
  | redraw => simp [Event.frameNumber?]
  | frame => simp [Event.isFrame, Event.isRedraw]

/-- A sound machine whose listeners have been told of these frames. -/
def HasShown (config : Config) (frames : List Delivery) (machine : Machine source) : Prop :=
  Sound config machine ∧ machine.heeded Event.isFrame = frames

theorem HasShown.of_deliveries {after : Machine source} (hshown : HasShown config frames machine)
    (hsound : Sound config after) (hdeliveries : after.deliveries = machine.deliveries) :
    HasShown config frames after := by
  refine ⟨hsound, ?_⟩
  rw [heeded, hdeliveries]
  exact hshown.2

variable [ByteSource source]

theorem keeps_hasShown_step :
    Keeps (HasShown config frames) (step : Action source (Option Instruction)) := by
  intro machine hshown
  have hsound := hshown.1.step
  have hshows := hshown.1.shows_step
  generalize machine.stepRedraws = redrawn at hshows
  cases hshows with
  | kept hcycle hdisplay hdeliveries => exact hshown.of_deliveries hsound hdeliveries
  | redrawn hcycle hdeliveries =>
      refine ⟨hsound, (heeded_of_deliver hdeliveries).trans ?_⟩
      rw [hshown.2]
      exact List.append_nil _

/-- No call of the machine shows a frame: only its clock does. -/
theorem keeps_hasShown_action (call : HostCall) :
    Keeps (HasShown config frames) (call.action : Action source Unit) := by
  intro machine hshown
  have hsound := keeps_sound_action call machine hshown.1
  have hreset : machine.reset.deliveries = machine.deliveries := by
    rw [Machine.reset, note_eq]
  have hprepared : machine.prepared.deliveries = machine.deliveries := by
    rw [prepared]
    split
    · exact hreset
    · rfl
  change HasShown config frames (machine.after call)
  cases call.kind with
  | step => exact keeps_hasShown_step.map _ machine hshown
  | run limit => exact keeps_hasShown_step.run limit machine hshown
  | reset => exact hshown.of_deliveries hsound hreset
  | image image himage =>
      refine hshown.of_deliveries hsound ?_
      obtain ⟨-, hafter⟩ | ⟨-, notes, hafter⟩ := after_image_cases himage machine
      · rw [hafter]
        exact hprepared
      · rw [hafter]
        exact hprepared
  | addListener listener => exact hshown.of_deliveries hsound rfl
  | aside haside =>
      refine hshown.of_deliveries hsound ?_
      rw [differsAside_after haside]

end Machine

namespace Clock

open Machine (HasShown keeps_hasShown_step keeps_hasShown_action)

variable {source : Type} {config : Config} {clock : Clock source} {listener : String}

/-! ### The frames of one advance -/

theorem showFrame_machine (clock : Clock source) :
    clock.showFrame.machine.state = clock.machine.state.tickDelay.tickSound ∧
      clock.showFrame.machine.display = clock.machine.display ∧
      clock.showFrame.machine.deliveries.toList =
        clock.machine.deliveries.toList ++
          (Event.frame (clock.frameCount + 1) clock.machine.display.frame
            clock.machine.state.tickDelay.tickSound.soundActive).deliver clock.listeners := by
  have hticked : clock.machine.tickTimers =
      { clock.machine with
        state := clock.machine.state.tickDelay.tickSound
        notes := clock.machine.tickTimers.notes } := by
    rw [Machine.tickTimers, Machine.tickSound_eq]
    rfl
  rw [showFrame, hticked]
  exact ⟨rfl, rfl, Machine.toList_deliveries_send _ _ _⟩

/-- Frames in a row show the same display and count the timers down. -/
theorem showFrame_iterate_machine (clock : Clock source) (count : Nat) :
    (showFrame^[count] clock).machine.state = clock.machine.state.afterTicks count ∧
      (showFrame^[count] clock).machine.display = clock.machine.display := by
  induction count with
  | zero => exact ⟨rfl, rfl⟩
  | succ count ih =>
      obtain ⟨hstate, hdisplay⟩ := ih
      obtain ⟨hlast, hlastDisplay, -⟩ := showFrame_machine (showFrame^[count] clock)
      rw [Function.iterate_succ_apply', hlast, hlastDisplay, hstate]
      exact ⟨State.tick_afterTicks _ _, hdisplay⟩

theorem showFrame_iterate_deliveries (hsound : 0 ≤ clock.machine.state.soundTimer) (count : Nat) :
    (showFrame^[count] clock).machine.deliveries.toList =
      clock.machine.deliveries.toList ++
        (clock.machine.frameEvents clock.frameCount count).flatMap
          (·.deliver clock.listeners) := by
  induction count with
  | zero => exact (List.append_nil _).symm
  | succ count ih =>
      have hactive : (clock.machine.state.afterTicks (count + 1)).soundActive =
          decide ((count : Int) + 1 < clock.machine.state.soundTimer) := by
        change decide (0 < countDown^[count + 1] clock.machine.state.soundTimer) = _
        rw [countDown_iterate hsound]
        exact decide_eq_decide.mpr (by omega)
      obtain ⟨hstate, hdisplay⟩ := showFrame_iterate_machine clock count
      obtain ⟨-, -, hlast⟩ := showFrame_machine (showFrame^[count] clock)
      rw [hstate, hdisplay, ih, State.tick_afterTicks, hactive] at hlast
      rw [Function.iterate_succ_apply', Machine.frameEvents_succ, List.flatMap_append,
        List.flatMap_singleton, ← List.append_assoc, hlast, showFrame_iterate, Int.add_assoc]

theorem hasShown_noteDropped {frames : List Delivery} {machine : Machine source}
    (hshown : HasShown config frames machine) (count : Int) :
    HasShown config frames (noteDropped machine count) := by
  rw [noteDropped, Machine.note_eq]
  exact hshown.of_deliveries (hshown.1.congr rfl hshown.1.state rfl) rfl

variable [ByteSource source]

/-- What is left of a clock by the steps of an advance: another machine, with the same frames shown,
and another backlog of steps. -/
def StepsLead (config : Config) (clock stepped : Clock source) : Prop :=
  stepped = { clock with machine := stepped.machine, cpuBacklog := stepped.cpuBacklog } ∧
    HasShown config (clock.machine.heeded Event.isFrame) stepped.machine

theorem keptBySteps_stepsLead (clock : Clock source) :
    KeptBySteps (StepsLead config clock) where
  step := by
    rintro stepped ⟨hstepped, hshown⟩
    refine ⟨?_, keeps_hasShown_step _ hshown⟩
    rw [hstepped]
  spend := by
    rintro stepped ⟨hstepped, hshown⟩ -
    refine ⟨?_, hshown⟩
    rw [hstepped]
    rfl
  drop := by
    rintro stepped ⟨hstepped, hshown⟩
    rw [dropBacklog]
    split
    · exact ⟨hstepped, hshown⟩
    · refine ⟨?_, hasShown_noteDropped hshown _⟩
      rw [hstepped]
      rfl

theorem StepsLead.of_runCpu (hsound : Machine.Sound config clock.machine) {elapsed steps : Int}
    {stepped : Clock source} (hrun : runCpu elapsed clock = .ok steps stepped) :
    StepsLead config clock stepped := by
  have hcredited : StepsLead config clock (clock.creditCpu elapsed) := ⟨rfl, hsound, rfl⟩
  have hled :=
    (keptBySteps_stepsLead clock).drainSteps hcredited (clock.creditCpu elapsed).stepFuel 0
  change StepsLead config clock (left (runCpu elapsed clock)) at hled
  rwa [hrun] at hled

/-- When the steps of an advance are made, the frames that are due follow. -/
theorem StepsLead.advance_eq {stepped : Clock source} (hled : StepsLead config clock stepped)
    (hframe : 0 < clock.framePeriod) {elapsed steps : Int} (helapsed : 0 ≤ elapsed)
    (hrun : runCpu elapsed clock = .ok steps stepped) :
    advance elapsed clock =
      .ok { steps, frames := clock.frameQuota elapsed }
        (showFrame^[clock.frameQuota elapsed] (stepped.creditFrames elapsed)) := by
  have hperiod : 0 < stepped.framePeriod := by
    rw [hled.1]
    exact hframe
  have hquota : stepped.frameQuota elapsed = clock.frameQuota elapsed := by
    rw [hled.1]
    rfl
  rw [advance_of_runCpu_ok helapsed hrun, EStateM.map, runFrames_eq hperiod, hquota]

/-! ### The numbers of the frames -/

omit [ByteSource source] in
theorem hasShown_showFrame {frames : List Delivery}
    (hshown : HasShown config frames clock.machine) :
    HasShown config
      (frames ++ (Event.frame (clock.frameCount + 1) clock.machine.display.frame
        clock.machine.state.tickDelay.tickSound.soundActive).deliver clock.listeners)
      clock.showFrame.machine := by
  obtain ⟨-, -, hdeliveries⟩ := showFrame_machine clock
  have hticked : Machine.Sound config clock.machine.tickTimers := hshown.1.tickDelay.tickSound
  refine ⟨hticked.congr rfl hticked.state rfl, (Machine.heeded_of_deliver hdeliveries).trans ?_⟩
  rw [hshown.2]
  rfl

/-- The frames that have been shown since `shown` of them had been are numbered in turn, and a
listener that had heard of some before has heard of each of them once. -/
structure Numbered (config : Config) (listener : String) (heard : List Int) (shown : Int)
    (clock : Clock source) : Prop where
  listens : clock.listeners.count listener = 1
  numbered : ∃ (frames : List Delivery) (count : Nat), HasShown config frames clock.machine ∧
    clock.frameCount = shown + count ∧
      numbersFor listener frames =
        heard ++ (List.range count).map fun index : Nat => shown + (index + 1)

variable {heard : List Int} {shown : Int}

omit [ByteSource source] in
theorem Numbered.showFrame (hnumbered : Numbered config listener heard shown clock) :
    Numbered config listener heard shown clock.showFrame := by
  obtain ⟨hlistens, frames, count, hshown, hcount, hnumbers⟩ := hnumbered
  refine ⟨hlistens, _, count + 1, hasShown_showFrame hshown, ?_, ?_⟩
  · change clock.frameCount + 1 = _
    omega
  · rw [numbersFor_append, numbersFor_deliver hlistens, hnumbers, hcount, List.range_succ,
      List.map_append, List.append_assoc, Int.add_assoc]
    rfl

omit [ByteSource source] in
theorem Numbered.begin (hsound : Machine.Sound config clock.machine)
    (hlistens : clock.listeners.count listener = 1) :
    Numbered config listener (clock.machine.frameNumbers listener) clock.frameCount clock := by
  refine ⟨hlistens, _, 0, ⟨hsound, rfl⟩, (Int.add_zero _).symm, ?_⟩
  rw [Machine.frameNumbers_eq_heeded]
  exact (List.append_nil _).symm

theorem keptByTime_numbered :
    KeptByTime (Numbered config listener heard shown : Clock source → Prop) where
  step := by
    rintro clock ⟨hlistens, frames, count, hshown, hnumbers⟩
    exact ⟨hlistens, frames, count, keeps_hasShown_step _ hshown, hnumbers⟩
  spend hnumbered _ := { hnumbered with }
  drop := by
    rintro clock ⟨hlistens, frames, count, hshown, hnumbers⟩
    rw [dropBacklog]
    split
    · exact ⟨hlistens, frames, count, hshown, hnumbers⟩
    · exact ⟨hlistens, frames, count, hasShown_noteDropped hshown _, hnumbers⟩
  read hnumbered _ := { hnumbered with }
  creditCpu hnumbered _ _ := { hnumbered with }
  creditFrames hnumbered _ _ := { hnumbered with }
  frame hnumbered _ := hnumbered.showFrame

theorem Numbered.after (hnumbered : Numbered config listener heard shown clock) {call : ClockCall}
    (hcall : call ≠ .addListener listener) :
    Numbered config listener heard shown (clock.after call) := by
  cases call with
  | pass passage => exact keptByTime_numbered.passage hnumbered passage
  | restart now => exact { hnumbered with }
  | addListener other =>
      have hother : other ≠ listener := fun heq => hcall (heq ▸ rfl)
      exact
        { hnumbered with
          listens := (Machine.count_concat_of_ne hother).trans hnumbered.listens }
  | machine call =>
      obtain ⟨hlistens, frames, count, hshown, hnumbers⟩ := hnumbered
      exact ⟨hlistens, frames, count, keeps_hasShown_action call _ hshown, hnumbers⟩

theorem Numbered.afterCalls (hnumbered : Numbered config listener heard shown clock)
    {calls : List ClockCall} (hcalls : .addListener listener ∉ calls) :
    Numbered config listener heard shown (clock.afterCalls calls) := by
  induction calls generalizing clock with
  | nil => exact hnumbered
  | cons call calls ih =>
      have hcall : call ≠ .addListener listener := fun heq => hcalls (heq ▸ List.mem_cons_self)
      exact ih (hnumbered.after hcall) fun hmem => hcalls (List.mem_cons_of_mem call hmem)

/-- A machine that has set its sound timer to two and now jumps to itself. -/
def soundingMachine : Machine ByteCycle :=
  (Machine.create {} (ByteCycle.mk #[] 0)).afterCalls
    [.load [0x60, 0x02, 0xF0, 0x18, 0x12, 0x04], .step, .step]

/-- A clock at 1 kHz and 250 Hz that has shown three frames, and most of a fourth is due. -/
def soundingClock : Clock ByteCycle where
  machine := soundingMachine
  cpuPeriod := 1000000
  framePeriod := 4000000
  stepCap := none
  frameCount := 3
  listeners := ["log", "screen"]
  last := 0
  cpuBacklog := 0
  frameBacklog := 3000000

theorem reachable_soundingMachine : Machine.Reachable {} soundingMachine :=
  (Machine.Reachable.create (by decide) (ByteCycle.mk #[] 0) .warning).afterCalls _

end Clock

end Chip8
