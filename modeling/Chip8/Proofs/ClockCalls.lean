import Chip8.Proofs.Schedule

/-!
# Calls of a clock's host

A host starts a clock and then lets time pass on it, restarts it and calls its machine, in any
order. The periods stay those of the rates it was started at, and no backlog is ever negative.
-/

namespace Chip8

inductive ClockCall where
  | pass (passage : Passage)
  | restart (now : Int)
  | addListener (listener : String)
  | machine (call : HostCall)

namespace Clock

variable {source α : Type}

/-- The clock that an action leaves, whether or not it failed. -/
def left : EStateM.Result Failure (Clock source) α → Clock source
  | .ok _ clock => clock
  | .error _ clock => clock

theorem left_map {β : Type} (change : α → β) (action : Action source α) (clock : Clock source) :
    left (EStateM.map change action clock) = left (action clock) := by
  rw [EStateM.map]
  cases action clock <;> rfl

variable [ByteSource source]

def after (clock : Clock source) : ClockCall → Clock source
  | .pass passage => left (passage.action clock)
  | .restart now => clock.restart now
  | .addListener listener => clock.addListener listener
  | .machine call => { clock with machine := clock.machine.after call }

def afterCalls (clock : Clock source) (calls : List ClockCall) : Clock source :=
  calls.foldl after clock

/-- The clocks that a host comes to from one started at two rates. -/
inductive Paced (cpuHz frameHz : Int) : Clock source → Prop where
  | start {machine : Machine source} {cpuGiven frameGiven stepCap : Option Int}
    {listeners : List String} {now : Int} {clock : Clock source}
    (hcpuHz : rate cpuGiven machine.config.cpuHz = cpuHz)
    (hframeHz : rate frameGiven machine.config.frameHz = frameHz)
    (hstart : Clock.start machine cpuGiven frameGiven stepCap listeners now = .ok clock) :
    Paced cpuHz frameHz clock
  | call {clock : Clock source} (hpaced : Paced cpuHz frameHz clock) (call : ClockCall) :
    Paced cpuHz frameHz (clock.after call)

section Kept

variable {property : Clock source → Prop} {clock : Clock source}

/-- A property that a clock does not lose by the steps of an advance. -/
structure KeptBySteps (property : Clock source → Prop) : Prop where
  step {clock : Clock source} (hclock : property clock) :
    property { clock with machine := Machine.left (Machine.step clock.machine) }
  spend {clock : Clock source} (hclock : property clock)
    (hdue : clock.cpuPeriod ≤ clock.cpuBacklog) : property clock.spendCpuPeriod
  drop {clock : Clock source} (hclock : property clock) : property (left (dropBacklog clock))

/-- A property that a clock does not lose by the passing of time. -/
structure KeptByTime (property : Clock source → Prop) : Prop extends KeptBySteps property where
  read {clock : Clock source} (hclock : property clock) (last : Int) : property { clock with last }
  creditCpu {clock : Clock source} (hclock : property clock) {elapsed : Int}
    (helapsed : 0 ≤ elapsed) : property (clock.creditCpu elapsed)
  creditFrames {clock : Clock source} (hclock : property clock) {elapsed : Int}
    (helapsed : 0 ≤ elapsed) : property (clock.creditFrames elapsed)
  frame {clock : Clock source} (hclock : property clock)
    (hdue : clock.framePeriod ≤ clock.frameBacklog) : property clock.showFrame

theorem KeptBySteps.drainSteps (hkept : KeptBySteps property) (hclock : property clock) (fuel : Nat)
    (steps : Int) : property (left (drainSteps fuel steps clock)) := by
  induction fuel generalizing clock steps with
  | zero => exact hclock
  | succ fuel ih =>
      by_cases hshort : clock.cpuBacklog < clock.cpuPeriod
      · rw [drainSteps_short fuel steps hshort]
        exact hclock
      have hdue : clock.cpuPeriod ≤ clock.cpuBacklog := by omega
      cases hcapped : clock.capped steps with
      | true =>
          rw [drainSteps_capped fuel steps hdue hcapped, left_map]
          exact hkept.drop hclock
      | false =>
          have hstepped := hkept.step hclock
          rw [drainSteps_step fuel steps hdue hcapped]
          cases hstep : Machine.step clock.machine with
          | error failure after =>
              rw [hstep] at hstepped
              exact hstepped
          | ok _ after =>
              rw [hstep] at hstepped
              exact ih (hkept.spend hstepped hdue) _

namespace KeptByTime

variable (hkept : KeptByTime property)

include hkept

theorem drainFrames (hclock : property clock) (fuel : Nat) (frames : Int) :
    property (left (drainFrames fuel frames clock)) := by
  induction fuel generalizing clock frames with
  | zero => exact hclock
  | succ fuel ih =>
      by_cases hshort : clock.frameBacklog < clock.framePeriod
      · rw [drainFrames_short fuel frames hshort]
        exact hclock
      · have hdue : clock.framePeriod ≤ clock.frameBacklog := by omega
        rw [drainFrames_due fuel frames hdue]
        exact ih (hkept.frame hclock hdue) _

theorem advance (hclock : property clock) (elapsed : Int) :
    property (left (advance elapsed clock)) := by
  by_cases helapsed : elapsed < 0
  · rw [advance_negative helapsed]
    exact hclock
  · have hforward : 0 ≤ elapsed := by omega
    have hsteps : property (left (runCpu elapsed clock)) :=
      hkept.drainSteps (hkept.creditCpu hclock hforward) _ 0
    cases hrun : runCpu elapsed clock with
    | error failure failed =>
        rw [hrun] at hsteps
        rw [advance_of_runCpu_error hforward hrun]
        exact hsteps
    | ok steps settled =>
        rw [hrun] at hsteps
        rw [advance_of_runCpu_ok hforward hrun, left_map]
        exact hkept.drainFrames (hkept.creditFrames hsteps hforward) _ 0

theorem passage (hclock : property clock) (passage : Passage) :
    property (left (passage.action clock)) := by
  rw [passage.action_eq]
  exact hkept.advance (hkept.read hclock _) _

end KeptByTime

end Kept

structure Sound (cpuHz frameHz : Int) (clock : Clock source) : Prop where
  cpuHz_pos : 0 < cpuHz
  frameHz_pos : 0 < frameHz
  cpuPeriod_eq : clock.cpuPeriod = nanosPerSecond / cpuHz
  framePeriod_eq : clock.framePeriod = nanosPerSecond / frameHz
  cpuBacklog_nonneg : 0 ≤ clock.cpuBacklog
  frameBacklog_nonneg : 0 ≤ clock.frameBacklog

namespace Sound

variable {cpuHz frameHz : Int} {clock : Clock source}

omit [ByteSource source] in
theorem dropBacklog (hsound : Sound cpuHz frameHz clock) :
    Sound cpuHz frameHz (left (dropBacklog clock)) := by
  rw [Clock.dropBacklog]
  split
  case isTrue => exact hsound
  case isFalse hperiod => exact { hsound with cpuBacklog_nonneg := Int.emod_nonneg _ hperiod }

theorem keptByTime : KeptByTime (Sound cpuHz frameHz : Clock source → Prop) where
  step hsound := { hsound with }
  spend hsound hdue := { hsound with cpuBacklog_nonneg := Int.sub_nonneg_of_le hdue }
  drop hsound := hsound.dropBacklog
  read hsound _ := { hsound with }
  creditCpu hsound _ helapsed :=
    { hsound with cpuBacklog_nonneg := Int.add_nonneg hsound.cpuBacklog_nonneg helapsed }
  creditFrames hsound _ helapsed :=
    { hsound with frameBacklog_nonneg := Int.add_nonneg hsound.frameBacklog_nonneg helapsed }
  frame hsound hdue := { hsound with frameBacklog_nonneg := Int.sub_nonneg_of_le hdue }

theorem after (hsound : Sound cpuHz frameHz clock) (call : ClockCall) :
    Sound cpuHz frameHz (clock.after call) := by
  cases call with
  | pass passage => exact keptByTime.passage hsound passage
  | restart now =>
      exact { hsound with cpuBacklog_nonneg := le_refl 0, frameBacklog_nonneg := le_refl 0 }
  | addListener listener => exact { hsound with }
  | machine call => exact { hsound with }

end Sound

omit [ByteSource source] in
theorem sound_start {machine : Machine source} {cpuGiven frameGiven stepCap : Option Int}
    {listeners : List String} {now : Int} {clock : Clock source}
    (hstart : start machine cpuGiven frameGiven stepCap listeners now = .ok clock) :
    Sound (rate cpuGiven machine.config.cpuHz) (rate frameGiven machine.config.frameHz) clock := by
  rw [start] at hstart
  split at hstart
  case isTrue => cases hstart
  case isFalse hrates =>
    cases hstart
    exact
      { cpuHz_pos := by omega
        frameHz_pos := by omega
        cpuPeriod_eq := rfl
        framePeriod_eq := rfl
        cpuBacklog_nonneg := le_refl 0
        frameBacklog_nonneg := le_refl 0 }

theorem Paced.sound {cpuHz frameHz : Int} {clock : Clock source}
    (hpaced : Paced cpuHz frameHz clock) : Sound cpuHz frameHz clock := by
  induction hpaced with
  | start hcpuHz hframeHz hstart =>
      have hsound := sound_start hstart
      rwa [hcpuHz, hframeHz] at hsound
  | call _ call ih => exact ih.after call

theorem Paced.afterCalls {cpuHz frameHz : Int} {clock : Clock source}
    (hpaced : Paced cpuHz frameHz clock) (calls : List ClockCall) :
    Paced cpuHz frameHz (clock.afterCalls calls) := by
  induction calls generalizing clock with
  | nil => exact hpaced
  | cons call calls ih => exact ih (hpaced.call call)

end Clock

end Chip8
