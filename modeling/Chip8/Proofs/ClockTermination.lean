import Chip8.Proofs.ClockCalls
import Chip8.Proofs.Cycle

/-!
# When an advance ends

A rate above one for each nanosecond rounds to a period of zero, and a period of zero uses up no
backlog. At such a rate no advance returns, though a clock can be started at it: the loops go on for
ever, or stop at the division by the period if the steps are capped.
-/

namespace Chip8

namespace Machine

variable {source : Type} [ByteSource source] {machine : Machine source}

/-- No step fails, however many are made. -/
def Tireless (machine : Machine source) : Prop :=
  ∀ count, ∃ after, stepTimes count machine = .ok () after

theorem Tireless.step (htireless : machine.Tireless) :
    ∃ value after, step machine = .ok value after ∧ after.Tireless := by
  cases hstep : Machine.step machine with
  | error failure after =>
      obtain ⟨made, hmade⟩ := htireless 1
      rw [stepTimes_succ, hstep] at hmade
      cases hmade
  | ok value after =>
      refine ⟨value, after, rfl, fun count => ?_⟩
      obtain ⟨made, hmade⟩ := htireless (count + 1)
      rw [stepTimes_succ, hstep] at hmade
      exact ⟨made, hmade⟩

section Waiting

variable (hrunning : machine.state.halted = false) (hwaiting : machine.state.awaitingKey = true)
  (hpending : machine.keypad.pending = none)

include hrunning hwaiting hpending

theorem stepTimes_of_waiting (count : Nat) : stepTimes count machine = .ok () machine := by
  induction count with
  | zero => rfl
  | succ count ih =>
      rw [stepTimes_succ, step_of_waiting hrunning hwaiting hpending]
      exact ih

theorem tireless_of_waiting : machine.Tireless :=
  fun count => ⟨machine, stepTimes_of_waiting hrunning hwaiting hpending count⟩

end Waiting

end Machine

namespace Clock

variable {source : Type} {clock : Clock source} {cpuHz frameHz : Int}

theorem period_pos_iff {hz : Int} (hhz : 0 < hz) :
    0 < nanosPerSecond / hz ↔ hz ≤ nanosPerSecond := by
  have hle := Int.le_ediv_iff_mul_le (a := 1) (b := nanosPerSecond) hhz
  omega

theorem period_eq_zero {hz : Int} (hhz : nanosPerSecond < hz) : nanosPerSecond / hz = 0 :=
  Int.ediv_eq_zero_of_lt (by decide) hhz

theorem drainFrames_endless (hperiod : clock.framePeriod = 0) (hbacklog : 0 ≤ clock.frameBacklog)
    (fuel : Nat) (frames : Int) :
    ∃ left, drainFrames fuel frames clock = .error .endless left := by
  induction fuel generalizing clock frames with
  | zero => exact ⟨clock, rfl⟩
  | succ fuel ih =>
      have hnextPeriod : clock.showFrame.framePeriod = 0 := hperiod
      have hrest : 0 ≤ clock.showFrame.frameBacklog := by
        change 0 ≤ clock.frameBacklog - clock.framePeriod
        omega
      rw [drainFrames_due fuel frames (by omega)]
      exact ih hnextPeriod hrest (frames + 1)

variable [ByteSource source]

/-- No step ends the loop over the steps: none fails and none uses up any of the backlog. -/
structure Stalled (clock : Clock source) : Prop where
  tireless : clock.machine.Tireless
  period_eq : clock.cpuPeriod = 0
  backlog_nonneg : 0 ≤ clock.cpuBacklog

theorem Stalled.step (hstalled : clock.Stalled) (fuel : Nat) {steps : Int}
    (huncapped : clock.capped steps = false) :
    ∃ next : Clock source, next.Stalled ∧ next.stepCap = clock.stepCap ∧
      drainSteps (fuel + 1) steps clock = drainSteps fuel (steps + 1) next := by
  obtain ⟨htireless, hperiod, hbacklog⟩ := hstalled
  obtain ⟨value, after, hstep, hafter⟩ := htireless.step
  have hrest : 0 ≤ clock.cpuBacklog - clock.cpuPeriod := by omega
  refine ⟨clock.stepped after, ⟨hafter, hperiod, hrest⟩, rfl, ?_⟩
  rw [drainSteps_step fuel steps (by omega) huncapped, hstep]

theorem Stalled.endless (hstalled : clock.Stalled) (huncapped : clock.stepCap = none) (fuel : Nat)
    (steps : Int) : ∃ left, drainSteps fuel steps clock = .error .endless left := by
  induction fuel generalizing clock steps with
  | zero => exact ⟨clock, rfl⟩
  | succ fuel ih =>
      have hturn : clock.capped steps = false := by rw [capped, huncapped, Option.any_none]
      obtain ⟨next, hnext, hcap, hdrain⟩ := hstalled.step fuel hturn
      rw [hdrain]
      exact ih hnext (hcap.trans huncapped) (steps + 1)

theorem Stalled.divisionByZero (hstalled : clock.Stalled) {cap : Int}
    (hcap : clock.stepCap = some cap) {fuel : Nat} {steps : Int}
    (hfuel : (cap - steps).toNat < fuel) :
    ∃ left, drainSteps fuel steps clock = .error .divisionByZero left := by
  induction fuel generalizing clock steps with
  | zero => omega
  | succ fuel ih =>
      cases hturn : clock.capped steps with
      | true =>
          have hdue : clock.cpuPeriod ≤ clock.cpuBacklog := by
            rw [hstalled.period_eq]
            exact hstalled.backlog_nonneg
          rw [drainSteps_capped fuel steps hdue hturn, EStateM.map, dropBacklog,
            if_pos hstalled.period_eq]
          exact ⟨clock, rfl⟩
      | false =>
          -- The fuel outlasts the cap: each turn takes one off both.
          have hmore : steps < cap := by simpa [capped, hcap] using hturn
          obtain ⟨next, hnext, hnextCap, hdrain⟩ := hstalled.step fuel hturn
          rw [hdrain]
          exact ih hnext (hnextCap.trans hcap) (by omega)

section Advance

variable {elapsed : Int} (helapsed : 0 ≤ elapsed)

include helapsed

theorem advance_endless (hstalled : (clock.creditCpu elapsed).Stalled)
    (huncapped : clock.stepCap = none) : ∃ left, advance elapsed clock = .error .endless left := by
  obtain ⟨left, hrun⟩ := hstalled.endless huncapped (clock.creditCpu elapsed).stepFuel 0
  exact ⟨left, advance_of_runCpu_error helapsed hrun⟩

theorem advance_divisionByZero (hstalled : (clock.creditCpu elapsed).Stalled) {cap : Int}
    (hcap : clock.stepCap = some cap) :
    ∃ left, advance elapsed clock = .error .divisionByZero left := by
  have hfuel : (cap - 0).toNat < (clock.creditCpu elapsed).stepFuel := by
    rw [stepFuel, creditCpu]
    simp [hcap]
  obtain ⟨left, hrun⟩ := hstalled.divisionByZero hcap hfuel
  exact ⟨left, advance_of_runCpu_error helapsed hrun⟩

theorem exists_advance_error (hstalled : (clock.creditCpu elapsed).Stalled) :
    ∃ failure left, advance elapsed clock = .error failure left := by
  cases hcap : clock.stepCap with
  | none => exact ⟨_, advance_endless helapsed hstalled hcap⟩
  | some cap => exact ⟨_, advance_divisionByZero helapsed hstalled hcap⟩

section Frames

variable (hframe : clock.framePeriod = 0) (hframeBacklog : 0 ≤ clock.frameBacklog)

include hframe hframeBacklog

omit [ByteSource source] in
theorem drainFrames_settled_endless (after : Machine source) (fuel : Nat) :
    ∃ left, drainFrames fuel 0 ((clock.settled elapsed after).creditFrames elapsed) =
      .error .endless left := by
  have hperiod : ((clock.settled elapsed after).creditFrames elapsed).framePeriod = 0 := hframe
  have hdue : 0 ≤ ((clock.settled elapsed after).creditFrames elapsed).frameBacklog :=
    Int.add_nonneg hframeBacklog helapsed
  exact drainFrames_endless hperiod hdue fuel 0

theorem advance_of_framePeriod_zero (hcpu : 0 < clock.cpuPeriod)
    (hbacklog : 0 ≤ clock.cpuBacklog) (htireless : clock.machine.Tireless) :
    ∃ left, advance elapsed clock = .error .endless left := by
  obtain ⟨after, hmade⟩ := htireless (clock.quota elapsed)
  have hrun := runCpu_eq hcpu (Int.add_nonneg hbacklog helapsed)
  rw [hmade] at hrun
  have hendless : ∃ left, runFrames elapsed (clock.settled elapsed after) = .error .endless left :=
    drainFrames_settled_endless helapsed hframe hframeBacklog after _
  obtain ⟨left, hframes⟩ := hendless
  refine ⟨left, ?_⟩
  rw [advance_of_runCpu_ok helapsed hrun, EStateM.map, hframes]

end Frames

theorem exists_advance_ok (hcpu : 0 < clock.cpuPeriod) (hframe : 0 < clock.framePeriod)
    (hbacklog : 0 ≤ clock.cpuBacklog) (htireless : clock.machine.Tireless) :
    ∃ tick after, advance elapsed clock = .ok tick after := by
  obtain ⟨after, hmade⟩ := htireless (clock.quota elapsed)
  have hadvance := advance_eq hcpu hframe hbacklog helapsed
  rw [hmade] at hadvance
  exact ⟨_, _, hadvance⟩

end Advance

/-- An advance returns at no rate above one for each nanosecond, and at all others. Above that the
loop over the frames goes on for ever, and so does that over the steps unless they are capped. -/
theorem Paced.advance_returns_iff (hpaced : Paced cpuHz frameHz clock)
    (htireless : clock.machine.Tireless) {elapsed : Int} (helapsed : 0 ≤ elapsed) :
    ((∃ tick after, advance elapsed clock = .ok tick after) ↔
      cpuHz ≤ nanosPerSecond ∧ frameHz ≤ nanosPerSecond) ∧
    (nanosPerSecond < frameHz → ∀ after fuel,
      ∃ left, drainFrames fuel 0 ((clock.settled elapsed after).creditFrames elapsed) =
        .error .endless left) ∧
    (nanosPerSecond < cpuHz → clock.stepCap = none → ∀ fuel,
      ∃ left, drainSteps fuel 0 (clock.creditCpu elapsed) = .error .endless left) ∧
    (nanosPerSecond < cpuHz → clock.stepCap ≠ none →
      ∃ left, advance elapsed clock = .error .divisionByZero left) := by
  have hsound := hpaced.sound
  have hframeBacklog := hsound.frameBacklog_nonneg
  have hstalled : nanosPerSecond < cpuHz → (clock.creditCpu elapsed).Stalled := fun hfast =>
    { tireless := htireless
      period_eq := hsound.cpuPeriod_eq.trans (period_eq_zero hfast)
      backlog_nonneg := Int.add_nonneg hsound.cpuBacklog_nonneg helapsed }
  have hframeless : nanosPerSecond < frameHz → clock.framePeriod = 0 := fun hfast =>
    hsound.framePeriod_eq.trans (period_eq_zero hfast)
  have hcpuPeriod : cpuHz ≤ nanosPerSecond → 0 < clock.cpuPeriod := fun hslow => by
    rw [hsound.cpuPeriod_eq]
    exact (period_pos_iff hsound.cpuHz_pos).2 hslow
  refine ⟨⟨?_, ?_⟩, ?_, ?_, ?_⟩
  · rintro ⟨tick, after, hadvance⟩
    have hslow : cpuHz ≤ nanosPerSecond := by
      by_contra hfast
      obtain ⟨failure, left, herror⟩ := exists_advance_error helapsed (hstalled (by omega))
      rw [herror] at hadvance
      cases hadvance
    refine ⟨hslow, ?_⟩
    by_contra hfast
    obtain ⟨left, herror⟩ := advance_of_framePeriod_zero helapsed (hframeless (by omega))
      hframeBacklog (hcpuPeriod hslow) hsound.cpuBacklog_nonneg htireless
    rw [herror] at hadvance
    cases hadvance
  · rintro ⟨hslow, hframeSlow⟩
    have hframe : 0 < clock.framePeriod := by
      rw [hsound.framePeriod_eq]
      exact (period_pos_iff hsound.frameHz_pos).2 hframeSlow
    exact exists_advance_ok helapsed (hcpuPeriod hslow) hframe hsound.cpuBacklog_nonneg htireless
  · intro hfast after fuel
    exact drainFrames_settled_endless helapsed (hframeless hfast) hframeBacklog after fuel
  · intro hfast huncapped fuel
    exact (hstalled hfast).endless huncapped fuel 0
  · intro hfast hcapped
    obtain ⟨cap, hcap⟩ := Option.ne_none_iff_exists'.1 hcapped
    exact advance_divisionByZero helapsed (hstalled hfast) hcap

def waitingMachine : Machine ByteCycle :=
  (Machine.create {} (ByteCycle.mk #[] 0)).afterCalls [.load [0xF0, 0x0A], .step]

theorem tireless_waitingMachine : waitingMachine.Tireless :=
  Machine.tireless_of_waiting (by decide +kernel) (by decide +kernel) (by decide +kernel)

/-- A clock at 2 GHz and 60 Hz. -/
def fastClock (machine : Machine source) (stepCap : Option Int) : Clock source where
  machine
  cpuPeriod := 0
  framePeriod := 16666666
  stepCap
  frameCount := 0
  listeners := []
  last := 0
  cpuBacklog := 0
  frameBacklog := 0

theorem paced_fastClock (machine : Machine source) (stepCap : Option Int) :
    Paced 2000000000 60 (fastClock machine stepCap) := by
  have hstart : start machine (some 2000000000) (some 60) stepCap [] 0 =
      .ok (fastClock machine stepCap) := rfl
  exact .start rfl rfl hstart

theorem advance_fastClock (machine : Machine source) :
    advance 0 (fastClock machine (some 0)) =
      .error .divisionByZero (fastClock machine (some 0)) :=
  rfl

theorem tireless_fastClock {machine : Machine source} (htireless : machine.Tireless)
    (stepCap : Option Int) : (fastClock machine stepCap).machine.Tireless :=
  htireless

theorem advance_returns_fastClock :
    (¬ ∃ tick after, advance 0 (fastClock waitingMachine none) = .ok tick after) ∧
      ∀ fuel, ∃ left, drainSteps fuel 0 ((fastClock waitingMachine none).creditCpu 0) =
        .error .endless left := by
  have huncapped : (fastClock waitingMachine none).stepCap = none := by rw [fastClock]
  obtain ⟨hreturns, -, hendless, -⟩ :=
    (paced_fastClock waitingMachine none).advance_returns_iff
      (tireless_fastClock tireless_waitingMachine none) (le_refl 0)
  refine ⟨fun hadvance => ?_, hendless (by decide) huncapped⟩
  obtain ⟨hslow, -⟩ := hreturns.1 hadvance
  exact absurd hslow (by decide)

/-- An advance by no time at all can fail, though no step of the machine does. -/
theorem exists_advance_divisionByZero :
    ∃ clock after : Clock ByteCycle, Paced 2000000000 60 clock ∧ clock.machine.Tireless ∧
      clock.stepCap = some 0 ∧ advance 0 clock = .error .divisionByZero after := by
  refine ⟨fastClock waitingMachine (some 0), _, paced_fastClock _ _,
    tireless_fastClock tireless_waitingMachine _, ?_, advance_fastClock waitingMachine⟩
  rw [fastClock]

end Clock

end Chip8
