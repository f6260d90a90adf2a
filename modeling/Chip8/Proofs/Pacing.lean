import Chip8.Clock.Basic
import Mathlib.Algebra.Order.Group.Unbundled.Int
import Mathlib.Logic.Function.Iterate

/-!
# What one advance does

An advance makes the steps that its backlog has periods for, as far as the cap allows, and then
shows the frames that are due. If a step fails, no frame is shown and the steps made before it are
taken off the backlog.
-/

namespace Chip8

namespace Machine

variable {source : Type} [ByteSource source]

/-- Steps in turn, up to the first that fails. -/
def stepTimes : Nat → Action source Unit
  | 0 => pure ()
  | count + 1 => do
    discard step
    stepTimes count

/-- How many of the steps in turn are made before one fails. -/
def succeeding : Nat → Machine source → Nat
  | 0, _ => 0
  | count + 1, machine =>
    match step machine with
    | .ok _ after => succeeding count after + 1
    | .error _ _ => 0

theorem stepTimes_succ (count : Nat) (machine : Machine source) :
    stepTimes (count + 1) machine =
      match step machine with
      | .ok _ after => stepTimes count after
      | .error failure after => .error failure after := by
  change EStateM.bind (EStateM.map (fun _ => ()) step) (fun _ => stepTimes count) machine = _
  rw [EStateM.bind, EStateM.map]
  cases step machine <;> rfl

theorem succeeding_le (count : Nat) (machine : Machine source) :
    machine.succeeding count ≤ count := by
  induction count generalizing machine with
  | zero => exact le_rfl
  | succ count ih =>
      rw [succeeding]
      split
      · exact Nat.succ_le_succ (ih _)
      · exact Nat.zero_le _

end Machine

namespace Clock

open Machine (stepTimes)

variable {source : Type} {clock : Clock source}

def due (backlog period : Int) : Nat :=
  (backlog / period).toNat

section Due

variable {backlog period : Int} (hperiod : 0 < period)

include hperiod

theorem due_eq_zero_iff : due backlog period = 0 ↔ backlog < period := by
  rw [due, Int.toNat_eq_zero, Int.ediv_le_iff_le_mul hperiod]
  omega

theorem due_sub_mul (count : Nat) :
    due (backlog - count * period) period = due backlog period - count := by
  have hdiv := Int.sub_mul_ediv_right backlog count (ne_of_gt hperiod)
  rw [due, due, hdiv]
  omega

theorem due_sub : due (backlog - period) period = due backlog period - 1 := by
  have hsub : due (backlog - (1 : Nat) * period) period = due backlog period - 1 :=
    due_sub_mul hperiod 1
  rwa [Int.natCast_one, Int.one_mul] at hsub

theorem due_eq (hbacklog : 0 ≤ backlog) : (due backlog period : Int) = backlog / period :=
  Int.toNat_of_nonneg (Int.ediv_nonneg hbacklog (le_of_lt hperiod))

theorem sub_due_mul (hbacklog : 0 ≤ backlog) :
    backlog - due backlog period * period = backlog % period := by
  have hdivision := Int.ediv_mul_add_emod backlog period
  rw [due_eq hperiod hbacklog]
  omega

end Due

/-! ### Frames -/

def frameDue (clock : Clock source) : Nat :=
  due clock.frameBacklog clock.framePeriod

theorem showFrame_iterate (count : Nat) (clock : Clock source) :
    showFrame^[count] clock =
      { clock with
        machine := (showFrame^[count] clock).machine
        frameCount := clock.frameCount + count
        frameBacklog := clock.frameBacklog - count * clock.framePeriod } := by
  induction count generalizing clock with
  | zero => simp
  | succ count ih =>
      rw [Function.iterate_succ_apply, ih]
      simp only [showFrame, Int.natCast_succ, Int.add_mul, Int.one_mul]
      congr 1 <;> omega

theorem drainFrames_short (fuel : Nat) (frames : Int)
    (hshort : clock.frameBacklog < clock.framePeriod) :
    drainFrames (fuel + 1) frames clock = .ok frames clock := by
  rw [drainFrames]
  change (if clock.frameBacklog < clock.framePeriod then pure frames else _ :
    Action source Int) clock = _
  rw [if_pos hshort]
  rfl

theorem drainFrames_due (fuel : Nat) (frames : Int)
    (hdue : clock.framePeriod ≤ clock.frameBacklog) :
    drainFrames (fuel + 1) frames clock = drainFrames fuel (frames + 1) clock.showFrame := by
  rw [drainFrames]
  change (if clock.frameBacklog < clock.framePeriod then _ else _ : Action source Int) clock = _
  rw [if_neg (by omega)]
  rfl

theorem drainFrames_eq (hperiod : 0 < clock.framePeriod) {fuel : Nat} {frames : Int}
    (hfuel : clock.frameDue < fuel) :
    drainFrames fuel frames clock =
      .ok (frames + clock.frameDue) (showFrame^[clock.frameDue] clock) := by
  obtain ⟨fuel, rfl⟩ : ∃ turns, fuel = turns + 1 := ⟨fuel - 1, by omega⟩
  induction hcount : clock.frameDue generalizing clock fuel frames with
  | zero =>
      rw [drainFrames_short fuel frames ((due_eq_zero_iff hperiod).1 hcount)]
      simp
  | succ count ih =>
      have hdue := mt (due_eq_zero_iff hperiod).2 (by rw [← frameDue]; omega)
      have hnext : clock.showFrame.frameDue = count := by
        rw [frameDue, showFrame]
        dsimp only
        rw [due_sub hperiod, ← frameDue, hcount, Nat.add_sub_cancel]
      have hnextPeriod : 0 < clock.showFrame.framePeriod := hperiod
      obtain ⟨turns, rfl⟩ : ∃ turns, fuel = turns + 1 := ⟨fuel - 1, by omega⟩
      rw [drainFrames_due _ frames (by omega), ih hnextPeriod turns (by omega) hnext,
        Function.iterate_succ_apply]
      congr 1
      omega

def creditFrames (clock : Clock source) (elapsed : Int) : Clock source :=
  { clock with frameBacklog := clock.frameBacklog + elapsed }

def frameQuota (clock : Clock source) (elapsed : Int) : Nat :=
  (clock.creditFrames elapsed).frameDue

theorem runFrames_eq (hperiod : 0 < clock.framePeriod) (elapsed : Int) :
    runFrames elapsed clock =
      .ok (clock.frameQuota elapsed)
        (showFrame^[clock.frameQuota elapsed] (clock.creditFrames elapsed)) := by
  have hcredited : 0 < (clock.creditFrames elapsed).framePeriod := hperiod
  have hfuel : (clock.creditFrames elapsed).frameDue <
      drainFuel (clock.creditFrames elapsed).frameBacklog clock.framePeriod := by
    rw [drainFuel, if_neg (by omega)]
    exact Nat.lt_succ_self _
  refine (drainFrames_eq hcredited hfuel).trans ?_
  rw [Int.zero_add, frameQuota]

/-! ### Steps -/

def cpuDue (clock : Clock source) : Nat :=
  due clock.cpuBacklog clock.cpuPeriod

/-- The steps that are left to an advance which has made `steps`. -/
def remaining (clock : Clock source) (steps : Int) : Nat :=
  match clock.stepCap with
  | none => clock.cpuDue
  | some cap => min clock.cpuDue (cap - steps).toNat

theorem remaining_eq_zero_iff (hperiod : 0 < clock.cpuPeriod) (steps : Int) :
    clock.remaining steps = 0 ↔
      clock.cpuBacklog < clock.cpuPeriod ∨ clock.capped steps = true := by
  rw [remaining, capped, cpuDue, ← due_eq_zero_iff hperiod]
  cases clock.stepCap with
  | none => simp
  | some cap =>
      simp only [Option.any_some, decide_eq_true_eq]
      omega

theorem remaining_lt_stepFuel (hperiod : 0 < clock.cpuPeriod) :
    clock.remaining 0 < clock.stepFuel := by
  rw [remaining, stepFuel, drainFuel, if_neg (by omega)]
  cases clock.stepCap with
  | none => exact Nat.lt_succ_self _
  | some cap =>
      dsimp only
      omega

/-- The clock when `count` steps have left the machine and no whole period stays in the backlog. -/
def settle (clock : Clock source) (machine : Machine source) (count : Nat) : Clock source :=
  { clock with
    machine := if count < clock.cpuDue then noteDropped machine (clock.cpuDue - count) else machine
    cpuBacklog := clock.cpuBacklog % clock.cpuPeriod }

/-- The clock when a step has failed and left the machine, after `count` that have not. -/
def interrupt (clock : Clock source) (machine : Machine source) (count : Nat) : Clock source :=
  { clock with machine, cpuBacklog := clock.cpuBacklog - count * clock.cpuPeriod }

theorem settle_zero_of_short (hperiod : 0 < clock.cpuPeriod) (hbacklog : 0 ≤ clock.cpuBacklog)
    (hshort : clock.cpuBacklog < clock.cpuPeriod) : clock.settle clock.machine 0 = clock := by
  have hdue : clock.cpuDue = 0 := (due_eq_zero_iff hperiod).2 hshort
  have hrest := Int.emod_eq_of_lt hbacklog hshort
  simp [settle, hdue, hrest]

theorem dropBacklog_eq_settle (hperiod : 0 < clock.cpuPeriod) (hbacklog : 0 ≤ clock.cpuBacklog)
    (hdue : clock.cpuPeriod ≤ clock.cpuBacklog) :
    dropBacklog clock = .ok () (clock.settle clock.machine 0) := by
  have hpositive : 0 < clock.cpuDue :=
    Nat.pos_of_ne_zero fun hzero => absurd ((due_eq_zero_iff hperiod).1 hzero) (by omega)
  have hdropped : (clock.cpuDue : Int) = clock.cpuBacklog / clock.cpuPeriod :=
    due_eq hperiod hbacklog
  rw [dropBacklog, if_neg (by omega), settle, if_pos hpositive, hdropped]
  simp

def stepped (clock : Clock source) (after : Machine source) : Clock source :=
  spendCpuPeriod { clock with machine := after }

section Stepped

variable (hperiod : 0 < clock.cpuPeriod) (after machine : Machine source) (count : Nat)

include hperiod

theorem cpuDue_stepped : (clock.stepped after).cpuDue = clock.cpuDue - 1 :=
  due_sub hperiod

theorem remaining_stepped (steps : Int) :
    (clock.stepped after).remaining (steps + 1) = clock.remaining steps - 1 := by
  rw [remaining, remaining, cpuDue_stepped hperiod]
  change (match clock.stepCap with
    | none => _
    | some cap => _) = _
  cases clock.stepCap with
  | none => rfl
  | some cap =>
      dsimp only
      omega

theorem settle_stepped (hdue : clock.cpuDue ≠ 0) :
    (clock.stepped after).settle machine count = clock.settle machine (count + 1) := by
  rw [settle, settle, cpuDue_stepped hperiod]
  have hrest : (clock.cpuBacklog - clock.cpuPeriod) % clock.cpuPeriod =
      clock.cpuBacklog % clock.cpuPeriod :=
    Int.sub_emod_right _ _
  have hdropped : ((clock.cpuDue - 1 : Nat) : Int) - count = clock.cpuDue - (count + 1 : Nat) := by
    omega
  have hless : count < clock.cpuDue - 1 ↔ count + 1 < clock.cpuDue := by omega
  simp only [stepped, spendCpuPeriod, hrest, hdropped, hless]

omit hperiod in
theorem interrupt_stepped :
    (clock.stepped after).interrupt machine count = clock.interrupt machine (count + 1) := by
  have hrest : clock.cpuBacklog - clock.cpuPeriod - count * clock.cpuPeriod =
      clock.cpuBacklog - (count + 1 : Nat) * clock.cpuPeriod := by
    rw [Int.natCast_succ, Int.add_mul, Int.one_mul]
    omega
  simp only [interrupt, stepped, spendCpuPeriod, hrest]

end Stepped

def creditCpu (clock : Clock source) (elapsed : Int) : Clock source :=
  { clock with cpuBacklog := clock.cpuBacklog + elapsed }

/-- The steps that an advance makes unless one fails. -/
def quota (clock : Clock source) (elapsed : Int) : Nat :=
  (clock.creditCpu elapsed).remaining 0

/-- The clock when the steps of an advance are over, with the machine as they have left it. -/
def settled (clock : Clock source) (elapsed : Int) (after : Machine source) : Clock source :=
  (clock.creditCpu elapsed).settle after (clock.quota elapsed)

theorem quota_of_uncapped (huncapped : clock.stepCap = none) (elapsed : Int) :
    clock.quota elapsed = due (clock.cpuBacklog + elapsed) clock.cpuPeriod := by
  rw [quota, remaining, creditCpu]
  simp only [huncapped]
  rfl

theorem quota_of_capped {cap : Int} (hcap : clock.stepCap = some cap) (hnonneg : 0 ≤ cap)
    (hperiod : 0 < clock.cpuPeriod) {elapsed : Int} (hbacklog : 0 ≤ clock.cpuBacklog + elapsed) :
    (clock.quota elapsed : Int) = min cap ((clock.cpuBacklog + elapsed) / clock.cpuPeriod) := by
  have hdue := due_eq hperiod hbacklog
  rw [quota, remaining, creditCpu]
  simp only [hcap]
  change ((min (due (clock.cpuBacklog + elapsed) clock.cpuPeriod) (cap - 0).toNat : Nat) : Int) = _
  omega

variable [ByteSource source]

section Turns

variable (fuel : Nat) (steps : Int)

theorem drainSteps_short (hshort : clock.cpuBacklog < clock.cpuPeriod) :
    drainSteps (fuel + 1) steps clock = .ok steps clock := by
  rw [drainSteps]
  change
    (if clock.cpuBacklog < clock.cpuPeriod then pure steps else _ : Action source Int) clock = _
  rw [if_pos hshort]
  rfl

theorem drainSteps_capped (hdue : clock.cpuPeriod ≤ clock.cpuBacklog)
    (hcapped : clock.capped steps = true) :
    drainSteps (fuel + 1) steps clock = EStateM.map (fun _ => steps) dropBacklog clock := by
  rw [drainSteps]
  change (if clock.cpuBacklog < clock.cpuPeriod then _ else
    if clock.capped steps = true then _ else _ : Action source Int) clock = _
  rw [if_neg (by omega), if_pos hcapped]
  rfl

theorem drainSteps_step (hdue : clock.cpuPeriod ≤ clock.cpuBacklog)
    (huncapped : clock.capped steps = false) :
    drainSteps (fuel + 1) steps clock =
      match Machine.step clock.machine with
      | .ok _ after => drainSteps fuel (steps + 1) (clock.stepped after)
      | .error failure after => .error failure { clock with machine := after } := by
  rw [drainSteps]
  change (if clock.cpuBacklog < clock.cpuPeriod then _ else
    if clock.capped steps = true then _ else _ : Action source Int) clock = _
  rw [if_neg (by omega), if_neg (by simp [huncapped])]
  change EStateM.bind (EStateM.map (fun _ => ()) (onMachine Machine.step)) _ clock = _
  rw [EStateM.bind, EStateM.map, onMachine]
  cases Machine.step clock.machine <;> rfl

end Turns

/-- The loop over the steps, from any turn of it on: the steps that are left are made in turn. -/
theorem drainSteps_eq (hperiod : 0 < clock.cpuPeriod) (hbacklog : 0 ≤ clock.cpuBacklog)
    {fuel count : Nat} {steps : Int} (hcount : clock.remaining steps = count)
    (hfuel : count < fuel) :
    drainSteps fuel steps clock =
      match stepTimes count clock.machine with
      | .ok _ after => .ok (steps + count) (clock.settle after count)
      | .error failure after =>
        .error failure (clock.interrupt after (clock.machine.succeeding count)) := by
  obtain ⟨fuel, rfl⟩ : ∃ turns, fuel = turns + 1 := ⟨fuel - 1, by omega⟩
  -- The induction is on the steps that are left: the fuel exceeds them at every turn.
  induction count generalizing clock fuel steps with
  | zero =>
      change _ = EStateM.Result.ok (steps + 0) (clock.settle clock.machine 0)
      rw [Int.add_zero]
      by_cases hshort : clock.cpuBacklog < clock.cpuPeriod
      · rw [drainSteps_short fuel steps hshort, settle_zero_of_short hperiod hbacklog hshort]
      · have hcapped := ((remaining_eq_zero_iff hperiod steps).1 hcount).resolve_left hshort
        have hdue : clock.cpuPeriod ≤ clock.cpuBacklog := by omega
        rw [drainSteps_capped fuel steps hdue hcapped, EStateM.map,
          dropBacklog_eq_settle hperiod hbacklog hdue]
  | succ count ih =>
      have hleft := mt (remaining_eq_zero_iff hperiod steps).2 (by omega)
      obtain ⟨hdue, huncapped⟩ := not_or.1 hleft
      rw [drainSteps_step fuel steps (by omega) (by simpa using huncapped), Machine.stepTimes_succ,
        Machine.succeeding]
      cases Machine.step clock.machine with
      | error failure after => simp [interrupt]
      | ok _ after =>
          have hnext : (clock.stepped after).remaining (steps + 1) = count := by
            rw [remaining_stepped hperiod, hcount, Nat.add_sub_cancel]
          have hcpuDue : clock.cpuDue ≠ 0 := mt (due_eq_zero_iff hperiod).1 hdue
          have hnextPeriod : 0 < (clock.stepped after).cpuPeriod := hperiod
          have hrest : 0 ≤ (clock.stepped after).cpuBacklog := by
            change 0 ≤ clock.cpuBacklog - clock.cpuPeriod
            omega
          obtain ⟨turns, rfl⟩ : ∃ turns, fuel = turns + 1 := ⟨fuel - 1, by omega⟩
          refine (ih hnextPeriod hrest hnext turns (by omega)).trans ?_
          -- What remains is to count the step just made into the result of the others.
          change (match stepTimes count after with
            | .ok _ machine => _
            | .error failure machine => _) = _
          dsimp only
          cases stepTimes count after with
          | ok _ machine =>
              dsimp only
              rw [settle_stepped hperiod _ _ _ hcpuDue]
              congr 1
              omega
          | error failure machine =>
              dsimp only
              rw [interrupt_stepped]
              rfl

/-- The clock when an advance has failed, with the machine as the failing step has left it. -/
def abandon (clock : Clock source) (elapsed : Int) (after : Machine source) : Clock source :=
  (clock.creditCpu elapsed).interrupt after (clock.machine.succeeding (clock.quota elapsed))

theorem runCpu_eq (hperiod : 0 < clock.cpuPeriod) {elapsed : Int}
    (hbacklog : 0 ≤ clock.cpuBacklog + elapsed) :
    runCpu elapsed clock =
      match stepTimes (clock.quota elapsed) clock.machine with
      | .ok _ after => .ok (clock.quota elapsed) (clock.settled elapsed after)
      | .error failure after => .error failure (clock.abandon elapsed after) := by
  have hcredited : 0 < (clock.creditCpu elapsed).cpuPeriod := hperiod
  have hdrain := drainSteps_eq hcredited hbacklog rfl (remaining_lt_stepFuel hcredited)
  rw [Int.zero_add] at hdrain
  exact hdrain

/-! ### Steps and then frames -/

/-- The clock when an advance is over, with the machine as the steps have left it. -/
def finish (clock : Clock source) (elapsed : Int) (after : Machine source) : Clock source :=
  showFrame^[clock.frameQuota elapsed] ((clock.settled elapsed after).creditFrames elapsed)

omit [ByteSource source] in
theorem finish_of_uncapped (huncapped : clock.stepCap = none) (elapsed : Int)
    (after : Machine source) :
    clock.finish elapsed after =
      showFrame^[clock.frameQuota elapsed]
        { clock with
          machine := after
          cpuBacklog := (clock.cpuBacklog + elapsed) % clock.cpuPeriod
          frameBacklog := clock.frameBacklog + elapsed } := by
  have hall : ¬ clock.quota elapsed < (clock.creditCpu elapsed).cpuDue := by
    rw [quota_of_uncapped huncapped]
    exact Nat.lt_irrefl _
  rw [finish, settled, settle, if_neg hall]
  rfl

omit [ByteSource source] in
theorem exists_finish_eq (hframe : 0 < clock.framePeriod) {elapsed : Int}
    (hbacklog : 0 ≤ clock.frameBacklog + elapsed) (after : Machine source) :
    ∃ machine, clock.finish elapsed after =
      { clock with
        machine
        frameCount := clock.frameCount + clock.frameQuota elapsed
        cpuBacklog := (clock.cpuBacklog + elapsed) % clock.cpuPeriod
        frameBacklog := (clock.frameBacklog + elapsed) % clock.framePeriod } := by
  have hrest : clock.frameBacklog + elapsed - clock.frameQuota elapsed * clock.framePeriod =
      (clock.frameBacklog + elapsed) % clock.framePeriod :=
    sub_due_mul hframe hbacklog
  rw [finish, showFrame_iterate, ← hrest]
  exact ⟨_, rfl⟩

theorem advance_negative {elapsed : Int} (helapsed : elapsed < 0) :
    advance elapsed clock = .error .negativeElapsed clock := by
  rw [advance, if_pos helapsed]
  rfl

section RunCpu

variable {elapsed : Int} (helapsed : 0 ≤ elapsed)

include helapsed

theorem advance_of_runCpu_error {failure : Failure} {failed : Clock source}
    (hrun : runCpu elapsed clock = .error failure failed) :
    advance elapsed clock = .error failure failed := by
  rw [advance, if_neg (by omega)]
  change EStateM.bind (runCpu elapsed) _ clock = _
  rw [EStateM.bind, hrun]

theorem advance_of_runCpu_ok {steps : Int} {settled : Clock source}
    (hrun : runCpu elapsed clock = .ok steps settled) :
    advance elapsed clock =
      EStateM.map (fun frames => { steps, frames : Tick }) (runFrames elapsed) settled := by
  rw [advance, if_neg (by omega)]
  change EStateM.bind (runCpu elapsed) _ clock = _
  rw [EStateM.bind, hrun]
  rfl

end RunCpu

/-- An advance that fails has made some of its steps and shown none of its frames. -/
theorem advance_eq (hcpu : 0 < clock.cpuPeriod) (hframe : 0 < clock.framePeriod)
    (hbacklog : 0 ≤ clock.cpuBacklog) {elapsed : Int} (helapsed : 0 ≤ elapsed) :
    advance elapsed clock =
      match stepTimes (clock.quota elapsed) clock.machine with
      | .ok _ after =>
        .ok { steps := clock.quota elapsed, frames := clock.frameQuota elapsed }
          (clock.finish elapsed after)
      | .error failure after => .error failure (clock.abandon elapsed after) := by
  have hrun := runCpu_eq hcpu (Int.add_nonneg hbacklog helapsed)
  cases hsteps : stepTimes (clock.quota elapsed) clock.machine with
  | error failure after =>
      rw [hsteps] at hrun
      exact advance_of_runCpu_error helapsed hrun
  | ok _ after =>
      rw [hsteps] at hrun
      have hsettled : 0 < (clock.settled elapsed after).framePeriod := hframe
      rw [advance_of_runCpu_ok helapsed hrun, EStateM.map, runFrames_eq hsettled elapsed]
      rfl

end Clock

end Chip8
