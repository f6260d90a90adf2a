import Chip8.Proofs.ClockCalls

/-!
# Where the time goes

The time that is let pass on a clock is either spent on steps or still in the backlog for them. It
is spent on frames or in the backlog for frames only if the passage returned: a step that fails
keeps the whole of its passage from the frames.
-/

namespace Chip8

/-- What a host has seen of the time it let pass on a clock. -/
structure Ledger where
  elapsed : Int
  /-- The time of the passages that failed. -/
  lost : Int
  steps : Int
  deriving DecidableEq

namespace Ledger

variable {source : Type} [ByteSource source]

def empty : Ledger := { elapsed := 0, lost := 0, steps := 0 }

def pass (ledger : Ledger) (clock : Clock source) (passage : Passage) : Ledger :=
  let gap := passage.gap clock.last
  if gap < 0 then ledger
  else
    match passage.action clock with
    | .ok tick _ =>
      { elapsed := ledger.elapsed + gap, lost := ledger.lost, steps := ledger.steps + tick.steps }
    | .error _ _ =>
      { elapsed := ledger.elapsed + gap
        lost := ledger.lost + gap
        steps := ledger.steps + clock.machine.succeeding (clock.quota gap) }

def after (ledger : Ledger) (clock : Clock source) : ClockCall → Ledger
  | .pass passage => ledger.pass clock passage
  | _ => ledger

def ofCalls (ledger : Ledger) (clock : Clock source) : List ClockCall → Ledger
  | [] => ledger
  | call :: calls => (ledger.after clock call).ofCalls (clock.after call) calls

end Ledger

namespace Clock

open Machine (stepTimes)

variable {source : Type} {clock : Clock source} {ledger : Ledger}

/-- The clock accounts for the time of the ledger, apart from the time that the frames lost. -/
structure Balances (ledger : Ledger) (clock : Clock source) : Prop where
  uncapped : clock.stepCap = none
  cpuPeriod_pos : 0 < clock.cpuPeriod
  framePeriod_pos : 0 < clock.framePeriod
  cpuBacklog_nonneg : 0 ≤ clock.cpuBacklog
  frameBacklog_nonneg : 0 ≤ clock.frameBacklog
  steps_eq : ledger.steps * clock.cpuPeriod + clock.cpuBacklog = ledger.elapsed
  frames_eq : clock.frameCount * clock.framePeriod + clock.frameBacklog =
    ledger.elapsed - ledger.lost

theorem Balances.finish (hbalances : Balances ledger clock) {elapsed : Int}
    (helapsed : 0 ≤ elapsed) (after : Machine source) :
    Balances
      { elapsed := ledger.elapsed + elapsed
        lost := ledger.lost
        steps := ledger.steps + clock.quota elapsed }
      (clock.finish elapsed after) := by
  obtain ⟨huncapped, hcpu, hframe, hcpuBacklog, hframeBacklog, hsteps, hframes⟩ := hbalances
  have hdue := Int.add_nonneg hcpuBacklog helapsed
  have hframeDue := Int.add_nonneg hframeBacklog helapsed
  have hmade := sub_due_mul hcpu hdue
  have hshown : clock.frameBacklog + elapsed - clock.frameQuota elapsed * clock.framePeriod =
      (clock.frameBacklog + elapsed) % clock.framePeriod := sub_due_mul hframe hframeDue
  obtain ⟨machine, hfinish⟩ := exists_finish_eq hframe hframeDue after
  rw [hfinish, quota_of_uncapped huncapped]
  exact
    { uncapped := huncapped
      cpuPeriod_pos := hcpu
      framePeriod_pos := hframe
      cpuBacklog_nonneg := Int.emod_nonneg _ (ne_of_gt hcpu)
      frameBacklog_nonneg := Int.emod_nonneg _ (ne_of_gt hframe)
      steps_eq := by
        dsimp only
        rw [Int.add_mul]
        omega
      frames_eq := by
        dsimp only
        rw [Int.add_mul]
        omega }

variable [ByteSource source]

theorem Balances.abandon (hbalances : Balances ledger clock) {elapsed : Int}
    (helapsed : 0 ≤ elapsed) (after : Machine source) :
    Balances
      { elapsed := ledger.elapsed + elapsed
        lost := ledger.lost + elapsed
        steps := ledger.steps + clock.machine.succeeding (clock.quota elapsed) }
      (clock.abandon elapsed after) := by
  obtain ⟨huncapped, hcpu, hframe, hcpuBacklog, hframeBacklog, hsteps, hframes⟩ := hbalances
  have hdue := Int.add_nonneg hcpuBacklog helapsed
  -- Of the steps that were due, those before the failing one are paid for.
  have hmade := sub_due_mul hcpu hdue
  have hrest := Int.emod_nonneg (clock.cpuBacklog + elapsed) (ne_of_gt hcpu)
  have hle := Machine.succeeding_le (clock.quota elapsed) clock.machine
  have hpaid : (clock.machine.succeeding (clock.quota elapsed) : Int) * clock.cpuPeriod ≤
      due (clock.cpuBacklog + elapsed) clock.cpuPeriod * clock.cpuPeriod := by
    rw [← quota_of_uncapped huncapped]
    exact Int.mul_le_mul_of_nonneg_right (Int.ofNat_le.2 hle) (le_of_lt hcpu)
  exact
    { uncapped := huncapped
      cpuPeriod_pos := hcpu
      framePeriod_pos := hframe
      cpuBacklog_nonneg := by
        change 0 ≤ clock.cpuBacklog + elapsed - _ * clock.cpuPeriod
        omega
      frameBacklog_nonneg := hframeBacklog
      steps_eq := by
        change (ledger.steps + _) * clock.cpuPeriod +
          (clock.cpuBacklog + elapsed - _ * clock.cpuPeriod) = ledger.elapsed + elapsed
        rw [Int.add_mul]
        omega
      frames_eq := by
        change clock.frameCount * clock.framePeriod + clock.frameBacklog =
          ledger.elapsed + elapsed - (ledger.lost + elapsed)
        omega }

theorem Balances.pass (hbalances : Balances ledger clock) (passage : Passage) :
    Balances (ledger.pass clock passage) (left (passage.action clock)) := by
  let read : Clock source := { clock with last := passage.reading clock.last }
  have hread : Balances ledger read := { hbalances with }
  rw [Ledger.pass, passage.action_eq]
  by_cases hgap : passage.gap clock.last < 0
  · rw [if_pos hgap, advance_negative hgap]
    exact hread
  · have helapsed : 0 ≤ passage.gap clock.last := by omega
    rw [if_neg hgap]
    have hadvance := advance_eq hread.cpuPeriod_pos hread.framePeriod_pos hread.cpuBacklog_nonneg
      helapsed
    rw [hadvance]
    cases stepTimes (read.quota (passage.gap clock.last)) read.machine with
    | ok _ after => exact hread.finish helapsed after
    | error failure after => exact hread.abandon helapsed after

theorem Balances.after (hbalances : Balances ledger clock) {call : ClockCall}
    (hcall : ∀ now, call ≠ .restart now) :
    Balances (ledger.after clock call) (clock.after call) := by
  cases call with
  | pass passage => exact hbalances.pass passage
  | restart now => exact absurd rfl (hcall now)
  | addListener listener => exact { hbalances with }
  | machine call => exact { hbalances with }

theorem Balances.afterCalls (hbalances : Balances ledger clock) {calls : List ClockCall}
    (hcalls : ∀ now, .restart now ∉ calls) :
    Balances (ledger.ofCalls clock calls) (clock.afterCalls calls) := by
  induction calls generalizing clock ledger with
  | nil => exact hbalances
  | cons call calls ih =>
      have hcall : ∀ now, call ≠ .restart now := fun now heq =>
        hcalls now (heq ▸ List.mem_cons_self)
      exact ih (hbalances.after hcall) fun now hmem => hcalls now (List.mem_cons_of_mem call hmem)

section Start

variable {machine : Machine source} {cpuGiven frameGiven : Option Int} {listeners : List String}
  {now : Int} (hstart : start machine cpuGiven frameGiven none listeners now = .ok clock)
  (hcpu : 1 ≤ clock.cpuPeriod) (hframe : 1 ≤ clock.framePeriod)

include hstart hcpu hframe

omit [ByteSource source] in
theorem balances_start : Balances .empty clock := by
  rw [start] at hstart
  split at hstart
  case isTrue => cases hstart
  case isFalse =>
    cases hstart
    exact
      { uncapped := rfl
        cpuPeriod_pos := hcpu
        framePeriod_pos := hframe
        cpuBacklog_nonneg := le_refl 0
        frameBacklog_nonneg := le_refl 0
        steps_eq := by simp [Ledger.empty]
        frames_eq := by simp [Ledger.empty] }

/-- Until a clock is restarted, its steps account for all the time that was let pass on it, and its
frames for that of the passages that returned. -/
theorem accounts_afterCalls {calls : List ClockCall} (hcalls : ∀ now, .restart now ∉ calls) :
    let ledger := Ledger.empty.ofCalls clock calls
    let after := clock.afterCalls calls
    ledger.steps * clock.cpuPeriod + after.cpuBacklog = ledger.elapsed ∧
      after.frameCount * clock.framePeriod + after.frameBacklog =
        ledger.elapsed - ledger.lost := by
  intro ledger after
  have hbalances := (balances_start hstart hcpu hframe).afterCalls hcalls
  have hpaced : Paced _ _ clock := .start rfl rfl hstart
  have hafter := (hpaced.afterCalls calls).sound
  have hcpuPeriod : clock.cpuPeriod = after.cpuPeriod :=
    hpaced.sound.cpuPeriod_eq.trans hafter.cpuPeriod_eq.symm
  have hframePeriod : clock.framePeriod = after.framePeriod :=
    hpaced.sound.framePeriod_eq.trans hafter.framePeriod_eq.symm
  rw [hcpuPeriod, hframePeriod]
  exact ⟨hbalances.steps_eq, hbalances.frames_eq⟩

end Start

/-- A clock at 1 kHz and 250 Hz whose machine has no program. -/
def emptyClock : Clock ByteCycle where
  machine := Machine.create {} (ByteCycle.mk #[] 0)
  cpuPeriod := 1000000
  framePeriod := 4000000
  stepCap := none
  frameCount := 0
  listeners := []
  last := 0
  cpuBacklog := 0
  frameBacklog := 0

theorem start_emptyClock :
    start emptyClock.machine (some 1000) (some 250) none [] 0 = .ok emptyClock :=
  rfl

/-- Only the second passage returns: the first fails for want of a program. -/
theorem accounts_emptyClock :
    let calls := [.pass (.advance 4000000), .machine (.load [0x12, 0x00]), .pass (.advance 4000000)]
    8 * 1000000 + (emptyClock.afterCalls calls).cpuBacklog = 8000000 ∧
      (emptyClock.afterCalls calls).frameCount * 4000000 +
        (emptyClock.afterCalls calls).frameBacklog = 4000000 := by
  intro calls
  have hcalls : ∀ now, .restart now ∉ calls := by simp [calls]
  have haccounts := accounts_afterCalls start_emptyClock (by decide) (by decide) hcalls
  have hledger : Ledger.empty.ofCalls emptyClock calls =
      { elapsed := 8000000, lost := 4000000, steps := 8 } := by decide +kernel
  rw [hledger] at haccounts
  exact haccounts

/-- A step that fails can leave the frames behind the steps. -/
theorem exists_time_lost :
    ∃ (clock : Clock ByteCycle) (calls : List ClockCall),
      start clock.machine (some 1000) (some 250) none [] 0 = .ok clock ∧
        1 ≤ clock.cpuPeriod ∧ 1 ≤ clock.framePeriod ∧ (∀ now, .restart now ∉ calls) ∧
        (clock.afterCalls calls).frameCount * clock.framePeriod +
            (clock.afterCalls calls).frameBacklog ≠
          (Ledger.empty.ofCalls clock calls).elapsed := by
  refine ⟨emptyClock, [.pass (.advance 4000000)], start_emptyClock, by decide, by decide, ?_, ?_⟩
  · simp
  · decide +kernel

end Clock

end Chip8
