import Chip8.Proofs.ClockTermination
import Chip8.Proofs.StepCap

/-!
# How true a clock is to its rates

The period of a rate is a second divided by the rate and cut to whole nanoseconds, so the beats come
a little early. A clock is therefore never behind its rate, and what it is ahead is at most the
share of `hz - 1` in `nanosPerSecond - hz + 1`. If a period has no fewer nanoseconds than a second
has beats, the error is less than one beat in a second, and the first second has the right number.
-/

namespace Chip8

/-- So many beats in a total of time are true to a rate. -/
structure TrueToRate (hz total count : Int) : Prop where
  not_behind : total * hz / nanosPerSecond ≤ count
  not_ahead : count * (nanosPerSecond - hz + 1) ≤ total * hz
  of_second : hz * hz ≤ nanosPerSecond → total = nanosPerSecond → count = hz

section Rate

variable {hz total : Int} (hpos : 0 < hz)

include hpos

theorem period_mul_le : nanosPerSecond / hz * hz ≤ nanosPerSecond :=
  Int.ediv_mul_le nanosPerSecond (ne_of_gt hpos)

theorem lt_period_mul : nanosPerSecond - hz < nanosPerSecond / hz * hz := by
  have hless := Int.lt_ediv_add_one_mul_self nanosPerSecond hpos
  rw [Int.add_mul] at hless
  omega

theorem trueToRate_ediv (hle : hz ≤ nanosPerSecond) (htotal : 0 ≤ total) :
    TrueToRate hz total (total / (nanosPerSecond / hz)) := by
  have hperiod : 0 < nanosPerSecond / hz := (Clock.period_pos_iff hpos).2 hle
  have hcount : 0 ≤ total / (nanosPerSecond / hz) := Int.ediv_nonneg htotal (le_of_lt hperiod)
  have hmade := Int.ediv_mul_le total (ne_of_gt hperiod)
  have hnext := Int.lt_ediv_add_one_mul_self total hperiod
  have hexact := period_mul_le hpos
  have hcut := lt_period_mul hpos
  refine ⟨?_, ?_, ?_⟩
  · apply Int.le_of_lt_add_one
    apply Int.ediv_lt_of_lt_mul (by decide)
    calc total * hz
        < (total / (nanosPerSecond / hz) + 1) * (nanosPerSecond / hz) * hz :=
          Int.mul_lt_mul_of_pos_right hnext hpos
      _ = (total / (nanosPerSecond / hz) + 1) * (nanosPerSecond / hz * hz) := Int.mul_assoc _ _ _
      _ ≤ (total / (nanosPerSecond / hz) + 1) * nanosPerSecond :=
          Int.mul_le_mul_of_nonneg_left hexact (by omega)
  · calc total / (nanosPerSecond / hz) * (nanosPerSecond - hz + 1)
        ≤ total / (nanosPerSecond / hz) * (nanosPerSecond / hz * hz) :=
          Int.mul_le_mul_of_nonneg_left hcut hcount
      _ = total / (nanosPerSecond / hz) * (nanosPerSecond / hz) * hz := (Int.mul_assoc _ _ _).symm
      _ ≤ total * hz := Int.mul_le_mul_of_nonneg_right hmade (le_of_lt hpos)
  · rintro hsquare rfl
    -- The period is no shorter than the rate, so the cut takes less than one off `hz` periods.
    have hlong : hz ≤ nanosPerSecond / hz := (Int.le_ediv_iff_mul_le hpos).2 hsquare
    have hbelow : hz ≤ nanosPerSecond / (nanosPerSecond / hz) := by
      rw [Int.le_ediv_iff_mul_le hperiod, Int.mul_comm]
      exact hexact
    have habove : nanosPerSecond / (nanosPerSecond / hz) < hz + 1 := by
      apply Int.ediv_lt_of_lt_mul hperiod
      rw [Int.add_mul, Int.mul_comm hz]
      omega
    omega

end Rate

namespace Clock

open Machine (stepTimes)

variable {source : Type} {base clock : Clock source} {total elapsed : Int}

/-! ### What passages report -/

section Elapsed

variable (helapsed : Elapsed base total clock)

include helapsed

theorem Elapsed.quota_eq (hcpu : 0 < base.cpuPeriod) (huncapped : base.stepCap = none)
    (hforward : 0 ≤ elapsed) :
    (clock.quota elapsed : Int) =
      (total + elapsed) / base.cpuPeriod - total / base.cpuPeriod := by
  have hperiod : 0 < clock.cpuPeriod := helapsed.cpuPeriod_eq ▸ hcpu
  have hdue := Int.add_nonneg (helapsed.cpuBacklog_nonneg hcpu) hforward
  rw [quota_of_uncapped (helapsed.stepCap_eq.trans huncapped), due_eq hperiod hdue,
    helapsed.cpuPeriod_eq, helapsed.cpuBacklog_eq, emod_add_ediv total elapsed hcpu]

theorem Elapsed.frameQuota_eq (hframe : 0 < base.framePeriod) (hforward : 0 ≤ elapsed) :
    (clock.frameQuota elapsed : Int) =
      (total + elapsed) / base.framePeriod - total / base.framePeriod := by
  have hperiod : 0 < clock.framePeriod := helapsed.framePeriod_eq ▸ hframe
  have hrest : 0 ≤ clock.frameBacklog := by
    rw [helapsed.frameBacklog_eq]
    exact Int.emod_nonneg _ (ne_of_gt hframe)
  have hquota : (clock.frameQuota elapsed : Int) =
      (clock.frameBacklog + elapsed) / clock.framePeriod :=
    due_eq hperiod (Int.add_nonneg hrest hforward)
  rw [hquota, helapsed.framePeriod_eq, helapsed.frameBacklog_eq, emod_add_ediv total elapsed hframe]

end Elapsed

variable [ByteSource source]

/-- Steps of the machine have failed after some of the passages, and have left it so. -/
def FailsBySteps (clock : Clock source) (passages : List Passage) (failure : Failure)
    (failed : Machine source) : Prop :=
  ∃ (returned : List Passage) (ticks : List Tick) (between : Clock source) (count : Nat),
    returned <+: passages ∧ returned.mapM Passage.action clock = .ok ticks between ∧
      stepTimes count between.machine = .error failure failed

theorem FailsBySteps.cons {passage : Passage} {passages : List Passage} {tick : Tick}
    {after : Clock source} {failure : Failure} {failed : Machine source}
    (hfails : FailsBySteps after passages failure failed)
    (hhead : passage.action clock = .ok tick after) :
    FailsBySteps clock (passage :: passages) failure failed := by
  obtain ⟨returned, ticks, between, count, hprefix, hrun, hsteps⟩ := hfails
  refine ⟨passage :: returned, tick :: ticks, between, count, ?_, ?_, hsteps⟩
  · exact List.cons_prefix_cons.2 ⟨rfl, hprefix⟩
  · rw [mapM_cons_eq, hhead]
    dsimp only
    rw [hrun]

/-- Passages report the steps and frames that the whole time has beats for, unless steps fail. -/
theorem Elapsed.passages (helapsed : Elapsed base total clock) (hcpu : 0 < base.cpuPeriod)
    (hframe : 0 < base.framePeriod) {passages : List Passage}
    (hforward : ∀ gap ∈ Passage.gaps clock.last passages, 0 ≤ gap) :
    (∃ ticks left, passages.mapM Passage.action clock = .ok ticks left ∧
      (base.stepCap = none → (ticks.map Tick.steps).sum =
        (total + (Passage.gaps clock.last passages).sum) / base.cpuPeriod -
          total / base.cpuPeriod) ∧
      (ticks.map Tick.frames).sum =
        (total + (Passage.gaps clock.last passages).sum) / base.framePeriod -
          total / base.framePeriod) ∨
    ∃ failure left, passages.mapM Passage.action clock = .error failure left ∧
      FailsBySteps clock passages failure left.machine := by
  induction passages generalizing clock total with
  | nil =>
      refine Or.inl ⟨[], clock, rfl, fun _ => ?_, ?_⟩
      · simp [Passage.gaps]
      · simp [Passage.gaps]
  | cons passage passages ih =>
      let read : Clock source := { clock with last := passage.reading clock.last }
      have hread : Elapsed base total read := { helapsed with }
      have hgap : 0 ≤ passage.gap clock.last := hforward _ List.mem_cons_self
      have hadvance := hread.advance_eq hcpu hframe hgap
      rw [← passage.action_eq clock] at hadvance
      rw [mapM_cons_eq, Passage.gaps, List.sum_cons, ← Int.add_assoc]
      cases hsteps : stepTimes (read.quota (passage.gap clock.last)) read.machine with
      | error failure failed =>
          rw [hsteps] at hadvance
          rw [hadvance]
          exact Or.inr ⟨failure, _, rfl, [], [], clock, _, List.nil_prefix, rfl, hsteps⟩
      | ok _ stepped =>
          rw [hsteps] at hadvance
          have hafter := hread.finish hframe hgap stepped
          have hlast : (read.finish (passage.gap clock.last) stepped).last =
              passage.reading clock.last := by
            rw [Clock.finish, showFrame_iterate]
            rfl
          have hrest := ih hafter fun gap hmem =>
            hforward gap (List.mem_cons_of_mem _ (hlast ▸ hmem))
          rw [hlast] at hrest
          obtain ⟨ticks, left, hrun, hmade, hshown⟩ | ⟨failure, left, hrun, hfails⟩ := hrest
          · let tick : Tick :=
              { steps := read.quota (passage.gap clock.last)
                frames := read.frameQuota (passage.gap clock.last) }
            refine Or.inl ⟨tick :: ticks, left, ?_, ?_, ?_⟩
            · rw [hadvance]
              dsimp only
              rw [hrun]
            · intro huncapped
              have hquota : tick.steps = _ := hread.quota_eq hcpu huncapped hgap
              rw [List.map_cons, List.sum_cons, hmade huncapped, hquota]
              omega
            · have hquota : tick.frames = _ := hread.frameQuota_eq hframe hgap
              rw [List.map_cons, List.sum_cons, hshown, hquota]
              omega
          · refine Or.inr ⟨failure, left, ?_, hfails.cons hadvance⟩
            rw [hadvance]
            dsimp only
            rw [hrun]

/-! ### Rates that are too high -/

theorem drainSteps_of_period_zero (hperiod : clock.cpuPeriod = 0)
    (hbacklog : 0 ≤ clock.cpuBacklog) (fuel : Nat) (steps : Int) :
    ∃ failure left, drainSteps fuel steps clock = .error failure left := by
  induction fuel generalizing clock steps with
  | zero => exact ⟨_, clock, rfl⟩
  | succ fuel ih =>
      cases hcapped : clock.capped steps with
      | true =>
          rw [drainSteps_capped fuel steps (by omega) hcapped, EStateM.map, dropBacklog,
            if_pos hperiod]
          exact ⟨_, clock, rfl⟩
      | false =>
          rw [drainSteps_step fuel steps (by omega) hcapped]
          cases Machine.step clock.machine with
          | error failure failed => exact ⟨failure, _, rfl⟩
          | ok _ after =>
              have hnextPeriod : (clock.stepped after).cpuPeriod = 0 := hperiod
              have hrest : 0 ≤ (clock.stepped after).cpuBacklog := by
                change 0 ≤ clock.cpuBacklog - clock.cpuPeriod
                omega
              exact ih hnextPeriod hrest (steps + 1)

/-- Only at periods that are not zero does an advance return. -/
theorem Sound.periods_pos {cpuHz frameHz : Int} (hsound : Sound cpuHz frameHz clock)
    (hforward : 0 ≤ elapsed) {tick : Tick} {after : Clock source}
    (hadvance : advance elapsed clock = .ok tick after) :
    0 < clock.cpuPeriod ∧ 0 < clock.framePeriod := by
  have hcpuNonneg : 0 ≤ clock.cpuPeriod := by
    rw [hsound.cpuPeriod_eq]
    exact Int.ediv_nonneg (by decide) (le_of_lt hsound.cpuHz_pos)
  have hframeNonneg : 0 ≤ clock.framePeriod := by
    rw [hsound.framePeriod_eq]
    exact Int.ediv_nonneg (by decide) (le_of_lt hsound.frameHz_pos)
  have hcpu : clock.cpuPeriod ≠ 0 := by
    intro hzero
    have hbacklog := Int.add_nonneg hsound.cpuBacklog_nonneg hforward
    have hcredited : (clock.creditCpu elapsed).cpuPeriod = 0 := hzero
    obtain ⟨failure, left, hrun⟩ : ∃ failure left, runCpu elapsed clock = .error failure left :=
      drainSteps_of_period_zero hcredited hbacklog _ 0
    rw [advance_of_runCpu_error hforward hrun] at hadvance
    cases hadvance
  have hcpuPos : 0 < clock.cpuPeriod := by omega
  refine ⟨hcpuPos, ?_⟩
  by_contra hframe
  have hrun := runCpu_eq hcpuPos (Int.add_nonneg hsound.cpuBacklog_nonneg hforward)
  cases hsteps : stepTimes (clock.quota elapsed) clock.machine with
  | error failure failed =>
      rw [hsteps] at hrun
      rw [advance_of_runCpu_error hforward hrun] at hadvance
      cases hadvance
  | ok _ stepped =>
      rw [hsteps] at hrun
      have hendless :
          ∃ left, runFrames elapsed (clock.settled elapsed stepped) = .error .endless left :=
        drainFrames_settled_endless hforward (by omega) hsound.frameBacklog_nonneg stepped _
      obtain ⟨left, hframes⟩ := hendless
      rw [advance_of_runCpu_ok hforward hrun, EStateM.map, hframes] at hadvance
      cases hadvance

theorem Sound.periods_pos_of_cons {cpuHz frameHz : Int} (hsound : Sound cpuHz frameHz clock)
    {passage : Passage} {passages : List Passage}
    (hforward : ∀ gap ∈ Passage.gaps clock.last (passage :: passages), 0 ≤ gap)
    {ticks : List Tick} {left : Clock source}
    (hrun : (passage :: passages).mapM Passage.action clock = .ok ticks left) :
    0 < clock.cpuPeriod ∧ 0 < clock.framePeriod := by
  rw [mapM_cons_eq] at hrun
  cases hhead : passage.action clock with
  | error failure failed =>
      rw [hhead] at hrun
      cases hrun
  | ok tick after =>
      rw [passage.action_eq] at hhead
      have hread : Sound cpuHz frameHz { clock with last := passage.reading clock.last } :=
        { hsound with }
      exact hread.periods_pos (hforward _ List.mem_cons_self) hhead

/-- From empty backlogs, passages that return report the whole periods of the whole time. -/
theorem Sound.sums_eq {cpuHz frameHz : Int} (hsound : Sound cpuHz frameHz clock)
    (hstart : Elapsed clock 0 clock) {passages : List Passage}
    (hforward : ∀ gap ∈ Passage.gaps clock.last passages, 0 ≤ gap) {ticks : List Tick}
    {left : Clock source} (hrun : passages.mapM Passage.action clock = .ok ticks left) :
    (clock.stepCap = none → (ticks.map Tick.steps).sum =
      (Passage.gaps clock.last passages).sum / (nanosPerSecond / cpuHz)) ∧
    (ticks.map Tick.frames).sum =
      (Passage.gaps clock.last passages).sum / (nanosPerSecond / frameHz) := by
  cases passages with
  | nil =>
      cases hrun
      simp [Passage.gaps]
  | cons passage passages =>
      obtain ⟨hcpu, hframe⟩ := hsound.periods_pos_of_cons hforward hrun
      obtain ⟨_, _, hreturned, hmade, hshown⟩ | ⟨failure, failed, herror, -⟩ :=
        hstart.passages hcpu hframe hforward
      · rw [hrun] at hreturned
        cases hreturned
        simpa [hsound.cpuPeriod_eq, hsound.framePeriod_eq] using And.intro hmade hshown
      · rw [hrun] at herror
        cases herror

/-- Since a clock was started or restarted, its frames have been true to their rate, and so have its
steps if they are not capped. At these rates nothing keeps an advance from returning but a step that
fails. -/
theorem Paced.trueToRate {cpuHz frameHz : Int} (hpaced : Paced cpuHz frameHz clock)
    (hbegins : Begins clock) {passages : List Passage}
    (hforward : ∀ gap ∈ Passage.gaps clock.last passages, 0 ≤ gap) :
    let total := (Passage.gaps clock.last passages).sum
    (∀ ticks left, passages.mapM Passage.action clock = .ok ticks left →
      (cpuHz ≤ nanosPerSecond → clock.stepCap = none →
        TrueToRate cpuHz total (ticks.map Tick.steps).sum) ∧
      (frameHz ≤ nanosPerSecond → TrueToRate frameHz total (ticks.map Tick.frames).sum)) ∧
    (cpuHz ≤ nanosPerSecond → frameHz ≤ nanosPerSecond →
      (∃ ticks left, passages.mapM Passage.action clock = .ok ticks left) ∨
      ∃ failure left, passages.mapM Passage.action clock = .error failure left ∧
        FailsBySteps clock passages failure left.machine) := by
  intro total
  have hsound := hpaced.sound
  obtain ⟨hcpuBacklog, hframeBacklog⟩ := hbegins.backlogs_eq_zero
  have hstart : Elapsed clock 0 clock := .zero hcpuBacklog hframeBacklog
  have htotal : 0 ≤ total := List.sum_nonneg hforward
  constructor
  · intro ticks left hrun
    obtain ⟨hsteps, hframes⟩ := hsound.sums_eq hstart hforward hrun
    constructor
    · intro hle huncapped
      rw [hsteps huncapped]
      exact trueToRate_ediv hsound.cpuHz_pos hle htotal
    · intro hle
      rw [hframes]
      exact trueToRate_ediv hsound.frameHz_pos hle htotal
  · intro hcpuLe hframeLe
    have hcpu : 0 < clock.cpuPeriod := by
      rw [hsound.cpuPeriod_eq]
      exact (period_pos_iff hsound.cpuHz_pos).2 hcpuLe
    have hframe : 0 < clock.framePeriod := by
      rw [hsound.framePeriod_eq]
      exact (period_pos_iff hsound.frameHz_pos).2 hframeLe
    obtain ⟨ticks, left, hreturned, -⟩ | hfailed := hstart.passages hcpu hframe hforward
    · exact Or.inl ⟨ticks, left, hreturned⟩
    · exact Or.inr hfailed

/-- A clock at 7 Hz and 3 Hz, which are no whole numbers of nanoseconds. -/
def slowClock : Clock ByteCycle :=
  { loopingClock with cpuPeriod := 142857142, framePeriod := 333333333 }

theorem start_slowClock :
    start slowClock.machine (some 7) (some 3) none [] 1000 = .ok slowClock :=
  rfl

theorem paced_slowClock : Paced 7 3 slowClock :=
  .start rfl rfl start_slowClock

/-- Both periods are cut, and yet a second in three parts has seven steps and three frames. -/
theorem trueToRate_slowClock :
    ∃ (ticks : List Tick) (left : Clock ByteCycle),
      [.advance 300000000, .tick 500001000, .advance 200000000].mapM Passage.action slowClock =
          .ok ticks left ∧
        (ticks.map Tick.steps).sum = 7 ∧ (ticks.map Tick.frames).sum = 3 := by
  have hgaps : Passage.gaps slowClock.last
      [.advance 300000000, .tick 500001000, .advance 200000000] =
        [300000000, 500000000, 200000000] := by decide
  have hforward : ∀ gap ∈ Passage.gaps slowClock.last
      [.advance 300000000, .tick 500001000, .advance 200000000], 0 ≤ gap := by
    rw [hgaps]
    decide
  have hreturned : returned? ([.advance 300000000, .tick 500001000, .advance 200000000].mapM
      Passage.action slowClock) =
        some [⟨2, 0⟩, ⟨3, 2⟩, ⟨2, 1⟩] := by decide +kernel
  obtain ⟨left, hrun⟩ := exists_eq_ok_of_returned? hreturned
  obtain ⟨hfaithful, -⟩ := paced_slowClock.trueToRate (.start start_slowClock) hforward
  obtain ⟨hsteps, hframes⟩ := hfaithful _ left hrun
  refine ⟨_, left, hrun, ?_, ?_⟩
  · exact (hsteps (by decide) rfl).of_second (by decide) (by rw [hgaps]; decide)
  · exact (hframes (by decide)).of_second (by decide) (by rw [hgaps]; decide)

end Clock

end Chip8
