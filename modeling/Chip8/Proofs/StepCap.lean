import Chip8.Proofs.FrameSequence
import Chip8.Proofs.Granularity

/-!
# The cap on the steps of an advance

A clock with a cap drops the periods that it makes no step for, and only whole ones: what is left of
its backlog is the time since the last whole period, as if all the steps had been made. Neither the
steps that follow nor the frames are ever out of phase with those of a clock without a cap.
-/

namespace Chip8.Clock

open Machine (stepTimes)

variable {source : Type} {base clock : Clock source} {total elapsed : Int}

/-- The clock stands where a total of time has brought it since it stood at `base` without backlogs,
whatever has become of its machine. -/
structure Elapsed (base : Clock source) (total : Int) (clock : Clock source) : Prop where
  stepCap_eq : clock.stepCap = base.stepCap
  cpuPeriod_eq : clock.cpuPeriod = base.cpuPeriod
  framePeriod_eq : clock.framePeriod = base.framePeriod
  cpuBacklog_eq : clock.cpuBacklog = total % base.cpuPeriod
  frameBacklog_eq : clock.frameBacklog = total % base.framePeriod
  frameCount_eq : clock.frameCount = base.frameCount + total / base.framePeriod

theorem Elapsed.zero (hcpuBacklog : base.cpuBacklog = 0) (hframeBacklog : base.frameBacklog = 0) :
    Elapsed base 0 base := by
  refine ⟨rfl, rfl, rfl, ?_, ?_, ?_⟩
  · rw [hcpuBacklog, Int.zero_emod]
  · rw [hframeBacklog, Int.zero_emod]
  · rw [Int.zero_ediv, Int.add_zero]

theorem Elapsed.cpuBacklog_nonneg (helapsed : Elapsed base total clock)
    (hcpu : 0 < base.cpuPeriod) : 0 ≤ clock.cpuBacklog := by
  rw [helapsed.cpuBacklog_eq]
  exact Int.emod_nonneg _ (ne_of_gt hcpu)

theorem Elapsed.finish (helapsed : Elapsed base total clock) (hframe : 0 < base.framePeriod)
    (hforward : 0 ≤ elapsed) (after : Machine source) :
    Elapsed base (total + elapsed) (clock.finish elapsed after) := by
  obtain ⟨hcap, hcpuPeriod, hframePeriod, hcpuBacklog, hframeBacklog, hcount⟩ := helapsed
  have hrest : 0 ≤ clock.frameBacklog := by
    rw [hframeBacklog]
    exact Int.emod_nonneg _ (ne_of_gt hframe)
  have hdue : 0 ≤ clock.frameBacklog + elapsed := Int.add_nonneg hrest hforward
  have hperiod : 0 < clock.framePeriod := hframePeriod ▸ hframe
  have hquota : (clock.frameQuota elapsed : Int) =
      (clock.frameBacklog + elapsed) / clock.framePeriod := due_eq hperiod hdue
  have hshown : clock.frameCount + clock.frameQuota elapsed =
      base.frameCount + (total + elapsed) / base.framePeriod := by
    calc clock.frameCount + clock.frameQuota elapsed
        = base.frameCount + total / base.framePeriod +
            (total % base.framePeriod + elapsed) / base.framePeriod := by
          rw [hquota, hcount, hframeBacklog, hframePeriod]
      _ = base.frameCount + total / base.framePeriod +
            ((total + elapsed) / base.framePeriod - total / base.framePeriod) := by
          rw [emod_add_ediv total elapsed hframe]
      _ = base.frameCount + (total + elapsed) / base.framePeriod := by omega
  obtain ⟨machine, hfinish⟩ := exists_finish_eq hperiod hdue after
  rw [hfinish, hshown, hcpuBacklog, hframeBacklog, hcpuPeriod, hframePeriod]
  refine ⟨hcap, rfl, rfl, ?_, ?_, rfl⟩
  · exact Int.emod_add_emod _ _ _
  · exact Int.emod_add_emod _ _ _

theorem finish_machine (clock : Clock source) (elapsed : Int) (after : Machine source) :
    (clock.finish elapsed after).machine.state = after.state.afterTicks (clock.frameQuota elapsed) ∧
      (clock.finish elapsed after).machine.display = after.display := by
  let settled := (clock.settled elapsed after).creditFrames elapsed
  have hsettled :
      settled.machine.state = after.state ∧ settled.machine.display = after.display := by
    change (if _ then _ else _ : Machine source).state = _ ∧
      (if _ then _ else _ : Machine source).display = _
    split
    · rw [noteDropped, Machine.note_eq]
      exact ⟨rfl, rfl⟩
    · exact ⟨rfl, rfl⟩
  obtain ⟨hstate, hdisplay⟩ := showFrame_iterate_machine settled (clock.frameQuota elapsed)
  rw [hsettled.1] at hstate
  exact ⟨hstate, hdisplay.trans hsettled.2⟩

variable [ByteSource source]

theorem Elapsed.advance_eq (helapsed : Elapsed base total clock) (hcpu : 0 < base.cpuPeriod)
    (hframe : 0 < base.framePeriod) (hforward : 0 ≤ elapsed) :
    advance elapsed clock =
      match stepTimes (clock.quota elapsed) clock.machine with
      | .ok _ stepped =>
        .ok { steps := clock.quota elapsed, frames := clock.frameQuota elapsed }
          (clock.finish elapsed stepped)
      | .error failure failed => .error failure (clock.abandon elapsed failed) :=
  Clock.advance_eq (helapsed.cpuPeriod_eq ▸ hcpu) (helapsed.framePeriod_eq ▸ hframe)
    (helapsed.cpuBacklog_nonneg hcpu) hforward

theorem Elapsed.advance (helapsed : Elapsed base total clock) (hcpu : 0 < base.cpuPeriod)
    (hframe : 0 < base.framePeriod) (hforward : 0 ≤ elapsed) {tick : Tick} {after : Clock source}
    (hadvance : advance elapsed clock = .ok tick after) :
    Elapsed base (total + elapsed) after ∧ tick.frames = after.frameCount - clock.frameCount := by
  have heq := helapsed.advance_eq hcpu hframe hforward
  rw [hadvance] at heq
  cases hsteps : stepTimes (clock.quota elapsed) clock.machine with
  | error failure failed =>
      rw [hsteps] at heq
      cases heq
  | ok _ stepped =>
      rw [hsteps] at heq
      cases heq
      refine ⟨helapsed.finish hframe hforward stepped, ?_⟩
      rw [Clock.finish, showFrame_iterate]
      exact (add_sub_cancel_left _ _).symm

/-- Advances that return bring a clock to where their whole time does, and report its frames. -/
theorem Elapsed.advances (helapsed : Elapsed base total clock) (hcpu : 0 < base.cpuPeriod)
    (hframe : 0 < base.framePeriod) {gaps : List Int} (hgaps : ∀ gap ∈ gaps, 0 ≤ gap)
    {ticks : List Tick} {left : Clock source}
    (hrun : gaps.mapM Clock.advance clock = .ok ticks left) :
    Elapsed base (total + gaps.sum) left ∧
      (ticks.map Tick.frames).sum = left.frameCount - clock.frameCount := by
  induction gaps generalizing clock total ticks with
  | nil =>
      cases hrun
      rw [List.sum_nil, Int.add_zero]
      exact ⟨helapsed, (Int.sub_self _).symm⟩
  | cons gap gaps ih =>
      cases hadvance : Clock.advance gap clock with
      | error failure failed =>
          rw [mapM_cons_eq, hadvance] at hrun
          cases hrun
      | ok tick after =>
          obtain ⟨others, hothers, rfl⟩ := (mapM_advance_cons hadvance).1 hrun
          obtain ⟨hafter, hframes⟩ :=
            helapsed.advance hcpu hframe (hgaps gap List.mem_cons_self) hadvance
          obtain ⟨hleft, hsum⟩ :=
            ih hafter (fun other hmem => hgaps other (List.mem_cons_of_mem gap hmem)) hothers
          rw [List.sum_cons, ← Int.add_assoc, List.map_cons, List.sum_cons]
          exact ⟨hleft, by omega⟩

/-- The next advance of a clock with a cap makes no more steps than that, and drops the others. -/
theorem Elapsed.capped_advance (helapsed : Elapsed base total clock) {cap : Int}
    (hcap : base.stepCap = some cap) (hnonneg : 0 ≤ cap) (hcpu : 0 < base.cpuPeriod)
    (hframe : 0 < base.framePeriod) (hforward : 0 ≤ elapsed) {steps : Int}
    (hsteps : min cap ((clock.cpuBacklog + elapsed) / base.cpuPeriod) = steps) :
    Clock.advance elapsed clock =
      match stepTimes steps.toNat clock.machine with
      | .ok _ stepped =>
        .ok { steps, frames := clock.frameQuota elapsed } (clock.finish elapsed stepped)
      | .error failure failed => .error failure (clock.abandon elapsed failed) := by
  have hperiod : 0 < clock.cpuPeriod := helapsed.cpuPeriod_eq ▸ hcpu
  have hdue := Int.add_nonneg (helapsed.cpuBacklog_nonneg hcpu) hforward
  have hquota := quota_of_capped (helapsed.stepCap_eq.trans hcap) hnonneg hperiod hdue
  rw [helapsed.cpuPeriod_eq, hsteps] at hquota
  rw [← hquota, Int.toNat_natCast]
  exact helapsed.advance_eq hcpu hframe hforward

/-- Since a clock with a cap was started or restarted, its backlogs are what is left of the whole
time after the last period, as they would be without a cap, and its frames are all those that are
due. Each of its advances makes the steps that are due as far as the cap allows. -/
theorem Begins.cap_drops_whole_periods {clock : Clock source} (hbegins : Begins clock) {cap : Int}
    (hcap : clock.stepCap = some cap) (hnonneg : 0 ≤ cap) (hcpu : 0 < clock.cpuPeriod)
    (hframe : 0 < clock.framePeriod) {gaps : List Int} (hgaps : ∀ gap ∈ gaps, 0 ≤ gap)
    {ticks : List Tick} {left : Clock source}
    (hrun : gaps.mapM advance clock = .ok ticks left) :
    (left.cpuBacklog = gaps.sum % clock.cpuPeriod ∧
      left.frameBacklog = gaps.sum % clock.framePeriod ∧
      left.frameCount = clock.frameCount + gaps.sum / clock.framePeriod ∧
      (ticks.map Tick.frames).sum = gaps.sum / clock.framePeriod) ∧
    (∀ otherTicks other,
      gaps.mapM advance { clock with stepCap := none } = .ok otherTicks other →
        other.cpuBacklog = left.cpuBacklog ∧ other.frameBacklog = left.frameBacklog ∧
          other.frameCount = left.frameCount ∧
          (otherTicks.map Tick.frames).sum = (ticks.map Tick.frames).sum) ∧
    ∀ gap, 0 ≤ gap →
      let steps := min cap ((left.cpuBacklog + gap) / clock.cpuPeriod)
      (∀ stepped, stepTimes steps.toNat left.machine = .ok () stepped →
        ∃ (frames : Nat) (after : Clock source), advance gap left = .ok { steps, frames } after ∧
          after.machine.state = stepped.state.afterTicks frames ∧
          after.machine.display = stepped.display) ∧
      ∀ failure failed, stepTimes steps.toNat left.machine = .error failure failed →
        ∃ abandoned, advance gap left = .error failure abandoned := by
  obtain ⟨hcpuBacklog, hframeBacklog⟩ := hbegins.backlogs_eq_zero
  obtain ⟨hleft, hframes⟩ :=
    (Elapsed.zero hcpuBacklog hframeBacklog).advances hcpu hframe hgaps hrun
  rw [Int.zero_add] at hleft
  refine ⟨⟨hleft.cpuBacklog_eq, hleft.frameBacklog_eq, hleft.frameCount_eq, ?_⟩, ?_, ?_⟩
  · rw [hframes, hleft.frameCount_eq]
    exact add_sub_cancel_left _ _
  · intro otherTicks other hother
    let uncapped : Clock source := { clock with stepCap := none }
    have hstart : Elapsed uncapped 0 uncapped := .zero hcpuBacklog hframeBacklog
    obtain ⟨hotherLeft, hotherFrames⟩ := hstart.advances hcpu hframe hgaps hother
    rw [Int.zero_add] at hotherLeft
    have hcount : other.frameCount = left.frameCount :=
      hotherLeft.frameCount_eq.trans hleft.frameCount_eq.symm
    refine ⟨hotherLeft.cpuBacklog_eq.trans hleft.cpuBacklog_eq.symm,
      hotherLeft.frameBacklog_eq.trans hleft.frameBacklog_eq.symm, hcount, ?_⟩
    rw [hotherFrames, hframes, hcount]
  · intro gap hgap steps
    have hadvance := hleft.capped_advance hcap hnonneg hcpu hframe hgap (rfl : _ = steps)
    constructor
    · intro stepped hsteps
      rw [hsteps] at hadvance
      exact ⟨_, _, hadvance, finish_machine left gap stepped⟩
    · intro failure failed hsteps
      rw [hsteps] at hadvance
      exact ⟨_, hadvance⟩

/-- A clock at 1 kHz and 250 Hz that makes three steps in an advance at most. -/
def cappedClock : Clock ByteCycle :=
  { loopingClock with stepCap := some 3 }

theorem begins_cappedClock : Begins cappedClock := by
  have hstart : start cappedClock.machine (some 1000) (some 250) (some 3) [] 1000 =
      .ok cappedClock := rfl
  exact .start hstart

/-- The second advance drops three of its six steps, and the third is due when it always was. -/
theorem cap_drops_whole_periods_cappedClock :
    ∃ (left after : Clock ByteCycle) (frames : Nat),
      [2500000, 6000000].mapM advance cappedClock =
          .ok [{ steps := 2, frames := 0 }, { steps := 3, frames := 2 }] left ∧
        left.cpuBacklog = 500000 ∧ left.frameBacklog = 500000 ∧
        advance 500000 left = .ok { steps := 1, frames } after := by
  have hgaps : ∀ gap ∈ [2500000, 6000000], (0 : Int) ≤ gap := by decide
  have hreturned : returned? ([2500000, 6000000].mapM advance cappedClock) =
      some [{ steps := 2, frames := 0 }, { steps := 3, frames := 2 }] := by decide +kernel
  obtain ⟨left, hrun⟩ := exists_eq_ok_of_returned? hreturned
  obtain ⟨⟨hcpuBacklog, hframeBacklog, -⟩, -, hnext⟩ :=
    begins_cappedClock.cap_drops_whole_periods rfl (by decide) (by decide) (by decide) hgaps hrun
  have hsteps : Machine.failure? (stepTimes 1
      (Clock.left ([2500000, 6000000].mapM advance cappedClock)).machine) = none := by
    decide +kernel
  rw [hrun] at hsteps
  have hdue : min 3 ((left.cpuBacklog + 500000) / cappedClock.cpuPeriod) = 1 := by
    rw [hcpuBacklog]
    decide
  obtain ⟨hmade, -⟩ := hnext 500000 (by decide)
  rw [hdue] at hmade
  cases hstepped : stepTimes 1 left.machine with
  | error failure failed =>
      rw [Clock.left, hstepped] at hsteps
      cases hsteps
  | ok _ stepped =>
      obtain ⟨frames, after, hadvance, -⟩ := hmade stepped hstepped
      exact ⟨left, after, frames, hrun, hcpuBacklog, hframeBacklog, hadvance⟩

end Chip8.Clock
