import Chip8.Proofs.ClockLedger
import Chip8.Proofs.Ticking
import Mathlib.Algebra.Order.BigOperators.Group.List

/-!
# How finely time is cut

A clock without a cap makes its steps first and shows its frames afterwards in each advance, so
the two interleave differently when the same time is cut differently. A program that does not use
the timers cannot tell: its steps are the same, and the timers have been counted down as often.
-/

namespace Chip8

namespace Machine

variable {source : Type} [ByteSource source] {machine twin : Machine source}

/-- The instructions that so many steps in turn execute, up to the first step that fails. -/
def instructions : Nat → Machine source → List Instruction
  | 0, _ => []
  | count + 1, machine =>
    match step machine with
    | .ok executed after => executed.toList ++ instructions count after
    | .error _ _ => []

theorem stepTimes_add (first second : Nat) (machine : Machine source) :
    stepTimes (first + second) machine =
      match stepTimes first machine with
      | .ok _ after => stepTimes second after
      | .error failure after => .error failure after := by
  induction first generalizing machine with
  | zero =>
      rw [Nat.zero_add]
      rfl
  | succ first ih =>
      rw [Nat.succ_add, stepTimes_succ, stepTimes_succ]
      cases step machine with
      | ok executed after => exact ih after
      | error failure after => rfl

theorem instructions_add {first : Nat} {after : Machine source}
    (hfirst : stepTimes first machine = .ok () after) (second : Nat) :
    machine.instructions (first + second) =
      machine.instructions first ++ after.instructions second := by
  induction first generalizing machine with
  | zero =>
      cases hfirst
      rw [Nat.zero_add]
      rfl
  | succ first ih =>
      rw [stepTimes_succ] at hfirst
      rw [Nat.succ_add, instructions, instructions]
      cases hstep : step machine with
      | error failure failed =>
          rw [hstep] at hfirst
          cases hfirst
      | ok executed next =>
          rw [hstep] at hfirst
          dsimp only
          rw [ih hfirst, List.append_assoc]

omit [ByteSource source] in
theorem SameOutcome.symm {α : Type} {relation : Machine source → Machine source → Prop}
    {first second : EStateM.Result Failure (Machine source) α}
    (hsame : SameOutcome relation first second) :
    SameOutcome (fun twin machine => relation machine twin) second first := by
  cases hsame with
  | ok value hrelated => exact .ok value hrelated
  | error failure hrelated => exact .error failure hrelated

/-- Steps that do not use the timers are made alike by machines which a relation keeps together in
each such step. -/
theorem exists_stepTimes_of_related {motive : Machine source → Machine source → Prop}
    (hstep : ∀ machine twin, motive machine twin →
      (∀ instruction ∈ machine.next?, instruction.usesTimers = false) →
        SameOutcome motive (step machine) (step twin))
    (hrelated : motive machine twin) {count : Nat} {after : Machine source}
    (hsteps : stepTimes count machine = .ok () after)
    (huntimed : ∀ instruction ∈ machine.instructions count, instruction.usesTimers = false) :
    ∃ twinAfter, stepTimes count twin = .ok () twinAfter ∧ motive after twinAfter ∧
      twin.instructions count = machine.instructions count := by
  induction count generalizing machine twin with
  | zero =>
      cases hsteps
      exact ⟨twin, rfl, hrelated, rfl⟩
  | succ count ih =>
      rw [stepTimes_succ] at hsteps
      rw [instructions] at huntimed
      cases hfirst : step machine with
      | error failure failed =>
          rw [hfirst] at hsteps
          cases hsteps
      | ok executed next =>
          rw [hfirst] at hsteps huntimed
          have hnext : machine.next? = executed := next?_of_step hfirst
          have hsame := hstep machine twin hrelated fun instruction hmem =>
            huntimed instruction (List.mem_append_left _ (by simpa [← hnext] using hmem))
          rw [hfirst] at hsame
          generalize htwin : step twin = result at hsame
          cases hsame with
          | @ok _ _ twinNext hlater =>
              obtain ⟨twinAfter, hrun, hafter, hlist⟩ := ih hlater hsteps fun instruction hmem =>
                huntimed instruction (List.mem_append_right _ hmem)
              refine ⟨twinAfter, ?_, hafter, ?_⟩
              · rw [stepTimes_succ, htwin]
                exact hrun
              · rw [instructions, instructions, htwin, hfirst]
                exact congrArg (executed.toList ++ ·) hlist

theorem Ticked.stepTimes {count ticks : Nat} (hticked : Ticked ticks machine twin)
    {after : Machine source} (hsteps : stepTimes count machine = .ok () after)
    (huntimed : ∀ instruction ∈ machine.instructions count, instruction.usesTimers = false) :
    ∃ twinAfter, Machine.stepTimes count twin = .ok () twinAfter ∧ Ticked ticks after twinAfter ∧
      twin.instructions count = machine.instructions count :=
  exists_stepTimes_of_related (fun _ _ => Ticked.step) hticked hsteps huntimed

theorem Ticked.stepTimes_back {count ticks : Nat} (hticked : Ticked ticks machine twin)
    {twinAfter : Machine source} (hsteps : Machine.stepTimes count twin = .ok () twinAfter)
    (huntimed : ∀ instruction ∈ twin.instructions count, instruction.usesTimers = false) :
    ∃ after, Machine.stepTimes count machine = .ok () after ∧ Ticked ticks after twinAfter ∧
      machine.instructions count = twin.instructions count := by
  refine exists_stepTimes_of_related (motive := fun twin machine => Ticked ticks machine twin)
    ?_ hticked hsteps huntimed
  intro twin machine hticked huntimed
  rw [hticked.next?_eq] at huntimed
  exact (hticked.step huntimed).symm

theorem Ticked.refl (machine : Machine source) : Ticked 0 machine machine :=
  Alongside.refl machine

theorem Ticked.tickTimers {ticks : Nat} (hticked : Ticked ticks machine twin) :
    Ticked (ticks + 1) machine twin.tickTimers := by
  have hstate : machine.state.afterTicks (ticks + 1) = twin.state.tickDelay.tickSound := by
    rw [← hticked.state_eq, ← State.tick_afterTicks]
    rfl
  rw [Machine.tickTimers, tickSound_eq]
  exact
    { config_eq := hticked.config_eq
      state_eq := hstate
      display_eq := hticked.display_eq
      keypad_eq := hticked.keypad_eq
      bytes := hticked.bytes
      listeners_eq := hticked.listeners_eq
      heeded_eq := hticked.heeded_eq }

theorem Ticked.showFrame {clock : Clock source} {ticks : Nat}
    (hticked : Ticked ticks machine clock.machine) :
    Ticked (ticks + 1) machine clock.showFrame.machine :=
  hticked.tickTimers.send_unheeded rfl _

theorem Ticked.showFrames {clock : Clock source} {ticks : Nat}
    (hticked : Ticked ticks machine clock.machine) (frames : Nat) :
    Ticked (ticks + frames) machine (Clock.showFrame^[frames] clock).machine := by
  induction frames with
  | zero => exact hticked
  | succ frames ih =>
      rw [Function.iterate_succ_apply']
      exact ih.showFrame

end Machine

namespace Clock

open Machine (Ticked stepTimes)

section Due

variable {period elapsed : Int} (hperiod : 0 < period) (helapsed : 0 ≤ elapsed)

include hperiod helapsed

/-- The periods that are due after time has passed are the same if those due before it have been
taken off already. -/
theorem due_add_due (backlog : Int) :
    due backlog period + due (backlog - due backlog period * period + elapsed) period =
      due (backlog + elapsed) period := by
  have hle : due backlog period ≤ due (backlog + elapsed) period :=
    Int.toNat_le_toNat (Int.ediv_le_ediv hperiod (by omega))
  have hcomm : backlog - due backlog period * period + elapsed =
      backlog + elapsed - due backlog period * period := by
    omega
  rw [hcomm, due_sub_mul hperiod, Nat.add_sub_cancel' hle]

end Due

variable {source : Type} {clock : Clock source}

/-- No whole period is left in the backlogs. -/
structure Settled (clock : Clock source) : Prop where
  cpu_lt : clock.cpuBacklog < clock.cpuPeriod
  frame_lt : clock.frameBacklog < clock.framePeriod

/-- The clock when time has passed on it and its steps and frames have left the machine. -/
def passed (clock : Clock source) (elapsed : Int) (machine : Machine source) : Clock source :=
  { clock with
    machine
    frameCount := clock.frameCount + clock.frameQuota elapsed
    cpuBacklog := clock.cpuBacklog + elapsed - clock.quota elapsed * clock.cpuPeriod
    frameBacklog := clock.frameBacklog + elapsed - clock.frameQuota elapsed * clock.framePeriod }

/-- The machine when the frames that are due have been shown of it. -/
def shown (clock : Clock source) (elapsed : Int) (machine : Machine source) : Machine source :=
  (showFrame^[clock.frameQuota elapsed] { clock with machine }).machine

/-- A clock that makes every step that is due. -/
structure Uncapped (clock : Clock source) : Prop where
  stepCap_eq : clock.stepCap = none
  cpuPeriod_pos : 0 < clock.cpuPeriod
  framePeriod_pos : 0 < clock.framePeriod

theorem Uncapped.passed (huncapped : clock.Uncapped) (elapsed : Int) (machine : Machine source) :
    (clock.passed elapsed machine).Uncapped :=
  { huncapped with }

theorem Settled.passed_zero (hsettled : clock.Settled) (huncapped : clock.Uncapped) :
    clock.quota 0 = 0 ∧ clock.frameQuota 0 = 0 ∧ clock.passed 0 clock.machine = clock := by
  have hquota : clock.quota 0 = 0 := by
    rw [quota_of_uncapped huncapped.stepCap_eq, due_eq_zero_iff huncapped.cpuPeriod_pos,
      Int.add_zero]
    exact hsettled.cpu_lt
  have hframeQuota : clock.frameQuota 0 = 0 := by
    apply (due_eq_zero_iff huncapped.framePeriod_pos).2
    change clock.frameBacklog + 0 < clock.framePeriod
    rw [Int.add_zero]
    exact hsettled.frame_lt
  refine ⟨hquota, hframeQuota, ?_⟩
  simp [Clock.passed, hquota, hframeQuota]

namespace Uncapped

variable (huncapped : clock.Uncapped) (first : Int) {second : Int} (hsecond : 0 ≤ second)
  (machine after : Machine source)

include huncapped

theorem settled_passed : (clock.passed first machine).Settled := by
  have hcpu : due (clock.cpuBacklog + first - clock.quota first * clock.cpuPeriod)
      clock.cpuPeriod = 0 := by
    rw [due_sub_mul huncapped.cpuPeriod_pos, quota_of_uncapped huncapped.stepCap_eq, Nat.sub_self]
  have hframe : due (clock.frameBacklog + first - clock.frameQuota first * clock.framePeriod)
      clock.framePeriod = 0 := by
    rw [due_sub_mul huncapped.framePeriod_pos]
    exact Nat.sub_self _
  exact ⟨(due_eq_zero_iff huncapped.cpuPeriod_pos).1 hcpu,
    (due_eq_zero_iff huncapped.framePeriod_pos).1 hframe⟩

include hsecond

theorem quota_add :
    clock.quota (first + second) =
      clock.quota first + (clock.passed first machine).quota second := by
  have hpassed := huncapped.passed first machine
  have hsum := due_add_due huncapped.cpuPeriod_pos hsecond (clock.cpuBacklog + first)
  rw [Int.add_assoc, ← quota_of_uncapped huncapped.stepCap_eq,
    ← quota_of_uncapped huncapped.stepCap_eq] at hsum
  rw [quota_of_uncapped hpassed.stepCap_eq]
  exact hsum.symm

theorem frameQuota_add :
    clock.frameQuota (first + second) =
      clock.frameQuota first + (clock.passed first machine).frameQuota second := by
  have hsum := due_add_due huncapped.framePeriod_pos hsecond (clock.frameBacklog + first)
  rw [Int.add_assoc] at hsum
  exact hsum.symm

theorem passed_add :
    clock.passed (first + second) after = (clock.passed first machine).passed second after := by
  rw [Clock.passed, huncapped.quota_add first hsecond machine,
    huncapped.frameQuota_add first hsecond machine]
  rw [Clock.passed]
  congr 1
  · change _ = clock.frameCount + clock.frameQuota first + _
    omega
  · change _ = clock.cpuBacklog + first - clock.quota first * clock.cpuPeriod + second -
      _ * clock.cpuPeriod
    rw [Int.natCast_add, Int.add_mul]
    omega
  · change _ = clock.frameBacklog + first - clock.frameQuota first * clock.framePeriod + second -
      _ * clock.framePeriod
    rw [Int.natCast_add, Int.add_mul]
    omega

end Uncapped

variable [ByteSource source]

namespace Uncapped

variable (huncapped : clock.Uncapped) {elapsed : Int} {after : Machine source}

include huncapped

/-- A backlog that is still negative has no steps in it. -/
theorem runCpu_negative (hbacklog : clock.cpuBacklog + elapsed < 0) :
    clock.quota elapsed = 0 ∧ runCpu elapsed clock = .ok 0 (clock.creditCpu elapsed) := by
  have hshort : (clock.creditCpu elapsed).cpuBacklog < (clock.creditCpu elapsed).cpuPeriod :=
    lt_trans hbacklog huncapped.cpuPeriod_pos
  have hquota : clock.quota elapsed = 0 := by
    rw [quota_of_uncapped huncapped.stepCap_eq, due_eq_zero_iff huncapped.cpuPeriod_pos]
    exact hshort
  have hcredited : 0 < (clock.creditCpu elapsed).cpuPeriod := huncapped.cpuPeriod_pos
  have hfuel := remaining_lt_stepFuel hcredited
  obtain ⟨fuel, hfuel⟩ : ∃ fuel, (clock.creditCpu elapsed).stepFuel = fuel + 1 :=
    ⟨_, (Nat.succ_pred_eq_of_pos (Nat.zero_lt_of_lt hfuel)).symm⟩
  refine ⟨hquota, ?_⟩
  change drainSteps (clock.creditCpu elapsed).stepFuel 0 (clock.creditCpu elapsed) = _
  rw [hfuel, drainSteps_short _ _ hshort]

theorem runCpu_ok (hsteps : stepTimes (clock.quota elapsed) clock.machine = .ok () after) :
    runCpu elapsed clock =
      .ok (clock.quota elapsed)
        (Clock.atTime { clock with machine := after } clock.last
          (clock.cpuBacklog + elapsed - clock.quota elapsed * clock.cpuPeriod)
          clock.frameBacklog) := by
  by_cases hbacklog : 0 ≤ clock.cpuBacklog + elapsed
  · have hall : ¬ clock.quota elapsed < (clock.creditCpu elapsed).cpuDue := by
      rw [quota_of_uncapped huncapped.stepCap_eq]
      exact Nat.lt_irrefl _
    have hrest : clock.cpuBacklog + elapsed - clock.quota elapsed * clock.cpuPeriod =
        (clock.cpuBacklog + elapsed) % clock.cpuPeriod := by
      rw [quota_of_uncapped huncapped.stepCap_eq]
      exact sub_due_mul huncapped.cpuPeriod_pos hbacklog
    rw [runCpu_eq huncapped.cpuPeriod_pos hbacklog, hsteps, hrest]
    dsimp only
    rw [settled, settle, if_neg hall]
    rfl
  · obtain ⟨hquota, hrun⟩ := huncapped.runCpu_negative (Int.not_le.1 hbacklog)
    rw [hquota] at hsteps ⊢
    cases hsteps
    rw [hrun, creditCpu, atTime]
    simp

theorem exists_runCpu_error {failure : Failure}
    (hsteps : stepTimes (clock.quota elapsed) clock.machine = .error failure after) :
    ∃ failed, runCpu elapsed clock = .error failure failed := by
  by_cases hbacklog : 0 ≤ clock.cpuBacklog + elapsed
  · rw [runCpu_eq huncapped.cpuPeriod_pos hbacklog, hsteps]
    exact ⟨_, rfl⟩
  · rw [(huncapped.runCpu_negative (Int.not_le.1 hbacklog)).1] at hsteps
    cases hsteps

/-- An advance makes its steps and shows its frames, and then its time has passed. -/
theorem advance_ok (helapsed : 0 ≤ elapsed)
    (hsteps : stepTimes (clock.quota elapsed) clock.machine = .ok () after) :
    advance elapsed clock =
      .ok { steps := clock.quota elapsed, frames := clock.frameQuota elapsed }
        (clock.passed elapsed (clock.shown elapsed after)) := by
  let stepped := Clock.atTime { clock with machine := after } clock.last
    (clock.cpuBacklog + elapsed - clock.quota elapsed * clock.cpuPeriod) clock.frameBacklog
  have hframe : 0 < stepped.framePeriod := huncapped.framePeriod_pos
  rw [advance_of_runCpu_ok helapsed (huncapped.runCpu_ok hsteps), EStateM.map,
    runFrames_eq hframe]
  dsimp only
  congr 1
  refine (showFrame_iterate_atTime _ { clock with machine := after } _ _ _).trans ?_
  rw [showFrame_iterate]
  rfl

theorem exists_stepTimes_of_advance (helapsed : 0 ≤ elapsed) {tick : Tick} {left : Clock source}
    (hadvance : advance elapsed clock = .ok tick left) :
    ∃ after, stepTimes (clock.quota elapsed) clock.machine = .ok () after ∧
      left = clock.passed elapsed (clock.shown elapsed after) := by
  cases hsteps : stepTimes (clock.quota elapsed) clock.machine with
  | error failure after =>
      obtain ⟨failed, hrun⟩ := huncapped.exists_runCpu_error hsteps
      rw [advance_of_runCpu_error helapsed hrun] at hadvance
      cases hadvance
  | ok _ after =>
      rw [huncapped.advance_ok helapsed hsteps] at hadvance
      cases hadvance
      exact ⟨after, rfl, rfl⟩

end Uncapped

theorem ticked_shown {count : Nat} {steady machine : Machine source}
    (hticked : Ticked count steady machine) (clock : Clock source) (elapsed : Int) :
    Ticked (count + clock.frameQuota elapsed) steady (clock.shown elapsed machine) := by
  let begun : Clock source := { clock with machine }
  have hbegun : Ticked count steady begun.machine := hticked
  exact hbegun.showFrames _

/-- The instructions that are executed when gaps pass in turn, up to the first failing advance. -/
def instructions : Clock source → List Int → List Instruction
  | _, [] => []
  | clock, gap :: gaps =>
    match advance gap clock with
    | .ok tick after => clock.machine.instructions tick.steps.toNat ++ after.instructions gaps
    | .error _ _ => []

theorem mapM_advance_cons {gap : Int} {gaps : List Int} {tick : Tick} {after : Clock source}
    (hadvance : advance gap clock = .ok tick after) {ticks : List Tick} {left : Clock source} :
    (gap :: gaps).mapM advance clock = .ok ticks left ↔
      ∃ others, gaps.mapM advance after = .ok others left ∧ ticks = tick :: others := by
  rw [mapM_cons_eq, hadvance]
  dsimp only
  cases gaps.mapM advance after with
  | error failure failed => simp
  | ok others final => simp [eq_comm, and_comm]

theorem Uncapped.instructions_cons (huncapped : clock.Uncapped) {gap : Int} (hgap : 0 ≤ gap)
    {after : Machine source}
    (hsteps : stepTimes (clock.quota gap) clock.machine = .ok () after) (gaps : List Int) :
    clock.instructions (gap :: gaps) =
      clock.machine.instructions (clock.quota gap) ++
        (clock.passed gap (clock.shown gap after)).instructions gaps := by
  rw [instructions, huncapped.advance_ok hgap hsteps]
  rfl

/-- The steps of all gaps are the steps of a machine that no frame is shown of. -/
theorem Uncapped.stepTimes_of_advances (huncapped : clock.Uncapped) {gaps : List Int}
    (hgaps : ∀ gap ∈ gaps, 0 ≤ gap) (hempty : gaps = [] → clock.Settled) {steady : Machine source}
    {count : Nat} (hticked : Ticked count steady clock.machine) {ticks : List Tick}
    {left : Clock source} (hrun : gaps.mapM advance clock = .ok ticks left)
    (huntimed : ∀ instruction ∈ clock.instructions gaps, instruction.usesTimers = false) :
    ∃ (machine : Machine source) (steadyAfter : Machine source),
      stepTimes (clock.quota gaps.sum) steady = .ok () steadyAfter ∧
      steady.instructions (clock.quota gaps.sum) = clock.instructions gaps ∧
      left = clock.passed gaps.sum machine ∧
      Ticked (count + clock.frameQuota gaps.sum) steadyAfter machine := by
  -- After its first gap a clock is settled, so only the list as a whole is asked not to be empty.
  induction gaps generalizing clock steady count ticks with
  | nil =>
      obtain ⟨hquota, hframeQuota, hpassed⟩ := (hempty rfl).passed_zero huncapped
      cases hrun
      rw [List.sum_nil, hquota, hframeQuota]
      exact ⟨left.machine, steady, rfl, rfl, hpassed.symm, hticked⟩
  | cons gap gaps ih =>
      have hgap := hgaps gap List.mem_cons_self
      have hrest : ∀ other ∈ gaps, 0 ≤ other := fun other hmem =>
        hgaps other (List.mem_cons_of_mem gap hmem)
      cases hadvance : advance gap clock with
      | error failure failed =>
          rw [mapM_cons_eq, hadvance] at hrun
          cases hrun
      | ok tick next =>
          obtain ⟨others, hothers, -⟩ := (mapM_advance_cons hadvance).1 hrun
          obtain ⟨after, hsteps, rfl⟩ := huncapped.exists_stepTimes_of_advance hgap hadvance
          rw [huncapped.instructions_cons hgap hsteps] at huntimed
          obtain ⟨steadyNext, hsteady, hlater, hlist⟩ := hticked.stepTimes_back hsteps
            fun instruction hmem => huntimed instruction (List.mem_append_left _ hmem)
          obtain ⟨machine, steadyAfter, hsteadyAfter, hlistAfter, hleft, hfinal⟩ :=
            ih (huncapped.passed gap (clock.shown gap after)) hrest
              (fun _ => huncapped.settled_passed gap _) (ticked_shown hlater clock gap) hothers
              fun instruction hmem => huntimed instruction (List.mem_append_right _ hmem)
          have htotal : 0 ≤ gaps.sum := List.sum_nonneg hrest
          rw [List.sum_cons, huncapped.quota_add gap htotal (clock.shown gap after),
            huncapped.frameQuota_add gap htotal (clock.shown gap after)]
          refine ⟨machine, steadyAfter, ?_, ?_, ?_, ?_⟩
          · rw [Machine.stepTimes_add, hsteady]
            exact hsteadyAfter
          · rw [Machine.instructions_add hsteady, hlist, hlistAfter,
              huncapped.instructions_cons hgap hsteps]
          · rw [huncapped.passed_add gap htotal]
            exact hleft
          · rw [← Nat.add_assoc]
            exact hfinal

/-- If the steps of a machine that no frame is shown of are made, so are those of all gaps. -/
theorem Uncapped.advances_of_stepTimes (huncapped : clock.Uncapped) {gaps : List Int}
    (hgaps : ∀ gap ∈ gaps, 0 ≤ gap) (hempty : gaps = [] → clock.Settled)
    {steady steadyAfter : Machine source} {count : Nat}
    (hticked : Ticked count steady clock.machine)
    (hsteps : stepTimes (clock.quota gaps.sum) steady = .ok () steadyAfter)
    (huntimed : ∀ instruction ∈ steady.instructions (clock.quota gaps.sum),
      instruction.usesTimers = false) :
    ∃ ticks machine, gaps.mapM advance clock = .ok ticks (clock.passed gaps.sum machine) ∧
      clock.instructions gaps = steady.instructions (clock.quota gaps.sum) ∧
      Ticked (count + clock.frameQuota gaps.sum) steadyAfter machine := by
  induction gaps generalizing clock steady count with
  | nil =>
      obtain ⟨hquota, hframeQuota, hpassed⟩ := (hempty rfl).passed_zero huncapped
      rw [List.sum_nil, hquota] at hsteps
      cases hsteps
      rw [List.sum_nil, hquota, hframeQuota]
      refine ⟨[], clock.machine, ?_, rfl, hticked⟩
      rw [hpassed]
      rfl
  | cons gap gaps ih =>
      have hgap := hgaps gap List.mem_cons_self
      have hrest : ∀ other ∈ gaps, 0 ≤ other := fun other hmem =>
        hgaps other (List.mem_cons_of_mem gap hmem)
      have htotal : 0 ≤ gaps.sum := List.sum_nonneg hrest
      rw [List.sum_cons, huncapped.quota_add gap htotal clock.machine] at hsteps huntimed
      rw [Machine.stepTimes_add] at hsteps
      cases hfirst : stepTimes (clock.quota gap) steady with
      | error failure failed =>
          rw [hfirst] at hsteps
          cases hsteps
      | ok _ steadyNext =>
          rw [hfirst] at hsteps
          rw [Machine.instructions_add hfirst] at huntimed
          obtain ⟨after, hafter, hlater, hlist⟩ := hticked.stepTimes hfirst
            fun instruction hmem => huntimed instruction (List.mem_append_left _ hmem)
          obtain ⟨ticks, machine, hrun, hlistAfter, hfinal⟩ :=
            ih (huncapped.passed gap (clock.shown gap after)) hrest
              (fun _ => huncapped.settled_passed gap _) (ticked_shown hlater clock gap) hsteps
              fun instruction hmem => huntimed instruction (List.mem_append_right _ hmem)
          have hadvance := huncapped.advance_ok hgap hafter
          rw [List.sum_cons, huncapped.quota_add gap htotal (clock.shown gap after),
            huncapped.frameQuota_add gap htotal (clock.shown gap after)]
          refine ⟨_, machine, (mapM_advance_cons hadvance).2 ⟨ticks, ?_, rfl⟩, ?_, ?_⟩
          · rw [huncapped.passed_add gap htotal]
            exact hrun
          · rw [Machine.instructions_add hfirst, ← hlist, ← hlistAfter,
              huncapped.instructions_cons hgap hafter]
          · rw [← Nat.add_assoc]
            exact hfinal

/-- However finely the same time is cut, a program that does not use the timers ends up the same. -/
theorem Uncapped.granularity_unobserved (huncapped : clock.Uncapped) {gaps others : List Int}
    (hgaps : ∀ gap ∈ gaps, 0 ≤ gap) (hothers : ∀ gap ∈ others, 0 ≤ gap)
    (hsum : gaps.sum = others.sum) (hempty : (gaps = [] ↔ others = []) ∨ clock.Settled)
    {ticks : List Tick} {left : Clock source} (hrun : gaps.mapM advance clock = .ok ticks left)
    (huntimed : ∀ instruction ∈ clock.instructions gaps, instruction.usesTimers = false) :
    ∃ otherTicks otherLeft, others.mapM advance clock = .ok otherTicks otherLeft ∧
      clock.instructions others = clock.instructions gaps ∧
      otherLeft.machine.state = left.machine.state ∧
      otherLeft.machine.display = left.machine.display ∧
      otherLeft.machine.keypad = left.machine.keypad ∧
      otherLeft.machine.heeded Event.isRedraw = left.machine.heeded Event.isRedraw ∧
      otherLeft.frameCount = left.frameCount ∧
      otherLeft.cpuBacklog = left.cpuBacklog ∧
      otherLeft.frameBacklog = left.frameBacklog := by
  by_cases hnone : gaps = [] ∧ others = []
  · obtain ⟨rfl, rfl⟩ := hnone
    exact ⟨ticks, left, hrun, rfl, rfl, rfl, rfl, rfl, rfl, rfl, rfl⟩
  · have hgapsEmpty : gaps = [] → clock.Settled := fun hnil =>
      hempty.resolve_left fun hboth => hnone ⟨hnil, hboth.1 hnil⟩
    have hothersEmpty : others = [] → clock.Settled := fun hnil =>
      hempty.resolve_left fun hboth => hnone ⟨hboth.2 hnil, hnil⟩
    -- Both runs make the steps of the machine that no frame is shown of.
    obtain ⟨machine, steadyAfter, hsteps, hlist, rfl, hticked⟩ :=
      huncapped.stepTimes_of_advances hgaps hgapsEmpty (Ticked.refl clock.machine) hrun huntimed
    rw [← hlist] at huntimed
    rw [hsum] at hsteps hlist hticked huntimed ⊢
    obtain ⟨otherTicks, other, hother, hotherList, hotherTicked⟩ :=
      huncapped.advances_of_stepTimes hothers hothersEmpty (Ticked.refl clock.machine) hsteps
        huntimed
    exact ⟨otherTicks, _, hother, hotherList.trans hlist,
      hotherTicked.state_eq.symm.trans hticked.state_eq,
      hotherTicked.display_eq.symm.trans hticked.display_eq,
      hotherTicked.keypad_eq.symm.trans hticked.keypad_eq,
      hotherTicked.heeded_eq.symm.trans hticked.heeded_eq, rfl, rfl, rfl⟩

/-- A clock at 1 kHz and 250 Hz that has counted some time already, on a program that draws the
same glyph again and again while both timers run. -/
def drawingClock : Clock ByteCycle where
  machine :=
    let machine := (Machine.built {} (ByteCycle.mk #[] 0) .warning ["screen"]).after
      (.load [0xD0, 0x05, 0x12, 0x00])
    { machine with state := machine.state.withTimers 9 1 }
  cpuPeriod := 1000000
  framePeriod := 4000000
  stepCap := none
  frameCount := 3
  listeners := ["screen"]
  last := 1000
  cpuBacklog := 400000
  frameBacklog := 3000000

theorem exists_advances_drawingClock :
    ∃ left, [2500000, 2000000].mapM advance drawingClock =
      .ok [{ steps := 2, frames := 1 }, { steps := 2, frames := 0 }] left := by
  exact exists_eq_ok_of_returned? (by decide +kernel)

theorem granularity_unobserved_drawingClock :
    ∃ ticks left other, [2500000, 2000000].mapM advance drawingClock =
        .ok [{ steps := 2, frames := 1 }, { steps := 2, frames := 0 }] left ∧
      [4500000].mapM advance drawingClock = .ok ticks other ∧
      other.machine.state = left.machine.state ∧
      other.machine.heeded Event.isRedraw = left.machine.heeded Event.isRedraw := by
  have huncapped : drawingClock.Uncapped := ⟨rfl, by decide, by decide⟩
  have hempty : ([2500000, 2000000] = ([] : List Int) ↔ [4500000] = ([] : List Int)) := by simp
  have huntimed : ∀ instruction ∈ drawingClock.instructions [2500000, 2000000],
      instruction.usesTimers = false := by decide +kernel
  obtain ⟨left, hrun⟩ := exists_advances_drawingClock
  obtain ⟨ticks, other, hother, -, hstate, -, -, hredraws, -⟩ :=
    huncapped.granularity_unobserved (by decide) (by decide) (by decide) (.inl hempty) hrun huntimed
  exact ⟨ticks, left, other, hrun, hother, hstate, hredraws⟩

/-- A clock with a step to catch up: its one advance failed for want of a program. -/
def overdueClock : Clock ByteCycle :=
  emptyClock.afterCalls [.pass (.advance 1000000), .machine (.load [0x12, 0x00])]

/-- An advance by no time makes the steps that are overdue, and no advance does not. -/
theorem overdue_advance_steps :
    overdueClock.Uncapped ∧ ([] : List Int).sum = [0].sum ∧
      ([] : List Int).mapM advance overdueClock = .ok [] overdueClock ∧
      overdueClock.instructions [] = [] ∧
      ∃ left, [0].mapM advance overdueClock = .ok [{ steps := 1, frames := 0 }] left ∧
        left.machine.state.cycleCount ≠ overdueClock.machine.state.cycleCount := by
  have huncapped : overdueClock.Uncapped :=
    ⟨by decide +kernel, by decide +kernel, by decide +kernel⟩
  have hcycle : (left ([0].mapM advance overdueClock)).machine.state.cycleCount ≠
      overdueClock.machine.state.cycleCount := by decide +kernel
  have hreturned : returned? ([0].mapM advance overdueClock) = some [{ steps := 1, frames := 0 }] :=
    by decide +kernel
  obtain ⟨final, hrun⟩ := exists_eq_ok_of_returned? hreturned
  rw [hrun] at hcycle
  exact ⟨huncapped, rfl, rfl, rfl, final, hrun, hcycle⟩

end Clock

end Chip8
