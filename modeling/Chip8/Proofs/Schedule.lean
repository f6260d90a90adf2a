import Chip8.Proofs.HostCalls
import Chip8.Proofs.Pacing
import Mathlib.Algebra.Order.Ring.Int

/-!
# The schedule of a clock

However the time that passes is split into advances, a clock without a cap makes the same steps and
shows the same frames of one beat after another: after a total of `total` nanoseconds there have
been `total / cpuPeriod` steps and `total / framePeriod` frames, and the remainders are the
backlogs.
-/

namespace Chip8

inductive Passage where
  | advance (elapsed : Int)
  | tick (now : Int)

namespace Passage

variable {source : Type}

def action [ByteSource source] : Passage → Clock.Action source Tick
  | advance elapsed => Clock.advance elapsed
  | tick now => Clock.tick now

/-- The time that passes, after a clock whose last reading was `last`. -/
def gap (last : Int) : Passage → Int
  | advance elapsed => elapsed
  | tick now => now - last

def reading (last : Int) : Passage → Int
  | advance _ => last
  | tick now => now

theorem action_eq [ByteSource source] (passage : Passage) (clock : Clock source) :
    passage.action clock =
      Clock.advance (passage.gap clock.last) { clock with last := passage.reading clock.last } := by
  cases passage <;> rfl

def gaps : Int → List Passage → List Int
  | _, [] => []
  | last, passage :: passages => passage.gap last :: gaps (passage.reading last) passages

def lastReading (last : Int) (passages : List Passage) : Int :=
  passages.foldl reading last

theorem sum_gaps_map_tick (last : Int) (readings : List Int) :
    (gaps last (readings.map tick)).sum = lastReading last (readings.map tick) - last := by
  induction readings generalizing last with
  | nil => simp [gaps, lastReading]
  | cons now readings ih =>
      rw [List.map_cons, gaps, List.sum_cons, reading, ih]
      change now - last + (lastReading now (readings.map tick) - now) =
        lastReading now (readings.map tick) - last
      omega

end Passage

inductive Beat where
  | step
  | frame
  deriving DecidableEq

namespace Beat

def action {source : Type} [ByteSource source] : Beat → Clock.Action source Unit
  | step => discard (Clock.onMachine Machine.step)
  | frame => modify Clock.showFrame

def period (cpuPeriod framePeriod : Int) : Beat → Int
  | step => cpuPeriod
  | frame => framePeriod

/-- Beats in turn, up to the first that fails. -/
def play {source : Type} [ByteSource source] (beats : List Beat) : Clock.Action source Unit :=
  forM beats action

end Beat

namespace Tick

/-- The tick of a gap that begins when `passed` nanoseconds have passed. -/
def between (cpuPeriod framePeriod passed gap : Int) : Tick where
  steps := (passed + gap) / cpuPeriod - passed / cpuPeriod
  frames := (passed + gap) / framePeriod - passed / framePeriod

def schedule (cpuPeriod framePeriod : Int) : Int → List Int → List Tick
  | _, [] => []
  | passed, gap :: gaps =>
    between cpuPeriod framePeriod passed gap :: schedule cpuPeriod framePeriod (passed + gap) gaps

/-- The beats of a tick: all of its steps come before its frames. -/
def beats (tick : Tick) : List Beat :=
  List.replicate tick.steps.toNat .step ++ List.replicate tick.frames.toNat .frame

theorem between_nonneg {cpuPeriod framePeriod gap : Int} (hcpu : 0 < cpuPeriod)
    (hframe : 0 < framePeriod) (passed : Int) (hgap : 0 ≤ gap) :
    0 ≤ (between cpuPeriod framePeriod passed gap).steps ∧
      0 ≤ (between cpuPeriod framePeriod passed gap).frames := by
  have hle : passed ≤ passed + gap := by omega
  exact ⟨Int.sub_nonneg_of_le (Int.ediv_le_ediv hcpu hle),
    Int.sub_nonneg_of_le (Int.ediv_le_ediv hframe hle)⟩

section Count

variable {cpuPeriod framePeriod : Int} (passed : Int) {beat : Beat}
  (hperiod : 0 < beat.period cpuPeriod framePeriod)

include hperiod

theorem count_beats_between {gap : Int} (hgap : 0 ≤ gap) :
    ((between cpuPeriod framePeriod passed gap).beats.count beat : Int) =
      (passed + gap) / beat.period cpuPeriod framePeriod -
        passed / beat.period cpuPeriod framePeriod := by
  have hle := Int.ediv_le_ediv hperiod (show passed ≤ passed + gap by omega)
  cases beat with
  | step =>
      rw [Beat.period] at hle ⊢
      simp [beats, between, List.count_replicate, hle]
  | frame =>
      rw [Beat.period] at hle ⊢
      simp [beats, between, List.count_replicate, hle]

theorem count_beats_schedule {gaps : List Int} (hgaps : ∀ gap ∈ gaps, 0 ≤ gap) :
    (((schedule cpuPeriod framePeriod passed gaps).flatMap beats).count beat : Int) =
      (passed + gaps.sum) / beat.period cpuPeriod framePeriod -
        passed / beat.period cpuPeriod framePeriod := by
  induction gaps generalizing passed with
  | nil => simp [schedule]
  | cons gap gaps ih =>
      have hhead := count_beats_between passed hperiod (hgaps gap List.mem_cons_self)
      have htail := ih (passed + gap) fun other hother =>
        hgaps other (List.mem_cons_of_mem gap hother)
      rw [schedule, List.flatMap_cons, List.count_append, Int.natCast_add, hhead, htail,
        List.sum_cons, Int.add_assoc]
      omega

end Count

end Tick

namespace Clock

open Beat (play)
open Machine (stepTimes)

variable {source : Type}

/-- What an action returns, if it does. -/
def returned? {α : Type} : EStateM.Result Failure (Clock source) α → Option α
  | .ok value _ => some value
  | .error _ _ => none

theorem exists_eq_ok_of_returned? {α : Type} {result : EStateM.Result Failure (Clock source) α}
    {value : α} (hreturned : returned? result = some value) : ∃ left, result = .ok value left := by
  cases result with
  | ok other left =>
      cases hreturned
      exact ⟨left, rfl⟩
  | error failure failed => cases hreturned

/-- The clock at another time: the reading and the backlogs are replaced. -/
def atTime (clock : Clock source) (last cpuBacklog frameBacklog : Int) : Clock source :=
  { clock with last, cpuBacklog, frameBacklog }

theorem showFrame_iterate_atTime (count : Nat) (clock : Clock source)
    (last cpuBacklog frameBacklog : Int) :
    showFrame^[count] (clock.atTime last cpuBacklog frameBacklog) =
      (showFrame^[count] clock).atTime last cpuBacklog
        (frameBacklog - count * clock.framePeriod) := by
  induction count generalizing clock frameBacklog with
  | zero => simp
  | succ count ih =>
      have hshow : (clock.atTime last cpuBacklog frameBacklog).showFrame =
          clock.showFrame.atTime last cpuBacklog (frameBacklog - clock.framePeriod) := rfl
      have hrest : frameBacklog - clock.framePeriod - count * clock.framePeriod =
          frameBacklog - (count + 1 : Nat) * clock.framePeriod := by
        rw [Int.natCast_succ, Int.add_mul, Int.one_mul]
        omega
      rw [Function.iterate_succ_apply, Function.iterate_succ_apply, hshow, ih, ← hrest]
      rfl

variable [ByteSource source]

theorem play_append (beats others : List Beat) (clock : Clock source) :
    play (beats ++ others) clock =
      match play beats clock with
      | .ok _ played => play others played
      | .error failure failed => .error failure failed := by
  rw [play, List.forM_append]
  change EStateM.bind (play beats) (fun _ => play others) clock = _
  rw [EStateM.bind]
  cases play beats clock <;> rfl

theorem play_replicate_step (count : Nat) (clock : Clock source) :
    play (List.replicate count .step) clock =
      match stepTimes count clock.machine with
      | .ok _ after => .ok () { clock with machine := after }
      | .error failure after => .error failure { clock with machine := after } := by
  induction count generalizing clock with
  | zero => rfl
  | succ count ih =>
      rw [List.replicate_succ, play, List.forM_cons, Machine.stepTimes_succ]
      change EStateM.bind (EStateM.map (fun _ => ()) (onMachine Machine.step)) _ clock = _
      rw [EStateM.bind, EStateM.map, onMachine]
      cases Machine.step clock.machine with
      | error failure after => rfl
      | ok _ after => exact ih _

theorem play_replicate_frame (count : Nat) (clock : Clock source) :
    play (List.replicate count .frame) clock = .ok () (showFrame^[count] clock) := by
  induction count generalizing clock with
  | zero => rfl
  | succ count ih => exact ih clock.showFrame

theorem play_beats (tick : Tick) (clock : Clock source) :
    play tick.beats clock =
      match stepTimes tick.steps.toNat clock.machine with
      | .ok _ after => .ok () (showFrame^[tick.frames.toNat] { clock with machine := after })
      | .error failure after => .error failure { clock with machine := after } := by
  rw [Tick.beats, play_append, play_replicate_step]
  cases stepTimes tick.steps.toNat clock.machine with
  | error failure after => rfl
  | ok _ after => exact play_replicate_frame _ _

theorem emod_add_ediv (passed gap : Int) {period : Int} (hperiod : 0 < period) :
    (passed % period + gap) / period = (passed + gap) / period - passed / period := by
  have hsplit : passed + gap = passed % period + gap + passed / period * period := by
    have hdivision := Int.ediv_mul_add_emod passed period
    omega
  rw [hsplit, Int.add_mul_ediv_right _ _ (ne_of_gt hperiod)]
  omega

/-- An advance moves the clock on by its gap; a failing one leaves the backlogs in between. -/
theorem advance_atTime {clock : Clock source} (huncapped : clock.stepCap = none)
    (hcpu : 0 < clock.cpuPeriod) (hframe : 0 < clock.framePeriod) (last passed : Int) {gap : Int}
    (hgap : 0 ≤ gap) :
    advance gap (clock.atTime last (passed % clock.cpuPeriod) (passed % clock.framePeriod)) =
      match play (Tick.between clock.cpuPeriod clock.framePeriod passed gap).beats clock with
      | .ok _ played =>
        .ok (Tick.between clock.cpuPeriod clock.framePeriod passed gap)
          (played.atTime last ((passed + gap) % clock.cpuPeriod)
            ((passed + gap) % clock.framePeriod))
      | .error failure failed =>
        let steps := (Tick.between clock.cpuPeriod clock.framePeriod passed gap).steps.toNat
        let made := clock.machine.succeeding steps
        .error failure (failed.atTime last (passed % clock.cpuPeriod + gap - made * clock.cpuPeriod)
          (passed % clock.framePeriod)) := by
  let begun := clock.atTime last (passed % clock.cpuPeriod) (passed % clock.framePeriod)
  let tick := Tick.between clock.cpuPeriod clock.framePeriod passed gap
  have hbegunCpu : 0 < begun.cpuPeriod := hcpu
  have hbegunFrame : 0 < begun.framePeriod := hframe
  have hbegunUncapped : begun.stepCap = none := huncapped
  have hbacklog : 0 ≤ begun.cpuBacklog := Int.emod_nonneg passed (ne_of_gt hcpu)
  -- The backlog is what has passed since the last whole period, so the gap adds the periods that
  -- end between the two times.
  have hquota : begun.quota gap = tick.steps.toNat :=
    (quota_of_uncapped hbegunUncapped gap).trans
      (congrArg Int.toNat (emod_add_ediv passed gap hcpu))
  have hframeQuota : begun.frameQuota gap = tick.frames.toNat :=
    congrArg Int.toNat (emod_add_ediv passed gap hframe)
  obtain ⟨hsteps, hframes⟩ := Tick.between_nonneg hcpu hframe passed hgap
  have hadvance := advance_eq hbegunCpu hbegunFrame hbacklog hgap
  rw [hquota, hframeQuota, Int.toNat_of_nonneg hsteps, Int.toNat_of_nonneg hframes] at hadvance
  refine hadvance.trans ?_
  rw [play_beats]
  change (match stepTimes tick.steps.toNat clock.machine with
    | .ok _ after => _
    | .error failure after => _) = _
  cases stepTimes tick.steps.toNat clock.machine with
  | error failure after =>
      dsimp only
      rw [abandon, hquota]
      rfl
  | ok _ after =>
      have hrest : begun.frameBacklog + gap - tick.frames.toNat * clock.framePeriod =
          (passed + gap) % clock.framePeriod := by
        rw [← hframeQuota, ← Int.emod_add_emod passed]
        exact sub_due_mul hframe (add_nonneg (Int.emod_nonneg passed (ne_of_gt hframe)) hgap)
      dsimp only
      congr 1
      rw [finish_of_uncapped hbegunUncapped, hframeQuota, ← hrest, ← Int.emod_add_emod passed]
      exact showFrame_iterate_atTime _ { clock with machine := after } last _ _

theorem action_atTime (passage : Passage) (clock : Clock source)
    (last cpuBacklog frameBacklog : Int) :
    passage.action (clock.atTime last cpuBacklog frameBacklog) =
      advance (passage.gap last)
        (clock.atTime (passage.reading last) cpuBacklog frameBacklog) :=
  passage.action_eq _

theorem rates_of_play {tick : Tick} {clock played : Clock source}
    (hplay : play tick.beats clock = .ok () played) :
    played.stepCap = clock.stepCap ∧ played.cpuPeriod = clock.cpuPeriod ∧
      played.framePeriod = clock.framePeriod := by
  rw [play_beats] at hplay
  split at hplay
  · cases hplay
    rw [showFrame_iterate]
    exact ⟨rfl, rfl, rfl⟩
  · cases hplay

omit [ByteSource source] in
theorem mapM_cons_eq {α β : Type} (action : β → Action source α) (item : β) (items : List β)
    (clock : Clock source) :
    (item :: items).mapM action clock =
      match action item clock with
      | .error failure failed => .error failure failed
      | .ok value after =>
        match items.mapM action after with
        | .error failure failed => .error failure failed
        | .ok values left => .ok (value :: values) left := by
  rw [List.mapM_cons]
  change EStateM.bind (action item) _ clock = _
  rw [EStateM.bind]
  cases action item clock with
  | error failure failed => rfl
  | ok value after =>
      change EStateM.bind (items.mapM action) _ after = _
      rw [EStateM.bind]
      cases hrest : items.mapM action after with
      | error failure failed => simp [hrest]
      | ok values left => simp [hrest]; rfl

/-- Passages make the beats of all their gaps, and fail as the first beat that fails does. -/
theorem mapM_passages_atTime {last : Int} {passages : List Passage} (passed : Int)
    {clock : Clock source} (huncapped : clock.stepCap = none) (hcpu : 0 < clock.cpuPeriod)
    (hframe : 0 < clock.framePeriod) (hgaps : ∀ gap ∈ Passage.gaps last passages, 0 ≤ gap) :
    match play ((Tick.schedule clock.cpuPeriod clock.framePeriod passed
      (Passage.gaps last passages)).flatMap Tick.beats) clock with
    | .ok _ played =>
      passages.mapM Passage.action
          (clock.atTime last (passed % clock.cpuPeriod) (passed % clock.framePeriod)) =
        .ok (Tick.schedule clock.cpuPeriod clock.framePeriod passed (Passage.gaps last passages))
          (played.atTime (Passage.lastReading last passages)
            ((passed + (Passage.gaps last passages).sum) % clock.cpuPeriod)
            ((passed + (Passage.gaps last passages).sum) % clock.framePeriod))
    | .error failure failed =>
      ∃ left,
        passages.mapM Passage.action
            (clock.atTime last (passed % clock.cpuPeriod) (passed % clock.framePeriod)) =
          .error failure left ∧ left.machine = failed.machine := by
  induction passages generalizing clock last passed with
  | nil =>
      simp only [Passage.gaps, Tick.schedule, List.flatMap_nil, List.sum_nil, Int.add_zero]
      rfl
  | cons passage passages ih =>
      have hgap := hgaps _ List.mem_cons_self
      have hadvance := advance_atTime huncapped hcpu hframe (passage.reading last) passed hgap
      rw [Passage.gaps, Tick.schedule, List.flatMap_cons, play_append, mapM_cons_eq,
        action_atTime]
      cases hhead : play (Tick.between clock.cpuPeriod clock.framePeriod passed
          (passage.gap last)).beats clock with
      | error failure failed =>
          simp only [hhead] at hadvance
          rw [hadvance]
          exact ⟨_, rfl, rfl⟩
      | ok _ mid =>
          -- The other passages begin where the beats of the first end, at the same rates.
          obtain ⟨hcap, hcpuPeriod, hframePeriod⟩ := rates_of_play hhead
          have htail := ih (passed + passage.gap last) (hcap.trans huncapped) (by omega)
            (by omega) fun gap hmem => hgaps gap (List.mem_cons_of_mem _ hmem)
          simp only [hcpuPeriod, hframePeriod] at htail
          simp only [hhead] at hadvance
          rw [hadvance, List.sum_cons, ← Int.add_assoc]
          dsimp only
          cases hrest : play ((Tick.schedule clock.cpuPeriod clock.framePeriod
              (passed + passage.gap last)
              (Passage.gaps (passage.reading last) passages)).flatMap Tick.beats) mid with
          | ok _ played =>
              simp only [hrest] at htail
              simp only [htail]
              rfl
          | error failure failed =>
              simp only [hrest] at htail
              obtain ⟨left, htail, hmachine⟩ := htail
              simp only [htail]
              exact ⟨left, rfl, hmachine⟩

/-- A clock that no time has passed on: one that has just been started or restarted. -/
inductive Begins : Clock source → Prop where
  | start {machine : Machine source} {cpuHz frameHz stepCap : Option Int} {listeners : List String}
    {now : Int} {clock : Clock source}
    (hstart : start machine cpuHz frameHz stepCap listeners now = .ok clock) : Begins clock
  | restart (clock : Clock source) (now : Int) : Begins (clock.restart now)

omit [ByteSource source] in
theorem Begins.atTime_eq {clock : Clock source} (hbegins : Begins clock) :
    clock.atTime clock.last 0 0 = clock := by
  cases hbegins with
  | restart clock now => rfl
  | start hstart =>
      rw [Clock.start] at hstart
      split at hstart
      · cases hstart
      · cases hstart
        rfl

omit [ByteSource source] in
theorem Begins.backlogs_eq_zero {clock : Clock source} (hbegins : Begins clock) :
    clock.cpuBacklog = 0 ∧ clock.frameBacklog = 0 := by
  have hbegun := hbegins.atTime_eq
  exact ⟨(congrArg Clock.cpuBacklog hbegun).symm, (congrArg Clock.frameBacklog hbegun).symm⟩

/-- Since a clock was started or restarted, it has made a step for each whole instruction period of
the total time and shown a frame for each whole frame period; its backlogs are what is left over. -/
theorem Begins.passages_follow_schedule {clock : Clock source} (hbegins : Begins clock)
    (huncapped : clock.stepCap = none) (hcpu : 1 ≤ clock.cpuPeriod) (hframe : 1 ≤ clock.framePeriod)
    {passages : List Passage} (hgaps : ∀ gap ∈ Passage.gaps clock.last passages, 0 ≤ gap) :
    let gaps := Passage.gaps clock.last passages
    let ticks := Tick.schedule clock.cpuPeriod clock.framePeriod 0 gaps
    let beats := ticks.flatMap Tick.beats
    (∀ readings : List Int, passages = readings.map .tick →
      gaps.sum = Passage.lastReading clock.last passages - clock.last) ∧
    (beats.count .step : Int) = gaps.sum / clock.cpuPeriod ∧
    (beats.count .frame : Int) = gaps.sum / clock.framePeriod ∧
    (∀ played, play beats clock = .ok () played →
      passages.mapM Passage.action clock =
        .ok ticks (played.atTime (Passage.lastReading clock.last passages)
          (gaps.sum % clock.cpuPeriod) (gaps.sum % clock.framePeriod))) ∧
    ∀ failure failed, play beats clock = .error failure failed →
      ∃ left, passages.mapM Passage.action clock = .error failure left ∧
        left.machine = failed.machine := by
  have hbegun : clock.atTime clock.last (0 % clock.cpuPeriod) (0 % clock.framePeriod) = clock := by
    rw [Int.zero_emod, Int.zero_emod, hbegins.atTime_eq]
  have hrun := mapM_passages_atTime 0 huncapped hcpu hframe hgaps
  refine ⟨?_, ?_, ?_, ?_, ?_⟩
  · rintro readings rfl
    exact Passage.sum_gaps_map_tick clock.last readings
  · have hperiod : 0 < Beat.step.period clock.cpuPeriod clock.framePeriod := hcpu
    have hcount := Tick.count_beats_schedule 0 hperiod hgaps
    rwa [Int.zero_add, Int.zero_ediv, Int.sub_zero] at hcount
  · have hperiod : 0 < Beat.frame.period clock.cpuPeriod clock.framePeriod := hframe
    have hcount := Tick.count_beats_schedule 0 hperiod hgaps
    rwa [Int.zero_add, Int.zero_ediv, Int.sub_zero] at hcount
  · intro played hplay
    simpa only [hplay, hbegun, Int.zero_add] using hrun
  · intro failure failed hplay
    simpa only [hplay, hbegun] using hrun

/-- A clock at 1 kHz and 250 Hz on a program that jumps to itself. -/
def loopingClock : Clock ByteCycle where
  machine := (Machine.create {} (ByteCycle.mk #[] 0)).after (.load [0x12, 0x00])
  cpuPeriod := 1000000
  framePeriod := 4000000
  stepCap := none
  frameCount := 0
  listeners := []
  last := 1000
  cpuBacklog := 0
  frameBacklog := 0

theorem begins_loopingClock : Begins loopingClock := by
  have hstart : start loopingClock.machine (some 1000) (some 250) none [] 1000 =
      .ok loopingClock := rfl
  exact .start hstart

theorem exists_play_loopingClock :
    ∃ played, play ((Tick.schedule 1000000 4000000 0 [2500000, 6000000]).flatMap Tick.beats)
      loopingClock = .ok () played := by
  exact exists_eq_ok_of_returned? (by decide +kernel)

theorem passages_follow_schedule_loopingClock :
    ∃ left : Clock ByteCycle,
      [.advance 2500000, .tick 6001000].mapM Passage.action loopingClock =
          .ok [{ steps := 2, frames := 0 }, { steps := 6, frames := 2 }] left ∧
        left.cpuBacklog = 500000 ∧ left.frameBacklog = 500000 := by
  have hgaps : Passage.gaps loopingClock.last [.advance 2500000, .tick 6001000] =
      [2500000, 6000000] := by decide
  have hticks : Tick.schedule 1000000 4000000 0 [2500000, 6000000] =
      [{ steps := 2, frames := 0 }, { steps := 6, frames := 2 }] := by decide
  have hforward : ∀ gap ∈ Passage.gaps loopingClock.last [.advance 2500000, .tick 6001000],
      0 ≤ gap := by
    rw [hgaps]
    decide
  obtain ⟨-, -, -, hrun, -⟩ :=
    begins_loopingClock.passages_follow_schedule rfl (by decide) (by decide) hforward
  obtain ⟨played, hplay⟩ := exists_play_loopingClock
  rw [hgaps] at hrun
  have hleft := hrun played hplay
  rw [← hticks]
  exact ⟨_, hleft, rfl, rfl⟩

end Clock

end Chip8
