import Chip8.Proofs.MachineInvariant

/-!
# Runs to a limit

A run is a loop of steps that goes on while too few cycles are counted and the machine does not wait
for a key. Each turn of it counts exactly one cycle or fails, so the loop ends after no more turns
than the limit, and a run to a sum of limits is one run after another.
-/

namespace Chip8.Machine

variable {source : Type} [ByteSource source]

/-- The loop of a run, with the number of steps that it takes: it goes on while fewer cycles than
`target` are counted and the machine does not wait for a key. -/
inductive RunsUntil (target : Int) :
    Nat → Machine source → EStateM.Result Failure (Machine source) Unit → Prop where
  | reached {machine : Machine source} (hreached : target ≤ machine.state.cycleCount) :
    RunsUntil target 0 machine (.ok () machine)
  | waiting {machine : Machine source} (hwaiting : machine.state.awaitingKey = true) :
    RunsUntil target 0 machine (.ok () machine)
  | step {machine after : Machine source} {executed : Option Instruction} {calls : Nat}
    {result : EStateM.Result Failure (Machine source) Unit}
    (hcount : machine.state.cycleCount < target) (hnotWaiting : machine.state.awaitingKey = false)
    (hstep : step machine = .ok executed after) (hrest : RunsUntil target calls after result) :
    RunsUntil target (calls + 1) machine result
  | fault {machine failed : Machine source} {failure : Failure}
    (hcount : machine.state.cycleCount < target) (hnotWaiting : machine.state.awaitingKey = false)
    (hstep : step machine = .error failure failed) :
    RunsUntil target 1 machine (.error failure failed)

variable {config : Config} {machine : Machine source} {target : Int} {calls : Nat}
  {result : EStateM.Result Failure (Machine source) Unit}

theorem RunsUntil.unique (hruns : RunsUntil target calls machine result) {otherCalls : Nat}
    {other : EStateM.Result Failure (Machine source) Unit}
    (hother : RunsUntil target otherCalls machine other) : otherCalls = calls ∧ other = result := by
  induction hruns generalizing otherCalls other with
  | reached hreached =>
      cases hother with
      | reached | waiting => exact ⟨rfl, rfl⟩
      | step hcount | fault hcount => omega
  | waiting hwaiting =>
      cases hother with
      | reached | waiting => exact ⟨rfl, rfl⟩
      | step _ hnotWaiting | fault _ hnotWaiting => simp [hwaiting] at hnotWaiting
  | step hcount hnotWaiting hstep hrest ih =>
      cases hother with
      | reached hreached => omega
      | waiting hwaiting => simp [hwaiting] at hnotWaiting
      | step _ _ hsame hsameRest =>
          cases hstep.symm.trans hsame
          obtain ⟨hcalls, hresult⟩ := ih hsameRest
          exact ⟨congrArg (· + 1) hcalls, hresult⟩
      | fault _ _ hfault => cases hstep.symm.trans hfault
  | fault hcount hnotWaiting hstep =>
      cases hother with
      | reached hreached => omega
      | waiting hwaiting => simp [hwaiting] at hnotWaiting
      | step _ _ hsame => cases hstep.symm.trans hsame
      | fault _ _ hfault =>
          cases hstep.symm.trans hfault
          exact ⟨rfl, rfl⟩

/-- A step of a machine that does not wait counts one cycle, unless it fails by a fault. -/
theorem Sound.counts_step (hsound : Sound config machine)
    (hnotWaiting : machine.state.awaitingKey = false) :
    (∃ executed after, Machine.step machine = .ok executed after ∧
      after.state.cycleCount = machine.state.cycleCount + 1) ∨
    ∃ fault failed, Machine.step machine = .error (.fault fault) failed := by
  have hresult := stepResult_step hsound.state.valid hsound.display
  generalize Machine.step machine = result at hresult ⊢
  cases hresult with
  | halted | outside | refused => exact .inr ⟨_, _, rfl⟩
  | waiting _ hwaiting | key _ hwaiting => simp [hwaiting] at hnotWaiting
  | carriedOut _ _ _ after htransition =>
      have hcounted := cycleCount_transition htransition
      refine .inl ⟨_, _, rfl, ?_⟩
      rw [finishCycle_eq]
      exact hcounted

theorem Sound.of_step (hsound : Sound config machine) {executed : Option Instruction}
    {after : Machine source} (hstep : Machine.step machine = .ok executed after) :
    Sound config after := by
  have hleft := hsound.step
  rw [hstep] at hleft
  exact hleft

theorem Sound.cycleCount_step (hsound : Sound config machine)
    (hnotWaiting : machine.state.awaitingKey = false) {executed : Option Instruction}
    {after : Machine source} (hstep : Machine.step machine = .ok executed after) :
    after.state.cycleCount = machine.state.cycleCount + 1 := by
  obtain ⟨_, next, hnext, hcount⟩ | ⟨_, _, hfault⟩ := hsound.counts_step hnotWaiting
  · cases hstep.symm.trans hnext
    exact hcount
  · cases hstep.symm.trans hfault

/-- A run that returns has counted a cycle with each of its steps. It has gone no further than the
target and stopped before it only to wait. -/
theorem RunsUntil.cycles (hsound : Sound config machine) {after : Machine source}
    (hruns : RunsUntil target calls machine (.ok () after)) :
    after.state.cycleCount = machine.state.cycleCount + calls ∧
      after.state.cycleCount ≤ max target machine.state.cycleCount ∧
      (after.state.awaitingKey = false → target ≤ after.state.cycleCount) := by
  generalize hresult : EStateM.Result.ok () after = result at hruns
  induction hruns with
  | reached hreached =>
      cases hresult
      exact ⟨(Int.add_zero _).symm, Int.le_max_right _ _, fun _ => hreached⟩
  | waiting hwaiting =>
      cases hresult
      exact ⟨(Int.add_zero _).symm, Int.le_max_right _ _, fun hnotWaiting => by
        simp [hwaiting] at hnotWaiting⟩
  | step hcount hnotWaiting hstep hrest ih =>
      have hnext := hsound.cycleCount_step hnotWaiting hstep
      obtain ⟨hcycles, hbound, hstopped⟩ := ih (hsound.of_step hstep) hresult
      exact ⟨by omega, by omega, hstopped⟩
  | fault => cases hresult

/-- A run fails only as one of its steps does, by a fault. -/
theorem RunsUntil.fails_by_fault (hsound : Sound config machine) {failure : Failure}
    {failed : Machine source} (hruns : RunsUntil target calls machine (.error failure failed)) :
    ∃ fault, failure = .fault fault := by
  generalize hresult : EStateM.Result.error failure failed = result at hruns
  induction hruns with
  | reached | waiting => cases hresult
  | step hcount hnotWaiting hstep hrest ih => exact ih (hsound.of_step hstep) hresult
  | fault hcount hnotWaiting hstep =>
      cases hresult
      obtain ⟨_, _, hnext, -⟩ | ⟨fault, _, hfault⟩ := hsound.counts_step hnotWaiting
      · cases hstep.symm.trans hnext
      · cases hstep.symm.trans hfault
        exact ⟨fault, rfl⟩

/-- The loop of a run ends: the steps that are left bound its turns. -/
theorem Sound.exists_runsUntil (hsound : Sound config machine) (count : Nat) :
    ∃ calls,
      RunsUntil (machine.state.cycleCount + count) calls machine (runSteps count machine) := by
  induction count generalizing machine with
  | zero => exact ⟨0, .reached (Int.le_of_eq (Int.add_zero _))⟩
  | succ count ih =>
      rw [runSteps_succ]
      by_cases hwaiting : machine.state.awaitingKey = true
      · rw [if_pos hwaiting]
        exact ⟨0, .waiting hwaiting⟩
      · rw [if_neg hwaiting]
        have hnotWaiting : machine.state.awaitingKey = false := by simpa using hwaiting
        have hcount : machine.state.cycleCount <
            machine.state.cycleCount + (count + 1 : Nat) := by omega
        cases hstep : Machine.step machine with
        | error failure failed => exact ⟨1, .fault hcount hnotWaiting hstep⟩
        | ok executed after =>
            obtain ⟨calls, hrest⟩ := ih (hsound.of_step hstep)
            have htarget : after.state.cycleCount + count =
                machine.state.cycleCount + (count + 1 : Nat) := by
              rw [hsound.cycleCount_step hnotWaiting hstep]
              omega
            rw [htarget] at hrest
            exact ⟨calls + 1, .step hcount hnotWaiting hstep hrest⟩

theorem runSteps_of_waiting (hwaiting : machine.state.awaitingKey = true) (count : Nat) :
    runSteps count machine = .ok () machine := by
  cases count with
  | zero => rfl
  | succ count => rw [runSteps_succ, if_pos hwaiting]

theorem runSteps_add (first second : Nat) (machine : Machine source) :
    runSteps (first + second) machine =
      match runSteps first machine with
      | .ok _ middle => runSteps second middle
      | .error failure failed => .error failure failed := by
  induction first generalizing machine with
  | zero =>
      rw [Nat.zero_add]
      rfl
  | succ first ih =>
      rw [Nat.succ_add, runSteps_succ, runSteps_succ]
      by_cases hwaiting : machine.state.awaitingKey = true
      · rw [if_pos hwaiting, if_pos hwaiting]
        exact (runSteps_of_waiting hwaiting second).symm
      · rw [if_neg hwaiting, if_neg hwaiting]
        cases Machine.step machine with
        | ok executed after => exact ih after
        | error failure failed => rfl

theorem run_of_limit {limit : Int} (machine : Machine source) :
    run (some limit) machine = runSteps limit.toNat machine :=
  rfl

/-- A run is the loop that counts cycles up to its limit: it ends, by a fault of a step or with as
many steps as it has counted cycles, which are fewer than the limit only if the machine waits. A
machine that waits already takes no step, and a run that returns can be followed by another as if
they were one. -/
theorem Reachable.run_counts_to_limit (hreachable : Reachable config machine) {limit : Int}
    (hlimit : 0 ≤ limit) :
    (∃ calls, ∀ others result,
      RunsUntil (machine.state.cycleCount + limit) others machine result ↔
        others = calls ∧ result = run (some limit) machine) ∧
    (∀ calls after, RunsUntil (machine.state.cycleCount + limit) calls machine (.ok () after) →
      (calls : Int) = after.state.cycleCount - machine.state.cycleCount ∧ calls ≤ limit ∧
        (after.state.awaitingKey = false → calls = limit)) ∧
    (∀ failure failed, run (some limit) machine = .error failure failed →
      ∃ fault, failure = .fault fault) ∧
    (machine.state.awaitingKey = true → run (some limit) machine = .ok () machine) ∧
    ∀ more middle, 0 ≤ more → run (some limit) machine = .ok () middle →
      run (some more) middle = run (some (limit + more)) machine := by
  have hsound := hreachable.sound
  obtain ⟨calls, hruns⟩ := hsound.exists_runsUntil limit.toNat
  rw [Int.toNat_of_nonneg hlimit, ← run_of_limit] at hruns
  refine ⟨⟨calls, fun others result => ⟨hruns.unique, ?_⟩⟩, ?_, ?_, ?_, ?_⟩
  · rintro ⟨rfl, rfl⟩
    exact hruns
  · intro calls after hreturns
    obtain ⟨hcycles, hbound, hstopped⟩ := hreturns.cycles hsound
    refine ⟨by omega, by omega, fun hnotWaiting => ?_⟩
    have hreached := hstopped hnotWaiting
    omega
  · intro failure failed hfailed
    rw [hfailed] at hruns
    exact hruns.fails_by_fault hsound
  · exact fun hwaiting => runSteps_of_waiting hwaiting _
  · intro more middle hmore hfirst
    rw [run_of_limit] at hfirst
    rw [run_of_limit, run_of_limit, Int.toNat_add hlimit hmore, runSteps_add, hfirst]

/-- A machine that is to count once and then to wait for a key. -/
def countingThenWaiting : Machine ByteCycle :=
  (Machine.create {} (ByteCycle.mk #[] 0)).after (.load [0x70, 0x01, 0xF1, 0x0A, 0x12, 0x00])

theorem reachable_countingThenWaiting : Reachable {} countingThenWaiting :=
  (Reachable.create (by decide) (ByteCycle.mk #[] 0) .warning).call _

theorem run_counts_to_limit_countingThenWaiting :
    ∃ middle, RunsUntil 5 2 countingThenWaiting (.ok () middle) ∧
      middle.state.awaitingKey = true ∧
        run (some 3) middle = run (some 8) countingThenWaiting := by
  have hlimit : (0 : Int) ≤ 5 := by decide
  obtain ⟨⟨calls, hruns⟩, hcounts, -, -, hcompose⟩ :=
    reachable_countingThenWaiting.run_counts_to_limit hlimit
  have hcount : countingThenWaiting.state.cycleCount = 0 := by decide +kernel
  have hreturns : failure? (run (some 5) countingThenWaiting) = none := by decide +kernel
  have hleft : (left (run (some 5) countingThenWaiting)).state.cycleCount = 2 := by decide +kernel
  have hwaits : (left (run (some 5) countingThenWaiting)).state.awaitingKey = true := by
    decide +kernel
  rw [hcount] at hruns hcounts
  cases hrun : run (some 5) countingThenWaiting with
  | error failure failed =>
      rw [hrun] at hreturns
      cases hreturns
  | ok value middle =>
      rw [hrun] at hleft hwaits
      have hmade : RunsUntil 5 calls countingThenWaiting (.ok () middle) :=
        (hruns calls _).2 ⟨rfl, hrun.symm⟩
      obtain ⟨hcalls, -⟩ := hcounts calls middle hmade
      have htwo : calls = 2 := by
        rw [left] at hleft
        omega
      refine ⟨middle, htwo ▸ hmade, hwaits, hcompose 3 middle (by decide) hrun⟩

end Chip8.Machine
