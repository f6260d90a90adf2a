import Chip8.Machine.Step

/-!
# Calls of the host

A host builds a machine with an accepted configuration and then calls it in any order. A call that
fails leaves the machine as it was when it failed, and the host may go on calling it.
-/

namespace Chip8

inductive HostCall where
  | load (image : List UInt8)
  | loadSource (text : String)
  | reset
  | step
  | run (limit : Option Int)
  | setHeldKeys (mask : Int)
  | pressKey (key : Int)
  | releaseKey (key : Int)
  | deliverKey (key : Int)
  | tickDelay
  | tickSound
  | tickTimers
  | addListener (listener : String)

def HostCall.action {source : Type} [ByteSource source] : HostCall → Machine.Action source Unit
  | load image => Machine.loadProgram image
  | loadSource text => Machine.loadSource text
  | reset => modify Machine.reset
  | step => discard Machine.step
  | run limit => Machine.run limit
  | setHeldKeys mask => Machine.setHeldKeys mask
  | pressKey key => Machine.pressKey key
  | releaseKey key => Machine.releaseKey key
  | deliverKey key => Machine.deliverKey key
  | tickDelay => modify Machine.tickDelay
  | tickSound => modify Machine.tickSound
  | tickTimers => modify Machine.tickTimers
  | addListener listener => modify (·.addListener listener)

namespace Machine

variable {source α β : Type}

/-- A machine as a host builds it, with listeners that are there from the start. -/
def built (config : Config) (random : source) (noteLevel : Level) (listeners : List String) :
    Machine source :=
  { create config random with noteLevel, listeners }

/-- The machine that a call leaves, whether or not it failed. -/
def left : EStateM.Result Failure (Machine source) α → Machine source
  | .ok _ machine => machine
  | .error _ machine => machine

def failure? : EStateM.Result Failure (Machine source) α → Option Failure
  | .ok _ _ => none
  | .error failure _ => some failure

theorem eq_error_of_failure? {result : EStateM.Result Failure (Machine source) α}
    {failure : Failure} (hfailure : failure? result = some failure) :
    result = .error failure (left result) := by
  cases result with
  | ok value machine => cases hfailure
  | error other machine =>
      cases hfailure
      rfl

def executed? : EStateM.Result Failure (Machine source) (Option Instruction) → Option Instruction
  | .ok executed _ => executed
  | .error _ _ => none

theorem eq_ok_of_executed? {result : EStateM.Result Failure (Machine source) (Option Instruction)}
    {instruction : Instruction} (hexecuted : executed? result = some instruction) :
    result = .ok (some instruction) (left result) := by
  cases result with
  | ok executed machine =>
      cases hexecuted
      rfl
  | error failure machine => cases hexecuted

theorem left_modify (change : Machine source → Machine source) (machine : Machine source) :
    left ((modify change : Action source Unit) machine) = change machine :=
  rfl

theorem left_map (change : α → β) (action : Action source α) (machine : Machine source) :
    left ((change <$> action) machine) = left (action machine) := by
  change left (EStateM.map change action machine) = left (action machine)
  rw [EStateM.map]
  cases action machine <;> rfl

/-- A load resets the machine where that is configured, and then fills its memory or fails. -/
theorem loadProgram_eq (machine : Machine source) (image : List UInt8) :
    loadProgram image machine =
      let prepared := if machine.config.resetOnLoad then machine.reset else machine
      if programCapacity < image.length then
        .error (.fault (.programTooLarge image.length programCapacity)) prepared
      else
        .ok () <|
          { prepared with
            state :=
              { prepared.state with
                memory := memoryOfImage image
                pc := programStart
                resumePc := programStart
                halted := false }
            trace := #[] }.note .info .cpu fun _ =>
              "Loaded program of " ++ toString image.length ++ " bytes." := by
  generalize hprepared : (if machine.config.resetOnLoad then machine.reset else machine) = prepared
  change EStateM.bind (update (State.loadImage image)) _
    (if machine.config.resetOnLoad then machine.reset else machine) = _
  have hload := prepared.state.loadImage_eq image
  rw [hprepared, EStateM.bind]
  by_cases hlarge : programCapacity < image.length
  · rw [if_pos hlarge] at hload
    simp only [update_error hload, if_pos hlarge]
  · rw [if_neg hlarge] at hload
    simp only [update_ok hload, if_neg hlarge]
    rfl

/-- Whatever the call does, a machine with the property is left with it. -/
def Keeps (property : Machine source → Prop) (action : Action source α) : Prop :=
  ∀ machine, property machine → property (left (action machine))

section Keeps

variable {property : Machine source → Prop}

theorem Keeps.pure (value : α) : Keeps property (Pure.pure value : Action source α) :=
  fun _ hproperty => hproperty

theorem Keeps.bind {first : Action source α} {next : α → Action source β}
    (hfirst : Keeps property first) (hnext : ∀ value, Keeps property (next value)) :
    Keeps property (first >>= next) := by
  intro machine hproperty
  have hleft := hfirst machine hproperty
  change property (left (EStateM.bind first next machine))
  rw [EStateM.bind]
  cases hresult : first machine with
  | ok value after =>
      rw [hresult] at hleft
      exact hnext value after hleft
  | error failure after =>
      rw [hresult] at hleft
      exact hleft

theorem Keeps.map (change : α → β) {action : Action source α} (haction : Keeps property action) :
    Keeps property (change <$> action) := by
  intro machine hproperty
  rw [left_map]
  exact haction machine hproperty

theorem Keeps.and {other : Machine source → Prop} {action : Action source α}
    (haction : Keeps property action) (hother : Keeps other action) :
    Keeps (fun machine => property machine ∧ other machine) action :=
  fun machine hboth => ⟨haction machine hboth.1, hother machine hboth.2⟩

theorem Keeps.updateKeypad {change : Keypad.Change}
    (hkeypad : ∀ machine keypad, property machine → property { machine with keypad }) :
    Keeps property (updateKeypad change) := by
  intro machine hproperty
  rw [Machine.updateKeypad]
  split <;> exact hkeypad machine _ hproperty

theorem Keeps.modify {change : Machine source → Machine source}
    (hchange : ∀ machine, property machine → property (change machine)) :
    Keeps property (modify change : Action source Unit) :=
  hchange

variable [ByteSource source]

theorem Keeps.runSteps (hstep : Keeps property (step : Action source (Option Instruction)))
    (count : Nat) : Keeps property (runSteps count) := by
  induction count with
  | zero => exact Keeps.pure ()
  | succ count ih =>
      refine Keeps.bind (fun _ hproperty => hproperty) fun machine => ?_
      split
      · exact Keeps.pure ()
      · exact Keeps.bind (hstep.map _) fun _ => ih

theorem Keeps.run (hstep : Keeps property (step : Action source (Option Instruction)))
    (limit : Option Int) : Keeps property (run limit) := by
  intro machine hproperty
  rw [Machine.run]
  split
  · exact hproperty
  · exact Keeps.runSteps hstep _ machine hproperty

end Keeps

variable [ByteSource source]

theorem runSteps_succ (count : Nat) (machine : Machine source) :
    runSteps (count + 1) machine =
      if machine.state.awaitingKey then .ok () machine
      else
        match step machine with
        | .ok _ after => runSteps count after
        | .error failure after => .error failure after := by
  rw [runSteps]
  change (if machine.state.awaitingKey then pure () else _ : Action source Unit) machine = _
  split
  · rfl
  · change EStateM.bind (EStateM.map (fun _ => ()) step) (fun _ => runSteps count) machine = _
    rw [EStateM.bind, EStateM.map]
    cases step machine <;> rfl

def after (machine : Machine source) (call : HostCall) : Machine source :=
  left (call.action machine)

theorem after_step (machine : Machine source) : machine.after .step = left (step machine) :=
  left_map _ step machine

def afterCalls (machine : Machine source) (calls : List HostCall) : Machine source :=
  calls.foldl after machine

theorem afterCalls_concat (machine : Machine source) (calls : List HostCall) (call : HostCall) :
    machine.afterCalls (calls ++ [call]) = (machine.afterCalls calls).after call := by
  rw [afterCalls, List.foldl_append]
  rfl

theorem Keeps.afterCalls {property : Machine source → Prop} {calls : List HostCall}
    (hcalls : ∀ call ∈ calls, Keeps property call.action) {machine : Machine source}
    (hproperty : property machine) : property (machine.afterCalls calls) := by
  induction calls generalizing machine with
  | nil => exact hproperty
  | cons call calls ih =>
      have hcall := hcalls call List.mem_cons_self machine hproperty
      exact ih (fun other hother => hcalls other (List.mem_cons_of_mem _ hother)) hcall

/-- The machines that a host comes to from one built with a configuration. -/
inductive Reachable (config : Config) : Machine source → Prop where
  | create (hvalid : config.Valid) (random : source) (noteLevel : Level) :
    Reachable config { Machine.create config random with noteLevel }
  | call {machine : Machine source} (hreachable : Reachable config machine) (call : HostCall) :
    Reachable config (machine.after call)

theorem Reachable.afterCalls {config : Config} {machine : Machine source}
    (hreachable : Reachable config machine) (calls : List HostCall) :
    Reachable config (machine.afterCalls calls) := by
  induction calls generalizing machine with
  | nil => exact hreachable
  | cons call calls ih => exact ih (hreachable.call call)

end Machine

end Chip8
