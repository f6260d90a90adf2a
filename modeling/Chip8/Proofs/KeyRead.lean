import Chip8.Proofs.MachineInvariant
import Mathlib.Data.List.Induction

/-!
# The blocking key read

A program that waits for a key is answered by the key handed over last since the wait began, however
long the host polls, and by no key that was handed over before. `WaitsFor` is what a wait consists
of; the calls that a wait outlasts change it only by the key they hand over and the place to go on
at.
-/

namespace Chip8

namespace HostCall

def key? : HostCall → Option Key
  | pressKey key => Key.ofInt? key
  | deliverKey key => Key.ofInt? key
  | _ => none

/-- Whether a call loads a program that fits. -/
def loads : HostCall → Bool
  | load image => decide (image.length ≤ programCapacity)
  | _ => false

/-- Whether a wait for a key outlasts a call. -/
def KeepsWait (config : Config) : HostCall → Prop
  | load _ => config.resetOnLoad = false
  | step | setHeldKeys _ | pressKey _ | releaseKey _ | deliverKey _ => True
  | tickDelay | tickSound | tickTimers => True
  | _ => False

def lastKey? (calls : List HostCall) : Option Key :=
  (calls.filterMap key?).getLast?

/-- No step has come after a key. -/
def Unanswered (calls : List HostCall) : Prop :=
  ∀ front back, calls = front ++ step :: back → lastKey? front = none

theorem lastKey?_concat (calls : List HostCall) (call : HostCall) :
    lastKey? (calls ++ [call]) = call.key?.or (lastKey? calls) := by
  rw [lastKey?, List.filterMap_append, List.getLast?_append]
  cases hkey : call.key? <;> simp [hkey, lastKey?]

theorem Unanswered.of_concat {calls : List HostCall} {call : HostCall}
    (hunanswered : Unanswered (calls ++ [call])) :
    Unanswered calls ∧ (call = step → lastKey? calls = none) := by
  constructor
  · intro front back hcalls
    refine hunanswered front (back ++ [call]) ?_
    rw [hcalls, List.append_assoc, List.cons_append]
  · intro hcall
    exact hunanswered calls [] (by rw [hcall])

end HostCall

namespace Machine

open HostCall

variable {source : Type} {config : Config} {machine : Machine source}

/-- The machine waits for a key for register `x`, to go on at `resume`. -/
structure WaitsFor (config : Config) (x : Nat) (resume : Int) (pending : Option Key)
    (machine : Machine source) : Prop where
  config_eq : machine.config = config
  running : machine.state.halted = false
  waiting : machine.state.awaitingKey = true
  register : machine.state.keyRegister = x
  resume_eq : machine.state.resumePc = resume
  pending_eq : machine.keypad.pending = pending

variable {x : Nat} {resume : Int} {pending : Option Key}

theorem WaitsFor.setKeypad (hwaits : machine.WaitsFor config x resume pending) {keypad : Keypad}
    {given : Option Key} (hgiven : keypad.pending = given) :
    WaitsFor config x resume given { machine with keypad } :=
  ⟨hwaits.config_eq, hwaits.running, hwaits.waiting, hwaits.register, hwaits.resume_eq, hgiven⟩

theorem WaitsFor.note (hwaits : machine.WaitsFor config x resume pending) (level : Level)
    (topic : Topic) (text : Unit → String) :
    (machine.note level topic text).WaitsFor config x resume pending := by
  rw [note_eq]
  exact ⟨hwaits.config_eq, hwaits.running, hwaits.waiting, hwaits.register, hwaits.resume_eq,
    hwaits.pending_eq⟩

theorem WaitsFor.tickDelay (hwaits : machine.WaitsFor config x resume pending) :
    machine.tickDelay.WaitsFor config x resume pending := by
  rw [Machine.tickDelay, State.tickDelay]
  split
  · exact ⟨hwaits.config_eq, hwaits.running, hwaits.waiting, hwaits.register, hwaits.resume_eq,
      hwaits.pending_eq⟩
  · exact hwaits

theorem WaitsFor.tickSound (hwaits : machine.WaitsFor config x resume pending) :
    machine.tickSound.WaitsFor config x resume pending := by
  rw [tickSound_eq, State.tickSound]
  split <;>
    exact ⟨hwaits.config_eq, hwaits.running, hwaits.waiting, hwaits.register, hwaits.resume_eq,
      hwaits.pending_eq⟩

theorem WaitsFor.withKey (hwaits : machine.WaitsFor config x resume pending) {key : Int}
    {change : Keypad → Key → Keypad} {next : Unit → Action source Unit} {given : Option Key}
    (hnone : Key.ofInt? key = none → given = pending)
    (hsome : ∀ number, Key.ofInt? key = some number →
      WaitsFor config x resume given
        (left (next () { machine with keypad := change machine.keypad number }))) :
    WaitsFor config x resume given
      (left ((updateKeypad (Keypad.withKey key change) >>= next) machine)) := by
  have hchange := updateKeypad_withKey machine key change
  cases hkey : Key.ofInt? key with
  | none =>
      rw [hkey] at hchange
      simp only [bind, EStateM.bind, hchange]
      exact hnone hkey ▸ hwaits
  | some number =>
      rw [hkey] at hchange
      simp only [bind, EStateM.bind, hchange]
      exact hsome number hkey

theorem WaitsFor.deliverKey (hwaits : machine.WaitsFor config x resume pending) (key : Int) :
    WaitsFor config x resume ((Key.ofInt? key).or pending) (left (deliverKey key machine)) := by
  refine hwaits.withKey (fun hnone => by rw [hnone, Option.none_or]) ?_
  intro number hkey
  rw [hkey, Option.some_or, left_modify]
  refine WaitsFor.note ?_ _ _ _
  exact hwaits.setKeypad rfl

theorem WaitsFor.pressKey (hwaits : machine.WaitsFor config x resume pending) (key : Int) :
    WaitsFor config x resume ((Key.ofInt? key).or pending) (left (pressKey key machine)) := by
  refine hwaits.withKey (fun hnone => by rw [hnone, Option.none_or]) ?_
  intro number hkey
  have hpressed : WaitsFor config x resume pending
      { machine with
        keypad := { machine.keypad with
          held := machine.keypad.held ||| BitVec.twoPow keyCount number } } :=
    hwaits.setKeypad hwaits.pending_eq
  have hdelivered := hpressed.deliverKey key
  change WaitsFor config x resume _
    (left ((if machine.state.awaitingKey then Machine.deliverKey key else pure ()) _))
  rw [if_pos hwaits.waiting]
  exact hdelivered

theorem WaitsFor.loadProgram (hwaits : machine.WaitsFor config x resume pending)
    (hreset : config.resetOnLoad = false) (image : List UInt8) :
    WaitsFor config x (if image.length ≤ programCapacity then programStart else resume) pending
      (left (loadProgram image machine)) := by
  have hkept : machine.config.resetOnLoad = false := hwaits.config_eq ▸ hreset
  rw [loadProgram_eq, hkept, if_neg Bool.false_ne_true]
  by_cases hsize : image.length ≤ programCapacity
  · rw [if_pos hsize, if_neg (by omega), left]
    refine WaitsFor.note ?_ _ _ _
    exact ⟨hwaits.config_eq, rfl, hwaits.waiting, hwaits.register, rfl, hwaits.pending_eq⟩
  · rw [if_neg hsize, if_pos (by omega)]
    exact hwaits

/-- A call that the wait outlasts changes the key handed over and the place to go on at, each only
if the call is about it. -/
theorem WaitsFor.after [ByteSource source] (hwaits : machine.WaitsFor config x resume pending)
    {call : HostCall} (hkeeps : call.KeepsWait config) (hstep : call = .step → pending = none) :
    WaitsFor config x (if call.loads then programStart else resume) (call.key?.or pending)
      (machine.after call) := by
  cases call with
  | load image =>
      have hload := hwaits.loadProgram hkeeps image
      simp only [loads, key?, Option.none_or, decide_eq_true_eq]
      exact hload
  | step =>
      have hnone := hwaits.pending_eq.trans (hstep rfl)
      rw [after_step, step_of_waiting hwaits.running hwaits.waiting hnone]
      exact hwaits
  | setHeldKeys mask =>
      exact hwaits.setKeypad hwaits.pending_eq
  | pressKey key => exact hwaits.pressKey key
  | releaseKey key =>
      have hreleased : WaitsFor config x resume pending
          (left (((updateKeypad (Keypad.release key) : Action source Unit) >>= pure) machine)) := by
        refine hwaits.withKey (fun _ => rfl) ?_
        intro number _
        exact hwaits.setKeypad hwaits.pending_eq
      rw [bind_pure] at hreleased
      exact hreleased
  | deliverKey key => exact hwaits.deliverKey key
  | tickDelay => exact hwaits.tickDelay
  | tickSound => exact hwaits.tickSound
  | tickTimers => exact hwaits.tickDelay.tickSound
  | _ => exact hkeeps.elim

theorem keeps_empty_withKey {key : Int} (hkey : Key.ofInt? key = none)
    (change : Keypad → Key → Keypad) :
    Keeps (fun machine : Machine source => machine.keypad.pending = none)
      (updateKeypad (Keypad.withKey key change)) := by
  intro machine hnone
  rw [updateKeypad_withKey, hkey]
  exact hnone

theorem keeps_empty_deliverKey {key : Int} (hkey : Key.ofInt? key = none) :
    Keeps (fun machine : Machine source => machine.keypad.pending = none) (deliverKey key) := by
  refine Keeps.bind (keeps_empty_withKey hkey _) fun _ => Keeps.modify ?_
  intro machine hnone
  rw [note_eq]
  exact hnone

theorem keeps_empty_pressKey {key : Int} (hkey : Key.ofInt? key = none) :
    Keeps (fun machine : Machine source => machine.keypad.pending = none) (pressKey key) := by
  refine Keeps.bind (keeps_empty_withKey hkey _) fun _ =>
    Keeps.bind (fun _ hnone => hnone) fun machine => ?_
  split
  · exact keeps_empty_deliverKey hkey
  · exact Keeps.pure ()

theorem keeps_empty_releaseKey (key : Int) :
    Keeps (fun machine : Machine source => machine.keypad.pending = none) (releaseKey key) := by
  intro machine hnone
  rw [releaseKey, Keypad.release, updateKeypad_withKey]
  cases Key.ofInt? key <;> exact hnone

theorem keeps_empty_loadProgram (image : List UInt8) :
    Keeps (fun machine : Machine source => machine.keypad.pending = none) (loadProgram image) := by
  intro machine hnone
  have hprepared : (if machine.config.resetOnLoad then machine.reset else machine).keypad.pending =
      none := by
    split
    · rw [reset, note_eq]
      rfl
    · exact hnone
  rw [loadProgram_eq]
  dsimp only
  split
  · exact hprepared
  · rw [left, note_eq]
    exact hprepared

theorem pending_tickSound (hnone : machine.keypad.pending = none) :
    machine.tickSound.keypad.pending = none := by
  rw [tickSound_eq]
  exact hnone

variable [ByteSource source]

theorem WaitsFor.afterCalls (hwaits : machine.WaitsFor config x resume none)
    {calls : List HostCall} (hkeeps : ∀ call ∈ calls, call.KeepsWait config)
    (hunanswered : Unanswered calls) :
    WaitsFor config x (if calls.any loads then programStart else resume) (lastKey? calls)
      (machine.afterCalls calls) := by
  -- From the end, since the last call decides which key was handed over last.
  induction calls using List.reverseRecOn with
  | nil => exact hwaits
  | append_singleton calls call ih =>
      obtain ⟨hfront, hstep⟩ := hunanswered.of_concat
      have hbefore := ih (fun other hother => hkeeps other (List.mem_append_left _ hother)) hfront
      have hcall := hbefore.after (hkeeps call (List.mem_append_right _ List.mem_cons_self)) hstep
      have hresume : (if (calls ++ [call]).any loads then (programStart : Int) else resume) =
          if call.loads then (programStart : Int)
          else if calls.any loads then (programStart : Int) else resume := by
        rw [List.any_append, List.any_cons, List.any_nil, Bool.or_false]
        cases call.loads <;> cases calls.any loads <;> rfl
      rw [afterCalls_concat, lastKey?_concat, hresume]
      exact hcall

/-- The step that begins a wait forgets the key handed over before. -/
theorem exists_waitsFor_step (hsound : Sound config machine)
    (hrunning : machine.state.halted = false) (hnotWaiting : machine.state.awaitingKey = false)
    (hpc : machine.state.pc ≤ 4094) {x : Nat} (hx : x < 16)
    (hword : machine.state.word = 0xF00A + 0x100 * x) :
    ∃ waiting, step machine = .ok (some (.decode machine.state.word)) waiting ∧
      WaitsFor config x (machine.state.pc + 2) none waiting := by
  have hfamily : machine.state.word / 0x1000 = 0xF := by omega
  have hregister : machine.state.word / 0x100 % 0x10 = x := by omega
  have hhigh : machine.state.word / 0x10 % 0x10 = 0x0 := by omega
  have hlow : machine.state.word % 0x10 = 0xA := by omega
  have heffect : Effect.ofWord machine.state machine.keypad machine.state.word = .awaitKey x := by
    rw [Effect.ofWord, hfamily, hregister, hhigh, hlow]
    rfl
  have hstep := step_of_inside hsound.state.valid hsound.display hrunning hnotWaiting hpc
  simp only [transition, heffect, Effect.apply, bind, Except.bind, pure, Except.pure] at hstep
  refine ⟨_, hstep, ?_⟩
  rw [finishCycle_eq, note_eq]
  exact ⟨hsound.config_eq, hrunning, rfl, rfl, rfl, rfl⟩

/-! ### Without a key -/

/-- The invariant together with an empty place for the key. -/
def NoKey (config : Config) (machine : Machine source) : Prop :=
  Sound config machine ∧ machine.keypad.pending = none

theorem keeps_noKey_step :
    Keeps (NoKey config) (step : Action source (Option Instruction)) := by
  rintro machine ⟨hsound, hnone⟩
  refine ⟨hsound.step, ?_⟩
  have hresult := stepResult_step hsound.state.valid hsound.display
  generalize step machine = result at hresult
  cases hresult with
  | halted hhalted => exact hnone
  | waiting hrunning hwaiting hpending => exact hnone
  | key hrunning hwaiting key hpending text =>
      rw [left, note_eq]
      rfl
  | outside hrunning hnotWaiting hpc =>
      rw [left, failCycle_eq]
      exact hnone
  | carriedOut hrunning hnotWaiting hpc after htransition =>
      have hafter := pending_transition htransition hnone
      rw [left, finishCycle_eq]
      exact hafter
  | refused hrunning hnotWaiting hpc refusal htransition =>
      rw [left, failCycle_eq]
      exact hnone

/-- Only a call that hands over a key fills the place for it. -/
theorem keeps_noKey_action {call : HostCall} (hcall : call.key? = none) :
    Keeps (NoKey config) (call.action : Action source Unit) := by
  have hsound : Keeps (Sound config) (call.action : Action source Unit) := keeps_sound_action call
  cases call with
  | load image => exact hsound.and (keeps_empty_loadProgram image)
  | loadSource text =>
      refine hsound.and ?_
      intro machine hnone
      simp only [HostCall.action, loadSource]
      split
      · exact keeps_empty_loadProgram _ machine hnone
      · exact hnone
  | reset =>
      refine hsound.and (Keeps.modify ?_)
      intro machine hnone
      rw [Machine.reset, note_eq]
      rfl
  | step => exact keeps_noKey_step.map _
  | run limit => exact Keeps.run keeps_noKey_step limit
  | setHeldKeys mask => exact hsound.and (Keeps.modify fun _ hnone => hnone)
  | pressKey key => exact hsound.and (keeps_empty_pressKey hcall)
  | releaseKey key => exact hsound.and (keeps_empty_releaseKey key)
  | deliverKey key => exact hsound.and (keeps_empty_deliverKey hcall)
  | tickDelay => exact hsound.and (Keeps.modify fun _ hnone => hnone)
  | tickSound => exact hsound.and (Keeps.modify fun _ => pending_tickSound)
  | tickTimers => exact hsound.and (Keeps.modify fun machine hnone => pending_tickSound hnone)
  | addListener listener => exact hsound.and (Keeps.modify fun _ hnone => hnone)

/-- Without a key handed over, a wait goes on however often the machine is polled. -/
theorem step_of_noKey (hsound : Sound config machine) (hnone : machine.keypad.pending = none)
    {calls : List HostCall} (hcalls : ∀ call ∈ calls, call.key? = none)
    (hwaiting : (machine.afterCalls calls).state.awaitingKey = true) :
    step (machine.afterCalls calls) = .ok none (machine.afterCalls calls) := by
  have hkept : NoKey config (machine.afterCalls calls) :=
    Keeps.afterCalls (fun call hcall => keeps_noKey_action (hcalls call hcall)) ⟨hsound, hnone⟩
  exact step_of_waiting (hkept.1.state.waiting hwaiting).1 hwaiting hkept.2

/-- A key read that begins at `p` is polled without any effect until a key is handed over. The next
poll stores the key handed over last and goes on behind `p`, or at the program's start if a program
was loaded meanwhile. The key is then used up: another wait is not answered by it. -/
theorem Reachable.keyRead_answered (hreachable : Reachable config machine)
    (hrunning : machine.state.halted = false) (hnotWaiting : machine.state.awaitingKey = false)
    (hpc : machine.state.pc ≤ 4094) {x : Nat} (hx : x < 16)
    (hword : machine.state.word = 0xF00A + 0x100 * x) :
    ∃ waiting, step machine = .ok (some (.decode machine.state.word)) waiting ∧
      ∀ calls : List HostCall, (∀ call ∈ calls, call.KeepsWait config) → Unanswered calls →
        match lastKey? calls with
        | none => step (waiting.afterCalls calls) = .ok none (waiting.afterCalls calls)
        | some key =>
          ∃ answered, step (waiting.afterCalls calls) = .ok none answered ∧
            answered =
              { waiting.afterCalls calls with
                keypad := { (waiting.afterCalls calls).keypad with pending := none }
                state :=
                  { (waiting.afterCalls calls).state.setV x (UInt8.ofNat key) with
                    awaitingKey := false
                    pc := if calls.any loads then 0x200 else machine.state.pc + 2 }
                notes := answered.notes } ∧
            ∀ later : List HostCall, (∀ call ∈ later, call.key? = none) →
              (answered.afterCalls later).state.awaitingKey = true →
                step (answered.afterCalls later) = .ok none (answered.afterCalls later) := by
  have hsound := hreachable.sound
  obtain ⟨waiting, hstep, hwaits⟩ :=
    exists_waitsFor_step hsound hrunning hnotWaiting hpc hx hword
  refine ⟨waiting, hstep, ?_⟩
  intro calls hkeeps hunanswered
  have hpolled := hwaits.afterCalls hkeeps hunanswered
  -- `WaitsFor` leaves out that the registers are sixteen; reachability gives it back.
  have hwaitingReachable : Reachable config (waiting.afterCalls calls) := by
    have hafter := hreachable.call .step
    rw [after_step, hstep] at hafter
    exact hafter.afterCalls calls
  have hpolledSound := hwaitingReachable.sound
  cases hlast : lastKey? calls with
  | none =>
      rw [hlast] at hpolled
      exact step_of_waiting hpolled.running hpolled.waiting hpolled.pending_eq
  | some key =>
      rw [hlast] at hpolled
      obtain ⟨text, hkey⟩ := step_of_key hpolledSound.state.valid hpolled.running hpolled.waiting
        hpolled.pending_eq
      refine ⟨_, hkey, ?_, ?_⟩
      · rw [note_eq, takeKey, hpolled.register, hpolled.resume_eq]
        rfl
      · intro later hlater hwaiting
        have hanswered : Sound config (left (step (waiting.afterCalls calls))) := hpolledSound.step
        rw [hkey] at hanswered
        refine step_of_noKey hanswered ?_ hlater hwaiting
        rw [note_eq]
        rfl

/-- The key delivered before the wait and the key pressed first are both passed over. -/
theorem keyRead_answered_lastKey :
    ∃ waiting answered : Machine ByteCycle,
      step ((Machine.create {} (ByteCycle.mk #[] 0)).afterCalls
        [.load [0xF3, 0x0A], .deliverKey 9]) = .ok (some (.decode 0xF30A)) waiting ∧
      step (waiting.afterCalls [.step, .pressKey 4, .deliverKey 7]) = .ok none answered ∧
      answered.state.pc = 0x202 ∧ answered.state.awaitingKey = false := by
  generalize hmachine : (Machine.create {} (ByteCycle.mk #[] 0)).afterCalls
    [.load [0xF3, 0x0A], .deliverKey 9] = machine
  have hreachable : Reachable {} machine :=
    hmachine ▸ (Reachable.create (by decide) (ByteCycle.mk #[] 0) .warning).afterCalls _
  have hrunning : machine.state.halted = false := hmachine ▸ by decide +kernel
  have hnotWaiting : machine.state.awaitingKey = false := hmachine ▸ by decide +kernel
  have hstart : machine.state.pc = 0x200 := hmachine ▸ by decide +kernel
  have hword : machine.state.word = 0xF30A := hmachine ▸ by decide +kernel
  obtain ⟨waiting, hstep, hread⟩ := hreachable.keyRead_answered hrunning hnotWaiting
    (by rw [hstart]; decide) (show 3 < 16 by decide) hword
  have hkeeps : ∀ call ∈ [HostCall.step, .pressKey 4, .deliverKey 7], call.KeepsWait {} := by
    simp [KeepsWait]
  have hunanswered : Unanswered [.step, .pressKey 4, .deliverKey 7] := by
    intro front back hcalls
    rcases front with _ | ⟨first, _ | ⟨second, _ | ⟨third, rest⟩⟩⟩
    · rfl
    all_goals simp at hcalls
  have hlast : lastKey? [.step, .pressKey 4, .deliverKey 7] =
      some (⟨7, by decide⟩ : Key) := rfl
  have hanswered := hread _ hkeeps hunanswered
  rw [hlast] at hanswered
  obtain ⟨answered, hpoll, hafter, -⟩ := hanswered
  rw [hword] at hstep
  refine ⟨waiting, answered, hstep, hpoll, ?_, ?_⟩
  · rw [hafter, hstart]
    rfl
  · rw [hafter]

end Machine

end Chip8
