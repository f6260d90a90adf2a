import Chip8.Proofs.Faults
import Chip8.Proofs.KeyRead

/-!
# Calls and returns

The stack changes by one address at a time: a call of the program pushes the address behind it, a
return takes the address on top and goes on there, and nothing else that happens between two resets
touches the stack. Calls and returns are therefore bracketed. What was on the stack when a call was
executed stays below its return address, and the step that takes this address is the return of that
call.
-/

namespace Chip8

namespace HostCall

/-- Whether a call is a single step or keeps the stack: no reset, no load that resets, and no run of
many steps. -/
def LeavesStack (config : Config) : HostCall → Prop
  | load _ | loadSource _ => config.resetOnLoad = false
  | reset | run _ => False
  | _ => True

end HostCall

namespace Effect

variable {word : Nat} (state : State) (keypad : Keypad)

theorem ofWord_eq_ret_iff (hword : word < 0x10000) :
    ofWord state keypad word = .ret ↔ Operation.ofWord word = .ret := by
  constructor
  · intro heffect
    refine Operation.ofWord_eq_of_fits (by decide) ?_
    unfold ofWord ofDigits at heffect
    -- One row of the table is a return, and its four digits are those of the operation.
    split at heffect <;>
      first
      | contradiction
      | exact ⟨by assumption, by assumption, by assumption, by assumption⟩
  · intro hoperation
    have hfits := Operation.ofWord_fits hword
    rw [hoperation] at hfits
    obtain ⟨ha, hx, hy, hn⟩ := hfits
    rw [ofWord, ha, hx, hy, hn]
    rfl

theorem ofWord_eq_call_iff (hword : word < 0x10000) :
    (∃ target, ofWord state keypad word = .call target) ↔ Operation.ofWord word = .call := by
  constructor
  · rintro ⟨target, heffect⟩
    refine Operation.ofWord_eq_of_fits (by decide) ?_
    unfold ofWord ofDigits at heffect
    split at heffect <;> first | contradiction | assumption
  · intro hoperation
    have hfits := Operation.ofWord_fits hword
    rw [hoperation] at hfits
    have ha : word / 0x1000 = 0x2 := hfits
    exact ⟨_, by rw [ofWord, ha]; rfl⟩

end Effect

/-- What an operation does to the stack when the program counter stands at `behind`, behind the
instruction. -/
inductive StackChange (operation : Operation) (behind : Int) (before after : State) : Prop where
  | called (hcall : operation = .call) (hstack : after.stack = behind :: before.stack)
  | returned (hret : operation = .ret) (hstack : before.stack = after.pc :: after.stack)
  | kept (hcall : operation ≠ .call) (hret : operation ≠ .ret) (hstack : after.stack = before.stack)

namespace Machine

open HostCall (LeavesStack)

variable {source : Type} {config : Config} {machine : Machine source}

/-! ### One step -/

theorem stackChange_apply [ByteSource source] {state : State} {keypad : Keypad} {word : Nat}
    (hword : word < 0x10000) {after : Machine source}
    (happly : (Effect.ofWord state keypad word).apply machine = .ok after) :
    StackChange (Operation.ofWord word) machine.state.pc machine.state after.state := by
  have hcall := Effect.ofWord_eq_call_iff state keypad hword
  have hret := Effect.ofWord_eq_ret_iff state keypad hword
  generalize Effect.ofWord state keypad word = effect at happly hcall hret
  cases effect with
  | ret =>
      simp only [Effect.apply] at happly
      split at happly
      · cases happly
      · rename_i address stack hstack
        cases happly
        exact .returned (hret.mp rfl) hstack
  | call target =>
      simp only [Effect.apply] at happly
      split at happly
      · cases happly
      · cases happly
        exact .called (hcall.mp ⟨target, rfl⟩) rfl
  | clear | jump | skip | assign | assignWithFlag | random | point | delay | sound =>
      cases happly
      exact .kept (by simp [← hcall]) (by simp [← hret]) rfl
  | write | load | draw =>
      simp only [Effect.apply] at happly
      split at happly
      · cases happly
      · cases happly
        exact .kept (by simp [← hcall]) (by simp [← hret]) rfl
  | awaitKey x =>
      cases happly
      rw [note_eq]
      exact .kept (by simp [← hcall]) (by simp [← hret]) rfl
  | unsupported => cases happly

variable [ByteSource source]

theorem stackChange_transition {after : Machine source}
    (htransition : machine.transition = .ok after) :
    StackChange (Operation.ofWord machine.state.word) (machine.state.pc + 2) machine.state
      after.state := by
  obtain ⟨carried, happly, rfl⟩ := exists_apply_of_transition htransition
  cases stackChange_apply machine.state.word_lt happly with
  | called hcall hstack => exact .called hcall hstack
  | returned hret hstack => exact .returned hret hstack
  | kept hcall hret hstack => exact .kept hcall hret hstack

/-- A step that executes no instruction leaves the stack as it is. -/
theorem stack_step_cases (hsound : Sound config machine) :
    (∃ instruction after, step machine = .ok (some instruction) after ∧
      StackChange instruction.operation (machine.state.pc + 2) machine.state after.state) ∨
    ((∀ instruction after, step machine ≠ .ok (some instruction) after) ∧
      (left (step machine)).state.stack = machine.state.stack) := by
  have hresult := stepResult_step hsound.state.valid hsound.display
  generalize step machine = result at hresult ⊢
  cases hresult with
  | halted hhalted => exact Or.inr ⟨by simp, rfl⟩
  | waiting hrunning hwaiting hpending => exact Or.inr ⟨by simp, rfl⟩
  | key hrunning hwaiting key hpending text =>
      refine Or.inr ⟨by simp, ?_⟩
      rw [left, note_eq]
      rfl
  | outside hrunning hnotWaiting hpc =>
      refine Or.inr ⟨by simp, ?_⟩
      rw [left, failCycle_eq]
      rfl
  | carriedOut hrunning hnotWaiting hpc after htransition =>
      have hchange := stackChange_transition htransition
      refine Or.inl ⟨_, _, rfl, ?_⟩
      rw [finishCycle_eq, Instruction.decode_natCast machine.state.word_lt]
      exact hchange
  | refused hrunning hnotWaiting hpc refusal htransition =>
      refine Or.inr ⟨by simp, ?_⟩
      rw [left, failCycle_eq]
      rfl

theorem stackChange_step (hsound : Sound config machine) {instruction : Instruction}
    {after : Machine source} (hstep : step machine = .ok (some instruction) after) :
    StackChange instruction.operation (machine.state.pc + 2) machine.state after.state := by
  obtain ⟨executed, reached, hexecuted, hchange⟩ | ⟨hnone, -⟩ := stack_step_cases hsound
  · rw [hstep] at hexecuted
    cases hexecuted
    exact hchange
  · exact absurd hstep (hnone _ _)

/-! ### One call of the host -/

omit [ByteSource source] in
theorem stack_loadProgram (hkeeps : machine.config.resetOnLoad = false) (image : List UInt8) :
    (left (loadProgram image machine)).state.stack = machine.state.stack := by
  rw [loadProgram_eq, hkeeps, if_neg Bool.false_ne_true]
  dsimp only
  split
  · rfl
  · rw [left, note_eq]

omit [ByteSource source] in
theorem stack_tickDelay (machine : Machine source) :
    machine.tickDelay.state.stack = machine.state.stack := by
  rw [tickDelay, State.tickDelay]
  split <;> rfl

omit [ByteSource source] in
theorem stack_tickSound (machine : Machine source) :
    machine.tickSound.state.stack = machine.state.stack := by
  rw [tickSound_eq, State.tickSound]
  split <;> rfl

theorem stack_after_keyCall {call : HostCall} (hcall : call.IsKeyCall) (machine : Machine source) :
    (machine.after call).state.stack = machine.state.stack := by
  have hdiffers : DiffersInKeypad machine (machine.after call) :=
    keeps_differsInKeypad_action hcall machine rfl
  rw [hdiffers]

/-- Only a step changes the stack. -/
theorem stack_after (hconfig : machine.config = config) {call : HostCall}
    (hleaves : LeavesStack config call) (hne : call ≠ .step) :
    (machine.after call).state.stack = machine.state.stack := by
  cases call with
  | load image => exact stack_loadProgram (hconfig ▸ hleaves) image
  | loadSource text =>
      rw [after, HostCall.action, loadSource]
      split
      · exact stack_loadProgram (hconfig ▸ hleaves) _
      · rfl
  | step => exact absurd rfl hne
  | reset | run => exact hleaves.elim
  | setHeldKeys | pressKey | releaseKey | deliverKey =>
      refine stack_after_keyCall ?_ machine
      exact trivial
  | tickDelay => exact stack_tickDelay machine
  | tickSound => exact stack_tickSound machine
  | tickTimers => exact (stack_tickSound _).trans (stack_tickDelay machine)
  | addListener listener => rfl

/-- A call takes nothing from the stack, or it is a step that returns. -/
theorem stack_after_cases (hsound : Sound config machine) {call : HostCall}
    (hleaves : LeavesStack config call) :
    machine.state.stack <:+ (machine.after call).state.stack ∨
      call = .step ∧ ∃ instruction after, step machine = .ok (some instruction) after ∧
        instruction.operation = .ret ∧
          machine.state.stack = after.state.pc :: after.state.stack := by
  by_cases hcall : call = .step
  · subst hcall
    rw [after_step]
    obtain ⟨instruction, after, hstep, hchange⟩ | ⟨-, hstack⟩ := stack_step_cases hsound
    · cases hchange with
      | called hcall hstack =>
          rw [hstep, left, hstack]
          exact Or.inl (List.suffix_cons _ _)
      | returned hret hstack => exact Or.inr ⟨rfl, instruction, after, hstep, hret, hstack⟩
      | kept hcall hret hstack =>
          rw [hstep, left, hstack]
          exact Or.inl List.suffix_rfl
    · rw [hstack]
      exact Or.inl List.suffix_rfl
  · rw [stack_after hsound.config_eq hleaves hcall]
    exact Or.inl List.suffix_rfl

/-! ### Runs -/

/-- What lies on the stack stays there as long as the stack is not lower. -/
theorem Reachable.suffix_afterCalls (hreachable : Reachable config machine) {stack : List Int}
    (hstack : stack <:+ machine.state.stack) {calls : List HostCall}
    (hleaves : ∀ call ∈ calls, LeavesStack config call)
    (hdepth : ∀ front, front <+: calls →
      stack.length ≤ (machine.afterCalls front).state.stack.length) :
    stack <:+ (machine.afterCalls calls).state.stack := by
  -- From the end, since whether an address is taken depends on the last call alone.
  induction calls using List.reverseRecOn with
  | nil => exact hstack
  | append_singleton calls call ih =>
      have hbefore := ih (fun other hother => hleaves other (List.mem_append_left _ hother))
        fun front hfront => hdepth front (hfront.trans (List.prefix_append _ _))
      have hlast := hleaves call (List.mem_append_right _ List.mem_cons_self)
      have hdeep := hdepth _ List.prefix_rfl
      have hsound := (hreachable.afterCalls calls).sound
      rw [afterCalls_concat] at hdeep ⊢
      obtain hkept | ⟨rfl, instruction, after, hstep, -, hpopped⟩ := stack_after_cases hsound hlast
      · exact hbefore.trans hkept
      · rw [after_step, hstep, left] at hdeep ⊢
        rw [hpopped, List.suffix_cons_iff] at hbefore
        obtain rfl | hbelow := hbefore
        · rw [List.length_cons] at hdeep
          omega
        · exact hbelow

/-- As long as the stack is not as low as it was when a call was executed, it has at its bottom what
it had then, with the address behind the call on top of that. The step that makes it as low is a
return, to this address. -/
theorem Reachable.calls_bracketed (hreachable : Reachable config machine)
    {instruction : Instruction} {called : Machine source}
    (hstep : step machine = .ok (some instruction) called)
    (hoperation : instruction.operation = .call) {calls : List HostCall}
    (hleaves : ∀ call ∈ calls, LeavesStack config call)
    (hdepth : ∀ front, front <+: calls →
      machine.state.stack.length + 1 ≤ (called.afterCalls front).state.stack.length) :
    (machine.state.pc + 2) :: machine.state.stack <:+ (called.afterCalls calls).state.stack ∧
      ∀ call, LeavesStack config call →
        ((called.afterCalls calls).after call).state.stack.length ≤ machine.state.stack.length →
          call = .step ∧ ∃ instruction after,
            step (called.afterCalls calls) = .ok (some instruction) after ∧
              instruction.operation = .ret ∧ after.state.stack = machine.state.stack ∧
              after.state.pc = machine.state.pc + 2 := by
  have hcalled : Reachable config called := by
    have hafter := hreachable.call .step
    rwa [after_step, hstep] at hafter
  have hpushed : (machine.state.pc + 2) :: machine.state.stack <:+ called.state.stack := by
    cases stackChange_step hreachable.sound hstep with
    | called hcall hstack => exact hstack ▸ List.suffix_rfl
    | returned hret hstack => exact absurd (hoperation.symm.trans hret) (by decide)
    | kept hcall hret hstack => exact absurd hoperation hcall
  have hsuffix := hcalled.suffix_afterCalls hpushed hleaves hdepth
  refine ⟨hsuffix, ?_⟩
  intro call hcall hlow
  have hsound := (hcalled.afterCalls calls).sound
  obtain hkept | ⟨rfl, returned, after, hreturn, hret, hpopped⟩ := stack_after_cases hsound hcall
  · have hlength := (hsuffix.trans hkept).length_le
    rw [List.length_cons] at hlength
    omega
  · rw [after_step, hreturn, left] at hlow
    rw [hpopped, List.suffix_cons_iff] at hsuffix
    obtain htop | hbelow := hsuffix
    · obtain ⟨hpc, hstack⟩ := List.cons.inj htop
      exact ⟨rfl, returned, after, hreturn, hret, hstack.symm, hpc.symm⟩
    · have hlength := hbelow.length_le
      rw [List.length_cons] at hlength
      omega

/-- A machine that is about to call a subroutine, which will call another. -/
def callingMachine : Machine ByteCycle :=
  (Machine.create {} (ByteCycle.mk #[] 0)).afterCalls [.load [0x22, 0x02, 0x22, 0x04]]

theorem reachable_callingMachine : Reachable {} callingMachine :=
  (Reachable.create (by decide) (ByteCycle.mk #[] 0) .warning).afterCalls _

theorem step_callingMachine :
    step callingMachine = .ok (some (.decode 0x2202)) (callingMachine.after .step) := by
  have hexecuted : executed? (step callingMachine) = some (.decode 0x2202) := by decide +kernel
  rw [after_step]
  exact eq_ok_of_executed? hexecuted

/-- The inner call returns to a word that the table does not have. The outer one is returned from by
a program that is loaded after this fault. -/
theorem calls_bracketed_reloaded :
    ∃ instruction after,
      step ((callingMachine.after .step).afterCalls
        [.step, .load [0x00, 0xEE], .pressKey 3, .step, .step, .load [0x00, 0xEE], .tickTimers]) =
          .ok (some instruction) after ∧
        instruction.operation = .ret ∧ after.state.stack = [] ∧ after.state.pc = 0x202 := by
  generalize hcalls : [HostCall.step, .load [0x00, 0xEE], .pressKey 3, .step, .step,
    .load [0x00, 0xEE], .tickTimers] = calls
  have hstack : callingMachine.state.stack = [] := by decide +kernel
  have hpc : callingMachine.state.pc = 0x200 := by decide +kernel
  have hleaves : ∀ call ∈ calls, LeavesStack {} call := by
    rw [← hcalls]
    simp [LeavesStack]
  have htakes : ∀ count ≤ 7,
      1 ≤ ((callingMachine.after .step).afterCalls (calls.take count)).state.stack.length := by
    rw [← hcalls]
    decide +kernel
  have hdepth : ∀ front, front <+: calls → callingMachine.state.stack.length + 1 ≤
      ((callingMachine.after .step).afterCalls front).state.stack.length := by
    intro front hfront
    have hlength : front.length ≤ 7 := by
      rw [← hcalls] at hfront
      exact hfront.length_le
    rw [List.prefix_iff_eq_take.mp hfront, hstack]
    exact htakes _ hlength
  have hlow : (((callingMachine.after .step).afterCalls calls).after .step).state.stack.length ≤
      callingMachine.state.stack.length := by
    rw [← hcalls]
    decide +kernel
  obtain ⟨-, hreturn⟩ :=
    reachable_callingMachine.calls_bracketed step_callingMachine rfl hleaves hdepth
  obtain ⟨-, instruction, after, hstep, hoperation, hafter, hbehind⟩ := hreturn .step trivial hlow
  rw [hstack] at hafter
  rw [hpc] at hbehind
  exact ⟨instruction, after, hstep, hoperation, hafter, hbehind⟩

end Machine

end Chip8
