import Chip8.Proofs.Faults
import Mathlib.Data.List.DropRight

/-!
# Kinds of calls

A call steps the machine, resets it, loads an image or adds a listener. Every other call changes the
timers or the keypad and nothing else.
-/

namespace Chip8

namespace HostCall

/-- The image that a call loads. A text that is refused is not loaded. -/
def image? : HostCall → Option (List UInt8)
  | load image => some image
  | loadSource text => (Assembly.parse text).toOption
  | _ => none

/-- Whether a call resets the machine: a load may do so, too, also one that is then refused. -/
def resets (config : Config) : HostCall → Bool
  | reset => true
  | call => config.resetOnLoad && call.image?.isSome

/-- Whether a call is about the timers or the keypad, or is refused before it does anything. -/
def IsAside : HostCall → Prop
  | tickDelay | tickSound | tickTimers => True
  | loadSource text => (Assembly.parse text).toOption = none
  | call => call.IsKeyCall

inductive Kind : HostCall → Prop where
  | step : Kind step
  | run (limit : Option Int) : Kind (run limit)
  | reset : Kind reset
  | image {call : HostCall} (image : List UInt8) (himage : call.image? = some image) : Kind call
  | addListener (listener : String) : Kind (addListener listener)
  | aside {call : HostCall} (haside : call.IsAside) : Kind call

theorem kind (call : HostCall) : Kind call := by
  cases call with
  | load image => exact .image image rfl
  | loadSource text =>
      cases hparse : (Assembly.parse text).toOption with
      | none => exact .aside hparse
      | some image => exact .image image hparse
  | reset => exact .reset
  | step => exact .step
  | run limit => exact .run limit
  | addListener listener => exact .addListener listener
  | setHeldKeys | pressKey | releaseKey | deliverKey => exact .aside trivial
  | tickDelay | tickSound | tickTimers => exact .aside trivial

theorem resets_of_image? {config : Config} {call : HostCall} {image : List UInt8}
    (himage : call.image? = some image) : call.resets config = config.resetOnLoad := by
  cases call with
  | load | loadSource => simp [resets, himage]
  | _ => cases himage

theorem IsAside.image?_eq_none {call : HostCall} (haside : call.IsAside) : call.image? = none := by
  cases call with
  | load | reset | step | run | addListener => exact haside.elim
  | loadSource text => exact haside
  | _ => rfl

theorem IsAside.resets_eq_false {call : HostCall} (haside : call.IsAside) (config : Config) :
    call.resets config = false := by
  have himage := haside.image?_eq_none
  cases call with
  | reset => exact haside.elim
  | _ => simp [resets, himage]

section Last

variable (marks : HostCall → Bool) (calls : List HostCall)

/-- The calls up to and including the last one that is marked. -/
def throughLast : List HostCall :=
  calls.rdropWhile (!marks ·)

/-- The calls after the last one that is marked, all of them if none is. -/
def sinceLast : List HostCall :=
  calls.rtakeWhile (!marks ·)

theorem throughLast_append_sinceLast : throughLast marks calls ++ sinceLast marks calls = calls :=
  List.rdropWhile_append_rtakeWhile

theorem throughLast_cases :
    throughLast marks calls = [] ∨
      ∃ front call, throughLast marks calls = front ++ [call] ∧ marks call = true := by
  by_cases hnil : throughLast marks calls = []
  · exact .inl hnil
  · have hlast := List.rdropWhile_last_not _ calls hnil
    rw [Bool.not_eq_true, Bool.not_eq_false'] at hlast
    exact .inr ⟨_, _, (List.dropLast_append_getLast hnil).symm, hlast⟩

theorem not_marked_sinceLast : ∀ call ∈ sinceLast marks calls, marks call = false := by
  intro call hcall
  simpa using List.mem_rtakeWhile_imp hcall

end Last

end HostCall

namespace Machine

open HostCall (throughLast sinceLast throughLast_append_sinceLast)

variable {source : Type} {base machine : Machine source}

/-- The machine differs from another in the timers, the keypad and the notes alone. -/
def DiffersAside (base machine : Machine source) : Prop :=
  machine =
    { base with
      state :=
        { base.state with
          delayTimer := machine.state.delayTimer
          soundTimer := machine.state.soundTimer }
      keypad := machine.keypad
      notes := machine.notes }

theorem DiffersInKeypad.differsAside (hdiffers : DiffersInKeypad base machine) :
    DiffersAside base machine := by
  rw [DiffersInKeypad] at hdiffers
  rw [DiffersAside, hdiffers]

theorem DiffersAside.tickDelay (hdiffers : DiffersAside base machine) :
    DiffersAside base machine.tickDelay := by
  rw [DiffersAside] at hdiffers ⊢
  rw [Machine.tickDelay, State.tickDelay, hdiffers]
  split <;> rfl

theorem DiffersAside.tickSound (hdiffers : DiffersAside base machine) :
    DiffersAside base machine.tickSound := by
  rw [DiffersAside] at hdiffers ⊢
  rw [tickSound_eq, State.tickSound, hdiffers]
  split <;> rfl

/-- The machine that a program is loaded into. -/
def prepared (machine : Machine source) : Machine source :=
  if machine.config.resetOnLoad then machine.reset else machine

theorem prepared_of_keeps (hkeeps : machine.config.resetOnLoad = false) :
    machine.prepared = machine := by
  rw [prepared, hkeeps, if_neg Bool.false_ne_true]

theorem prepared_of_resets (hresets : machine.config.resetOnLoad = true) :
    machine.prepared = machine.reset := by
  rw [prepared, if_pos hresets]

variable [ByteSource source]

theorem differsAside_after {call : HostCall} (haside : call.IsAside) :
    DiffersAside machine (machine.after call) := by
  have hrefl : DiffersInKeypad machine machine := rfl
  cases call with
  | loadSource text =>
      have hrefused : machine.after (.loadSource text) = machine := by
        rw [after, HostCall.action, loadSource]
        cases hparse : Assembly.parse text with
        | ok image => simp [HostCall.IsAside, hparse, Except.toOption] at haside
        | error failure => rfl
      rw [hrefused]
      exact hrefl.differsAside
  | tickDelay => exact hrefl.differsAside.tickDelay
  | tickSound => exact hrefl.differsAside.tickSound
  | tickTimers => exact hrefl.differsAside.tickDelay.tickSound
  | setHeldKeys | pressKey | releaseKey | deliverKey =>
      refine DiffersInKeypad.differsAside (keeps_differsInKeypad_action ?_ machine hrefl)
      exact trivial
  | _ => exact haside.elim

theorem afterCalls_sinceLast (machine : Machine source) (marks : HostCall → Bool)
    (calls : List HostCall) :
    (machine.afterCalls (throughLast marks calls)).afterCalls (sinceLast marks calls) =
      machine.afterCalls calls := by
  rw [afterCalls, afterCalls, ← List.foldl_append, throughLast_append_sinceLast, afterCalls]

/-- What holds at the start and after each marked call holds after the last marked call. -/
theorem afterCalls_throughLast {motive : Machine source → Prop} {marks : HostCall → Bool}
    {calls : List HostCall} (hstart : motive machine)
    (hmarked : ∀ front call, front ++ [call] <+: calls → marks call = true →
      motive ((machine.afterCalls front).after call)) :
    motive (machine.afterCalls (throughLast marks calls)) := by
  obtain hnil | ⟨front, call, hfront, hcall⟩ := HostCall.throughLast_cases marks calls
  · rw [hnil]
    exact hstart
  · have hprefix : throughLast marks calls <+: calls := List.rdropWhile_prefix _ _
    rw [hfront] at hprefix ⊢
    rw [afterCalls_concat]
    exact hmarked front call hprefix hcall

theorem after_of_image? {call : HostCall} {image : List UInt8}
    (himage : call.image? = some image) :
    machine.after call = left (loadProgram image machine) := by
  cases call with
  | load other =>
      cases himage
      rfl
  | loadSource text =>
      rw [after, HostCall.action, loadSource]
      cases hparse : Assembly.parse text with
      | ok parsed =>
          simp only [HostCall.image?, hparse, Except.toOption, Option.some.injEq] at himage
          rw [himage]
      | error failure => simp [HostCall.image?, hparse, Except.toOption] at himage
  | _ => cases himage

/-- A load that is refused stops at the machine that was prepared for it. -/
theorem after_image_cases {call : HostCall} {image : List UInt8}
    (himage : call.image? = some image) (machine : Machine source) :
    (programCapacity < image.length ∧ machine.after call = machine.prepared) ∨
      (image.length ≤ programCapacity ∧ ∃ notes, machine.after call =
        { machine.prepared with
          state :=
            { machine.prepared.state with
              memory := memoryOfImage image
              pc := programStart
              resumePc := programStart
              halted := false }
          trace := #[]
          notes }) := by
  rw [after_of_image? himage, loadProgram_eq]
  change (_ ∧ left (if programCapacity < image.length then _ else _) = _) ∨ _
  by_cases hlarge : programCapacity < image.length
  · rw [if_pos hlarge]
    exact .inl ⟨hlarge, rfl⟩
  · rw [if_neg hlarge, left, note_eq]
    exact .inr ⟨Nat.not_lt.1 hlarge, _, rfl⟩

end Machine

end Chip8
