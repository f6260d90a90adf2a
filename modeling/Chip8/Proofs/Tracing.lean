import Chip8.Proofs.Alongside
import Chip8.Proofs.CallKinds

/-!
# The trace

The trace holds the last entries, as many as it may have, of a log that is defined without it: one
entry for each step since the machine was last loaded or reset that was neither refused nor a poll
for a key. Whether a machine keeps a trace, and of what length, has no influence on anything else.
-/

namespace Chip8

namespace HostCall

/-- Whether a call begins a new log: it resets the machine, or loads an image that fits. -/
def restarts (config : Config) (call : HostCall) : Bool :=
  call.resets config || call.image?.any fun image => decide (image.length ≤ programCapacity)

end HostCall

namespace Machine

open ByteSource (SameBytes)
open HostCall (restarts throughLast sinceLast)

variable {source other : Type}

variable {config : Config} {machine : Machine source}

/-! ### Entries -/

theorem toList_lastEntries (count : Int) (trace : Array TraceEntry) :
    (lastEntries count trace).toList = trace.toList.rtake count.toNat := by
  unfold lastEntries List.rtake
  by_cases hmore : count < trace.size
  · rw [if_pos hmore, Array.toList_extract, List.extract_eq_take_drop, Array.length_toList]
    exact List.take_of_length_le (by simp)
  · have hall : trace.toList.length - count.toNat = 0 := by
      rw [Array.length_toList]
      omega
    rw [if_neg hmore, hall, List.drop_zero]

/-- What was already dropped from a list is not missed in its last items. -/
theorem rtake_rtake_concat {α : Type} (count : Nat) (items : List α) (item : α) :
    (items.rtake count ++ [item]).rtake count = (items ++ [item]).rtake count := by
  cases count with
  | zero => simp
  | succ count =>
      rw [List.rtake_concat_succ, List.rtake_concat_succ]
      congr 1
      simp only [List.rtake, List.drop_drop, List.length_drop]
      congr 1
      omega

variable [ByteSource source]

/-- The entry that the trace is to get for a step; a step that is refused or polls for a key gets
none. -/
def entry? (machine : Machine source) : Option TraceEntry :=
  if machine.state.halted || machine.state.awaitingKey then none
  else
    let after := left (step machine)
    some
      { cycle := after.state.cycleCount
        pc := machine.state.pc
        instruction := machine.state.fetch.toOption.map Instruction.decode
        before := machine.state.snapshot
        after := after.state.snapshot
        error := (failure? (step machine)).map Failure.message }

theorem Sound.trace_step (hsound : Sound config machine) :
    (left (Machine.step machine)).trace =
      (machine.entry?.map machine.appendTrace).getD machine.trace := by
  have hvalid := hsound.state.valid
  have hresult := stepResult_step hvalid hsound.display
  unfold entry?
  generalize Machine.step machine = result at hresult ⊢
  cases hresult with
  | halted hhalted =>
      rw [if_pos (by simp [hhalted])]
      rfl
  | waiting hrunning hwaiting hpending =>
      rw [if_pos (by simp [hwaiting])]
      rfl
  | key hrunning hwaiting key hpending text =>
      rw [if_pos (by simp [hwaiting]), left, note_eq]
      rfl
  | outside hrunning hnotWaiting hpc =>
      rw [if_neg (by simp [hrunning, hnotWaiting]), State.fetch_fault hpc, left, failCycle_eq,
        failCycle, trace_record, note_eq]
      rfl
  | carriedOut hrunning hnotWaiting hpc after htransition =>
      rw [if_neg (by simp [hrunning, hnotWaiting]), State.fetch_eq hvalid hpc, left, finishCycle_eq,
        finishCycle, trace_record, note_eq, transition_eq htransition]
      rfl
  | refused hrunning hnotWaiting hpc refusal htransition =>
      rw [if_neg (by simp [hrunning, hnotWaiting]), State.fetch_eq hvalid hpc, left, failCycle_eq,
        failCycle, trace_record, note_eq]
      rfl

/-! ### Logs -/

/-- The entries of at most `count` steps, which end when the machine waits for a key or fails. -/
def runEntries : Nat → Machine source → List TraceEntry
  | 0, _ => []
  | count + 1, machine =>
    if machine.state.awaitingKey then []
    else
      machine.entry?.toList ++
        match step machine with
        | .ok _ after => runEntries count after
        | .error _ _ => []

def callEntries (machine : Machine source) : HostCall → List TraceEntry
  | .step => machine.entry?.toList
  | .run limit =>
    match limit.or machine.config.maxCycles with
    | none => []
    | some limit => runEntries limit.toNat machine
  | _ => []

def entries (machine : Machine source) : List HostCall → List TraceEntry
  | [] => []
  | call :: calls => machine.callEntries call ++ (machine.after call).entries calls

/-- The entries of all steps since the machine was last loaded or reset. -/
def log (machine : Machine source) (calls : List HostCall) : List TraceEntry :=
  (machine.afterCalls (throughLast (restarts machine.config) calls)).entries
    (sinceLast (restarts machine.config) calls)

theorem callEntries_eq_nil {call : HostCall} (hstep : call ≠ .step)
    (hrun : ∀ limit, call ≠ .run limit) : machine.callEntries call = [] := by
  cases call with
  | step => exact absurd rfl hstep
  | run limit => exact absurd rfl (hrun limit)
  | _ => rfl

/-- The trace of the machine holds the last entries of a log. -/
structure Logs (config : Config) (log : List TraceEntry) (machine : Machine source) : Prop where
  sound : Sound config machine
  trace_eq : machine.trace.toList = log.rtake config.maxTrace.toNat

section Logs

variable {log : List TraceEntry} (htrace : config.trace = true)

include htrace

theorem Logs.step (hlogs : Logs config log machine) :
    Logs config (log ++ machine.entry?.toList) (left (Machine.step machine)) := by
  have hconfig := hlogs.sound.config_eq
  refine ⟨hlogs.sound.step, ?_⟩
  rw [hlogs.sound.trace_step]
  cases machine.entry? with
  | none => simpa using hlogs.trace_eq
  | some entry =>
      calc (machine.appendTrace entry).toList
          = (machine.trace.toList ++ [entry]).rtake config.maxTrace.toNat := by
            rw [appendTrace, hconfig, if_pos htrace, toList_lastEntries, Array.toList_push]
        _ = (log ++ [entry]).rtake config.maxTrace.toNat := by
            rw [hlogs.trace_eq, rtake_rtake_concat]

theorem Logs.runSteps (hlogs : Logs config log machine) (count : Nat) :
    Logs config (log ++ runEntries count machine) (left (Machine.runSteps count machine)) := by
  induction count generalizing machine log with
  | zero =>
      rw [runEntries, List.append_nil]
      exact hlogs
  | succ count ih =>
      rw [runSteps_succ, runEntries]
      by_cases hwaiting : machine.state.awaitingKey = true
      · rw [if_pos hwaiting, if_pos hwaiting, List.append_nil]
        exact hlogs
      · have hstep := hlogs.step htrace
        rw [if_neg hwaiting, if_neg hwaiting, ← List.append_assoc]
        cases hresult : Machine.step machine with
        | ok executed after =>
            rw [hresult] at hstep
            exact ih hstep
        | error failure after =>
            rw [hresult] at hstep
            rw [List.append_nil]
            exact hstep

/-- A call that does not begin a new log adds its entries to the one there is. -/
theorem Logs.after (hlogs : Logs config log machine) {call : HostCall}
    (hcall : call.restarts config = false) :
    Logs config (log ++ machine.callEntries call) (machine.after call) := by
  refine ⟨keeps_sound_action call machine hlogs.sound, ?_⟩
  cases call.kind with
  | step =>
      rw [after_step]
      exact (hlogs.step htrace).trace_eq
  | run limit =>
      rw [Machine.after, HostCall.action, Machine.run, callEntries]
      cases limit.or machine.config.maxCycles with
      | none =>
          rw [List.append_nil]
          exact hlogs.trace_eq
      | some limit => exact (hlogs.runSteps htrace limit.toNat).trace_eq
  | reset => cases hcall
  | image image himage =>
      have hkept : machine.config.resetOnLoad = false := by
        rw [restarts, HostCall.resets_of_image? himage, Bool.or_eq_false_iff] at hcall
        rw [hlogs.sound.config_eq]
        exact hcall.1
      have hlarge : programCapacity < image.length := by
        simpa [restarts, himage] using (Bool.or_eq_false_iff.mp hcall).2
      have hnil : machine.callEntries call = [] := by
        apply callEntries_eq_nil
        · rintro rfl
          cases himage
        · rintro limit rfl
          cases himage
      obtain ⟨-, hafter⟩ | ⟨hfits, -⟩ := after_image_cases himage machine
      · rw [hafter, prepared_of_keeps hkept, hnil, List.append_nil]
        exact hlogs.trace_eq
      · exact absurd hfits (Nat.not_le.mpr hlarge)
  | addListener listener =>
      have hnil : machine.callEntries (.addListener listener) = [] := rfl
      rw [hnil, List.append_nil]
      exact hlogs.trace_eq
  | aside haside =>
      have hnil : machine.callEntries call = [] := by
        apply callEntries_eq_nil
        · rintro rfl
          exact haside.elim
        · rintro limit rfl
          exact haside.elim
      rw [differsAside_after haside, hnil, List.append_nil]
      exact hlogs.trace_eq

theorem Logs.afterCalls (hlogs : Logs config log machine) {calls : List HostCall}
    (hcalls : ∀ call ∈ calls, call.restarts config = false) :
    Logs config (log ++ machine.entries calls) (machine.afterCalls calls) := by
  induction calls generalizing machine log with
  | nil =>
      rw [entries, List.append_nil]
      exact hlogs
  | cons call calls ih =>
      have hcall := hlogs.after htrace (hcalls call List.mem_cons_self)
      rw [entries, ← List.append_assoc]
      exact ih hcall fun other hother => hcalls other (List.mem_cons_of_mem call hother)

end Logs

/-- A call that begins a new log leaves an empty trace. -/
theorem Sound.trace_of_restarts (hsound : Sound config machine) {call : HostCall}
    (hcall : call.restarts config = true) : (machine.after call).trace = #[] := by
  cases call.kind with
  | step | run | addListener => simp [restarts, HostCall.resets, HostCall.image?] at hcall
  | reset =>
      change machine.reset.trace = #[]
      rw [Machine.reset, note_eq]
  | image image himage =>
      rw [restarts, HostCall.resets_of_image? himage, himage] at hcall
      obtain ⟨hlarge, hafter⟩ | ⟨-, notes, hafter⟩ := after_image_cases himage machine
      · have hresets : machine.config.resetOnLoad = true := by
          rw [hsound.config_eq]
          simpa [Nat.not_le.mpr hlarge] using hcall
        rw [hafter, prepared_of_resets hresets, Machine.reset, note_eq]
      · rw [hafter]
  | aside haside =>
      rw [restarts, haside.resets_eq_false, haside.image?_eq_none] at hcall
      cases hcall

theorem Sound.logs_throughLast {start : Machine source} (hsound : Sound config start)
    (hempty : start.trace = #[]) (calls : List HostCall) :
    Logs config [] (start.afterCalls (throughLast (restarts config) calls)) := by
  refine ⟨hsound.afterCalls _, ?_⟩
  rw [List.rtake_nil]
  refine congrArg Array.toList
    (afterCalls_throughLast (motive := fun machine => machine.trace = #[]) hempty ?_)
  intro front call _ hcall
  exact (hsound.afterCalls front).trace_of_restarts hcall

end Machine

end Chip8
