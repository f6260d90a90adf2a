import Chip8.Proofs.Alongside
import Chip8.Proofs.CallKinds

/-!
# Redraws

A listener hears of a redraw at each step that clears the display or draws on it, and at no other.
What it has heard of last since the machine was reset is therefore what the display shows.
-/

namespace Chip8

/-- Whether an operation tells the listeners that it changed the display. -/
def Operation.redraws : Operation → Bool
  | clear | draw => true
  | _ => false

def Effect.redraws : Effect → Bool
  | clear | draw _ _ _ => true
  | _ => false

theorem Effect.redraws_ofWord_iff (state : State) (keypad : Keypad) {word : Nat}
    (hword : word < 0x10000) :
    (ofWord state keypad word).redraws = true ↔ (Operation.ofWord word).redraws = true := by
  constructor
  · intro hredraws
    unfold ofWord ofDigits at hredraws
    -- Two rows of the table redraw, and their digits are those of the two operations.
    split at hredraws <;> try cases hredraws
    · have hclear : Operation.ofWord word = .clear :=
        Operation.ofWord_eq_of_fits (by decide)
          ⟨by assumption, by assumption, by assumption, by assumption⟩
      rw [hclear]
      rfl
    · have hdraw : Operation.ofWord word = .draw :=
        Operation.ofWord_eq_of_fits (by decide) (by assumption)
      rw [hdraw]
      rfl
  · intro hredraws
    have hfits := Operation.ofWord_fits hword
    cases hoperation : Operation.ofWord word with
    | clear =>
        rw [hoperation] at hfits
        obtain ⟨ha, hx, hy, hn⟩ := hfits
        rw [ofWord, ha, hx, hy, hn]
        rfl
    | draw =>
        rw [hoperation] at hfits
        have ha : word / 0x1000 = 0xD := hfits
        rw [ofWord, ha]
        rfl
    | _ =>
        rw [hoperation] at hredraws
        cases hredraws

/-- What a listener hears of a redraw. -/
structure Redraw where
  cycle : Int
  frame : Frame

def Redraw.event (redraw : Redraw) : Event :=
  .redraw redraw.cycle redraw.frame

namespace Machine

open HostCall (resets throughLast sinceLast)

variable {source : Type} {config : Config} {machine : Machine source} {listener : String}

/-- The events that a listener has received, the oldest first. -/
def received (machine : Machine source) (listener : String) : List Event :=
  (machine.deliveries.toList.filter (·.listener == listener)).map (·.event)

theorem count_concat_of_ne {listeners : List String} {other : String} (hother : other ≠ listener) :
    (listeners ++ [other]).count listener = listeners.count listener := by
  rw [List.count_append, List.count_singleton, if_neg (by simpa using hother), Nat.add_zero]

section After

variable {after : Machine source} {before : List Event} {redraws : List Redraw}

theorem received_of_deliver {event : Event} (hlistens : machine.listeners.count listener = 1)
    (hdeliveries : after.deliveries.toList =
      machine.deliveries.toList ++ event.deliver machine.listeners) :
    after.received listener = machine.received listener ++ [event] := by
  have hheard : ((event.deliver machine.listeners).filter (·.listener == listener)).map (·.event) =
      [event] := by
    calc ((event.deliver machine.listeners).filter (·.listener == listener)).map (·.event)
        = (machine.listeners.filter (· == listener)).map fun _ => event := by
          rw [Event.deliver, List.filter_map, List.map_map]
          rfl
      _ = [event] := by
          rw [List.filter_beq, hlistens]
          rfl
  rw [received, hdeliveries, List.filter_append, List.map_append, hheard]
  rfl

/-- What a step does to the display and to what its listeners hear: if it redraws, they are told
what the display then shows. -/
inductive Shows (machine after : Machine source) : Bool → Prop where
  | redrawn (hcycle : after.state.cycleCount = machine.state.cycleCount + 1)
    (hdeliveries : after.deliveries.toList = machine.deliveries.toList ++
      (Event.redraw after.state.cycleCount after.display.frame).deliver machine.listeners) :
    Shows machine after true
  | kept (hcycle : machine.state.cycleCount ≤ after.state.cycleCount)
    (hdisplay : after.display = machine.display)
    (hdeliveries : after.deliveries = machine.deliveries) : Shows machine after false

theorem Shows.congr {redraws : Bool} (hshows : Shows machine after redraws)
    {other : Machine source} (hstate : other.state = after.state)
    (hdisplay : other.display = after.display) (hdeliveries : other.deliveries = after.deliveries) :
    Shows machine other redraws := by
  cases hshows with
  | redrawn hcycle hsent =>
      rw [← hstate] at hcycle hsent
      rw [← hdisplay, ← hdeliveries] at hsent
      exact .redrawn hcycle hsent
  | kept hcycle hshown hsent =>
      rw [← hstate] at hcycle
      exact .kept hcycle (hdisplay.trans hshown) (hdeliveries.trans hsent)

theorem Shows.received_eq {redraws : Bool} (hshows : Shows machine after redraws)
    (hlistens : machine.listeners.count listener = 1) :
    after.received listener = machine.received listener ++
      if redraws then [.redraw after.state.cycleCount after.display.frame] else [] := by
  cases hshows with
  | redrawn hcycle hsent => exact received_of_deliver hlistens hsent
  | kept hcycle hshown hsent =>
      rw [received, hsent]
      exact (List.append_nil _).symm

/-- A listener has received the redraws after some events from before. The last of these redraws
shows what the display shows, which is nothing if there is none. -/
structure Mirrors (config : Config) (listener : String) (before : List Event)
    (redraws : List Redraw) (machine : Machine source) : Prop where
  sound : Sound config machine
  listens : machine.listeners.count listener = 1
  received_eq : machine.received listener = before ++ redraws.map Redraw.event
  ordered : redraws.Pairwise (·.cycle < ·.cycle)
  past : ∀ redraw ∈ redraws, redraw.cycle ≤ machine.state.cycleCount
  shown : machine.display.frame = (redraws.getLast?.map Redraw.frame).getD Display.blank.frame

/-- As `Mirrors`, with the redraws left open. -/
def Mirroring (config : Config) (listener : String) (before : List Event)
    (machine : Machine source) : Prop :=
  ∃ redraws, Mirrors config listener before redraws machine

theorem Mirrors.blank (hsound : Sound config machine)
    (hlistens : machine.listeners.count listener = 1) (hdisplay : machine.display = Display.blank) :
    Mirrors config listener (machine.received listener) [] machine := by
  refine ⟨hsound, hlistens, (List.append_nil _).symm, List.Pairwise.nil, ?_, ?_⟩
  · intro redraw hredraw
    cases hredraw
  · rw [hdisplay]
    rfl

theorem Mirrors.kept (hmirrors : Mirrors config listener before redraws machine)
    (hsound : Sound config after) (hlistens : after.listeners.count listener = 1)
    (hcycle : machine.state.cycleCount ≤ after.state.cycleCount)
    (hdisplay : after.display = machine.display)
    (hdeliveries : after.deliveries = machine.deliveries) :
    Mirrors config listener before redraws after := by
  refine ⟨hsound, hlistens, ?_, hmirrors.ordered, ?_, ?_⟩
  · rw [received, hdeliveries]
    exact hmirrors.received_eq
  · intro redraw hredraw
    exact Int.le_trans (hmirrors.past redraw hredraw) hcycle
  · rw [hdisplay]
    exact hmirrors.shown

theorem Mirrors.redrawn (hmirrors : Mirrors config listener before redraws machine)
    (hsound : Sound config after) (hlisteners : after.listeners = machine.listeners)
    (hcycle : after.state.cycleCount = machine.state.cycleCount + 1)
    (hdeliveries : after.deliveries.toList = machine.deliveries.toList ++
      (Event.redraw after.state.cycleCount after.display.frame).deliver machine.listeners) :
    Mirrors config listener before
      (redraws ++ [{ cycle := after.state.cycleCount, frame := after.display.frame }]) after := by
  refine ⟨hsound, hlisteners ▸ hmirrors.listens, ?_, ?_, ?_, ?_⟩
  · rw [received_of_deliver hmirrors.listens hdeliveries, hmirrors.received_eq, List.map_append,
      List.append_assoc]
    rfl
  · rw [List.pairwise_append]
    refine ⟨hmirrors.ordered, List.pairwise_singleton _ _, ?_⟩
    intro earlier hearlier last hlast
    have hpast := hmirrors.past earlier hearlier
    cases List.mem_singleton.mp hlast
    dsimp only
    omega
  · intro redraw hredraw
    obtain hearlier | hlast := List.mem_append.mp hredraw
    · have hpast := hmirrors.past redraw hearlier
      omega
    · cases List.mem_singleton.mp hlast
      exact Int.le_refl _
  · rw [List.getLast?_concat]
    rfl

end After

variable [ByteSource source]

/-! ### Steps -/

theorem shows_transition {after : Machine source} (htransition : machine.transition = .ok after) :
    Shows machine after (Operation.ofWord machine.state.word).redraws := by
  have hiff := Effect.redraws_ofWord_iff machine.state machine.keypad machine.state.word_lt
  have hredraws := Bool.eq_iff_iff.mpr hiff
  obtain ⟨carried, happly, rfl⟩ := exists_apply_of_transition htransition
  rw [← hredraws]
  generalize Effect.ofWord machine.state machine.keypad machine.state.word = effect at happly
  cases effect with
  | clear =>
      cases happly
      exact .redrawn rfl (toList_deliveries_send _ _ _)
  | draw =>
      simp only [Effect.apply] at happly
      split at happly
      · cases happly
      · cases happly
        exact .redrawn rfl (toList_deliveries_send _ _ _)
  | jump | skip | assign | assignWithFlag | random | point | delay | sound =>
      cases happly
      exact .kept (Int.le_add_one (Int.le_refl _)) rfl rfl
  | ret | call | write | load =>
      simp only [Effect.apply] at happly
      split at happly
      · cases happly
      · cases happly
        exact .kept (Int.le_add_one (Int.le_refl _)) rfl rfl
  | awaitKey x =>
      cases happly
      rw [note_eq]
      exact .kept (Int.le_add_one (Int.le_refl _)) rfl rfl
  | unsupported => cases happly

/-- Whether the next step is to succeed with an instruction that redraws. -/
def stepRedraws (machine : Machine source) : Bool :=
  (executed? (step machine)).any (·.operation.redraws)

theorem Sound.shows_step (hsound : Sound config machine) :
    Shows machine (left (Machine.step machine)) machine.stepRedraws := by
  have hresult := stepResult_step hsound.state.valid hsound.display
  unfold stepRedraws
  generalize Machine.step machine = result at hresult ⊢
  cases hresult with
  | halted | waiting => exact .kept (Int.le_refl _) rfl rfl
  | key =>
      rw [left, note_eq]
      exact .kept (Int.le_refl _) rfl rfl
  | outside | refused =>
      rw [left, failCycle_eq]
      exact .kept (Int.le_refl _) rfl rfl
  | carriedOut hrunning hnotWaiting hpc after htransition =>
      have hshows := shows_transition htransition
      rw [executed?, Option.any_some, Instruction.decode_natCast machine.state.word_lt, left,
        finishCycle_eq]
      exact hshows.congr rfl rfl rfl

theorem Sound.listeners_step (hsound : Sound config machine) :
    (left (Machine.step machine)).listeners = machine.listeners := by
  have hresult := stepResult_step hsound.state.valid hsound.display
  generalize Machine.step machine = result at hresult ⊢
  cases hresult with
  | halted | waiting => rfl
  | key =>
      rw [left, note_eq]
      rfl
  | outside | refused =>
      rw [left, failCycle_eq]
      rfl
  | carriedOut hrunning hnotWaiting hpc after htransition =>
      rw [left, finishCycle_eq, transition_eq htransition]

/-! ### Runs -/

variable {before : List Event}

theorem keeps_mirroring_step :
    Keeps (Mirroring config listener before)
      (step : Action source (Option Instruction)) := by
  rintro machine ⟨redraws, hmirrors⟩
  have hsound := hmirrors.sound.step
  have hlisteners := hmirrors.sound.listeners_step
  have hshows := hmirrors.sound.shows_step
  generalize machine.stepRedraws = redrawn at hshows
  cases hshows with
  | redrawn hcycle hdeliveries =>
      exact ⟨_, hmirrors.redrawn hsound hlisteners hcycle hdeliveries⟩
  | kept hcycle hdisplay hdeliveries =>
      have hlistens := hlisteners ▸ hmirrors.listens
      exact ⟨redraws, hmirrors.kept hsound hlistens hcycle hdisplay hdeliveries⟩

/-- A call that does not reset the machine goes on with the redraws. -/
theorem Mirroring.after (hmirroring : Mirroring config listener before machine) {call : HostCall}
    (hcall : call.resets config = false) (hlistener : call ≠ .addListener listener) :
    Mirroring config listener before (machine.after call) := by
  obtain ⟨redraws, hmirrors⟩ := hmirroring
  have hsound := keeps_sound_action call machine hmirrors.sound
  cases call.kind with
  | step => exact keeps_mirroring_step.map _ machine ⟨redraws, hmirrors⟩
  | run limit => exact keeps_mirroring_step.run limit machine ⟨redraws, hmirrors⟩
  | reset => cases hcall
  | image image himage =>
      rw [HostCall.resets_of_image? himage, ← hmirrors.sound.config_eq] at hcall
      refine ⟨redraws, ?_⟩
      change Sound config (machine.after call) at hsound
      obtain ⟨-, hafter⟩ | ⟨-, notes, hafter⟩ := after_image_cases himage machine
      · rw [hafter, prepared_of_keeps hcall]
        exact hmirrors
      · rw [hafter, prepared_of_keeps hcall] at hsound ⊢
        exact hmirrors.kept hsound hmirrors.listens (Int.le_refl _) rfl rfl
  | addListener other =>
      have hother : other ≠ listener := fun heq => hlistener (heq ▸ rfl)
      refine ⟨redraws, hmirrors.kept hsound ?_ (Int.le_refl _) rfl rfl⟩
      exact (count_concat_of_ne hother).trans hmirrors.listens
  | aside haside =>
      refine ⟨redraws, ?_⟩
      change Sound config (machine.after call) at hsound
      rw [differsAside_after haside] at hsound ⊢
      exact hmirrors.kept hsound hmirrors.listens (Int.le_refl _) rfl rfl

/-- A call that resets the machine blanks the display, and begins anew with the redraws. -/
theorem Mirroring.reset (hmirroring : Mirroring config listener before machine) {call : HostCall}
    (hcall : call.resets config = true) :
    Mirroring config listener ((machine.after call).received listener) (machine.after call) := by
  obtain ⟨redraws, hmirrors⟩ := hmirroring
  have hsound := keeps_sound_action call machine hmirrors.sound
  have hblank : machine.reset.display = Display.blank := by
    rw [Machine.reset, note_eq]
    exact hmirrors.sound.display.clear_eq_blank
  have hlisteners : machine.reset.listeners = machine.listeners := by
    rw [Machine.reset, note_eq]
  suffices (machine.after call).display = machine.reset.display ∧
      (machine.after call).listeners = machine.reset.listeners by
    obtain ⟨hdisplay, hlistened⟩ := this
    refine ⟨[], .blank hsound ?_ (hdisplay.trans hblank)⟩
    rw [hlistened, hlisteners]
    exact hmirrors.listens
  cases call.kind with
  | step | run | addListener => simp [resets, HostCall.image?] at hcall
  | aside haside => simp [haside.resets_eq_false] at hcall
  | reset => exact ⟨rfl, rfl⟩
  | image image himage =>
      rw [HostCall.resets_of_image? himage, ← hmirrors.sound.config_eq] at hcall
      obtain ⟨-, hafter⟩ | ⟨-, notes, hafter⟩ := after_image_cases himage machine
      · rw [hafter, prepared_of_resets hcall]
        exact ⟨rfl, rfl⟩
      · rw [hafter, prepared_of_resets hcall]
        exact ⟨rfl, rfl⟩

theorem exists_mirroring_afterCalls (hmirroring : Mirroring config listener before machine)
    {calls : List HostCall} (hcalls : .addListener listener ∉ calls) :
    ∃ before, Mirroring config listener before (machine.afterCalls calls) := by
  induction calls generalizing machine before with
  | nil => exact ⟨before, hmirroring⟩
  | cons call calls ih =>
      have hlater : .addListener listener ∉ calls := fun hmem =>
        hcalls (List.mem_cons_of_mem call hmem)
      cases hreset : call.resets config with
      | true => exact ih (hmirroring.reset hreset) hlater
      | false =>
          have hlistener : call ≠ .addListener listener := fun heq =>
            hcalls (heq ▸ List.mem_cons_self)
          exact ih (hmirroring.after hreset hlistener) hlater

theorem Mirroring.afterCalls (hmirroring : Mirroring config listener before machine)
    {calls : List HostCall} (hcalls : .addListener listener ∉ calls)
    (hresets : ∀ call ∈ calls, call.resets config = false) :
    Mirroring config listener before (machine.afterCalls calls) := by
  induction calls generalizing machine with
  | nil => exact hmirroring
  | cons call calls ih =>
      have hlistener : call ≠ .addListener listener := fun heq =>
        hcalls (heq ▸ List.mem_cons_self)
      have hcall := hmirroring.after (hresets call List.mem_cons_self) hlistener
      exact ih hcall (fun hmem => hcalls (List.mem_cons_of_mem call hmem)) fun other hother =>
        hresets other (List.mem_cons_of_mem call hother)

/-- A machine that is to draw a glyph on the display that it has just cleared. -/
def glyphMachine : Machine ByteCycle :=
  (built {} (ByteCycle.mk #[] 0) .warning ["log", "screen"]).afterCalls
    [.load [0x00, 0xE0, 0xD0, 0x05], .step]

end Machine

end Chip8
