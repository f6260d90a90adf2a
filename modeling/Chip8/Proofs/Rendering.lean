import Chip8.Render.Phosphor
import Chip8.Render.Terminal
import Mathlib.Data.List.Induction
import Mathlib.Logic.Function.Iterate

/-!
# What renderers make of events

A renderer takes the events of a machine and its clock one after the other and heeds the frames
among them. The terminal writes a frame if it is the first or differs from the frame right before
it, so that the newest frame is the one to be seen. The phosphor remembers of each cell how long it
has been dark: its intensity is what fading leaves of full light after so many frames.
-/

namespace Chip8

/-- The frame that is due with an event; a redraw brings none. -/
def Event.frame? : Event → Option Frame
  | .redraw _ _ => none
  | .frame _ due _ => some due

def framesOf (events : List Event) : List Frame :=
  events.filterMap Event.frame?

@[simp]
theorem framesOf_nil : framesOf [] = [] := rfl

@[simp]
theorem framesOf_redraw (cycle : Int) (frame : Frame) (events : List Event) :
    framesOf (.redraw cycle frame :: events) = framesOf events := rfl

@[simp]
theorem framesOf_frame (number : Int) (frame : Frame) (soundActive : Bool) (events : List Event) :
    framesOf (.frame number frame soundActive :: events) = frame :: framesOf events := rfl

theorem framesOf_filter (events : List Event) :
    framesOf (events.filter fun event => event.frame?.isSome) = framesOf events := by
  rw [framesOf, List.filterMap_filter, framesOf]
  congr 1
  funext event
  cases event <;> rfl

/-- A dot that moves to the right and back, the first frame coming twice. -/
def movingDot : List Event :=
  [.frame 1 ⟨2, 1, #[1, 0]⟩ false, .redraw 7 ⟨2, 1, #[0, 1]⟩, .frame 2 ⟨2, 1, #[1, 0]⟩ false,
    .frame 3 ⟨2, 1, #[0, 1]⟩ false, .frame 4 ⟨2, 1, #[1, 0]⟩ true]

theorem getLast?_cons_or {α : Type} (first : α) (rest : List α) (before : Option α) :
    (first :: rest).getLast?.or before = rest.getLast?.or (some first) := by
  rw [List.getLast?_cons]
  cases rest.getLast? <;> rfl

/-! ### The terminal -/

namespace Terminal

/-- Takes events in turn; the result is all the text to write. -/
def handleAll (terminal : Terminal) : List Event → String × Terminal
  | [] => ("", terminal)
  | event :: events =>
    let handled := terminal.handle event
    let rest := handled.2.handleAll events
    (handled.1 ++ rest.1, rest.2)

/-- Whether a frame has other pixels than the one before it, or there was none before it. -/
def differs (before : Option Frame) (frame : Frame) : Bool :=
  decide (before.map Frame.pixels ≠ some frame.pixels)

/-- The frames that differ from the frame right before them, which for the first of them is
`before`. -/
def changes (before : Option Frame) (frames : List Frame) : List Frame :=
  (((before :: frames.map some).zip frames).filter fun pair => differs pair.1 pair.2).map Prod.snd

theorem changes_cons (before : Option Frame) (frame : Frame) (frames : List Frame) :
    changes before (frame :: frames) =
      if differs before frame then frame :: changes (some frame) frames
      else changes (some frame) frames := by
  rw [changes, List.map_cons, List.zip_cons_cons, List.filter_cons]
  cases differs before frame <;> rfl

/-- What the terminal keeps of the frame drawn last are also the pixels of the frame seen last, for
a frame that is not drawn has the same pixels as the one before. -/
theorem handleAll_eq {terminal : Terminal} {before : Option Frame}
    (hlast : terminal.last = before.map Frame.pixels) (events : List Event) :
    terminal.handleAll events =
      (String.join ((changes before (framesOf events)).map terminal.block),
        { terminal with
          drawn := terminal.drawn + (changes before (framesOf events)).length
          last := ((framesOf events).getLast?.or before).map Frame.pixels }) := by
  induction events generalizing terminal before with
  | nil => simp [handleAll, changes, ← hlast]
  | cons event events ih =>
      cases event with
      | redraw cycle frame =>
          rw [handleAll, handle, ih hlast]
          simp
      | frame number frame sound =>
          rw [handleAll, handle, framesOf_frame, changes_cons, differs, getLast?_cons_or, hlast]
          by_cases hsame : before.map Frame.pixels = some frame.pixels
          · rw [if_pos hsame, @ih _ (some frame) (hlast.trans hsame)]
            simp [hsame]
          · have hblock : Terminal.block
                { terminal with last := some frame.pixels, drawn := terminal.drawn + 1 } =
                  terminal.block := rfl
            rw [if_neg hsame, @ih _ (some frame) rfl, hblock]
            simp [hsame, Nat.add_assoc, Nat.add_comm 1]

/-- Frames of one size with the same pixels are equal, so that the last one that differs from the
one before it is the last one. -/
theorem getLast?_changes {before : Option Frame} {frames : List Frame} {width height : Int}
    (hsize : ∀ frame ∈ before.toList ++ frames, frame.width = width ∧ frame.height = height) :
    (changes before frames).getLast?.or before = frames.getLast?.or before := by
  induction frames generalizing before with
  | nil => rfl
  | cons frame frames ih =>
      have hrest := @ih (some frame) fun other hother =>
        hsize other (List.mem_append_right _ hother)
      rw [getLast?_cons_or, ← hrest, changes_cons]
      by_cases hsame : before.map Frame.pixels = some frame.pixels
      · obtain ⟨earlier, hearlier, hpixels⟩ := Option.map_eq_some_iff.mp hsame
        have hframe := hsize frame (by simp)
        have hbefore := hsize earlier (by simp [hearlier])
        have heq : earlier = frame := by
          cases earlier
          cases frame
          simp_all
        simp [differs, hearlier, heq]
      · simp [differs, hsame, getLast?_cons_or]

/-- The text is one block for each frame that is the first or differs from the frame right before
it, and nothing for redraws. The last block is the newest frame, if all frames are of one size. -/
theorem newest_frame_shown (on off : String) (clear : Bool) (events : List Event) :
    let result := (create on off clear).handleAll events
    let shown := changes none (framesOf events)
    result.1 = String.join (shown.map fun frame =>
      (if clear then clearSequence else "") ++ frame.toText on off ++ "\n") ∧
    result.2.drawn = shown.length ∧
    (create on off clear).handleAll (events.filter fun event => event.frame?.isSome) = result ∧
    ∀ width height, (∀ frame ∈ framesOf events, frame.width = width ∧ frame.height = height) →
      shown.getLast? = (framesOf events).getLast? := by
  have hresult := @handleAll_eq (create on off clear) none rfl
  intro result shown
  refine ⟨?_, ?_, ?_, ?_⟩
  · simp only [result, hresult]
    rfl
  · simp [result, hresult, shown, create]
  · simp only [result, hresult, framesOf_filter]
  · intro width height hsize
    have hall : ∀ frame ∈ (none : Option Frame).toList ++ framesOf events,
        frame.width = width ∧ frame.height = height := by
      simpa using hsize
    simpa using getLast?_changes hall

theorem newest_frame_shown_movingDot :
    ((create "#" "." false).handleAll movingDot).1 = "#.\n.#\n#.\n" ∧
      ((create "#" "." false).handleAll movingDot).2.drawn = 3 ∧
      (changes none (framesOf movingDot)).getLast? = some ⟨2, 1, #[1, 0]⟩ := by
  obtain ⟨htext, hdrawn, -, hnewest⟩ := newest_frame_shown "#" "." false movingDot
  have hshown : changes none (framesOf movingDot) =
      [⟨2, 1, #[1, 0]⟩, ⟨2, 1, #[0, 1]⟩, ⟨2, 1, #[1, 0]⟩] := by decide +kernel
  rw [hshown] at htext hdrawn
  refine ⟨htext.trans (by decide +kernel), hdrawn, ?_⟩
  rw [hnewest 2 1 (by decide +kernel)]
  rfl

end Terminal

/-! ### The phosphor -/

def Frame.lights (cell : Nat) (frame : Frame) : Bool :=
  frame.pixels[cell]?.any isLit

/-- Both sequences go on alike after a frame that lights the cell. -/
def AgreeSinceLit (cell : Nat) (frames others : List Frame) : Prop :=
  ∃ front lit back otherFront otherLit otherBack,
    frames = front ++ lit :: back ∧ others = otherFront ++ otherLit :: otherBack ∧
    lit.lights cell = true ∧ otherLit.lights cell = true ∧
    back.map (Frame.lights cell) = otherBack.map (Frame.lights cell)

namespace Phosphor

/-- Takes events in turn, until one is refused. -/
def handleAll : List Event → EStateM Failure Phosphor Unit
  | [] => pure ()
  | event :: events => do
    handle event
    handleAll events

/-- What is left of a cell's intensity after a frame that does not light it. -/
def faded (rate floor intensity : Float) : Float :=
  if floor ≤ intensity * rate then intensity * rate else 0

/-- The intensity of a cell that was lit or not in each of some frames, dark at first. -/
def glow (rate floor : Float) (history : List Bool) : Float :=
  (faded rate floor)^[(history.reverse.takeWhile (!·)).length] (if true ∈ history then 1 else 0)

variable {rate floor : Float}

theorem glow_concat (history : List Bool) (lit : Bool) :
    glow rate floor (history ++ [lit]) =
      if lit then 1 else faded rate floor (glow rate floor history) := by
  cases lit with
  | true => simp [glow]
  | false =>
      rw [glow, List.reverse_concat, List.takeWhile_cons_of_pos rfl, List.length_cons,
        Function.iterate_succ_apply', glow]
      simp

/-- What came before a frame that lights the cell is forgotten. -/
theorem glow_append_lit (earlier history : List Bool) :
    glow rate floor (earlier ++ true :: history) = glow rate floor (true :: history) := by
  induction history using List.reverseRecOn with
  | nil => simp [glow]
  | append_singleton history lit ih =>
      have hassoc :
          earlier ++ true :: (history ++ [lit]) = (earlier ++ true :: history) ++ [lit] := by
        simp
      rw [hassoc, glow_concat, ih, ← glow_concat, List.cons_append]

theorem getElem?_fold (phosphor : Phosphor) {frame : Frame}
    (hfull : frame.pixels.size = phosphor.intensity.size) (cell : Nat) :
    (phosphor.fold frame.pixels).intensity[cell]? =
      phosphor.intensity[cell]?.map fun intensity =>
        if frame.lights cell then 1 else faded phosphor.rate phosphor.floor intensity := by
  rw [fold, Array.getElem?_mapIdx]
  by_cases hcell : cell < phosphor.intensity.size
  · simp [hcell, hfull, Frame.lights, next, fade, faded]
  · simp [hcell]

/-- A phosphor whose cells glow as some frames have left them. -/
structure Glows (rate floor : Float) (cells : Nat) (frames : List Frame) (phosphor : Phosphor) :
    Prop where
  rate_eq : phosphor.rate = rate
  floor_eq : phosphor.floor = floor
  size_eq : phosphor.intensity.size = cells
  intensity_eq : ∀ cell < cells, phosphor.intensity[cell]? =
    some (glow rate floor (frames.map (Frame.lights cell)))

variable {cells : Nat} {frames : List Frame} {phosphor : Phosphor}

theorem glows_of_create {width height : Int}
    (hcreate : create width height rate floor = .ok phosphor) :
    Glows rate floor (width * height).toNat [] phosphor := by
  rw [create] at hcreate
  split at hcreate
  · cases hcreate
    refine ⟨rfl, rfl, by simp, fun cell hcell => ?_⟩
    simp [glow, hcell]
  · cases hcreate

theorem Glows.fold (hglows : Glows rate floor cells frames phosphor) {frame : Frame}
    (hfull : frame.pixels.size = cells) :
    Glows rate floor cells (frames ++ [frame]) (phosphor.fold frame.pixels) where
  rate_eq := hglows.rate_eq
  floor_eq := hglows.floor_eq
  size_eq := by
    rw [Phosphor.fold, Array.size_mapIdx]
    exact hglows.size_eq
  intensity_eq cell hcell := by
    rw [getElem?_fold phosphor (hfull.trans hglows.size_eq.symm), hglows.intensity_eq cell hcell,
      hglows.rate_eq, hglows.floor_eq, List.map_append, List.map_singleton, glow_concat]
    rfl

theorem Glows.handleAll (hglows : Glows rate floor cells frames phosphor) {events : List Event}
    (hfull : ∀ frame ∈ framesOf events, frame.pixels.size = cells) :
    ∃ after, handleAll events phosphor = .ok () after ∧
      Glows rate floor cells (frames ++ framesOf events) after := by
  induction events generalizing frames phosphor with
  | nil => exact ⟨phosphor, rfl, by simpa using hglows⟩
  | cons event events ih =>
      cases event with
      | redraw cycle frame => exact ih hglows hfull
      | frame number frame sound =>
          obtain ⟨hframe, hfull⟩ := List.forall_mem_cons.mp hfull
          obtain ⟨after, hafter, hlater⟩ := ih (hglows.fold hframe) hfull
          refine ⟨after, ?_, by simpa using hlater⟩
          have hfits : frame.pixels.size ≤ phosphor.intensity.size :=
            Nat.le_of_eq (hframe.trans hglows.size_eq.symm)
          change EStateM.bind (update frame) (fun _ => Phosphor.handleAll events) phosphor = _
          rw [EStateM.bind, update, if_pos hfits]
          exact hafter

theorem handleAll_filter (events : List Event) :
    handleAll (events.filter fun event => event.frame?.isSome) = handleAll events := by
  induction events with
  | nil => rfl
  | cons event events ih =>
      cases event with
      | redraw cycle frame => exact ih
      | frame number frame sound =>
          have hkept : (Event.frame number frame sound :: events).filter
              (fun event => event.frame?.isSome) =
                .frame number frame sound :: events.filter fun event => event.frame?.isSome := rfl
          rw [hkept, handleAll, handleAll, ih]

theorem Glows.eq_of_agree (hglows : Glows rate floor cells frames phosphor) {other : Phosphor}
    {others : List Frame} (hother : Glows rate floor cells others other) {cell : Nat}
    (hagree : AgreeSinceLit cell frames others) :
    other.intensity[cell]? = phosphor.intensity[cell]? := by
  obtain ⟨front, lit, back, otherFront, otherLit, otherBack, rfl, rfl, hlit, hotherLit, hback⟩ :=
    hagree
  by_cases hcell : cell < cells
  · rw [hglows.intensity_eq cell hcell, hother.intensity_eq cell hcell]
    simp [hlit, hotherLit, hback, glow_append_lit]
  · have hsize := hglows.size_eq
    have hotherSize := hother.size_eq
    rw [Array.getElem?_eq_none (by omega), Array.getElem?_eq_none (by omega)]

/-- The intensity of a cell is what fading leaves of full light after the frames since the last one
that lit it, or of darkness after all frames if none did. So neither the other pixels nor what came
before that frame are of account, and redraws are of none. -/
theorem intensity_since_lit {width height : Int} {start : Phosphor}
    (hcreate : create width height rate floor = .ok start) {events : List Event}
    (hfull : ∀ frame ∈ framesOf events, (frame.pixels.size : Int) = width * height) :
    ∃ after, handleAll events start = .ok () after ∧
      after.intensity.size = (width * height).toNat ∧
      (∀ cell < (width * height).toNat, after.intensity[cell]? =
        some (glow rate floor ((framesOf events).map (Frame.lights cell)))) ∧
      handleAll (events.filter fun event => event.frame?.isSome) start = .ok () after ∧
      ∀ others, (∀ frame ∈ framesOf others, (frame.pixels.size : Int) = width * height) →
        ∃ other, handleAll others start = .ok () other ∧
          ∀ cell, AgreeSinceLit cell (framesOf events) (framesOf others) →
            other.intensity[cell]? = after.intensity[cell]? := by
  have hstart := glows_of_create hcreate
  have hcells {events : List Event}
      (hfull : ∀ frame ∈ framesOf events, (frame.pixels.size : Int) = width * height) :
      ∀ frame ∈ framesOf events, frame.pixels.size = (width * height).toNat := by
    intro frame hframe
    rw [← hfull frame hframe, Int.toNat_natCast]
  obtain ⟨after, hafter, hglows⟩ := hstart.handleAll (hcells hfull)
  refine ⟨after, hafter, hglows.size_eq, hglows.intensity_eq, ?_, ?_⟩
  · rw [handleAll_filter, hafter]
  · intro others hothers
    obtain ⟨other, hother, hotherGlows⟩ := hstart.handleAll (hcells hothers)
    exact ⟨other, hother, fun cell hagree => hglows.eq_of_agree hotherGlows hagree⟩

/-- Two cells that fade to a half each frame. -/
theorem intensity_since_lit_halved :
    ∃ start after, create 2 1 0.5 0.01 = .ok start ∧
      handleAll movingDot start = .ok () after ∧
      after.intensity[0]? = some 1 ∧ after.intensity[1]? = some (faded 0.5 0.01 1) := by
  have hcreate : create 2 1 0.5 0.01 =
      .ok { width := 2, height := 1, rate := 0.5, floor := 0.01, intensity := #[0, 0] } := by
    rfl
  have hfull : ∀ frame ∈ framesOf movingDot, (frame.pixels.size : Int) = 2 * 1 := by
    decide +kernel
  obtain ⟨after, hafter, -, hintensity, -⟩ := intensity_since_lit hcreate hfull
  exact ⟨_, after, hcreate, hafter, hintensity 0 (by decide), hintensity 1 (by decide)⟩

end Phosphor

end Chip8
