import Chip8.Text.Blank
import Mathlib.Data.List.DropRight

/-!
# Pieces of a text

Cutting a text at runs of separators leaves pieces without separators, and only the first and the
last of them can be empty. Both the pieces and what stripping leaves of a text are determined by how
they are put together to the text again.
-/

namespace Chip8.Text

theorem splitOn_eq_splitOnP (separates : Char → Bool) (text : List Char) :
    splitOn separates text = text.splitOnP separates := by
  have hcons : ∀ (c : Char) {pieces : List (List Char)}, pieces ≠ [] →
      consPiece c pieces = pieces.modifyHead (List.cons c) := by
    intro c pieces hpieces
    cases pieces with
    | nil => exact absurd rfl hpieces
    | cons piece pieces => rfl
  induction text with
  | nil => rfl
  | cons c rest ih =>
      rw [splitOn, List.splitOnP_cons_eq_if_modifyHead, ih,
        hcons c (List.splitOnP_ne_nil separates rest)]

/-! ### Stripping -/

/-- Neither the first nor the last character, if there is one, is blank. -/
def Stripped (text : List Char) : Prop :=
  (∀ c ∈ text.head?, isBlank c = false) ∧ ∀ c ∈ text.getLast?, isBlank c = false

theorem head?_dropWhile_isBlank (text : List Char) :
    ∀ c ∈ (text.dropWhile isBlank).head?, isBlank c = false := by
  intro c hc
  have hhead := List.head?_dropWhile_not isBlank text
  rw [Option.mem_def] at hc
  rwa [hc] at hhead

theorem dropWhile_append_of_head {dropped : Char → Bool} {front rest : List Char}
    (hfront : ∀ c ∈ front, dropped c = true) (hrest : ∀ c ∈ rest.head?, dropped c = false) :
    (front ++ rest).dropWhile dropped = rest := by
  rw [List.dropWhile_append_of_pos hfront]
  cases rest with
  | nil => rfl
  | cons c rest => exact List.dropWhile_cons_of_neg (by simp [hrest c rfl])

theorem stripped_strip (text : List Char) : Stripped (strip text) := by
  have hstrip : strip text = (text.dropWhile isBlank).rdropWhile isBlank := rfl
  constructor
  · intro c hc
    -- What the right end loses leaves the left end as it is.
    obtain ⟨back, hback⟩ := List.rdropWhile_prefix isBlank (text.dropWhile isBlank)
    apply head?_dropWhile_isBlank text
    rw [← hback, List.head?_append, ← hstrip, hc]
    rfl
  · intro c hc
    rw [strip, trimEnds, List.getLast?_reverse] at hc
    exact head?_dropWhile_isBlank _ c hc

theorem exists_append_strip (text : List Char) :
    ∃ front back, text = front ++ strip text ++ back ∧ (∀ c ∈ front, isBlank c = true) ∧
      ∀ c ∈ back, isBlank c = true := by
  refine ⟨text.takeWhile isBlank, (text.dropWhile isBlank).rtakeWhile isBlank, ?_,
    fun c hc => List.mem_takeWhile_imp hc, fun c hc => List.mem_rtakeWhile_imp hc⟩
  change text = text.takeWhile isBlank ++ (text.dropWhile isBlank).rdropWhile isBlank ++ _
  rw [List.append_assoc, List.rdropWhile_append_rtakeWhile, List.takeWhile_append_dropWhile]

theorem strip_append {front code back : List Char} (hfront : ∀ c ∈ front, isBlank c = true)
    (hback : ∀ c ∈ back, isBlank c = true) (hcode : Stripped code) :
    strip (front ++ code ++ back) = code := by
  rw [strip, trimEnds]
  cases hempty : code with
  | nil =>
      have hblank : ∀ c ∈ front ++ back, isBlank c = true := by
        intro c hc
        exact (List.mem_append.mp hc).elim (hfront c) (hback c)
      rw [List.append_nil, List.dropWhile_eq_nil_iff.mpr hblank]
      rfl
  | cons c rest =>
      rw [hempty] at hcode
      have hhead : ∀ d ∈ (c :: rest ++ back).head?, isBlank d = false := hcode.1
      have hlast : ∀ d ∈ (c :: rest).reverse.head?, isBlank d = false := by
        rw [List.head?_reverse]
        exact hcode.2
      rw [List.append_assoc, dropWhile_append_of_head hfront hhead, List.reverse_append,
        dropWhile_append_of_head (by simpa using hback) hlast, List.reverse_reverse]

theorem strip_eq_iff {text code : List Char} :
    strip text = code ↔
      Stripped code ∧ ∃ front back, text = front ++ code ++ back ∧
        (∀ c ∈ front, isBlank c = true) ∧ ∀ c ∈ back, isBlank c = true := by
  constructor
  · rintro rfl
    exact ⟨stripped_strip text, exists_append_strip text⟩
  · rintro ⟨hcode, front, back, rfl, hfront, hback⟩
    exact strip_append hfront hback hcode

/-! ### Runs of separators -/

/-- The text is its pieces with runs of separators between them, each run as long as it can be. -/
inductive Pieces (separates : Char → Bool) : List Char → List (List Char) → Prop where
  | last {piece : List Char} (hpiece : ∀ c ∈ piece, separates c = false) :
    Pieces separates piece [piece]
  | cons {piece run rest : List Char} {pieces : List (List Char)}
    (hpiece : ∀ c ∈ piece, separates c = false) (hrun : ∀ c ∈ run, separates c = true)
    (hne : run ≠ []) (hrest : Pieces separates rest pieces)
    (hmaximal : ∀ c ∈ rest.head?, separates c = false) :
    Pieces separates (piece ++ run ++ rest) (piece :: pieces)

variable {separates : Char → Bool} {text : List Char} {pieces : List (List Char)}

theorem Pieces.consChar (hpieces : Pieces separates text pieces) {c : Char}
    (hc : separates c = false) : Pieces separates (c :: text) (consPiece c pieces) := by
  cases hpieces with
  | last hpiece => exact .last (List.forall_mem_cons.mpr ⟨hc, hpiece⟩)
  | cons hpiece hrun hne hrest hmaximal =>
      exact .cons (List.forall_mem_cons.mpr ⟨hc, hpiece⟩) hrun hne hrest hmaximal

theorem Pieces.consSeparator (hpieces : Pieces separates text pieces) {c : Char}
    (hc : separates c = true) :
    Pieces separates (c :: text) (if text.head?.any separates then pieces else [] :: pieces) := by
  by_cases hhead : text.head?.any separates
  · rw [if_pos hhead]
    -- The text starts with a run, so its first piece is empty and the run becomes one longer.
    cases hpieces with
    | last hpiece =>
        cases text with
        | nil => simp at hhead
        | cons d text => simp [hpiece d List.mem_cons_self] at hhead
    | @cons piece run rest pieces hpiece hrun hne hrest hmaximal =>
        cases piece with
        | nil =>
            have hlonger : ∀ d ∈ c :: run, separates d = true :=
              List.forall_mem_cons.mpr ⟨hc, hrun⟩
            exact .cons hpiece hlonger (List.cons_ne_nil c run) hrest hmaximal
        | cons d piece => simp [hpiece d List.mem_cons_self] at hhead
  · rw [if_neg hhead]
    have hrun : ∀ d ∈ [c], separates d = true := by simpa using hc
    refine .cons (List.forall_mem_nil _) hrun (List.cons_ne_nil c []) hpieces ?_
    intro d hd
    rw [Option.mem_def] at hd
    simpa [hd] using hhead

theorem pieces_splitOnRuns (separates : Char → Bool) (text : List Char) :
    Pieces separates text (splitOnRuns separates text) := by
  induction text with
  | nil => exact .last (by simp)
  | cons c rest ih =>
      rw [splitOnRuns]
      by_cases hc : separates c = true
      · rw [if_pos hc]
        exact ih.consSeparator hc
      · rw [if_neg hc]
        exact ih.consChar (by simpa using hc)

theorem splitOnRuns_of_none {piece : List Char} (hpiece : ∀ c ∈ piece, separates c = false) :
    splitOnRuns separates piece = [piece] := by
  induction piece with
  | nil => rfl
  | cons c piece ih =>
      obtain ⟨hc, hrest⟩ := List.forall_mem_cons.mp hpiece
      rw [splitOnRuns, ih hrest]
      simp [hc, consPiece]

theorem splitOnRuns_run {run rest : List Char} (hrun : ∀ c ∈ run, separates c = true)
    (hne : run ≠ []) (hmaximal : ∀ c ∈ rest.head?, separates c = false) :
    splitOnRuns separates (run ++ rest) = [] :: splitOnRuns separates rest := by
  induction run with
  | nil => exact absurd rfl hne
  | cons c run ih =>
      obtain ⟨hc, hrun⟩ := List.forall_mem_cons.mp hrun
      rw [List.cons_append, splitOnRuns, if_pos hc]
      cases run with
      | nil =>
          have hhead : rest.head?.any separates = false := by
            cases rest with
            | nil => rfl
            | cons d rest => simpa using hmaximal d rfl
          simp [hhead]
      | cons d run =>
          have hd := hrun d List.mem_cons_self
          rw [ih hrun (List.cons_ne_nil d run)]
          simp [hd]

theorem Pieces.eq_splitOnRuns (hpieces : Pieces separates text pieces) :
    splitOnRuns separates text = pieces := by
  induction hpieces with
  | last hpiece => exact splitOnRuns_of_none hpiece
  | @cons piece run rest pieces hpiece hrun hne hrest hmaximal ih =>
      have htail := splitOnRuns_run hrun hne hmaximal
      rw [ih] at htail
      rw [List.append_assoc]
      -- The characters of the piece are put back in front of the empty piece one by one.
      induction piece with
      | nil => exact htail
      | cons c piece ihPiece =>
          obtain ⟨hc, hrest⟩ := List.forall_mem_cons.mp hpiece
          rw [List.cons_append, splitOnRuns, ihPiece hrest]
          simp [hc, consPiece]

theorem splitOnRuns_eq_iff : splitOnRuns separates text = pieces ↔ Pieces separates text pieces :=
  ⟨fun hpieces => hpieces ▸ pieces_splitOnRuns separates text, Pieces.eq_splitOnRuns⟩

/-- A run at the front leaves an empty piece there. -/
theorem Pieces.head?_of_separator (hpieces : Pieces separates text pieces) {c : Char}
    (hhead : text.head? = some c) (hc : separates c = true) : pieces.head? = some [] := by
  cases hpieces with
  | last hpiece => simp [hpiece c (List.mem_of_head? hhead)] at hc
  | @cons piece run rest pieces hpiece hrun hne hrest hmaximal =>
      cases piece with
      | nil => rfl
      | cons d piece =>
          have hd : d = c := by simpa using hhead
          simp [← hd, hpiece d List.mem_cons_self] at hc

/-- A run at the back leaves an empty piece there. -/
theorem Pieces.getLast?_of_separator (hpieces : Pieces separates text pieces) {c : Char}
    (hlast : text.getLast? = some c) (hc : separates c = true) : pieces.getLast? = some [] := by
  induction hpieces with
  | last hpiece => simp [hpiece c (List.mem_of_getLast? hlast)] at hc
  | @cons piece run rest pieces hpiece hrun hne hrest hmaximal ih =>
      cases hrest with
      | @last rest hnone =>
          cases rest with
          | nil => rfl
          | cons d rest =>
              have hmem : c ∈ d :: rest := by
                rw [List.getLast?_append_of_ne_nil _ (List.cons_ne_nil d rest)] at hlast
                exact List.mem_of_getLast? hlast
              simp [hnone c hmem] at hc
      | @cons second other rest pieces hsecond hother hotherNe hrest hmaximal =>
          have hrestNe : second ++ other ++ rest ≠ [] := by simp [hotherNe]
          rw [List.getLast?_append_of_ne_nil _ hrestNe] at hlast
          rw [List.getLast?_cons_cons]
          exact ih hlast

end Chip8.Text
