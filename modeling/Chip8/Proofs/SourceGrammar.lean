import Chip8.Assembly.Source
import Chip8.Proofs.TextPieces
import Mathlib.Data.List.Forall2
import Mathlib.Data.Nat.Digits.Lemmas

/-!
# The grammar of program text

A line of a program is its code, with blanks around it and a comment behind. The code is empty or
made of words with runs of blanks and commas between them, where a word is one to four hexadecimal
digits that `0x` or `0X` may precede. The reader accepts exactly the texts whose lines are of this
form; of any other it names the first piece that is not a word.
-/

namespace Chip8.Assembly

/-- A character that writes a digit, in either case. -/
def IsDigit (c : Char) (digit : Nat) : Prop :=
  digit < 16 ∧ (c = digit.digitChar ∨ c = digit.digitChar.toUpper)

instance (c : Char) (digit : Nat) : Decidable (IsDigit c digit) :=
  inferInstanceAs (Decidable (_ ∧ _))

/-- A text that writes a word: its digits, the highest first, behind a mark or without one. -/
inductive IsWord : List Char → Nat → Prop where
  | intro {mark text : List Char} {digits : List Nat}
    (hmark : mark ∈ [[], ['0', 'x'], ['0', 'X']]) (hlength : 1 ≤ text.length ∧ text.length ≤ 4)
    (hdigits : List.Forall₂ IsDigit text digits) :
    IsWord (mark ++ text) (Nat.ofDigits 16 digits.reverse)

/-- A text that writes words, with runs of blanks and commas between them. -/
inductive IsWords : List Char → List Nat → Prop where
  | last {token : List Char} {word : Nat} (hword : IsWord token word) : IsWords token [word]
  | cons {token run rest : List Char} {word : Nat} {words : List Nat}
    (hword : IsWord token word) (hrun : ∀ c ∈ run, separatesTokens c = true) (hne : run ≠ [])
    (hrest : IsWords rest words) : IsWords (token ++ run ++ rest) (word :: words)

/-- A line has its code between blanks and in front of a comment. -/
def HasCode (line code : List Char) : Prop :=
  Text.Stripped code ∧ ∃ front back comment, line = front ++ code ++ back ++ comment ∧
    (∀ c ∈ front, Text.isBlank c = true) ∧ (∀ c ∈ back, Text.isBlank c = true) ∧
    (∀ c ∈ front ++ code ++ back, startsComment c = false) ∧
    ∀ c ∈ comment.head?, startsComment c = true

/-- A line that the grammar has, with its words. -/
inductive LineWords (line : List Char) : List Nat → Prop where
  | empty (hcode : HasCode line []) : LineWords line []
  | words {code : List Char} {words : List Nat} (hcode : HasCode line code)
    (hwords : IsWords code words) : LineWords line words

/-- The pieces of any line: those between the runs of blanks and commas in its code. -/
inductive LinePieces (line : List Char) : List (List Char) → Prop where
  | empty (hcode : HasCode line []) : LinePieces line []
  | pieces {code : List Char} {pieces : List (List Char)} (hcode : HasCode line code)
    (hne : code ≠ []) (hpieces : Text.Pieces separatesTokens code pieces) : LinePieces line pieces

def lines (source : String) : List (List Char) :=
  source.toList.splitOn '\n'

/-- The first of the pieces that is not a word. -/
def FirstRefused (pieces : List (List Char)) (piece : List Char) : Prop :=
  ∃ front back, pieces = front ++ piece :: back ∧ (∀ token ∈ front, ∃ word, IsWord token word) ∧
    ∀ word, ¬IsWord piece word

/-! ### Words -/

theorem hexDigit?_eq_some_iff {c : Char} {digit : Nat} :
    hexDigit? c = some digit ↔ IsDigit c digit := by
  constructor
  · intro hdigit
    have hascii : c.toNat < 103 := by
      by_contra hlarge
      have hnine : ¬c ≤ '9' := fun hle => hlarge (Nat.lt_of_le_of_lt hle (by decide))
      have hf : ¬c ≤ 'f' := fun hle => hlarge (Nat.lt_of_le_of_lt hle (by decide))
      have hF : ¬c ≤ 'F' := fun hle => hlarge (Nat.lt_of_le_of_lt hle (by decide))
      simp [hexDigit?, hnine, hf, hF] at hdigit
    have htable : ∀ code < 103,
        (hexDigit? (Char.ofNat code)).all fun value => IsDigit (Char.ofNat code) value := by
      decide
    have hc := htable c.toNat hascii
    rw [Char.ofNat_toNat, hdigit] at hc
    simpa using hc
  · rintro ⟨hlt, hc⟩
    have htable : ∀ value < 16, hexDigit? value.digitChar = some value ∧
        hexDigit? value.digitChar.toUpper = some value := by
      decide
    obtain rfl | rfl := hc
    · exact (htable digit hlt).1
    · exact (htable digit hlt).2

theorem IsDigit.mem {c : Char} {digit : Nat} (hdigit : IsDigit c digit) :
    c ∈ "0123456789abcdefABCDEF".toList := by
  obtain ⟨hlt, hc⟩ := hdigit
  have htable : ∀ value < 16, value.digitChar ∈ "0123456789abcdefABCDEF".toList ∧
      value.digitChar.toUpper ∈ "0123456789abcdefABCDEF".toList := by
    decide
  obtain rfl | rfl := hc
  · exact (htable digit hlt).1
  · exact (htable digit hlt).2

theorem hexValue?_eq_some_iff {high value : Nat} {text : List Char} :
    hexValue? high text = some value ↔
      ∃ digits, List.Forall₂ IsDigit text digits ∧
        value = high * 16 ^ digits.length + Nat.ofDigits 16 digits.reverse := by
  induction text generalizing high with
  | nil => simp [hexValue?, eq_comm]
  | cons c text ih =>
      simp only [hexValue?, Option.bind_eq_some_iff, hexDigit?_eq_some_iff, ih,
        List.forall₂_cons_left_iff]
      constructor
      · rintro ⟨digit, hc, digits, hdigits, rfl⟩
        refine ⟨digit :: digits, ⟨digit, digits, hc, hdigits, rfl⟩, ?_⟩
        rw [List.reverse_cons, Nat.ofDigits_append, Nat.ofDigits_singleton, List.length_reverse,
          List.length_cons]
        ring
      · rintro ⟨-, ⟨digit, digits, hc, hdigits, rfl⟩, rfl⟩
        refine ⟨digit, hc, digits, hdigits, ?_⟩
        rw [List.reverse_cons, Nat.ofDigits_append, Nat.ofDigits_singleton, List.length_reverse,
          List.length_cons]
        ring

theorem exists_mark (token : List Char) :
    ∃ mark ∈ [[], ['0', 'x'], ['0', 'X']], token = mark ++ dropMark token := by
  fun_cases dropMark token with
  | case1 digits => exact ⟨['0', 'x'], by simp, rfl⟩
  | case2 digits => exact ⟨['0', 'X'], by simp, rfl⟩
  | case3 digits => exact ⟨[], by simp, rfl⟩

/-- Neither `x` nor `X` is a digit, so that digits alone never look as if they had a mark. -/
theorem dropMark_of_digits {text : List Char} {digits : List Nat}
    (hdigits : List.Forall₂ IsDigit text digits) : dropMark text = text := by
  fun_cases dropMark text with
  | case1 rest =>
      obtain _ | ⟨-, _ | ⟨hx, -⟩⟩ := hdigits
      exact absurd hx.mem (by decide)
  | case2 rest =>
      obtain _ | ⟨-, _ | ⟨hx, -⟩⟩ := hdigits
      exact absurd hx.mem (by decide)
  | case3 => rfl

theorem wordOfToken?_eq_some_iff {token : List Char} {word : Nat} :
    wordOfToken? token = some word ↔ IsWord token word := by
  rw [wordOfToken?]
  constructor
  · intro hword
    by_cases hlength : 1 ≤ (dropMark token).length ∧ (dropMark token).length ≤ 4
    · rw [if_pos hlength, hexValue?_eq_some_iff] at hword
      obtain ⟨digits, hdigits, rfl⟩ := hword
      obtain ⟨mark, hmark, htoken⟩ := exists_mark token
      have hintro := IsWord.intro hmark hlength hdigits
      rwa [← htoken, ← Nat.zero_add (Nat.ofDigits 16 digits.reverse),
        ← Nat.zero_mul (16 ^ digits.length)] at hintro
    · rw [if_neg hlength] at hword
      cases hword
  · rintro @⟨mark, text, digits, hmark, hlength, hdigits⟩
    have hdrop : dropMark (mark ++ text) = text := by
      simp only [List.mem_cons, List.not_mem_nil, or_false] at hmark
      obtain rfl | rfl | rfl := hmark
      · exact dropMark_of_digits hdigits
      · rfl
      · rfl
    rw [hdrop, if_pos hlength, hexValue?_eq_some_iff]
    exact ⟨digits, hdigits, by ring⟩

theorem IsWord.lt {token : List Char} {word : Nat} (hword : IsWord token word) :
    word < 0x10000 := by
  obtain @⟨mark, text, digits, -, hlength, hdigits⟩ := hword
  have hall : ∀ digit ∈ digits.reverse, digit < 16 := by
    intro digit hdigit
    obtain ⟨place, hplace, rfl⟩ := List.mem_iff_getElem.mp (List.mem_reverse.mp hdigit)
    have hsame := hdigits.length_eq
    exact (hdigits.get (by omega) hplace).1
  have hshort : digits.reverse.length ≤ 4 := by
    rw [List.length_reverse, ← hdigits.length_eq]
    exact hlength.2
  calc Nat.ofDigits 16 digits.reverse
      < 16 ^ digits.reverse.length := Nat.ofDigits_lt_base_pow_length (by decide) hall
    _ ≤ 16 ^ 4 := Nat.pow_le_pow_right (by decide) hshort

theorem IsWord.mem {token : List Char} {word : Nat} (hword : IsWord token word) :
    ∀ c ∈ token, c ∈ "0123456789abcdefABCDEFxX".toList := by
  obtain @⟨mark, text, digits, hmark, -, hdigits⟩ := hword
  have hdigit : ∀ c ∈ text, c ∈ "0123456789abcdefABCDEF".toList ++ ['x', 'X'] := by
    intro c hc
    obtain ⟨place, hplace, rfl⟩ := List.mem_iff_getElem.mp hc
    have hsame := hdigits.length_eq
    exact List.mem_append_left _ (hdigits.get hplace (by omega)).mem
  intro c hc
  obtain hc | hc := List.mem_append.mp hc
  · simp only [List.mem_cons, List.not_mem_nil, or_false] at hmark
    obtain rfl | rfl | rfl := hmark
    · cases hc
    · obtain rfl | rfl := List.mem_pair.mp hc <;> decide
    · obtain rfl | rfl := List.mem_pair.mp hc <;> decide
  · exact hdigit c hc

theorem IsWord.noSeparator {token : List Char} {word : Nat} (hword : IsWord token word) :
    ∀ c ∈ token, separatesTokens c = false := by
  have hall : ("0123456789abcdefABCDEFxX".toList.all fun c => !separatesTokens c) = true := by
    decide
  intro c hc
  simpa using List.all_eq_true.mp hall c (hword.mem c hc)

theorem IsWord.noComment {token : List Char} {word : Nat} (hword : IsWord token word) :
    ∀ c ∈ token, startsComment c = false := by
  have hall : ("0123456789abcdefABCDEFxX".toList.all fun c => !startsComment c) = true := by
    decide
  intro c hc
  simpa using List.all_eq_true.mp hall c (hword.mem c hc)

theorem IsWord.stripped {token : List Char} {word : Nat} (hword : IsWord token word) :
    Text.Stripped token := by
  have hblank : ∀ c ∈ token, Text.isBlank c = false := by
    intro c hc
    exact (Bool.or_eq_false_iff.mp (hword.noSeparator c hc)).1
  exact ⟨fun c hc => hblank c (List.mem_of_head? hc),
    fun c hc => hblank c (List.mem_of_getLast? hc)⟩

theorem IsWord.ne_nil {token : List Char} {word : Nat} (hword : IsWord token word) :
    token ≠ [] := by
  obtain @⟨mark, text, digits, -, hlength, -⟩ := hword
  intro hempty
  rw [(List.append_eq_nil_iff.mp hempty).2] at hlength
  exact absurd hlength.1 (by decide)

/-! ### Lists of words -/

theorem wordsOfTokens_eq_ok_iff {tokens : List (List Char)} {words : List Nat} :
    wordsOfTokens tokens = .ok words ↔ List.Forall₂ IsWord tokens words := by
  induction tokens generalizing words with
  | nil => simp [wordsOfTokens, eq_comm]
  | cons token rest ih =>
      rw [wordsOfTokens, List.forall₂_cons_left_iff]
      simp only [← wordOfToken?_eq_some_iff, ← ih]
      cases wordOfToken? token with
      | none => simp
      | some word => cases wordsOfTokens rest <;> simp [Except.map, eq_comm]

theorem firstRefused_cons {token piece : List Char} {rest : List (List Char)} :
    FirstRefused (token :: rest) piece ↔
      (token = piece ∧ ∀ word, ¬IsWord piece word) ∨
        (∃ word, IsWord token word) ∧ FirstRefused rest piece := by
  constructor
  · rintro ⟨front, back, hpieces, hfront, hpiece⟩
    cases front with
    | nil => exact Or.inl ⟨(List.cons.inj hpieces).1, hpiece⟩
    | cons first front =>
        obtain ⟨rfl, rfl⟩ := List.cons.inj hpieces
        obtain ⟨hfirst, hfront⟩ := List.forall_mem_cons.mp hfront
        exact Or.inr ⟨hfirst, front, back, rfl, hfront, hpiece⟩
  · rintro (⟨rfl, hpiece⟩ | ⟨hfirst, front, back, rfl, hfront, hpiece⟩)
    · exact ⟨[], rest, rfl, List.forall_mem_nil _, hpiece⟩
    · exact ⟨token :: front, back, rfl, List.forall_mem_cons.mpr ⟨hfirst, hfront⟩, hpiece⟩

theorem wordsOfTokens_eq_error_iff {tokens : List (List Char)} {failure : Failure} :
    wordsOfTokens tokens = .error failure ↔
      ∃ piece, FirstRefused tokens piece ∧ failure = .invalidWord (String.ofList piece) := by
  induction tokens with
  | nil => simp [wordsOfTokens, FirstRefused]
  | cons token rest ih =>
      rw [wordsOfTokens]
      simp only [firstRefused_cons, ← wordOfToken?_eq_some_iff]
      cases hword : wordOfToken? token with
      | none =>
          constructor
          · rintro ⟨⟩
            exact ⟨token, Or.inl ⟨rfl, by simp [hword]⟩, rfl⟩
          · rintro ⟨piece, ⟨rfl, -⟩ | ⟨⟨word, hsome⟩, -⟩, rfl⟩
            · rfl
            · cases hsome
      | some word =>
          have hmap : (wordsOfTokens rest).map (word :: ·) = .error failure ↔
              wordsOfTokens rest = .error failure := by
            cases wordsOfTokens rest <;> simp [Except.map]
          rw [hmap, ih]
          constructor
          · rintro ⟨piece, hpiece, hfailure⟩
            exact ⟨piece, Or.inr ⟨⟨word, rfl⟩, hpiece⟩, hfailure⟩
          · rintro ⟨piece, ⟨rfl, hnone⟩ | ⟨-, hpiece⟩, hfailure⟩
            · exact absurd hword (hnone word)
            · exact ⟨piece, hpiece, hfailure⟩

theorem IsWords.exists_cons {code : List Char} {words : List Nat} (hwords : IsWords code words) :
    ∃ c rest, code = c :: rest ∧ separatesTokens c = false := by
  obtain ⟨token, tail, word, rfl, hword⟩ :
      ∃ token tail word, code = token ++ tail ∧ IsWord token word := by
    cases hwords with
    | last hword => exact ⟨_, [], _, (List.append_nil _).symm, hword⟩
    | cons hword => exact ⟨_, _, _, List.append_assoc _ _ _, hword⟩
  cases token with
  | nil => exact absurd rfl hword.ne_nil
  | cons c token => exact ⟨c, token ++ tail, rfl, hword.noSeparator c List.mem_cons_self⟩

theorem isWords_iff {code : List Char} {words : List Nat} :
    IsWords code words ↔
      ∃ pieces, Text.Pieces separatesTokens code pieces ∧ List.Forall₂ IsWord pieces words := by
  constructor
  · intro hwords
    induction hwords with
    | @last token word hword =>
        exact ⟨[token], .last hword.noSeparator, .cons hword .nil⟩
    | @cons token run rest word words hword hrun hne hrest ih =>
        obtain ⟨pieces, hpieces, hforall⟩ := ih
        obtain ⟨c, tail, rfl, hc⟩ := hrest.exists_cons
        have hmaximal : ∀ d ∈ (c :: tail).head?, separatesTokens d = false := by simpa using hc
        exact ⟨token :: pieces, .cons hword.noSeparator hrun hne hpieces hmaximal,
          .cons hword hforall⟩
  · rintro ⟨pieces, hpieces, hforall⟩
    induction hpieces generalizing words with
    | @last piece hpiece =>
        obtain _ | ⟨hword, _ | _⟩ := hforall
        exact .last hword
    | @cons piece run rest pieces hpiece hrun hne hrest hmaximal ih =>
        obtain _ | ⟨hword, hforall⟩ := hforall
        exact .cons hword hrun hne (ih hforall)

/-! ### Lines -/

theorem hasCode_iff {line code : List Char} :
    HasCode line code ↔ Text.strip (line.takeWhile (!startsComment ·)) = code := by
  rw [Text.strip_eq_iff]
  refine and_congr_right fun _ => ?_
  constructor
  · rintro ⟨front, back, comment, rfl, hfront, hback, hbody, hcomment⟩
    refine ⟨front, back, ?_, hfront, hback⟩
    have hnone : comment.takeWhile (!startsComment ·) = [] := by
      cases comment with
      | nil => rfl
      | cons c comment => simp [hcomment c rfl]
    rw [List.takeWhile_append_of_pos (by simpa using hbody), hnone, List.append_nil]
  · rintro ⟨front, back, htake, hfront, hback⟩
    refine ⟨front, back, line.dropWhile (!startsComment ·), ?_, hfront, hback, ?_, ?_⟩
    · rw [← htake, List.takeWhile_append_dropWhile]
    · intro c hc
      rw [← htake] at hc
      simpa using List.mem_takeWhile_imp hc
    · intro c hc
      have hhead := List.head?_dropWhile_not (!startsComment ·) line
      rw [Option.mem_def] at hc
      rw [hc] at hhead
      simpa using hhead

theorem tokensOfLine_of_hasCode {line code : List Char} (hcode : HasCode line code) :
    tokensOfLine line = if code = [] then [] else Text.splitOnRuns separatesTokens code := by
  rw [tokensOfLine, hasCode_iff.mp hcode]
  cases code <;> rfl

theorem exists_hasCode (line : List Char) : ∃ code, HasCode line code :=
  ⟨_, hasCode_iff.mpr rfl⟩

theorem tokensOfLine_eq_iff {line : List Char} {pieces : List (List Char)} :
    tokensOfLine line = pieces ↔ LinePieces line pieces := by
  constructor
  · rintro rfl
    obtain ⟨code, hcode⟩ := exists_hasCode line
    rw [tokensOfLine_of_hasCode hcode]
    by_cases hempty : code = []
    · rw [if_pos hempty]
      exact .empty (hempty ▸ hcode)
    · rw [if_neg hempty]
      exact .pieces hcode hempty (Text.pieces_splitOnRuns _ _)
  · rintro (hcode | ⟨hcode, hne, hpieces⟩)
    · rw [tokensOfLine_of_hasCode hcode, if_pos rfl]
    · rw [tokensOfLine_of_hasCode hcode, if_neg hne, hpieces.eq_splitOnRuns]

theorem lineWords_iff {line : List Char} {words : List Nat} :
    LineWords line words ↔ List.Forall₂ IsWord (tokensOfLine line) words := by
  constructor
  · rintro (hcode | ⟨hcode, hwords⟩)
    · rw [tokensOfLine_of_hasCode hcode, if_pos rfl]
      exact .nil
    · obtain ⟨c, rest, rfl, -⟩ := hwords.exists_cons
      obtain ⟨pieces, hpieces, hforall⟩ := isWords_iff.mp hwords
      rw [tokensOfLine_of_hasCode hcode, if_neg (List.cons_ne_nil c rest), hpieces.eq_splitOnRuns]
      exact hforall
  · intro hforall
    obtain ⟨code, hcode⟩ := exists_hasCode line
    rw [tokensOfLine_of_hasCode hcode] at hforall
    by_cases hempty : code = []
    · rw [if_pos hempty, List.forall₂_nil_left_iff] at hforall
      rw [hforall]
      exact .empty (hempty ▸ hcode)
    · rw [if_neg hempty] at hforall
      exact .words hcode (isWords_iff.mpr ⟨_, Text.pieces_splitOnRuns _ _, hforall⟩)

/-! ### Texts -/

theorem tokens_toList (source : String) :
    tokens source.toList = (lines source).flatMap tokensOfLine := by
  rw [tokens, lines, Text.splitOn_eq_splitOnP, List.splitOn_eq_splitOnP]

theorem forall₂_linePieces_iff {texts : List (List Char)} {pieces : List (List (List Char))} :
    List.Forall₂ LinePieces texts pieces ↔ texts.map tokensOfLine = pieces := by
  have hreads : LinePieces = fun line pieces => tokensOfLine line = pieces := by
    funext line pieces
    exact propext tokensOfLine_eq_iff.symm
  rw [hreads, ← List.forall₂_map_left_iff, List.forall₂_eq_eq_eq]

theorem forall₂_isWord_flatMap {texts : List (List Char)} {words : List Nat} :
    List.Forall₂ IsWord (texts.flatMap tokensOfLine) words ↔
      ∃ groups, List.Forall₂ LineWords texts groups ∧ words = groups.flatten := by
  have hreads : LineWords = fun line words => List.Forall₂ IsWord (tokensOfLine line) words := by
    funext line words
    exact propext lineWords_iff
  rw [hreads]
  constructor
  · intro hwords
    induction texts generalizing words with
    | nil =>
        rw [List.flatMap_nil, List.forall₂_nil_left_iff] at hwords
        exact ⟨[], .nil, hwords⟩
    | cons line texts ih =>
        rw [List.flatMap_cons] at hwords
        have hfront := (List.forall₂_take_append _ _ _ hwords.flip).flip
        have hback := (List.forall₂_drop_append _ _ _ hwords.flip).flip
        obtain ⟨groups, hgroups, hflatten⟩ := ih hback
        refine ⟨_ :: groups, .cons hfront hgroups, ?_⟩
        rw [List.flatten_cons, ← hflatten, List.take_append_drop]
  · rintro ⟨groups, hgroups, rfl⟩
    have hflatten := List.rel_flatten (List.forall₂_map_left_iff.mpr hgroups)
    rwa [← List.flatMap_def] at hflatten

theorem LinePieces.of_hasCode {line code : List Char} {pieces : List (List Char)}
    (hpieces : LinePieces line pieces) (hcode : HasCode line code) (hne : code ≠ []) :
    Text.Pieces separatesTokens code pieces := by
  rw [← Text.splitOnRuns_eq_iff, ← tokensOfLine_eq_iff.mpr hpieces, tokensOfLine_of_hasCode hcode,
    if_neg hne]

theorem parse_eq_ok_iff {source : String} {image : List UInt8} :
    parse source = .ok image ↔
      ∃ words, List.Forall₂ IsWord (tokens source.toList) words ∧
        image = words.flatMap bytesOfWord := by
  simp only [← wordsOfTokens_eq_ok_iff]
  rw [parse, words]
  cases wordsOfTokens (tokens source.toList) <;> simp [Except.map, eq_comm]

theorem parse_eq_error_iff {source : String} {failure : Failure} :
    parse source = .error failure ↔
      ∃ piece, FirstRefused (tokens source.toList) piece ∧
        failure = .invalidWord (String.ofList piece) := by
  rw [← wordsOfTokens_eq_error_iff, parse, words]
  cases wordsOfTokens (tokens source.toList) <;> simp [Except.map]

/-- A text is assembled exactly if its lines are those of the grammar, into the bytes of their words
in order. Any other text is refused for the first piece that is not a word, which is empty where a
comma stands at an end of a line's code. -/
theorem parse_follows_grammar (source : String) :
    (∀ image, parse source = .ok image ↔
      ∃ words, List.Forall₂ LineWords (lines source) words ∧
        image = words.flatten.flatMap bytesOfWord) ∧
    (∀ failure, parse source = .error failure ↔
      ∃ pieces piece, List.Forall₂ LinePieces (lines source) pieces ∧
        FirstRefused pieces.flatten piece ∧ failure = .invalidWord (String.ofList piece) ∧
        failure.message = "Invalid instruction word: " ++ String.ofList piece) ∧
    ∀ line ∈ lines source, ∀ code pieces, HasCode line code → LinePieces line pieces →
      (code.head? = some ',' → pieces.head? = some []) ∧
        (code.getLast? = some ',' → pieces.getLast? = some []) := by
  have hcomma : separatesTokens ',' = true := by decide
  refine ⟨?_, ?_, ?_⟩
  · intro image
    rw [parse_eq_ok_iff, tokens_toList]
    constructor
    · rintro ⟨words, hwords, rfl⟩
      obtain ⟨groups, hgroups, rfl⟩ := forall₂_isWord_flatMap.mp hwords
      exact ⟨groups, hgroups, rfl⟩
    · rintro ⟨groups, hgroups, rfl⟩
      exact ⟨groups.flatten, forall₂_isWord_flatMap.mpr ⟨groups, hgroups, rfl⟩, rfl⟩
  · intro failure
    rw [parse_eq_error_iff, tokens_toList, List.flatMap_def]
    constructor
    · rintro ⟨piece, hpiece, rfl⟩
      exact ⟨_, piece, forall₂_linePieces_iff.mpr rfl, hpiece, rfl, rfl⟩
    · rintro ⟨pieces, piece, hpieces, hpiece, rfl, -⟩
      rw [← forall₂_linePieces_iff.mp hpieces] at hpiece
      exact ⟨piece, hpiece, rfl⟩
  · intro line _ code pieces hcode hpieces
    constructor
    · intro hhead
      have hne : code ≠ [] := by
        rintro rfl
        cases hhead
      exact (hpieces.of_hasCode hcode hne).head?_of_separator hhead hcomma
    · intro hlast
      have hne : code ≠ [] := by
        rintro rfl
        cases hlast
      exact (hpieces.of_hasCode hcode hne).getLast?_of_separator hlast hcomma

/-- The comma at the front of the second line leaves an empty piece, which comes before the piece
with too many digits. -/
theorem parse_comma_refused :
    parse "0x6005 e0 ; two\n,12345" = .error (.invalidWord "") ∧
      (∃ pieces piece, List.Forall₂ LinePieces (lines "0x6005 e0 ; two\n,12345") pieces ∧
        FirstRefused pieces.flatten piece ∧ "" = String.ofList piece) ∧
      ∀ pieces, LinePieces ",12345".toList pieces → pieces.head? = some [] := by
  obtain ⟨-, hrefused, hcommas⟩ := parse_follows_grammar "0x6005 e0 ; two\n,12345"
  have hparse : parse "0x6005 e0 ; two\n,12345" = .error (.invalidWord "") := by decide +kernel
  obtain ⟨pieces, piece, hpieces, hpiece, hfailure, -⟩ := (hrefused _).mp hparse
  refine ⟨hparse, ⟨pieces, piece, hpieces, hpiece, Failure.invalidWord.inj hfailure⟩, ?_⟩
  intro others hothers
  have hline : ",12345".toList ∈ lines "0x6005 e0 ; two\n,12345" := by decide +kernel
  have hcode : HasCode ",12345".toList ",12345".toList := hasCode_iff.mpr (by decide +kernel)
  exact (hcommas _ hline _ _ hcode hothers).1 rfl

end Chip8.Assembly
