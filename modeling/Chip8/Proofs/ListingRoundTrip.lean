import Chip8.Assembly.Listing
import Chip8.Proofs.SourceGrammar

/-!
# Listings as program text

A listing is itself the text of a program: each line is a word in four digits, with the assembly
text of its instruction as a comment. Assembling it gives the image back, apart from an odd last
byte that has no word. The other way round, the listing of an assembled text has one entry for each
word that the text writes, whatever its layout.
-/

namespace Chip8

/-! ### Digits -/

namespace HexFormat

open Assembly (IsDigit)

theorem exists_digits_toDigits (upper : Bool) (number : Nat) :
    ∃ digits, List.Forall₂ IsDigit
        ((Nat.toDigits 16 number).map fun c => if upper then c.toUpper else c) digits ∧
      Nat.ofDigits 16 digits.reverse = number := by
  have hwrites : ∀ digit < 16,
      IsDigit (if upper then digit.digitChar.toUpper else digit.digitChar) digit := by
    intro digit hlt
    cases upper
    · exact ⟨hlt, Or.inl rfl⟩
    · exact ⟨hlt, Or.inr rfl⟩
  induction number using Nat.strong_induction_on with
  | _ number ih =>
      rw [Nat.toDigits_eq_if (by decide)]
      by_cases hsmall : number < 16
      · rw [if_pos hsmall]
        exact ⟨[number], .cons (hwrites number hsmall) .nil, by simp⟩
      · rw [if_neg hsmall, List.map_append]
        obtain ⟨digits, hdigits, hvalue⟩ := ih (number / 16) (by omega)
        refine ⟨digits ++ [number % 16], ?_, ?_⟩
        · exact List.rel_append hdigits (.cons (hwrites _ (Nat.mod_lt _ (by decide))) .nil)
        · rw [List.reverse_append, List.reverse_singleton, List.singleton_append,
            Nat.ofDigits_cons, hvalue]
          exact Nat.mod_add_div number 16

theorem digits_eq (format : HexFormat) (value : Int) :
    format.digits value = (Nat.toDigits 16 value.natAbs).map fun c =>
      if format.upper then c.toUpper else c := by
  rw [digits]
  cases format.upper
  · exact (List.map_id _).symm
  · rfl

/-- A number with neither sign nor mark is its digits, with zeros in front of them. -/
theorem exists_digits_renderChars (format : HexFormat) (hmarked : format.marked = false)
    (number : Nat) :
    ∃ digits, List.Forall₂ IsDigit (format.renderChars number) digits ∧
      Nat.ofDigits 16 digits.reverse = number := by
  obtain ⟨digits, hdigits, hvalue⟩ := exists_digits_toDigits format.upper number
  have hlead : format.lead number = [] := by
    rw [lead, hmarked, if_neg (by omega)]
    rfl
  have hzeros : ∀ count, List.Forall₂ IsDigit (List.replicate count '0')
      (List.replicate count 0) := by
    intro count
    induction count with
    | zero => exact .nil
    | succ count ih => exact .cons (by decide) ih
  rw [renderChars, hlead, digits_eq, Int.natAbs_natCast, List.nil_append]
  refine ⟨_, List.rel_append (hzeros _) hdigits, ?_⟩
  rw [List.reverse_append, List.reverse_replicate, Nat.ofDigits_append_replicate_zero, hvalue]

theorem length_renderChars_word {word : Nat} (hword : word < 0x10000) :
    (HexFormat.word.renderChars word).length = 4 := by
  have hlead : HexFormat.word.lead word = [] := by
    rw [lead, if_neg (by omega)]
    rfl
  have hdigits : (HexFormat.word.digits word).length ≤ 4 := by
    rw [digits_eq, List.length_map]
    exact (Nat.length_toDigits_le_iff (by decide) (by decide)).mpr hword
  have hwidth : HexFormat.word.width = 4 := rfl
  rw [renderChars, hlead, hwidth, List.length_append, List.length_append, List.length_replicate,
    List.length_nil]
  omega

theorem isWord_renderChars {word : Nat} (hword : word < 0x10000) :
    Assembly.IsWord (HexFormat.word.renderChars word) word := by
  obtain ⟨digits, hdigits, hvalue⟩ := exists_digits_renderChars HexFormat.word rfl word
  have hlength := length_renderChars_word hword
  have hunmarked : ([] : List Char) ∈ [[], ['0', 'x'], ['0', 'X']] := List.mem_cons_self
  have hintro := Assembly.IsWord.intro hunmarked (by omega) hdigits
  rwa [hvalue] at hintro

/-- Numbers are written on one line. -/
theorem newline_notMem_render (format : HexFormat) (value : Int) :
    '\n' ∉ (format.render value).toList := by
  have hlead : '\n' ∉ format.lead value := by
    rw [lead]
    split <;> split <;> decide
  have hdigits : '\n' ∉ format.digits value := by
    obtain ⟨digits, hforall, -⟩ := exists_digits_toDigits format.upper value.natAbs
    rw [← digits_eq] at hforall
    intro hmem
    obtain ⟨place, hplace, hc⟩ := List.mem_iff_getElem.mp hmem
    have hdigit := (hforall.get hplace (hforall.length_eq ▸ hplace)).mem
    rw [List.get_eq_getElem, hc] at hdigit
    exact absurd hdigit (by decide)
  rw [render, renderChars, String.toList_ofList]
  simp [hlead, hdigits, List.mem_replicate]

end HexFormat

theorem Instruction.newline_notMem_mnemonic (instruction : Instruction) :
    '\n' ∉ instruction.mnemonic.toList := by
  have hdigits : ∀ number : Nat, '\n' ∉ Nat.toDigits 10 number := by
    intro number hmem
    exact absurd (Nat.isDigit_of_mem_toDigits (by decide) (by decide) hmem) (by decide)
  have hnumber : ∀ number : Int, '\n' ∉ number.repr.toList := by
    intro number
    rw [Int.repr_eq_if]
    split <;> simp [hdigits]
  cases hoperation : instruction.operation <;>
    simp [mnemonic, register, hoperation, hnumber, HexFormat.newline_notMem_render]

namespace Assembly

/-! ### The words of an image -/

/-- The words of an image; an odd last byte belongs to none. -/
def imageWords : List UInt8 → List Nat
  | high :: low :: rest => wordOfBytes high low :: imageWords rest
  | _ => []

theorem wordOfBytes_lt (high low : UInt8) : wordOfBytes high low < 0x10000 := by
  have hhigh := high.toNat_lt
  have hlow := low.toNat_lt
  rw [wordOfBytes]
  omega

theorem imageWords_lt {image : List UInt8} : ∀ word ∈ imageWords image, word < 0x10000 := by
  fun_induction imageWords image with
  | case1 high low rest ih => exact List.forall_mem_cons.mpr ⟨wordOfBytes_lt high low, ih⟩
  | case2 => exact List.forall_mem_nil _

theorem bytesOfWord_wordOfBytes (high low : UInt8) :
    bytesOfWord (wordOfBytes high low) = [high, low] := by
  have hlow := low.toNat_lt
  have hdiv : wordOfBytes high low / 0x100 = high.toNat := by
    rw [wordOfBytes]
    omega
  have hmod : wordOfBytes high low % 2 ^ 8 = low.toNat := by
    rw [wordOfBytes]
    omega
  have hofNat : UInt8.ofNat (wordOfBytes high low) = low := by
    rw [← UInt8.toNat_inj, UInt8.toNat_ofNat']
    exact hmod
  rw [bytesOfWord, hdiv, UInt8.ofNat_toNat, hofNat]

theorem wordOfBytes_bytesOfWord {word : Nat} (hword : word < 0x10000) :
    wordOfBytes (UInt8.ofNat (word / 0x100)) (UInt8.ofNat word) = word := by
  rw [wordOfBytes, UInt8.toNat_ofNat', UInt8.toNat_ofNat']
  omega

/-- An image is a pair of bytes and another image, or it has no word. -/
theorem imageWords_of_short {image : List UInt8}
    (hshort : ∀ high low rest, image ≠ high :: low :: rest) :
    image = [] ∨ ∃ byte, image = [byte] := by
  match image with
  | [] => exact Or.inl rfl
  | [byte] => exact Or.inr ⟨byte, rfl⟩
  | high :: low :: rest => exact absurd rfl (hshort high low rest)

theorem flatMap_bytesOfWord_imageWords (image : List UInt8) :
    (imageWords image).flatMap bytesOfWord =
      if image.length % 2 = 0 then image else image.dropLast := by
  fun_induction imageWords image with
  | case1 high low rest ih =>
      have hparity : (high :: low :: rest).length % 2 = rest.length % 2 := by
        rw [List.length_cons, List.length_cons]
        omega
      rw [List.flatMap_cons, bytesOfWord_wordOfBytes, ih, hparity]
      by_cases heven : rest.length % 2 = 0
      · rw [if_pos heven, if_pos heven]
        rfl
      · have hne : rest ≠ [] := by
          rintro rfl
          exact heven rfl
        rw [if_neg heven, if_neg heven, List.dropLast_cons_of_ne_nil (by simp),
          List.dropLast_cons_of_ne_nil hne]
        rfl
  | case2 image hshort =>
      obtain rfl | ⟨byte, rfl⟩ := imageWords_of_short hshort
      · rfl
      · rfl

theorem imageWords_flatMap_bytesOfWord {words : List Nat}
    (hwords : ∀ word ∈ words, word < 0x10000) :
    imageWords (words.flatMap bytesOfWord) = words := by
  induction words with
  | nil => rfl
  | cons word words ih =>
      obtain ⟨hword, hwords⟩ := List.forall_mem_cons.mp hwords
      rw [List.flatMap_cons, bytesOfWord, List.cons_append, List.cons_append, List.nil_append,
        imageWords, ih hwords, wordOfBytes_bytesOfWord hword]

theorem getElem?_disassemble (origin : Int) (image : List UInt8) (place : Nat) :
    (disassemble origin image)[place]? =
      (imageWords image)[place]?.map fun word : Nat =>
        (origin + 2 * place, Instruction.decode word) := by
  fun_induction imageWords image generalizing origin place with
  | case1 high low rest ih =>
      rw [disassemble]
      cases place with
      | zero => simp
      | succ place =>
          rw [List.getElem?_cons_succ, List.getElem?_cons_succ, ih]
          have haddress :
              origin + 2 + 2 * (place : Int) = origin + 2 * ((place + 1 : Nat) : Int) := by
            omega
          rw [haddress]
  | case2 image hshort =>
      obtain rfl | ⟨byte, rfl⟩ := imageWords_of_short hshort
      · rfl
      · rfl

/-- The bytes that a word is made of. -/
theorem exists_bytes_of_imageWords {image : List UInt8} {place word : Nat}
    (hword : (imageWords image)[place]? = some word) :
    ∃ high low, image[2 * place]? = some high ∧ image[2 * place + 1]? = some low ∧
      word = wordOfBytes high low := by
  fun_induction imageWords image generalizing place with
  | case1 high low rest ih =>
      cases place with
      | zero =>
          cases hword
          exact ⟨high, low, rfl, rfl, rfl⟩
      | succ place => exact ih hword
  | case2 => cases hword

/-! ### A listing as a text -/

/-- The four digits that an entry of a listing starts with, and its assembly text as a comment. -/
def sourceLine (instruction : Instruction) : String :=
  String.ofList (instruction.text.toList.take 4) ++ " ; " ++ instruction.mnemonic

/-- The text with one line for each entry of a listing. -/
def sourceOfListing (listing : List (Int × Instruction)) : String :=
  "\n".intercalate (listing.map fun entry => sourceLine entry.2)

theorem word_decode {word : Nat} (hword : word < 0x10000) :
    (Instruction.decode word).word = word := by
  change (((word : Int) % 0x10000).toNat : Int) = word
  omega

theorem toList_sourceLine {word : Nat} (hword : word < 0x10000) :
    (sourceLine (Instruction.decode word)).toList =
      HexFormat.word.renderChars word ++ " ; ".toList ++
        (Instruction.decode word).mnemonic.toList := by
  have hdigits : (Instruction.decode word).text.toList.take 4 =
      HexFormat.word.renderChars word := by
    rw [Instruction.text, word_decode hword, HexFormat.render, String.toList_append,
      String.toList_append, String.toList_ofList, List.append_assoc,
      List.take_append_of_le_length (by rw [HexFormat.length_renderChars_word hword]),
      List.take_of_length_le (by rw [HexFormat.length_renderChars_word hword])]
  rw [sourceLine, hdigits, String.toList_append, String.toList_append, String.toList_ofList]

theorem lineWords_sourceLine {word : Nat} (hword : word < 0x10000) :
    LineWords (sourceLine (Instruction.decode word)).toList [word] := by
  have hisWord := HexFormat.isWord_renderChars hword
  refine .words ⟨hisWord.stripped, [], [' '],
    "; ".toList ++ (Instruction.decode word).mnemonic.toList, ?_, ?_, ?_, ?_, ?_⟩ (.last hisWord)
  · rw [toList_sourceLine hword]
    simp
  · exact List.forall_mem_nil _
  · exact List.forall_mem_singleton.mpr rfl
  · intro c hc
    rw [List.nil_append] at hc
    obtain hc | hc := List.mem_append.mp hc
    · exact hisWord.noComment c hc
    · rw [List.mem_singleton.mp hc]
      rfl
  · intro c hc
    cases hc
    rfl

theorem newline_notMem_sourceLine {word : Nat} (hword : word < 0x10000) :
    '\n' ∉ (sourceLine (Instruction.decode word)).toList := by
  rw [toList_sourceLine hword]
  have hrender := HexFormat.newline_notMem_render HexFormat.word word
  rw [HexFormat.render, String.toList_ofList] at hrender
  simp [hrender, Instruction.newline_notMem_mnemonic]

theorem map_snd_disassemble (origin : Int) (image : List UInt8) :
    (disassemble origin image).map Prod.snd = (imageWords image).map fun word : Nat =>
      Instruction.decode word := by
  apply List.ext_getElem?
  intro place
  rw [List.getElem?_map, List.getElem?_map, getElem?_disassemble, Option.map_map]
  rfl

theorem map_sourceLine_disassemble (origin : Int) (image : List UInt8) :
    (disassemble origin image).map (fun entry => sourceLine entry.2) =
      (imageWords image).map fun word : Nat => sourceLine (Instruction.decode word) := by
  have hmap := congrArg (List.map sourceLine) (map_snd_disassemble origin image)
  rwa [List.map_map, List.map_map] at hmap

theorem lines_sourceOfListing (origin : Int) {image : List UInt8} (hne : imageWords image ≠ []) :
    lines (sourceOfListing (disassemble origin image)) =
      (imageWords image).map fun word : Nat => (sourceLine (Instruction.decode word)).toList := by
  rw [lines, sourceOfListing, map_sourceLine_disassemble, String.toList_intercalate, List.map_map]
  refine List.splitOn_intercalate '\n' ?_ (by simpa using hne)
  intro line hline
  obtain ⟨word, hword, rfl⟩ := List.mem_map.mp hline
  exact newline_notMem_sourceLine (imageWords_lt word hword)

theorem parse_sourceOfListing (origin : Int) (image : List UInt8) :
    parse (sourceOfListing (disassemble origin image)) =
      .ok ((imageWords image).flatMap bytesOfWord) := by
  by_cases hempty : imageWords image = []
  · -- Without entries the text is empty, which is one line without words.
    have htext : sourceOfListing (disassemble origin image) = "" := by
      rw [sourceOfListing, map_sourceLine_disassemble, hempty]
      rfl
    rw [htext, hempty]
    rfl
  · rw [parse_eq_ok_iff, tokens_toList, lines_sourceOfListing origin hempty]
    refine ⟨imageWords image, forall₂_isWord_flatMap.mpr
      ⟨(imageWords image).map fun word => [word], ?_, ?_⟩, rfl⟩
    · rw [List.forall₂_map_left_iff, List.forall₂_map_right_iff, List.forall₂_same]
      exact fun word hword => lineWords_sourceLine (imageWords_lt word hword)
    · rw [← List.flatMap_def, List.flatMap_singleton']

theorem length_disassemble (origin : Int) (image : List UInt8) :
    (disassemble origin image).length = (imageWords image).length := by
  have hlength := congrArg List.length (map_snd_disassemble origin image)
  rwa [List.length_map, List.length_map] at hlength

/-- Assembling a listing gives the image back without an odd last byte. The listing of an assembled
text has an entry for each of its words, in order and two bytes apart. -/
theorem listing_round_trip (origin : Int) :
    (∀ image, parse (sourceOfListing (disassemble origin image)) =
      .ok (if image.length % 2 = 0 then image else image.dropLast)) ∧
    ∀ source image, parse source = .ok image →
      ∃ pieces, List.Forall₂ LinePieces (lines source) pieces ∧
        (disassemble origin image).length = pieces.flatten.length ∧
        ∀ (place : Nat) (token : List Char), pieces.flatten[place]? = some token →
          ∃ (word : Nat) (instruction : Instruction), IsWord token word ∧
            (disassemble origin image)[place]? = some (origin + 2 * place, instruction) ∧
            instruction.word = word := by
  constructor
  · intro image
    rw [parse_sourceOfListing, flatMap_bytesOfWord_imageWords]
  · intro source image hparse
    obtain ⟨words, hwords, rfl⟩ := parse_eq_ok_iff.mp hparse
    rw [tokens_toList, List.flatMap_def] at hwords
    have hlt : ∀ word ∈ words, word < 0x10000 := by
      intro word hword
      obtain ⟨place, hplace, rfl⟩ := List.mem_iff_getElem.mp hword
      exact (hwords.get (hwords.length_eq ▸ hplace) hplace).lt
    have himage := imageWords_flatMap_bytesOfWord hlt
    refine ⟨(lines source).map tokensOfLine, forall₂_linePieces_iff.mpr rfl, ?_, ?_⟩
    · rw [length_disassemble, himage, hwords.length_eq]
    · intro place token htoken
      obtain ⟨hplace, rfl⟩ := List.getElem?_eq_some_iff.mp htoken
      have hword : place < words.length := hwords.length_eq ▸ hplace
      refine ⟨words[place], Instruction.decode words[place], hwords.get hplace hword, ?_,
        word_decode (hlt _ (List.getElem_mem hword))⟩
      rw [getElem?_disassemble, himage, List.getElem?_eq_getElem hword]
      rfl

/-- An image with an odd last byte, and a text whose second word is a line of its own. -/
theorem listing_round_trip_oddImage :
    parse (sourceOfListing (disassemble 0x200 [0xD1, 0x25, 0x01, 0x23, 0xFF])) =
        .ok [0xD1, 0x25, 0x01, 0x23] ∧
      parse "0xd125 ; draw\n  5" = .ok [0xD1, 0x25, 0x00, 0x05] ∧
      ∃ instruction : Instruction,
        (disassemble 0x300 [0xD1, 0x25, 0x00, 0x05])[1]? = some (0x302, instruction) ∧
          instruction.word = 5 := by
  have hparse : parse "0xd125 ; draw\n  5" = .ok [0xD1, 0x25, 0x00, 0x05] := by decide +kernel
  obtain ⟨pieces, hpieces, hlength, hentries⟩ := (listing_round_trip 0x300).2 _ _ hparse
  refine ⟨(listing_round_trip 0x200).1 _, hparse, ?_⟩
  have hflatten : pieces.flatten = [['0', 'x', 'd', '1', '2', '5'], ['5']] := by
    rw [← forall₂_linePieces_iff.mp hpieces]
    decide +kernel
  obtain ⟨word, instruction, hword, hentry, hinstruction⟩ :=
    hentries 1 ['5'] (by rw [hflatten]; rfl)
  have hfive : some word = some 5 := (wordOfToken?_eq_some_iff.mpr hword).symm
  rw [Option.some.inj hfive] at hinstruction
  exact ⟨instruction, hentry, hinstruction⟩

end Assembly

end Chip8
