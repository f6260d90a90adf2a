import Chip8.Json.Reader
import Chip8.Proofs.SourceGrammar

/-!
# The grammar of JSON text

A text holds one value. Objects and arrays are written with any spaces between their parts, names
and strings with any mixture of characters and escapes, and numbers in the decimal notation. The
reader reads every text of the grammar as the value that it writes; of the members of an object with
the same name the last one counts.
-/

namespace Chip8.Json

/-! ### Numbers -/

/-- The digits of a whole number, which start with a zero only if that is all. -/
structure IsWhole (digits : List Char) : Prop where
  ne_nil : digits ≠ []
  digit : ∀ c ∈ digits, Text.isAsciiDigit c = true
  zero : digits.head? = some '0' → digits = ['0']

/-- A point and at least one digit, or nothing. -/
inductive IsFraction : List Char → List Char → Prop where
  | none : IsFraction [] []
  | some {digits : List Char} (hne : digits ≠ [])
    (hdigits : ∀ c ∈ digits, Text.isAsciiDigit c = true) : IsFraction ('.' :: digits) digits

/-- A minus, or nothing. -/
def signText (negative : Bool) : List Char :=
  if negative then ['-'] else []

/-- The letter in either case, a sign or none and at least one digit, or nothing. -/
inductive IsExponent : List Char → Option Int → Prop where
  | none : IsExponent [] none
  | some {letter : Char} {sign digits : List Char} {negative : Bool}
    (hletter : letter = 'e' ∨ letter = 'E')
    (hsign : sign = signText negative ∨ sign = ['+'] ∧ negative = false)
    (hne : digits ≠ [])
    (hdigits : ∀ c ∈ digits, Text.isAsciiDigit c = true) :
    IsExponent (letter :: (sign ++ digits))
      (some (Text.applySign negative (Nat.ofDigitChars 10 digits 0)))

/-- The number of a sign, digits and an exponent, which is real if there is a fraction or an
exponent. -/
def number (negative : Bool) (whole fraction : List Char) (exponent : Option Int) : Json :=
  if fraction = [] ∧ exponent = none then
    integer (Text.applySign negative (Nat.ofDigitChars 10 whole 0))
  else
    let magnitude := Text.DecimalParts.value { whole, fraction, exponent := exponent.getD 0 }
    real (if negative then -magnitude else magnitude)

/-- A text that writes a number. -/
inductive IsNumber : List Char → Json → Prop where
  | intro {whole fractionText fraction exponentText : List Char} {exponent : Option Int}
    (negative : Bool) (hwhole : IsWhole whole) (hfraction : IsFraction fractionText fraction)
    (hexponent : IsExponent exponentText exponent) :
    IsNumber (signText negative ++ (whole ++ (fractionText ++ exponentText)))
      (number negative whole fraction exponent)

/-- A text that can stand behind a value: nothing, a space, or what separates or ends values. -/
def Ends (rest : List Char) : Prop :=
  ∀ c ∈ rest.head?, isSpace c = true ∨ c ∈ [',', ']', '\x7d']

/-- What stands behind a value does not go on with a number. -/
theorem Ends.breaks {rest : List Char} (hends : Ends rest) :
    ∀ c ∈ rest.head?, Text.isAsciiDigit c = false ∧ c ≠ '.' ∧ c ≠ 'e' ∧ c ≠ 'E' := by
  intro c hc
  have hmem := hends c hc
  simp only [isSpace, Bool.or_eq_true, beq_iff_eq, List.mem_cons, List.not_mem_nil, or_false]
    at hmem
  obtain (((rfl | rfl) | rfl) | rfl) | rfl | rfl | rfl := hmem <;> simp [Text.isAsciiDigit]

theorem span_digits {digits rest : List Char} (hdigits : ∀ c ∈ digits, Text.isAsciiDigit c = true)
    (hrest : ∀ c ∈ rest.head?, Text.isAsciiDigit c = false) :
    (digits ++ rest).takeWhile Text.isAsciiDigit = digits ∧
      (digits ++ rest).dropWhile Text.isAsciiDigit = rest := by
  constructor
  · rw [List.takeWhile_append_of_pos hdigits]
    cases rest with
    | nil => simp
    | cons c rest => simp [hrest c rfl]
  · exact Text.dropWhile_append_of_head hdigits hrest

theorem ne_of_digit {c d : Char} (hc : Text.isAsciiDigit c = true)
    (hd : Text.isAsciiDigit d = false) : c ≠ d := by
  rintro rfl
  simp [hd] at hc

theorem takeWhole?_append {digits rest : List Char} (hdigits : IsWhole digits)
    (hrest : ∀ c ∈ rest.head?, Text.isAsciiDigit c = false) :
    takeWhole? (digits ++ rest) = some (digits, rest) := by
  obtain ⟨htake, hdrop⟩ := span_digits hdigits.digit hrest
  rw [takeWhole?.eq_def]
  split
  · next tail htail =>
      have hzero : digits = ['0'] := by
        apply hdigits.zero
        cases digits with
        | nil => exact absurd rfl hdigits.ne_nil
        | cons c digits => simp_all
      rw [hzero] at htail ⊢
      simp_all
  · have hne : digits.isEmpty = false := by simpa using hdigits.ne_nil
    simp only [htake, hdrop, hne, Bool.false_eq_true, if_false]

theorem takeFraction_append {text fraction rest : List Char} (hfraction : IsFraction text fraction)
    (hdigit : ∀ c ∈ rest.head?, Text.isAsciiDigit c = false) (hpoint : ∀ c ∈ rest.head?, c ≠ '.') :
    Text.takeFraction (text ++ rest) = (fraction, rest) := by
  cases hfraction with
  | none =>
      rw [List.nil_append, Text.takeFraction.eq_def]
      split
      · next tail => exact absurd rfl (hpoint '.' rfl)
      · rfl
  | some hne hdigits =>
      obtain ⟨htake, hdrop⟩ := span_digits hdigits hdigit
      rw [List.cons_append, Text.takeFraction, htake, hdrop]

theorem takeExponent?_append {text rest : List Char} {exponent : Option Int}
    (hexponent : IsExponent text exponent) (hdigit : ∀ c ∈ rest.head?, Text.isAsciiDigit c = false)
    (hletter : ∀ c ∈ rest.head?, c ≠ 'e' ∧ c ≠ 'E') :
    Text.takeExponent? (text ++ rest) = exponent.map (·, rest) := by
  cases hexponent with
  | none =>
      cases rest with
      | nil => rfl
      | cons c rest => simp [Text.takeExponent?, hletter c rfl]
  | @some letter sign digits negative hmark hsign hne hdigits =>
      obtain ⟨htake, hdrop⟩ := span_digits hdigits hdigit
      have hsigned : Text.takeSign (sign ++ (digits ++ rest)) = (negative, digits ++ rest) := by
        obtain ⟨c, tail, rfl⟩ := List.exists_cons_of_ne_nil hne
        have hc := hdigits c List.mem_cons_self
        have hminus : c ≠ '-' := ne_of_digit hc (by decide)
        have hplus : c ≠ '+' := ne_of_digit hc (by decide)
        obtain rfl | ⟨rfl, rfl⟩ := hsign
        · cases negative <;> simp [signText, Text.takeSign, hminus, hplus]
        · rfl
      have hmarked : (letter == 'e' || letter == 'E') = true := by simpa using hmark
      have hsome : digits.isEmpty = false := by simpa using hne
      simp only [List.cons_append, List.append_assoc, Text.takeExponent?, hmarked, hsigned, htake,
        hdrop, hsome, if_true, Bool.false_eq_true, if_false]
      rfl

theorem IsExponent.breaks {text rest : List Char} {exponent : Option Int}
    (hexponent : IsExponent text exponent) (hends : Ends rest) :
    ∀ c ∈ (text ++ rest).head?, Text.isAsciiDigit c = false ∧ c ≠ '.' := by
  intro c hc
  cases hexponent with
  | none =>
      obtain ⟨hdigit, hpoint, -, -⟩ := hends.breaks c hc
      exact ⟨hdigit, hpoint⟩
  | some hletter hsign hne hdigits =>
      obtain rfl := Option.some.inj hc
      obtain rfl | rfl := hletter
      · decide
      · decide

theorem IsFraction.breaks {text fraction rest : List Char} (hfraction : IsFraction text fraction)
    (hrest : ∀ c ∈ rest.head?, Text.isAsciiDigit c = false) :
    ∀ c ∈ (text ++ rest).head?, Text.isAsciiDigit c = false := by
  intro c hc
  cases hfraction with
  | none => exact hrest c hc
  | some hne hdigits =>
      obtain rfl := Option.some.inj hc
      decide

theorem readNumber?_append {text rest : List Char} {value : Json} (hnumber : IsNumber text value)
    (hends : Ends rest) : readNumber? (text ++ rest) = some (value, rest) := by
  obtain @⟨whole, fractionText, fraction, exponentText, exponent, negative, hwhole, hfraction,
    hexponent⟩ := hnumber
  obtain ⟨c, tail, hcons⟩ := List.exists_cons_of_ne_nil hwhole.ne_nil
  have hminus : c ≠ '-' := ne_of_digit (hwhole.digit c (by simp [hcons])) (by decide)
  have hhead := hexponent.breaks hends
  have hreadExponent := takeExponent?_append hexponent (fun c hc => (hends.breaks c hc).1)
    fun c hc => (hends.breaks c hc).2.2
  have hreadFraction := takeFraction_append hfraction (fun c hc => (hhead c hc).1)
    fun c hc => (hhead c hc).2
  have hreadWhole := takeWhole?_append hwhole (hfraction.breaks fun c hc => (hhead c hc).1)
  have hnested : readNumber? (signText negative ++
      (whole ++ (fractionText ++ (exponentText ++ rest)))) =
        some (number negative whole fraction exponent, rest) := by
    rw [hcons] at hreadWhole ⊢
    -- A part that is missing and one that is there are read along different ways.
    cases negative <;> cases hfraction <;> cases hexponent <;>
      simp_all [readNumber?, signText, number, Text.decimalDigits, Nat.ofDigitChars]
  simpa only [List.append_assoc] using hnested

/-! ### Strings -/

/-- Four hexadecimal digits that write a number. -/
def IsUnit (text : List Char) (unit : Nat) : Prop :=
  text.length = 4 ∧ ∃ digits, List.Forall₂ Assembly.IsDigit text digits ∧
    unit = Nat.ofDigits 16 digits.reverse

/-- A piece of a string: a character, or the number of an escape. -/
inductive Piece where
  | char (c : Char)
  | unit (unit : Nat)

/-- The letters of the short escapes with the characters that they stand for. -/
def shortEscapes : List (Char × Char) :=
  [('\x22', '\x22'), ('\\', '\\'), ('/', '/'), ('b', '\x08'), ('f', '\x0C'), ('n', '\n'),
    ('r', '\r'), ('t', '\t')]

/-- What stands between the quotes of a string, cut into pieces. -/
inductive IsBody : List Char → List Piece → Prop where
  | nil : IsBody [] []
  | char {c : Char} {text : List Char} {pieces : List Piece} (hquote : c ≠ '\x22')
    (hslash : c ≠ '\\') (hcontrol : 0x20 ≤ c.toNat) (hbody : IsBody text pieces) :
    IsBody (c :: text) (.char c :: pieces)
  | short {letter c : Char} {text : List Char} {pieces : List Piece}
    (hshort : (letter, c) ∈ shortEscapes) (hbody : IsBody text pieces) :
    IsBody ('\\' :: letter :: text) (.char c :: pieces)
  | unit {digits text : List Char} {unit : Nat} {pieces : List Piece} (hunit : IsUnit digits unit)
    (hbody : IsBody text pieces) : IsBody ('\\' :: 'u' :: (digits ++ text)) (.unit unit :: pieces)

/-- The character of a surrogate pair. -/
def charOfPair (high low : Nat) : Char :=
  Char.ofNat (0x10000 + 0x400 * (high - 0xD800) + (low - 0xDC00))

/-- The characters that pieces make; two units that are a surrogate pair make one. -/
def charsOf : List Piece → List Char
  | [] => []
  | .char c :: pieces => c :: charsOf pieces
  | .unit high :: .unit low :: pieces =>
    if isHighSurrogate high && isLowSurrogate low then charOfPair high low :: charsOf pieces
    else charOfUnit high :: charsOf (.unit low :: pieces)
  | .unit unit :: pieces => charOfUnit unit :: charsOf pieces

/-- A text that writes a string. -/
inductive IsQuoted : List Char → String → Prop where
  | intro {text : List Char} {pieces : List Piece} (hbody : IsBody text pieces) :
    IsQuoted ('\x22' :: (text ++ ['\x22'])) (String.ofList (charsOf pieces))

theorem readUnit?_append {digits rest : List Char} {unit : Nat} (hunit : IsUnit digits unit) :
    readUnit? (digits ++ rest) = some (unit, rest) := by
  obtain ⟨hlength, values, hvalues, rfl⟩ := hunit
  have hvalue : Assembly.hexValue? 0 digits = some (0 * 16 ^ values.length + _) :=
    Assembly.hexValue?_eq_some_iff.mpr ⟨values, hvalues, rfl⟩
  rw [Nat.zero_mul, Nat.zero_add] at hvalue
  obtain ⟨a, b, c, d, rfl⟩ : ∃ a b c d, digits = [a, b, c, d] := by
    match digits, hlength with
    | [a, b, c, d], _ => exact ⟨a, b, c, d, rfl⟩
  simp [readUnit?, hvalue]

theorem readEscapedUnit?_pair {digits following : List Char} {high low : Nat}
    (hhigh : IsUnit digits high) (hlow : IsUnit following low) (rest : List Char) :
    readEscapedUnit? (digits ++ '\\' :: 'u' :: (following ++ rest)) =
      if isHighSurrogate high && isLowSurrogate low then some (charOfPair high low, rest)
      else some (charOfUnit high, '\\' :: 'u' :: (following ++ rest)) := by
  simp [readEscapedUnit?, readUnit?_append hhigh, readUnit?_append hlow, charOfPair]

theorem readEscapedUnit?_append {digits rest : List Char} {unit : Nat} (hunit : IsUnit digits unit)
    (hrest : ∀ following, rest ≠ '\\' :: 'u' :: following) :
    readEscapedUnit? (digits ++ rest) = some (charOfUnit unit, rest) := by
  simp only [readEscapedUnit?, readUnit?_append hunit, Option.bind_eq_bind, Option.bind_some]

theorem shortEscape?_of_mem {letter c : Char} (hshort : (letter, c) ∈ shortEscapes) :
    letter ≠ 'u' ∧ shortEscape? letter = some c := by
  have hall : ∀ escape ∈ shortEscapes, escape.1 ≠ 'u' ∧ shortEscape? escape.1 = some escape.2 := by
    simp [shortEscapes, shortEscape?]
  exact hall (letter, c) hshort

/-- No other piece starts as a unit does. -/
theorem IsBody.not_unit {text : List Char} {pieces : List Piece} (hbody : IsBody text pieces)
    (hpieces : ∀ unit rest, pieces ≠ .unit unit :: rest) (rest following : List Char) :
    text ++ '\x22' :: rest ≠ '\\' :: 'u' :: following := by
  cases hbody with
  | nil => simp
  | char hquote hslash => simp [hslash]
  | short hshort => simp [(shortEscape?_of_mem hshort).1]
  | unit => exact absurd rfl (hpieces _ _)

theorem readString?_unit {fuel : Nat} {text after rest chars : List Char} {c : Char}
    (hescape : readEscapedUnit? text = some (c, after))
    (hread : readString? fuel after = some (chars, rest)) :
    readString? (fuel + 1) ('\\' :: 'u' :: text) = some (c :: chars, rest) := by
  simp [readString?, hescape, hread]

theorem readString?_append {text : List Char} {pieces : List Piece} (hbody : IsBody text pieces)
    {fuel : Nat} (hfuel : text.length < fuel) (rest : List Char) :
    readString? fuel (text ++ '\x22' :: rest) = some (charsOf pieces, rest) := by
  induction fuel generalizing text pieces with
  | zero => omega
  | succ fuel ih =>
      cases hbody with
      | nil => simp [readString?, charsOf]
      | char hquote hslash hcontrol hbody =>
          have hread := ih hbody (by simpa using hfuel)
          simp [readString?, charsOf, hquote, hslash, Nat.not_lt.mpr hcontrol, hread]
      | @short letter c text pieces hshort hbody =>
          simp only [List.length_cons] at hfuel
          obtain ⟨hletter, hescape⟩ := shortEscape?_of_mem hshort
          have hread := ih hbody (by omega)
          simp [readString?, charsOf, hescape, hread]
      | @unit digits text unit pieces hunit hbody =>
          simp only [List.length_cons, List.length_append] at hfuel
          rw [List.cons_append, List.cons_append, List.append_assoc]
          by_cases hnext : ∃ low others, pieces = .unit low :: others
          · obtain ⟨low, others, rfl⟩ := hnext
            cases hbody with
            | @unit following text _ _ hlow hothers =>
                simp only [List.length_cons, List.length_append] at hfuel
                have hescape := readEscapedUnit?_pair hunit hlow (text ++ '\x22' :: rest)
                rw [List.cons_append, List.cons_append, List.append_assoc, charsOf]
                split_ifs at hescape ⊢
                · exact readString?_unit hescape (ih hothers (by omega))
                · have hshorter : ('\\' :: 'u' :: (following ++ text)).length < fuel := by
                    simp only [List.length_cons, List.length_append]
                    omega
                  have hread := ih (.unit hlow hothers) hshorter
                  rw [List.cons_append, List.cons_append, List.append_assoc] at hread
                  exact readString?_unit hescape hread
          · have hother : ∀ low others, pieces ≠ .unit low :: others := by simpa using hnext
            have hescape := readEscapedUnit?_append hunit (hbody.not_unit hother rest)
            have hread := readString?_unit hescape (ih hbody (by omega))
            rwa [charsOf]
            exact hother

theorem readQuoted?_append {text : List Char} {name : String} (hquoted : IsQuoted text name)
    (rest : List Char) : readQuoted? (text ++ rest) = some (name, rest) := by
  obtain @⟨text, pieces, hbody⟩ := hquoted
  have hfuel : text.length < (text ++ '\x22' :: rest).length + 1 := by
    rw [List.length_append]
    omega
  have hread := readString?_append hbody hfuel rest
  rw [List.cons_append, List.append_assoc, List.singleton_append, readQuoted?, hread]
  rfl

/-! ### Values -/

/-- Spaces, or nothing. -/
def IsGap (text : List Char) : Prop :=
  ∀ c ∈ text, isSpace c = true

theorem isGap_nil : IsGap [] := by
  simp [IsGap]

/-- What a part of a text writes: a value, an object with all its members in their order, or what
stands behind the opening bracket of an array or an object that is not empty. -/
inductive Part where
  | value (value : Json)
  | object (members : List (String × Json))
  | items (items : List Json)
  | members (members : List (String × Json))

/-- A text writes a part, whose last character is the text's last one. -/
inductive Writes : List Char → Part → Prop where
  | literal {word : String} {value : Json} (hword : (word, value) ∈ literals) :
    Writes word.toList (.value value)
  | number {text : List Char} {value : Json} (hnumber : IsNumber text value) :
    Writes text (.value value)
  | string {text : List Char} {content : String} (hquoted : IsQuoted text content) :
    Writes text (.value (string content))
  | emptyArray {gap : List Char} (hgap : IsGap gap) :
    Writes ('[' :: (gap ++ [']'])) (.value (array []))
  | array {gap text : List Char} {items : List Json} (hgap : IsGap gap)
    (hitems : Writes text (.items items)) : Writes ('[' :: (gap ++ text)) (.value (array items))
  | ofObject {text : List Char} {members : List (String × Json)}
    (hobject : Writes text (.object members)) : Writes text (.value (ofFields members))
  | emptyObject {gap : List Char} (hgap : IsGap gap) :
    Writes ('\x7b' :: (gap ++ ['\x7d'])) (.object [])
  | object {gap text : List Char} {members : List (String × Json)} (hgap : IsGap gap)
    (hmembers : Writes text (.members members)) : Writes ('\x7b' :: (gap ++ text)) (.object members)
  | lastItem {text gap : List Char} {item : Json} (hitem : Writes text (.value item))
    (hgap : IsGap gap) : Writes (text ++ (gap ++ [']'])) (.items [item])
  | item {text gap next rest : List Char} {item : Json} {items : List Json}
    (hitem : Writes text (.value item)) (hgap : IsGap gap) (hnext : IsGap next)
    (hrest : Writes rest (.items items)) :
    Writes (text ++ (gap ++ ',' :: (next ++ rest))) (.items (item :: items))
  | lastMember {quoted before after text gap : List Char} {name : String} {value : Json}
    (hname : IsQuoted quoted name) (hbefore : IsGap before) (hafter : IsGap after)
    (hvalue : Writes text (.value value)) (hgap : IsGap gap) :
    Writes (quoted ++ (before ++ ':' :: (after ++ (text ++ (gap ++ ['\x7d'])))))
      (.members [(name, value)])
  | member {quoted before after text gap next rest : List Char} {name : String} {value : Json}
    {members : List (String × Json)} (hname : IsQuoted quoted name) (hbefore : IsGap before)
    (hafter : IsGap after) (hvalue : Writes text (.value value)) (hgap : IsGap gap)
    (hnext : IsGap next) (hrest : Writes rest (.members members)) :
    Writes (quoted ++ (before ++ ':' :: (after ++ (text ++ (gap ++ ',' :: (next ++ rest))))))
      (.members ((name, value) :: members))

/-- The reader reads a part of this text, whatever follows it, and needs two units of fuel for
each character. -/
def Reads (text : List Char) : Part → Prop
  | .value value => ∀ fuel rest, 2 * text.length ≤ fuel + 1 → Ends rest →
      readValue? (fuel + 1) (text ++ rest) = some (value, rest)
  | .object members => ∀ fuel rest, 2 * text.length ≤ fuel + 1 →
      readValue? (fuel + 1) (text ++ rest) = some (ofFields members, rest)
  | .items items => ∀ fuel rest, 2 * text.length ≤ fuel →
      readItems? (fuel + 1) (text ++ rest) = some (items, rest)
  | .members members => ∀ fuel rest, 2 * text.length ≤ fuel →
      readFields? (fuel + 1) (text ++ rest) = some (members, rest)

/-- A text whose first character is neither a space nor a closing bracket. -/
def Opens (text : List Char) : Prop :=
  ∃ c tail, text = c :: tail ∧ isSpace c = false ∧ c ≠ ']' ∧ c ≠ '\x7d'

theorem Opens.append {text : List Char} (hopens : Opens text) (rest : List Char) :
    Opens (text ++ rest) := by
  obtain ⟨c, tail, rfl, hopens⟩ := hopens
  exact ⟨c, tail ++ rest, rfl, hopens⟩

theorem IsQuoted.opens {text : List Char} {content : String} (hquoted : IsQuoted text content) :
    Opens text := by
  obtain ⟨hbody⟩ := hquoted
  exact ⟨'\x22', _, rfl, by decide⟩

/-- A number starts with a digit, or with a minus and a digit. -/
theorem IsNumber.exists_digit {text : List Char} {value : Json} (hnumber : IsNumber text value) :
    ∃ negative c tail, text = signText negative ++ c :: tail ∧ Text.isAsciiDigit c = true := by
  obtain ⟨negative, hwhole, -, -⟩ := hnumber
  obtain ⟨c, tail, rfl⟩ := List.exists_cons_of_ne_nil hwhole.ne_nil
  exact ⟨negative, c, _, rfl, hwhole.digit c List.mem_cons_self⟩

theorem IsNumber.opens {text : List Char} {value : Json} (hnumber : IsNumber text value) :
    Opens text := by
  obtain ⟨negative, c, tail, rfl, hc⟩ := hnumber.exists_digit
  cases negative with
  | true => exact ⟨'-', _, rfl, by decide⟩
  | false =>
      have hspace : isSpace c = false := by
        by_contra hspace
        simp only [isSpace, Bool.not_eq_false, Bool.or_eq_true, beq_iff_eq] at hspace
        obtain ((rfl | rfl) | rfl) | rfl := hspace <;> revert hc <;> decide
      exact ⟨c, tail, rfl, hspace, ne_of_digit hc (by decide), ne_of_digit hc (by decide)⟩

theorem literals_opens : ∀ entry ∈ literals, Opens entry.1.toList := by
  simp [literals, Opens, isSpace]

theorem Writes.opens {text : List Char} {part : Part} (hwrites : Writes text part) :
    Opens text := by
  induction hwrites with
  | literal hword => exact literals_opens _ hword
  | number hnumber => exact hnumber.opens
  | string hquoted => exact hquoted.opens
  | emptyArray | array => exact ⟨'[', _, rfl, by decide⟩
  | emptyObject | object => exact ⟨'\x7b', _, rfl, by decide⟩
  | ofObject _ ih => exact ih
  | lastItem _ _ ih => exact ih.append _
  | item _ _ _ _ ih => exact ih.append _
  | lastMember hname => exact hname.opens.append _
  | member hname => exact hname.opens.append _

theorem readValue?_literal {word : String} {value : Json} (hword : (word, value) ∈ literals)
    (fuel : Nat) (rest : List Char) :
    readValue? (fuel + 1) (word.toList ++ rest) = some (value, rest) := by
  have hall : ∀ entry ∈ literals,
      readValue? (fuel + 1) (entry.1.toList ++ rest) = some (entry.2, rest) := by
    simp [literals, readValue?, readLiteral?, expect?]
  exact hall _ hword

theorem readValue?_number {text rest : List Char} {value : Json} (hnumber : IsNumber text value)
    (hends : Ends rest) (fuel : Nat) :
    readValue? (fuel + 1) (text ++ rest) = some (value, rest) := by
  have hread := readNumber?_append hnumber hends
  obtain ⟨negative, c, tail, rfl, hc⟩ := hnumber.exists_digit
  have hne : ∀ d, Text.isAsciiDigit d = false → d ≠ c := fun d hd => (ne_of_digit hc hd).symm
  have hliteral : readLiteral? (signText negative ++ c :: tail ++ rest) = none := by
    cases negative <;>
      simp [signText, readLiteral?, literals, expect?, hne 'n' (by decide), hne 't' (by decide),
        hne 'f' (by decide), hne 'N' (by decide), hne 'I' (by decide), hne '-' (by decide)]
  have hnumber : readValue? (fuel + 1) (signText negative ++ c :: tail ++ rest) =
      (readLiteral? (signText negative ++ c :: tail ++ rest)).orElse fun _ =>
        readNumber? (signText negative ++ c :: tail ++ rest) := by
    cases negative <;>
      simp [signText, readValue?, (hne '[' (by decide)).symm, (hne '\x7b' (by decide)).symm,
        (hne '\x22' (by decide)).symm]
  rw [hnumber, hliteral, hread]
  rfl

theorem IsGap.skipSpaces {gap : List Char} (hgap : IsGap gap) {c : Char} (hc : isSpace c = false)
    (rest : List Char) : skipSpaces (gap ++ c :: rest) = c :: rest := by
  apply Text.dropWhile_append_of_head hgap
  rintro d hd
  rwa [← Option.some.inj hd]

theorem Ends.cons {c : Char} (hc : c ∈ [',', ']', '\x7d']) (rest : List Char) :
    Ends (c :: rest) := by
  rintro d hd
  exact .inr (Option.some.inj hd ▸ hc)

theorem IsGap.ends {gap rest : List Char} (hgap : IsGap gap) (hends : Ends rest) :
    Ends (gap ++ rest) := by
  intro d hd
  cases gap with
  | nil => exact hends d hd
  | cons e gap => exact .inl (Option.some.inj hd ▸ hgap e List.mem_cons_self)

theorem Opens.skipSpaces {gap text : List Char} (hopens : Opens text) (hgap : IsGap gap) :
    skipSpaces (gap ++ text) = text := by
  obtain ⟨c, tail, rfl, hspace, -⟩ := hopens
  exact hgap.skipSpaces hspace tail

theorem readValue?_array {rest items : List Char} (hskip : skipSpaces rest = items)
    (hopens : Opens items) (fuel : Nat) : readValue? (fuel + 1) ('[' :: rest) =
      (readItems? fuel items).map fun (items, rest) => (array items, rest) := by
  obtain ⟨c, tail, rfl, -, hclosing, -⟩ := hopens
  simp [readValue?, hskip, hclosing]

theorem readValue?_object {rest members : List Char} (hskip : skipSpaces rest = members)
    (hopens : Opens members) (fuel : Nat) : readValue? (fuel + 1) ('\x7b' :: rest) =
      (readFields? fuel members).map fun (members, rest) => (ofFields members, rest) := by
  obtain ⟨c, tail, rfl, -, -, hclosing⟩ := hopens
  simp [readValue?, hskip, hclosing]

section

variable {fuel : Nat} {text after more rest : List Char}

theorem readItems?_last {item : Json} (hitem : readValue? fuel text = some (item, after))
    (hafter : skipSpaces after = ']' :: rest) :
    readItems? (fuel + 1) text = some ([item], rest) := by
  simp [readItems?, hitem, hafter]

theorem readItems?_cons {item : Json} {items : List Json}
    (hitem : readValue? fuel text = some (item, after)) (hafter : skipSpaces after = ',' :: more)
    (hmore : readItems? fuel (skipSpaces more) = some (items, rest)) :
    readItems? (fuel + 1) text = some (item :: items, rest) := by
  rw [readItems?, hitem]
  simp [hafter, hmore]

variable {named written : List Char} {name : String} {value : Json}

theorem readFields?_last (hname : readQuoted? text = some (name, named))
    (hnamed : skipSpaces named = ':' :: written)
    (hvalue : readValue? fuel (skipSpaces written) = some (value, after))
    (hafter : skipSpaces after = '\x7d' :: rest) :
    readFields? (fuel + 1) text = some ([(name, value)], rest) := by
  simp [readFields?, hname, hnamed, hvalue, hafter]

theorem readFields?_cons {members : List (String × Json)}
    (hname : readQuoted? text = some (name, named)) (hnamed : skipSpaces named = ':' :: written)
    (hvalue : readValue? fuel (skipSpaces written) = some (value, after))
    (hafter : skipSpaces after = ',' :: more)
    (hmore : readFields? fuel (skipSpaces more) = some (members, rest)) :
    readFields? (fuel + 1) text = some ((name, value) :: members, rest) := by
  rw [readFields?, hname]
  simp [hnamed, hvalue, hafter, hmore]

end

theorem Writes.reads {text : List Char} {part : Part} (hwrites : Writes text part) :
    Reads text part := by
  induction hwrites with
  | literal hword => exact fun fuel rest _ _ => readValue?_literal hword fuel rest
  | number hnumber => exact fun fuel rest _ hends => readValue?_number hnumber hends fuel
  | string hquoted =>
      intro fuel rest hfuel hends
      have hread := readQuoted?_append hquoted rest
      obtain ⟨hbody⟩ := hquoted
      rw [List.cons_append] at hread ⊢
      simp only [readValue?, hread, Option.map_some]
  | emptyArray hgap =>
      intro fuel rest hfuel hends
      simp [readValue?, hgap.skipSpaces (c := ']') rfl]
  | array hgap hitems ih =>
      intro fuel rest hfuel hends
      simp only [List.length_cons, List.length_append] at hfuel
      obtain ⟨fuel, rfl⟩ : ∃ less, fuel = less + 1 := ⟨fuel - 1, by omega⟩
      have hopens := hitems.opens.append rest
      rw [List.cons_append, List.append_assoc, readValue?_array (hopens.skipSpaces hgap) hopens,
        ih fuel rest (by omega)]
      rfl
  | ofObject hobject ih => exact fun fuel rest hfuel _ => ih fuel rest hfuel
  | emptyObject hgap =>
      intro fuel rest hfuel
      simp [readValue?, hgap.skipSpaces (c := '\x7d') rfl, ofFields]
  | object hgap hmembers ih =>
      intro fuel rest hfuel
      simp only [List.length_cons, List.length_append] at hfuel
      obtain ⟨fuel, rfl⟩ : ∃ less, fuel = less + 1 := ⟨fuel - 1, by omega⟩
      have hopens := hmembers.opens.append rest
      rw [List.cons_append, List.append_assoc, readValue?_object (hopens.skipSpaces hgap) hopens,
        ih fuel rest (by omega)]
      rfl
  | lastItem hitem hgap ih =>
      intro fuel rest hfuel
      simp only [List.length_append, List.length_singleton] at hfuel
      obtain ⟨fuel, rfl⟩ : ∃ less, fuel = less + 1 := ⟨fuel - 1, by omega⟩
      simp only [List.append_assoc, List.singleton_append]
      have hread := ih fuel _ (by omega) (hgap.ends (.cons (c := ']') (by simp) rest))
      exact readItems?_last hread (hgap.skipSpaces rfl rest)
  | item hitem hgap hnext hrest ih ihRest =>
      intro fuel rest hfuel
      simp only [List.length_append, List.length_cons] at hfuel
      obtain ⟨fuel, rfl⟩ : ∃ less, fuel = less + 1 := ⟨fuel - 1, by omega⟩
      simp only [List.append_assoc, List.cons_append]
      have hends rest := hgap.ends (.cons (c := ',') (by simp) rest)
      refine readItems?_cons (ih fuel _ (by omega) (hends _)) (hgap.skipSpaces rfl _) ?_
      rw [(hrest.opens.append rest).skipSpaces hnext]
      exact ihRest fuel rest (by omega)
  | lastMember hname hbefore hafter hvalue hgap ih =>
      intro fuel rest hfuel
      simp only [List.length_append, List.length_cons] at hfuel
      obtain ⟨fuel, rfl⟩ : ∃ less, fuel = less + 1 := ⟨fuel - 1, by omega⟩
      simp only [List.append_assoc, List.cons_append, List.nil_append]
      have hread := ih fuel _ (by omega) (hgap.ends (.cons (c := '\x7d') (by simp) rest))
      rw [← (hvalue.opens.append _).skipSpaces hafter] at hread
      exact readFields?_last (readQuoted?_append hname _) (hbefore.skipSpaces rfl _) hread
        (hgap.skipSpaces rfl rest)
  | @member _ _ _ _ gap next others _ _ _ hname hbefore hafter hvalue hgap hnext hrest ih ihRest =>
      intro fuel rest hfuel
      simp only [List.length_append, List.length_cons] at hfuel
      obtain ⟨fuel, rfl⟩ : ∃ less, fuel = less + 1 := ⟨fuel - 1, by omega⟩
      simp only [List.append_assoc, List.cons_append]
      have hread := ih fuel (gap ++ ',' :: (next ++ (others ++ rest))) (by omega)
        (hgap.ends (.cons (by simp) _))
      rw [← (hvalue.opens.append _).skipSpaces hafter] at hread
      refine readFields?_cons (readQuoted?_append hname _) (hbefore.skipSpaces rfl _) hread
        (hgap.skipSpaces rfl _) ?_
      rw [(hrest.opens.append rest).skipSpaces hnext]
      exact ihRest fuel rest (by omega)

/-- The reader reads every text of the grammar with spaces around it. -/
theorem parse?_of_writes {text front back : List Char} {value : Json}
    (hwrites : Writes text (.value value)) (hfront : IsGap front) (hback : IsGap back) :
    parse? (String.ofList (front ++ (text ++ back))) = some value := by
  have hnil : Ends [] := by simp [Ends]
  have hends : Ends back := by simpa using hback.ends hnil
  have hread := hwrites.reads (2 * (front ++ (text ++ back)).length + 1) back (by simp; omega) hends
  have hskip : skipSpaces back = [] := List.dropWhile_eq_nil_iff.mpr hback
  rw [parse?]
  simp only [String.toList_ofList, (hwrites.opens.append back).skipSpaces hfront, hread, hskip]
  rfl

end Chip8.Json
