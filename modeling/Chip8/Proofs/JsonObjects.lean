import Chip8.Json.Printer
import Chip8.Proofs.JsonGrammar

/-!
# Objects and their fields

An object keeps each name once, and the value of a name is the last one that was written for it. An
object of integers, truth values and nulls under simple names is printed as a text of the grammar,
so that reading the text gives the object back.
-/

namespace Chip8.Json

/-! ### Fields -/

variable {name : String} {fields : List (String × Json)}

theorem field?_concat (name : String) (fields : List (String × Json)) (field : String × Json) :
    field? name (fields ++ [field]) =
      if field.1 = name then some field.2 else field? name fields := by
  by_cases hname : field.1 = name
  · simp [field?, hname]
  · simp [field?, hname]

theorem field?_eq_none_iff : field? name fields = none ↔ ∀ field ∈ fields, field.1 ≠ name := by
  simp [field?]

theorem exists_mem_of_field? {value : Json} (hfield : field? name fields = some value) :
    (name, value) ∈ fields := by
  obtain ⟨⟨known, found⟩, hfind, rfl⟩ := Option.map_eq_some_iff.mp hfield
  obtain rfl : known = name := by simpa using List.find?_some hfind
  exact List.mem_reverse.mp (List.mem_of_find?_eq_some hfind)

/-- In fields with distinct names each name has the value that stands with it. -/
theorem field?_of_mem (hnodup : (fields.map Prod.fst).Nodup) {value : Json}
    (hmem : (name, value) ∈ fields) : field? name fields = some value := by
  cases hfound : field? name fields with
  | none => exact absurd rfl (field?_eq_none_iff.mp hfound (name, value) hmem)
  | some found =>
      have hsame := List.inj_on_of_nodup_map hnodup (exists_mem_of_field? hfound) hmem rfl
      rw [(Prod.mk.inj hsame).2]

theorem field?_map (name : String) (fields : List (String × Json)) (change : String → Json → Json) :
    field? name (fields.map fun (known, old) => (known, change known old)) =
      (field? name fields).map (change name) := by
  induction fields using List.reverseRecOn with
  | nil => rfl
  | append_singleton fields field ih =>
      rw [List.map_append, List.map_singleton, field?_concat, field?_concat, ih]
      by_cases hname : field.1 = name
      · simp [hname]
      · simp [hname]

theorem field?_setField (name : String) (fields : List (String × Json)) (other : String)
    (value : Json) : field? name (setField fields other value) =
      if other = name then some value else field? name fields := by
  rw [setField]
  by_cases hknown : fields.any (·.1 == other) = true
  · rw [if_pos hknown,
      field?_map name fields fun known old => if known == other then value else old]
    by_cases hname : other = name
    · subst hname
      obtain ⟨old, hold⟩ : ∃ old, field? other fields = some old := by
        rw [← Option.ne_none_iff_exists', Ne, field?_eq_none_iff]
        simpa using hknown
      simp [hold]
    · have hother : ¬name = other := fun hsame => hname hsame.symm
      simp [hname, hother]
  · rw [if_neg hknown, field?_concat]

/-- Of members with the same name an object keeps the last one. -/
theorem exists_ofFields (members : List (String × Json)) :
    ∃ fields, ofFields members = object fields ∧
      ∀ name, field? name fields = field? name members := by
  refine ⟨_, rfl, fun name => ?_⟩
  induction members using List.reverseRecOn with
  | nil => rfl
  | append_singleton members member ih =>
      rw [List.foldl_append, List.foldl_cons, List.foldl_nil, field?_setField, field?_concat, ih]

/-! ### Printed values -/

/-- A null, a truth value or an integer. -/
inductive IsPlain : Json → Prop where
  | null : IsPlain null
  | bool (value : Bool) : IsPlain (bool value)
  | integer (value : Int) : IsPlain (integer value)

/-- The quotes around a name can stand for its characters as they are. -/
def IsSimple (name : String) : Prop :=
  ∀ c ∈ name.toList, 0x20 ≤ c.toNat ∧ c.toNat < 0x7F ∧ c ≠ '\x22' ∧ c ≠ '\\'

theorem head?_toDigits (value : Nat) :
    (Nat.toDigits 10 value).head? = some '0' → value = 0 := by
  induction value using Nat.strongRecOn with
  | ind value ih =>
      intro hhead
      by_cases hsmall : value < 10
      · rw [Nat.toDigits_of_lt_base hsmall] at hhead
        simpa using hhead
      · rw [Nat.toDigits_of_base_le (by decide) (Nat.not_lt.mp hsmall),
          List.head?_append_of_ne_nil _ Nat.toDigits_ne_nil] at hhead
        have hhigh := ih (value / 10) (by omega) hhead
        omega

theorem isWhole_toDigits (value : Nat) : IsWhole (Nat.toDigits 10 value) where
  ne_nil := Nat.toDigits_ne_nil
  digit c hc := by
    have hdigit := Nat.isDigit_of_mem_toDigits (by decide) (by decide) hc
    simpa [Char.isDigit, Text.isAsciiDigit, Char.le_def] using hdigit
  zero hhead := by rw [head?_toDigits value hhead, Nat.toDigits_zero]

theorem writes_sign (negative : Bool) (value : Nat) :
    Writes (signText negative ++ Nat.toDigits 10 value)
      (.value (integer (Text.applySign negative value))) := by
  have hnumber := IsNumber.intro negative (isWhole_toDigits value) .none .none
  rw [List.append_nil, List.append_nil, number, if_pos ⟨rfl, rfl⟩, Nat.ofDigitChars_ten_toDigits]
    at hnumber
  exact .number hnumber

theorem writes_integer (value : Int) : Writes (toString value).toList (.value (integer value)) := by
  cases value with
  | ofNat value =>
      have hwrites := writes_sign false value
      rwa [signText, if_neg (by decide), List.nil_append, ← Nat.toList_repr] at hwrites
  | negSucc value =>
      have hwrites := writes_sign true (value + 1)
      have hprinted : toString (Int.negSucc value) = "-" ++ (value + 1).repr := rfl
      rwa [signText, if_pos rfl, ← Nat.toList_repr, ← String.toList_singleton,
        ← String.toList_append] at hwrites

theorem IsPlain.writes {value : Json} (hplain : IsPlain value) (depth : Nat) :
    Writes (renderAt depth value).toList (.value value) := by
  cases hplain with
  | null => exact .literal (by simp [literals, renderAt])
  | bool value => cases value <;> exact .literal (by simp [literals, renderAt])
  | integer value => exact writes_integer value

theorem IsSimple.isQuoted {name : String} (hsimple : IsSimple name) :
    IsQuoted (quote name).toList name := by
  have hbody : ∀ text : List Char,
      (∀ c ∈ text, 0x20 ≤ c.toNat ∧ c.toNat < 0x7F ∧ c ≠ '\x22' ∧ c ≠ '\\') →
        IsBody (text.flatMap escapeChar) (text.map .char) ∧ charsOf (text.map .char) = text := by
    intro text hsimple
    induction text with
    | nil => exact ⟨.nil, rfl⟩
    | cons c text ih =>
        obtain ⟨⟨hlow, hhigh, hquote, hslash⟩, hsimple⟩ := List.forall_mem_cons.mp hsimple
        obtain ⟨hbody, hchars⟩ := ih hsimple
        have hcontrol : ∀ d : Char, d.toNat < 0x20 → c ≠ d := by
          rintro d hd rfl
          omega
        have hescape : escapeChar c = [c] := by
          simp [escapeChar, hquote, hslash, hlow, hhigh, hcontrol '\n' (by decide),
            hcontrol '\r' (by decide), hcontrol '\t' (by decide), hcontrol '\x08' (by decide),
            hcontrol '\x0C' (by decide)]
        rw [List.flatMap_cons, hescape, List.map_cons, charsOf, hchars]
        exact ⟨.char hquote hslash hlow hbody, rfl⟩
  obtain ⟨hbody, hchars⟩ := hbody name.toList hsimple
  have hquoted := IsQuoted.intro hbody
  rw [hchars, String.ofList_toList] at hquoted
  simpa [quote] using hquoted

/-! ### Printed objects -/

/-- A field whose name needs no escapes and whose value holds no other values. -/
def IsFlat (member : String × Json) : Prop :=
  IsSimple member.1 ∧ IsPlain member.2

theorem isGap_newLine (depth : Nat) : IsGap (newLine depth).toList := by
  intro c hc
  rw [newLine, String.toList_append, List.mem_append] at hc
  obtain hc | hc := hc
  · obtain rfl : c = '\n' := by simpa using hc
    rfl
  · rw [String.toList_ofList] at hc
    rw [List.eq_of_mem_replicate hc]
    rfl

theorem writes_renderFields (depth : Nat) {gap : List Char} (hgap : IsGap gap)
    {members : List (String × Json)} (hne : members ≠ [])
    (hflat : ∀ member ∈ members, IsFlat member) :
    Writes ((("," ++ newLine depth).intercalate (renderFields depth members)).toList ++
      (gap ++ ['\x7d'])) (.members members) := by
  have hblank : IsGap [' '] := by simp [IsGap, isSpace]
  induction members with
  | nil => exact absurd rfl hne
  | cons member members ih =>
      obtain ⟨⟨hname, hvalue⟩, hflat⟩ := List.forall_mem_cons.mp hflat
      cases members with
      | nil =>
          have hwrites :=
            Writes.lastMember hname.isQuoted isGap_nil hblank (hvalue.writes depth) hgap
          simpa [renderFields] using hwrites
      | cons next members =>
          have hwrites := Writes.member hname.isQuoted isGap_nil hblank (hvalue.writes depth)
            isGap_nil (isGap_newLine depth) (ih (List.cons_ne_nil next members) hflat)
          simpa [renderFields] using hwrites

theorem writes_render {members : List (String × Json)} (hflat : ∀ member ∈ members, IsFlat member) :
    Writes (render (object members)).toList (.object members) := by
  cases members with
  | nil =>
      have hwrites := Writes.emptyObject isGap_nil
      simpa [render, renderAt, renderFields, enclose] using hwrites
  | cons member members =>
      have hwrites := Writes.object (isGap_newLine 1)
        (writes_renderFields 1 (isGap_newLine 0) (List.cons_ne_nil member members) hflat)
      simpa [render, renderAt, renderFields, enclose] using hwrites

/-- The reader reads what the printer makes of such an object. -/
theorem parse?_render {members : List (String × Json)} (hflat : ∀ member ∈ members, IsFlat member) :
    parse? (render (object members)) = some (ofFields members) := by
  simpa using parse?_of_writes (.ofObject (writes_render hflat)) isGap_nil isGap_nil

end Chip8.Json
