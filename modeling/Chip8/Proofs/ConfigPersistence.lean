import Chip8.Config.Draft
import Chip8.Proofs.JsonObjects

/-!
# Configurations that are saved and loaded

Loading fills in the defaults, keeps the last value of each parameter and ignores other names. What
it makes of a text is saved as a text that it makes the same of, and it refuses a text only for a
rate that is not positive or a stack without capacity.
-/

namespace Chip8.ConfigDraft

open Json (field? IsFlat IsGap Writes)

variable {draft : ConfigDraft} {config : Config}

/-- A draft whose values are integers, truth values and nulls. -/
def Plain (draft : ConfigDraft) : Prop :=
  ∀ field ∈ draft.fields, Json.IsPlain field.2

/-! ### Parameters by name -/

theorem ofFields_congr {values others : List (String × Json)}
    (hsame : ∀ name, field? name values = field? name others) :
    ofFields values = ofFields others := by
  simp only [ofFields, hsame]

theorem nodup_fields (draft : ConfigDraft) : (draft.fields.map Prod.fst).Nodup := by
  simp [fields]

/-- Names beside those of the parameters make no difference. -/
theorem ofFields_of_subset {values : List (String × Json)}
    (hnodup : (values.map Prod.fst).Nodup) (hfields : draft.fields ⊆ values) :
    ofFields values = draft := by
  have hfield : ∀ field ∈ draft.fields, field? field.1 values = some field.2 :=
    fun field hfield => Json.field?_of_mem hnodup (hfields hfield)
  simp only [fields, List.forall_mem_cons] at hfield
  obtain ⟨hcpu, hframe, hreset, hdepth, hseed, htrace, hentries, hcycles, -⟩ := hfield
  simp only [ofFields, hcpu, hframe, hreset, hdepth, hseed, htrace, hentries, hcycles,
    Option.getD_some]

theorem isFlat_of_plain (hplain : draft.Plain) : ∀ field ∈ draft.fields, IsFlat field := by
  have hsimple : ∀ name ∈ draft.fields.map Prod.fst, Json.IsSimple name := by
    simp [fields, Json.IsSimple]
  intro field hfield
  exact ⟨hsimple field.1 (List.mem_map_of_mem hfield), hplain field hfield⟩

/-! ### Checking -/

theorem guardRate_eq {value : Json} {rate : Int} (hrate : value.integer? = some rate) :
    guardRate value = if rate ≤ 0 then .error .clockRate else .ok () := by
  cases value with
  | bool value =>
      obtain rfl := Option.some.inj hrate
      cases value <;> rfl
  | integer value =>
      obtain rfl := Option.some.inj hrate
      by_cases hpositive : 0 < value
      · simp [guardRate, guardNumber, Json.compare?, hpositive]
      · simp [guardRate, guardNumber, Json.compare?, hpositive]
  | _ => cases hrate

theorem guardStackDepth_eq {value : Json} {depth : Option Int}
    (hdepth : value.optionalInteger? = some depth) : guardStackDepth value =
      if ∃ capacity ∈ depth, capacity < 1 then .error .stackCapacity else .ok () := by
  cases value with
  | null =>
      obtain rfl := Option.some.inj hdepth
      simp [guardStackDepth]
  | bool value =>
      obtain rfl := Option.some.inj hdepth
      cases value <;> simp [guardStackDepth, guardNumber, Json.compare?]
  | integer value =>
      obtain rfl := Option.some.inj hdepth
      by_cases hcapacity : 1 ≤ value
      · simp [guardStackDepth, guardNumber, Json.compare?, hcapacity]
      · simp [guardStackDepth, guardNumber, Json.compare?, hcapacity]
  | _ => cases hdepth

/-- A draft that is a configuration is refused for a rate first and then for the capacity. -/
theorem check_eq (hconfig : draft.config? = some config) :
    draft.check =
      if config.cpuHz ≤ 0 ∨ config.frameHz ≤ 0 then .error .clockRate
      else if ∃ capacity ∈ config.maxStackDepth, capacity < 1 then .error .stackCapacity
      else .ok () := by
  simp only [config?, Option.bind_eq_bind, Option.bind_eq_some_iff] at hconfig
  obtain ⟨cpuHz, hcpu, frameHz, hframe, depth, hdepth, _, _, _, _, _, _, hconfig⟩ := hconfig
  obtain rfl := Option.some.inj hconfig
  rw [check, guardRate_eq hcpu, guardRate_eq hframe, guardStackDepth_eq hdepth]
  by_cases hcpuRate : cpuHz ≤ 0
  · simp [hcpuRate]
    rfl
  · by_cases hframeRate : frameHz ≤ 0
    · simp [hcpuRate, hframeRate]
      rfl
    · simp only [hcpuRate, hframeRate, or_self, if_false]
      rfl

theorem check_ofConfig_iff : (ofConfig config).check = .ok () ↔ config.Valid := by
  have hvalid : config.Valid ↔ ¬(config.cpuHz ≤ 0 ∨ config.frameHz ≤ 0) ∧
      ¬∃ capacity ∈ config.maxStackDepth, capacity < 1 := by
    simp [Config.Valid, and_assoc]
  rw [check_eq (config?_ofConfig config), hvalid]
  by_cases hrate : config.cpuHz ≤ 0 ∨ config.frameHz ≤ 0
  · simp [hrate]
  · by_cases hcapacity : ∃ capacity ∈ config.maxStackDepth, capacity < 1
    · simp only [hrate, hcapacity, if_true, if_false, not_true, and_false, iff_false]
      exact nofun
    · simp only [hrate, hcapacity, if_false, not_false_iff, and_self]

theorem plain_ofConfig (config : Config) : (ofConfig config).Plain := by
  have hoption : ∀ value : Option Int, Json.IsPlain (.ofOption value) := by
    intro value
    cases value with
    | none => exact .null
    | some value => exact .integer value
  simp [Plain, fields, ofConfig, hoption, Json.IsPlain.integer, Json.IsPlain.bool]

/-! ### Files -/

theorem read_eq (values : List (String × Json)) :
    read values = (ofFields values).check.map fun _ => ofFields values := by
  rw [read]
  cases (ofFields values).check <;> rfl

theorem read_of_check (hcheck : draft.check = .ok ()) {values : List (String × Json)}
    (hvalues : ofFields values = draft) : read values = .ok draft := by
  rw [read_eq, hvalues, hcheck]
  rfl

theorem check_of_parse {text : String} (hparse : parse text = .ok draft) :
    draft.check = .ok () := by
  obtain ⟨values, hread⟩ : ∃ values, read values = .ok draft := by
    rw [parse] at hparse
    split at hparse
    · cases hparse
    · exact ⟨_, hparse⟩
    · cases hparse
  rw [read_eq] at hread
  cases hcheck : (ofFields values).check with
  | error failure =>
      rw [hcheck] at hread
      cases hread
  | ok done =>
      rw [hcheck] at hread
      obtain rfl := Except.ok.inj hread
      exact hcheck

theorem parse_of_parse? {text : String} {members : List (String × Json)}
    (hparse : Json.parse? text = some (Json.ofFields members)) : parse text = read members := by
  obtain ⟨values, hvalues, hsame⟩ := Json.exists_ofFields members
  rw [parse, hparse, hvalues]
  simp only [read, ofFields_congr hsame]

/-- A checked draft of plain values is read back from its text. -/
theorem parse_save (hplain : draft.Plain) (hcheck : draft.check = .ok ()) :
    parse draft.save = .ok draft := by
  rw [save, parse_of_parse? (Json.parse?_render (isFlat_of_plain hplain))]
  exact read_of_check hcheck (ofFields_of_subset (nodup_fields draft) (List.Subset.refl _))

/-- Named values that contain those of an accepted draft, and a draft's own text, are read as the
draft, and so is the text of a draft that was read from any other one. A text that writes an object
is refused for a rate that is not positive, else for a stack without capacity, and for nothing else.
Of the members with one name the last one counts, and a missing parameter has its default. -/
theorem saved_then_loaded :
    (∀ config, ((ofConfig config).check = .ok () ↔ config.Valid) ∧ (ofConfig config).Plain ∧
      (ofConfig config).config = .ok config) ∧
    (∀ draft : ConfigDraft, draft.check = .ok () →
      (∀ values : List (String × Json), (values.map Prod.fst).Nodup → draft.fields ⊆ values →
        read values = .ok draft) ∧
      (draft.Plain → parse draft.save = .ok draft)) ∧
    (∀ text draft, parse text = .ok draft → draft.Plain →
      parse draft.save = .ok draft ∧ (parse draft.save).map save = .ok draft.save) ∧
    ∀ text members front back config, Writes text (.object members) → IsGap front → IsGap back →
      (ofFields members).config? = some config →
      parse (String.ofList (front ++ (text ++ back))) =
        if config.cpuHz ≤ 0 ∨ config.frameHz ≤ 0 then .error .clockRate
        else if ∃ capacity ∈ config.maxStackDepth, capacity < 1 then .error .stackCapacity
        else .ok (ofFields members) := by
  refine ⟨?_, ?_, ?_, ?_⟩
  · intro config
    refine ⟨check_ofConfig_iff, plain_ofConfig config, ?_⟩
    rw [ConfigDraft.config, config?_ofConfig]
  · intro draft hcheck
    refine ⟨?_, fun hplain => parse_save hplain hcheck⟩
    intro values hnodup hfields
    exact read_of_check hcheck (ofFields_of_subset hnodup hfields)
  · intro text draft hparse hplain
    have hsaved := parse_save hplain (check_of_parse hparse)
    refine ⟨hsaved, ?_⟩
    rw [hsaved]
    rfl
  · intro text members front back config hwrites hfront hback hconfig
    rw [parse_of_parse? (Json.parse?_of_writes (.ofObject hwrites) hfront hback), read_eq,
      check_eq hconfig]
    split_ifs <;> rfl

/-- An object that gives the instruction rate twice. -/
theorem writes_repeatedRate :
    Writes "\x7b\"cpu_hz\":0,\"cpu_hz\":500\x7d".toList
      (.object [("cpu_hz", .integer 0), ("cpu_hz", .integer 500)]) := by
  have hzero : Writes ['0'] (.value (.integer 0)) := Json.writes_integer 0
  have hrate : Writes ['5', '0', '0'] (.value (.integer 500)) := Json.writes_integer 500
  have hsimple : Json.IsSimple "cpu_hz" := by simp [Json.IsSimple]
  have hname : Json.IsQuoted ['\x22', 'c', 'p', 'u', '_', 'h', 'z', '\x22'] "cpu_hz" := by
    simpa [Json.quote, Json.escapeChar] using hsimple.isQuoted
  have hlast := Writes.lastMember hname Json.isGap_nil Json.isGap_nil hrate Json.isGap_nil
  have hobject := Writes.object Json.isGap_nil
    (.member hname Json.isGap_nil Json.isGap_nil hzero Json.isGap_nil Json.isGap_nil hlast)
  simp only [List.cons_append, List.nil_append] at hobject
  simpa only [String.reduceToList] using hobject

theorem saved_then_loaded_repeatedRate :
    parse "\x7b\"cpu_hz\":0,\"cpu_hz\":500\x7d" = .ok (ofConfig { cpuHz := 500 }) ∧
      parse (ofConfig { cpuHz := 500 }).save = .ok (ofConfig { cpuHz := 500 }) := by
  obtain ⟨hconfigs, -, htexts, hobjects⟩ := saved_then_loaded
  have hfields : ofFields [("cpu_hz", .integer 0), ("cpu_hz", .integer 500)] =
      ofConfig { cpuHz := 500 } := by
    simp [ofFields, field?, ofConfig]
  have hparse := hobjects _ _ [] [] { cpuHz := 500 } writes_repeatedRate Json.isGap_nil
    Json.isGap_nil (by rw [hfields, config?_ofConfig])
  rw [hfields, List.nil_append, List.append_nil, String.ofList_toList, if_neg (by decide),
    if_neg (by simp)] at hparse
  exact ⟨hparse, (htexts _ _ hparse (hconfigs _).2.1).1⟩

end Chip8.ConfigDraft
