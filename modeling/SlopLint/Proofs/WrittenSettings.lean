import SlopLint.Proofs.ReadSettings

/-!
# Settings written out

Settings are written with one member for each field, and so is each of their rules. What is read
from any object is read again, and the same, from what is written of it: the names are accepted, no
member is left over, and every text and truth value stands for itself.
-/

namespace SlopLint

/-- A text that may be left out. -/
def Json.ofText : Option String → Json
  | none => .null
  | some text => .string text

/-- A rule under the names of its fields. -/
def CustomRule.toJson (rule : CustomRule) : Json :=
  .object [("id", .string rule.id), ("pattern", .string rule.pattern.source),
    ("message", .string rule.message), ("severity", .string rule.severity.name),
    ("description", .ofText rule.description), ("fix", .ofText rule.fix),
    ("learn_more", .ofText rule.learnMore)]

/-- Settings under the names of their fields. -/
def Settings.toJson (settings : Settings) : Json :=
  .object [("custom_rules", .array (settings.customRules.map CustomRule.toJson)),
    ("severity_overrides",
      .object (settings.severityOverrides.map fun entry => (entry.1, .string entry.2.name))),
    ("ignore_paths", .array (settings.ignorePaths.map .string)),
    ("strict", .bool settings.strict)]

namespace Settings

lemma readsText_ofText (text : Option String) : ReadsText (.ofText text) text := by
  cases text with
  | none => exact .null
  | some text => exact .text text

/-- A sound rule is read from what is written of it. -/
lemma readsRule_toJson [Pattern.Platform] {rule : CustomRule} (h : Sound rule) :
    ReadsRule rule.toJson rule := by
  refine ⟨h, _, rfl, ?_⟩
  constructor
  · rfl
  · rfl
  · rfl
  · rfl
  · exact readsText_ofText _
  · exact readsText_ofText _
  · exact readsText_ofText _
  · simp [Covered, ruleFields, field?, Json.member?]

lemma readsRules_toJson [Pattern.Platform] {rules : List CustomRule}
    (h : ∀ rule ∈ rules, Sound rule) :
    List.Forall₂ ReadsRule (rules.map CustomRule.toJson) rules := by
  rw [List.forall₂_map_left_iff, List.forall₂_same]
  exact fun rule hrule => readsRule_toJson (h rule hrule)

/-- Settings are read from what is written of them when their rules are sound. -/
lemma ofJson_toJson_of_sound [Pattern.Platform] {settings : Settings}
    (h : ∀ rule ∈ settings.customRules, Sound rule) :
    ofJson settings.toJson = .ok settings := by
  refine ofJson_eq_ok_iff.mpr ⟨_, rfl, ?_⟩
  constructor
  · exact ⟨_, rfl, readsRules_toJson h⟩
  · rfl
  · rfl
  · exact .bool _
  · simp [Covered, settingsFields, field?, Json.member?]

/-- What is read is read again, and the same, from what is written of it. -/
theorem ofJson_toJson [Pattern.Platform] {value : Json} {settings : Settings}
    (h : ofJson value = .ok settings) :
    ofJson settings.toJson = .ok settings := by
  obtain ⟨members, rfl, hmembers⟩ := ofJson_eq_ok_iff.mp h
  exact ofJson_toJson_of_sound fun rule hrule => sound_of_mem hmembers hrule

/-- Settings under other names, with a text left out and a number for a truth value. -/
def looseSettings : Json :=
  .object [("blockOnCritical", .int 1), ("severityOverrides", .object [("x", .string "high")]),
    ("customRules", .array [.object [("learnMore", .string "docs"), ("fix", .null),
      ("id", .string "x"), ("pattern", .string "a|b"), ("message", .string "m"),
      ("severity", .string "low")]])]

theorem ofJson_toJson_loose :
    letI := Pattern.Platform.withRoom 100
    ∃ settings, ofJson looseSettings = .ok settings ∧ settings.strict = true ∧
      ofJson settings.toJson = .ok settings := by
  let := Pattern.Platform.withRoom 100
  have hread : (ofJson looseSettings).toOption.map Settings.strict = some true := by
    decide +kernel
  obtain ⟨settings, hsettings, hstrict⟩ := exists_of_toOption_map hread
  exact ⟨settings, hsettings, hstrict, ofJson_toJson hsettings⟩

end Settings

end SlopLint
