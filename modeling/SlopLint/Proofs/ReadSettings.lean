import SlopLint.Proofs.SettingsFaults

/-!
# What settings are read from

An object is read as settings exactly when each of its members is the one that a field is read from,
and each field holds what it is read as or is absent and has its default. Every rule that is read
has texts that are not empty, and the pattern that its text denotes.
-/

namespace SlopLint.Settings

/-! ### Values -/

/-- What is read as a truth value: the value itself, one and zero, and the words for it. -/
inductive ReadsTruth : Json → Bool → Prop
  | bool (b : Bool) : ReadsTruth (.bool b) b
  | int {n : Int} {b : Bool} (h : n = if b then 1 else 0) : ReadsTruth (.int n) b
  | double {d : Number.Double} {b : Bool} (h : d.toInt? = some (if b then 1 else 0)) :
    ReadsTruth (.double d) b
  | word {s : String} {b : Bool}
    (h : truthWords.lookup (String.ofList (s.toList.map Char.toLower)) = some b) :
    ReadsTruth (.string s) b

section Values

variable {location : Location} {value : Json}

lemma readString_eq_ok_iff {text : String} :
    readString location value = .ok text ↔ value = .string text := by
  cases value <;> simp [readString, refuse]

lemma readNonempty_eq_ok_iff {text : String} :
    readNonempty location value = .ok text ↔ value = .string text ∧ text ≠ "" := by
  unfold readNonempty
  rw [bind_eq_ok_iff]
  constructor
  · rintro ⟨s, hs, h⟩
    split at h
    · cases h
    · next hne =>
      cases h
      exact ⟨readString_eq_ok_iff.mp hs, hne⟩
  · rintro ⟨hvalue, hne⟩
    exact ⟨text, readString_eq_ok_iff.mpr hvalue, if_neg hne⟩

lemma readSeverity_eq_ok_iff {severity : Severity} :
    readSeverity location value = .ok severity ↔ value = .string severity.name := by
  unfold readSeverity
  constructor
  · intro h
    split at h
    · next name =>
      split at h
      · next found hfound =>
        cases h
        have hname := List.find?_some hfound
        rw [← beq_iff_eq.mp hname]
      · cases h
    · cases h
  · rintro rfl
    dsimp only
    rw [Severity.ofName?_name]

lemma readPattern_eq_ok_iff [Pattern.Platform] {pattern : Pattern} :
    readPattern location value = .ok pattern ↔ ∃ source, value = .string source ∧ source ≠ "" ∧
      Pattern.read patternFlags source = .ok pattern := by
  unfold readPattern
  rw [bind_eq_ok_iff]
  constructor
  · rintro ⟨source, hsource, h⟩
    obtain ⟨hvalue, hne⟩ := readNonempty_eq_ok_iff.mp hsource
    refine ⟨source, hvalue, hne, ?_⟩
    split at h
    · next hread =>
      cases h
      exact hread
    all_goals cases h
  · rintro ⟨source, hvalue, hne, hread⟩
    refine ⟨source, readNonempty_eq_ok_iff.mpr ⟨hvalue, hne⟩, ?_⟩
    rw [hread]
    rfl

lemma truthOfInt_eq_ok_iff {n : Int} {b : Bool} :
    truthOfInt location n = .ok b ↔ n = if b then 1 else 0 := by
  unfold truthOfInt
  constructor
  · intro h
    split_ifs at h with hzero hone
    · cases h
      exact hzero
    · cases h
      exact hone
    · cases h
    · cases h
  · rintro rfl
    cases b <;> rfl

lemma readBool_eq_ok_iff {b : Bool} : readBool location value = .ok b ↔ ReadsTruth value b := by
  cases value with
  | bool c =>
    constructor
    · rintro ⟨⟩
      exact .bool _
    · rintro ⟨⟩
      rfl
  | int n =>
    refine truthOfInt_eq_ok_iff.trans ⟨.int, ?_⟩
    rintro (_ | h)
    exact h
  | double d =>
    dsimp only [readBool]
    constructor
    · intro h
      split at h
      · next n hn => exact .double (hn.trans (congrArg some (truthOfInt_eq_ok_iff.mp h)))
      · cases h
    · rintro (_ | _ | h)
      rw [h]
      exact truthOfInt_eq_ok_iff.mpr rfl
  | string s =>
    dsimp only [readBool]
    constructor
    · intro h
      split at h
      · next c hc =>
        cases h
        exact .word hc
      · cases h
    · rintro (_ | _ | _ | h)
      rw [h]
  | _ =>
    constructor
    · rintro ⟨⟩
    · rintro ⟨⟩

end Values

/-- What is read as a text that may be left out. -/
inductive ReadsText : Json → Option String → Prop
  | null : ReadsText .null none
  | text (s : String) : ReadsText (.string s) (some s)

/-- What a field holds: its default when it is absent, and what its value is read as otherwise. -/
def Holds {α : Type} (reads : Json → α → Prop) (default : α) : Option Json → α → Prop
  | none, a => a = default
  | some value, a => reads value a

lemma readOptional_eq_ok_iff {location : Location} {value : Option Json} {text : Option String} :
    readOptional location value = .ok text ↔ Holds ReadsText none value text := by
  unfold readOptional
  constructor
  · intro h
    split at h
    · cases h
      exact rfl
    · cases h
      exact .null
    · obtain ⟨s, hs, hpure⟩ := bind_eq_ok_iff.mp h
      cases hpure
      rw [readString_eq_ok_iff.mp hs]
      exact .text s
  · intro h
    cases value with
    | none =>
      obtain rfl : text = none := h
      rfl
    | some value =>
      obtain _ | ⟨s⟩ := (h : ReadsText value text)
      · rfl
      · rfl

/-! ### Members -/

lemma exists_of_mem_right {α β : Type} {R : α → β → Prop} {values : List α} {results : List β}
    (h : List.Forall₂ R values results) {b : β} (hb : b ∈ results) : ∃ a ∈ values, R a b := by
  induction h with
  | nil => cases hb
  | @cons a c _ _ hac _ ih =>
    rcases List.mem_cons.mp hb with rfl | hb
    · exact ⟨a, List.mem_cons_self, hac⟩
    · obtain ⟨other, hother, hR⟩ := ih hb
      exact ⟨other, List.mem_cons_of_mem _ hother, hR⟩

/-- The value of a field: that of the first of its names that is present. -/
def value? (members : List (String × Json)) (names : List String) : Option Json :=
  (field? members names).map (·.2)

/-- Every member is the one that some field is read from. -/
def Covered (fields : List (List String)) (members : List (String × Json)) : Prop :=
  ∀ member ∈ members, ∃ names ∈ fields, ∃ value, field? members names = some (member.1, value)

section Members

variable {members : List (String × Json)}

lemma value?_singleton (name : String) : value? members [name] = Json.member? members name := by
  cases h : Json.member? members name <;> simp [value?, field?, h]

lemma mem_of_member? {name : String} {value : Json} (h : Json.member? members name = some value) :
    (name, value) ∈ members := by
  obtain ⟨⟨other, _⟩, hfound, rfl⟩ := Option.map_eq_some_iff.mp h
  have hname := List.find?_some hfound
  rw [← beq_iff_eq.mp hname]
  exact List.mem_of_find?_eq_some hfound

lemma refuseUnknown_eq_ok_iff {location : String → Location} {fields : List (List String)} :
    refuseUnknown location fields members = .ok () ↔ Covered fields members := by
  unfold refuseUnknown Covered
  extract_lets taken
  have htaken (name : String) :
      taken.contains name = true ↔ ∃ names ∈ fields, ∃ value,
        field? members names = some (name, value) := by
    simp [taken]
  constructor
  · intro h
    split at h
    · cases h
    · next hnone =>
      intro member hmember
      have hcontains := List.find?_eq_none.mp hnone member hmember
      exact (htaken member.1).mp (by simpa using hcontains)
  · intro h
    have hnone : (members.find? fun member => !taken.contains member.1) = none := by
      apply List.find?_eq_none.mpr
      intro member hmember
      simpa using (htaken member.1).mpr (h member hmember)
    rw [hnone]

lemma required_eq_ok_iff {location : String → Location} {name : String} {value : Json} :
    required members location name = .ok value ↔ value? members [name] = some value := by
  rw [value?_singleton]
  unfold required
  cases Json.member? members name <;> simp [refuse]

end Members

/-! ### Rules -/

lemma source_of_read [Pattern.Platform] {flags : Pattern.Flags} {source : String}
    {pattern : Pattern}
    (h : Pattern.read flags source = .ok pattern) : pattern.source = source := by
  unfold Pattern.read at h
  split at h
  · cases h
  obtain ⟨_, _, h⟩ := bind_eq_ok_iff.mp h
  obtain ⟨⟨node, r⟩, _, h⟩ := bind_eq_ok_iff.mp h
  dsimp only at h
  split at h
  · cases h
  split at h
  · cases h
  split at h
  · cases h
  split at h
  · cases h
  split at h
  · cases h
  · cases h
    rfl

/-- What holds of every rule that is read: its texts are not empty, and its pattern is the one that
its text denotes. -/
structure Sound [Pattern.Platform] (rule : CustomRule) : Prop where
  id : rule.id ≠ ""
  source : rule.pattern.source ≠ ""
  message : rule.message ≠ ""
  pattern : Pattern.read patternFlags rule.pattern.source = .ok rule.pattern

/-- What the members of an object hold that is read as a rule. -/
structure RuleMembers (members : List (String × Json)) (rule : CustomRule) : Prop where
  id : value? members ["id"] = some (.string rule.id)
  pattern : value? members ["pattern"] = some (.string rule.pattern.source)
  message : value? members ["message"] = some (.string rule.message)
  severity : value? members ["severity"] = some (.string rule.severity.name)
  description : Holds ReadsText none (value? members ["description"]) rule.description
  fix : Holds ReadsText none (value? members ["fix"]) rule.fix
  learnMore : Holds ReadsText none (value? members ["learnMore", "learn_more"]) rule.learnMore
  covered : Covered ruleFields members

/-- What is read as a rule. -/
def ReadsRule [Pattern.Platform] (value : Json) (rule : CustomRule) : Prop :=
  Sound rule ∧ ∃ members, value = .object members ∧ RuleMembers members rule

lemma limit?_eq_none [Pattern.Platform] {members : List (String × Json)} {rule : CustomRule}
    (hsound : Sound rule)
    (h : RuleMembers members rule) : limit? members = none := by
  have hpattern := h.pattern
  rw [value?_singleton] at hpattern
  unfold limit?
  rw [hpattern]
  dsimp only
  rw [hsound.pattern]

lemma readRule_eq_ok_iff [Pattern.Platform] {index : Nat} {value : Json} {rule : CustomRule} :
    readRule index value = .ok rule ↔ ReadsRule value rule := by
  constructor
  · intro h
    cases value with
    | object members =>
      unfold readRule at h
      extract_lets entry at h
      dsimp -zeta only at h
      extract_lets location at h
      split at h
      · cases h
      obtain ⟨_, hid, h⟩ := bind_eq_ok_iff.mp h
      obtain ⟨id, hidText, h⟩ := bind_eq_ok_iff.mp h
      obtain ⟨_, hpattern, h⟩ := bind_eq_ok_iff.mp h
      obtain ⟨pattern, hpatternText, h⟩ := bind_eq_ok_iff.mp h
      obtain ⟨_, hmessage, h⟩ := bind_eq_ok_iff.mp h
      obtain ⟨message, hmessageText, h⟩ := bind_eq_ok_iff.mp h
      obtain ⟨_, hseverity, h⟩ := bind_eq_ok_iff.mp h
      obtain ⟨severity, hseverityText, h⟩ := bind_eq_ok_iff.mp h
      obtain ⟨description, hdescription, h⟩ := bind_eq_ok_iff.mp h
      obtain ⟨fix, hfix, h⟩ := bind_eq_ok_iff.mp h
      obtain ⟨learnMore, hlearnMore, h⟩ := bind_eq_ok_iff.mp h
      obtain ⟨_, hknown, h⟩ := bind_eq_ok_iff.mp h
      cases h
      obtain ⟨rfl, hidNe⟩ := readNonempty_eq_ok_iff.mp hidText
      obtain ⟨source, rfl, hsourceNe, hread⟩ := readPattern_eq_ok_iff.mp hpatternText
      obtain ⟨rfl, hmessageNe⟩ := readNonempty_eq_ok_iff.mp hmessageText
      obtain rfl := readSeverity_eq_ok_iff.mp hseverityText
      obtain rfl := source_of_read hread
      have hdescriptionText := readOptional_eq_ok_iff.mp hdescription
      have hfixText := readOptional_eq_ok_iff.mp hfix
      rw [← value?_singleton] at hdescriptionText hfixText
      exact ⟨⟨hidNe, hsourceNe, hmessageNe, hread⟩, members, rfl, required_eq_ok_iff.mp hid,
        required_eq_ok_iff.mp hpattern, required_eq_ok_iff.mp hmessage,
        required_eq_ok_iff.mp hseverity, hdescriptionText, hfixText,
        readOptional_eq_ok_iff.mp hlearnMore, refuseUnknown_eq_ok_iff.mp hknown⟩
    | _ => simp [readRule, refuse] at h
  · rintro ⟨hsound, members, rfl, h⟩
    unfold readRule
    extract_lets entry
    dsimp -zeta only
    extract_lets location
    rw [limit?_eq_none hsound h]
    have hdescription := h.description
    have hfix := h.fix
    rw [value?_singleton] at hdescription hfix
    refine bind_eq_ok_iff.mpr ⟨_, required_eq_ok_iff.mpr h.id, ?_⟩
    refine bind_eq_ok_iff.mpr ⟨_, readNonempty_eq_ok_iff.mpr ⟨rfl, hsound.id⟩, ?_⟩
    refine bind_eq_ok_iff.mpr ⟨_, required_eq_ok_iff.mpr h.pattern, ?_⟩
    refine bind_eq_ok_iff.mpr
      ⟨_, readPattern_eq_ok_iff.mpr ⟨_, rfl, hsound.source, hsound.pattern⟩, ?_⟩
    refine bind_eq_ok_iff.mpr ⟨_, required_eq_ok_iff.mpr h.message, ?_⟩
    refine bind_eq_ok_iff.mpr ⟨_, readNonempty_eq_ok_iff.mpr ⟨rfl, hsound.message⟩, ?_⟩
    refine bind_eq_ok_iff.mpr ⟨_, required_eq_ok_iff.mpr h.severity, ?_⟩
    refine bind_eq_ok_iff.mpr ⟨_, readSeverity_eq_ok_iff.mpr rfl, ?_⟩
    refine bind_eq_ok_iff.mpr ⟨_, readOptional_eq_ok_iff.mpr hdescription, ?_⟩
    refine bind_eq_ok_iff.mpr ⟨_, readOptional_eq_ok_iff.mpr hfix, ?_⟩
    refine bind_eq_ok_iff.mpr ⟨_, readOptional_eq_ok_iff.mpr h.learnMore, ?_⟩
    exact bind_eq_ok_iff.mpr ⟨(), refuseUnknown_eq_ok_iff.mpr h.covered, rfl⟩

lemma readRulesFrom_eq_ok_iff [Pattern.Platform] {index : Nat} {values : List Json}
    {rules : List CustomRule} :
    readRulesFrom index values = .ok rules ↔ List.Forall₂ ReadsRule values rules := by
  induction values generalizing index rules with
  | nil =>
    rw [List.forall₂_nil_left_iff]
    simp [readRulesFrom, eq_comm]
  | cons value values ih =>
    unfold readRulesFrom
    constructor
    · intro h
      obtain ⟨rule, hrule, h⟩ := bind_eq_ok_iff.mp h
      obtain ⟨others, hothers, h⟩ := bind_eq_ok_iff.mp h
      cases h
      exact .cons (readRule_eq_ok_iff.mp hrule) (ih.mp hothers)
    · rintro (_ | ⟨hrule, hothers⟩)
      exact bind_eq_ok_iff.mpr ⟨_, readRule_eq_ok_iff.mpr hrule,
        bind_eq_ok_iff.mpr ⟨_, ih.mpr hothers, rfl⟩⟩

/-! ### Settings -/

/-- What is read as a list of rules. -/
def ReadsRules [Pattern.Platform] (value : Json) (rules : List CustomRule) : Prop :=
  ∃ values, value = .array values ∧ List.Forall₂ ReadsRule values rules

/-- What is read as severities that replace those of rules. -/
def ReadsOverrides (value : Json) (overrides : List (String × Severity)) : Prop :=
  value = .object (overrides.map fun entry => (entry.1, .string entry.2.name))

/-- What is read as a list of texts. -/
def ReadsTexts (value : Json) (texts : List String) : Prop :=
  value = .array (texts.map .string)

/-- What the members of an object hold that is read as settings. -/
structure SettingsMembers [Pattern.Platform] (members : List (String × Json))
    (settings : Settings) : Prop where
  customRules : Holds ReadsRules []
    (value? members ["custom_rules", "customPatterns", "customRules"]) settings.customRules
  severityOverrides : Holds ReadsOverrides []
    (value? members ["severity_overrides", "severityOverrides"]) settings.severityOverrides
  ignorePaths : Holds ReadsTexts [] (value? members ["ignore_paths", "ignorePaths"])
    settings.ignorePaths
  strict : Holds ReadsTruth false (value? members ["strict", "blockOnCritical"]) settings.strict
  covered : Covered settingsFields members

/-- No two fields share a name. -/
def Apart (fields : List (List String)) : Prop :=
  ∀ names ∈ fields, ∀ others ∈ fields, ∀ name ∈ names, name ∈ others → names = others

lemma apart_ruleFields : Apart ruleFields := by
  unfold Apart
  decide

lemma apart_settingsFields : Apart settingsFields := by
  unfold Apart
  decide

/-- A step that reads a field, or takes its default. -/
lemma eq_ok_iff_holds {α : Type} {reads : Json → α → Prop} {default : α}
    {taken : Option (String × Json)} {step : Except Fault α}
    (hnone : taken = none → step = .ok default)
    (hsome : ∀ name value, taken = some (name, value) → ∀ a, step = .ok a ↔ reads value a) (a : α) :
    step = .ok a ↔ Holds reads default (taken.map (·.2)) a := by
  cases taken with
  | none =>
    rw [hnone rfl, Except.ok.injEq]
    exact eq_comm
  | some entry => exact hsome entry.1 entry.2 rfl a

/-- Steps that are undone by a function give the list that this function takes to theirs. -/
lemma mapM_eq_ok_iff_eq_map {ε α β : Type} {step : α → Except ε β} {undo : β → α}
    (h : ∀ a b, step a = .ok b ↔ a = undo b) {values : List α} {results : List β} :
    values.mapM step = .ok results ↔ values = results.map undo := by
  simp only [mapM_eq_ok_iff, h]
  rw [← List.forall₂_eq_eq_eq, List.forall₂_map_right_iff]

section Fields

variable {members : List (String × Json)}

lemma readCustomRules_eq_ok_iff [Pattern.Platform] {rules : List CustomRule} :
    readCustomRules members = .ok rules ↔ Holds ReadsRules []
      (value? members ["custom_rules", "customPatterns", "customRules"]) rules := by
  refine eq_ok_iff_holds (fun hfield => ?_) (fun name value hfield rules => ?_) rules
  · rw [readCustomRules, hfield]
  · rw [readCustomRules, hfield]
    cases value with
    | array values =>
      refine readRulesFrom_eq_ok_iff.trans ⟨fun h => ⟨values, rfl, h⟩, ?_⟩
      rintro ⟨_, ⟨⟩, h⟩
      exact h
    | _ => simp [refuse, ReadsRules]

lemma readOverrides_eq_ok_iff {overrides : List (String × Severity)} :
    readOverrides members = .ok overrides ↔ Holds ReadsOverrides []
      (value? members ["severity_overrides", "severityOverrides"]) overrides := by
  refine eq_ok_iff_holds (fun hfield => ?_) (fun name value hfield overrides => ?_) overrides
  · rw [readOverrides, hfield]
  · rw [readOverrides, hfield]
    cases value with
    | object entries =>
      dsimp only
      rw [ReadsOverrides, Json.object.injEq]
      refine mapM_eq_ok_iff_eq_map fun entry override => ?_
      rw [bind_eq_ok_iff]
      constructor
      · rintro ⟨severity, hseverity, ⟨⟩⟩
        rw [← readSeverity_eq_ok_iff.mp hseverity]
      · rintro rfl
        exact ⟨override.2, readSeverity_eq_ok_iff.mpr rfl, rfl⟩
    | _ => simp [refuse, ReadsOverrides]

lemma readTexts_eq_ok_iff {name : String} {index : Nat} {values : List Json}
    {texts : List String} : readTexts name index values = .ok texts ↔ values = texts.map .string := by
  induction values generalizing index texts with
  | nil => cases texts <;> simp [readTexts]
  | cons value values ih =>
    unfold readTexts
    constructor
    · intro h
      obtain ⟨text, htext, h⟩ := bind_eq_ok_iff.mp h
      obtain ⟨others, hothers, h⟩ := bind_eq_ok_iff.mp h
      cases h
      rw [readString_eq_ok_iff.mp htext, ih.mp hothers]
      rfl
    · intro h
      cases texts with
      | nil => cases h
      | cons text others =>
        obtain ⟨rfl, rfl⟩ := List.cons.inj h
        exact bind_eq_ok_iff.mpr ⟨_, readString_eq_ok_iff.mpr rfl,
          bind_eq_ok_iff.mpr ⟨_, ih.mpr rfl, rfl⟩⟩

lemma readIgnorePaths_eq_ok_iff {texts : List String} :
    readIgnorePaths members = .ok texts ↔ Holds ReadsTexts []
      (value? members ["ignore_paths", "ignorePaths"]) texts := by
  refine eq_ok_iff_holds (fun hfield => ?_) (fun name value hfield texts => ?_) texts
  · rw [readIgnorePaths, hfield]
  · rw [readIgnorePaths, hfield]
    cases value with
    | array values =>
      dsimp only
      rw [readTexts_eq_ok_iff, ReadsTexts, Json.array.injEq]
    | _ => simp [refuse, ReadsTexts]

lemma readStrict_eq_ok_iff {strict : Bool} :
    readStrict members = .ok strict ↔ Holds ReadsTruth false
      (value? members ["strict", "blockOnCritical"]) strict := by
  refine eq_ok_iff_holds (fun hfield => ?_) (fun name value hfield strict => ?_) strict
  · rw [readStrict, hfield]
  · rw [readStrict, hfield]
    exact readBool_eq_ok_iff

/-- Where every member is taken, the only list of rules there can be is the one that is read. -/
lemma checkRuleLists_eq_ok [Pattern.Platform] {rules : List CustomRule}
    (hcovered : Covered settingsFields members)
    (hrules : Holds ReadsRules []
      (value? members ["custom_rules", "customPatterns", "customRules"]) rules) :
    checkRuleLists members = .ok () := by
  apply forM_eq_ok_iff.mpr
  intro name hname
  split
  · next values hmember =>
    obtain ⟨names, hnames, value, hfield⟩ := hcovered _ (mem_of_member? hmember)
    obtain ⟨hin, hvalue⟩ := member_of_field hfield
    obtain rfl := apart_settingsFields names hnames _ List.mem_cons_self name hin hname
    rw [value?, hfield] at hrules
    obtain rfl := Option.some.inj (hmember.symm.trans hvalue)
    obtain ⟨_, ⟨⟩, hread⟩ := hrules
    exact bind_eq_ok_iff.mpr ⟨rules, readRulesFrom_eq_ok_iff.mpr hread, rfl⟩
  · rfl

/-- An object is read as settings when each of its members is taken and holds what it is read as. -/
theorem ofJson_eq_ok_iff [Pattern.Platform] {value : Json} {settings : Settings} :
    ofJson value = .ok settings ↔
      ∃ members, value = .object members ∧ SettingsMembers members settings := by
  constructor
  · intro h
    cases value with
    | object members =>
      obtain ⟨_, _, h⟩ := bind_eq_ok_iff.mp h
      obtain ⟨customRules, hcustomRules, h⟩ := bind_eq_ok_iff.mp h
      obtain ⟨severityOverrides, hseverityOverrides, h⟩ := bind_eq_ok_iff.mp h
      obtain ⟨ignorePaths, hignorePaths, h⟩ := bind_eq_ok_iff.mp h
      obtain ⟨strict, hstrict, h⟩ := bind_eq_ok_iff.mp h
      obtain ⟨_, hknown, h⟩ := bind_eq_ok_iff.mp h
      cases h
      exact ⟨members, rfl, readCustomRules_eq_ok_iff.mp hcustomRules,
        readOverrides_eq_ok_iff.mp hseverityOverrides, readIgnorePaths_eq_ok_iff.mp hignorePaths,
        readStrict_eq_ok_iff.mp hstrict, refuseUnknown_eq_ok_iff.mp hknown⟩
    | _ => cases h
  · rintro ⟨members, rfl, h⟩
    refine bind_eq_ok_iff.mpr ⟨(), checkRuleLists_eq_ok h.covered h.customRules, ?_⟩
    refine bind_eq_ok_iff.mpr ⟨_, readCustomRules_eq_ok_iff.mpr h.customRules, ?_⟩
    refine bind_eq_ok_iff.mpr ⟨_, readOverrides_eq_ok_iff.mpr h.severityOverrides, ?_⟩
    refine bind_eq_ok_iff.mpr ⟨_, readIgnorePaths_eq_ok_iff.mpr h.ignorePaths, ?_⟩
    refine bind_eq_ok_iff.mpr ⟨_, readStrict_eq_ok_iff.mpr h.strict, ?_⟩
    exact bind_eq_ok_iff.mpr ⟨(), refuseUnknown_eq_ok_iff.mpr h.covered, rfl⟩

/-- Every rule of settings that are read is sound. -/
lemma sound_of_mem [Pattern.Platform] {settings : Settings} (h : SettingsMembers members settings)
    {rule : CustomRule} (hrule : rule ∈ settings.customRules) : Sound rule := by
  have hrules := h.customRules
  cases hvalue : value? members ["custom_rules", "customPatterns", "customRules"] with
  | none =>
    rw [hvalue] at hrules
    rw [show settings.customRules = [] from hrules] at hrule
    cases hrule
  | some value =>
    rw [hvalue] at hrules
    obtain ⟨values, _, hread⟩ := hrules
    obtain ⟨_, _, hsound, _⟩ := exists_of_mem_right hread hrule
    exact hsound

end Fields

end SlopLint.Settings
