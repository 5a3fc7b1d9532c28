import SlopLint.Proofs.ReadSettings

/-!
# Faults of lists of rules

An entry may have many faults; they are listed here in the order of the fields, those of unknown
members last. Reading an entry stops at the first of them, and reading a list at the first entry
that has one. What is told is made of the place of the entry, of its id if it has one, and of its
first fault, so that the other entries do not matter.
-/

namespace SlopLint.Settings

/-! ### All faults of an entry -/

def stringProblem? : Json → Option Problem
  | .string _ => none
  | _ => some .notString

def nonemptyProblem? : Json → Option Problem
  | .string s => if s = "" then some .emptyString else none
  | _ => some .notString

def severityProblem? : Json → Option Problem
  | .string s => if s ∈ Severity.all.map Severity.name then none else some .notSeverity
  | _ => some .notSeverity

/-- A pattern beyond a limit is none of the problems of a field. -/
def patternProblem? [Pattern.Platform] : Json → Option Problem
  | .string s =>
    if s = "" then some .emptyString
    else
      match Pattern.read patternFlags s with
      | .error (.malformed cause left) => some (.malformedPattern s cause left)
      | .error (.numberTooLong digits) => some (.numberTooLong digits)
      | .error .bothAlphabets => some .bothAlphabets
      | _ => none
  | _ => some .notString

def requiredProblem? (problem? : Json → Option Problem) : Option Json → Option Problem
  | none => some .missing
  | some value => problem? value

def optionalProblem? : Option Json → Option Problem
  | none | some .null => none
  | some value => stringProblem? value

/-- The fields of a rule in their order, each with its problem. The link is told under the name that
it stands under. -/
def fieldProblems [Pattern.Platform] (members : List (String × Json)) : List
    (String × Option Problem) :=
  let value? := Json.member? members
  let link := field? members ["learnMore", "learn_more"]
  [("id", requiredProblem? nonemptyProblem? (value? "id")),
    ("pattern", requiredProblem? patternProblem? (value? "pattern")),
    ("message", requiredProblem? nonemptyProblem? (value? "message")),
    ("severity", requiredProblem? severityProblem? (value? "severity")),
    ("description", optionalProblem? (value? "description")),
    ("fix", optionalProblem? (value? "fix")),
    ((link.map (·.1)).getD "learnMore", optionalProblem? (link.map (·.2)))]

/-- The members that no field takes, in the order of the input. -/
def unknownMembers (members : List (String × Json)) : List (String × Json) :=
  let taken := ruleFields.filterMap fun names => (field? members names).map (·.1)
  members.filter fun member => !taken.contains member.1

/-- The faults of an object, each with the name of its field. -/
def memberFaults [Pattern.Platform] (members : List (String × Json)) : List (String × Problem) :=
  (fieldProblems members).filterMap (fun (name, problem?) => problem?.map fun p => (name, p)) ++
    (unknownMembers members).map fun member => (member.1, .unknown)

/-- The faults of an entry, each with the name of its field. What is no object is at fault
itself. -/
def entryFaults [Pattern.Platform] : Json → List (Option String × Problem)
  | .object members => (memberFaults members).map fun (name, problem) => (some name, problem)
  | _ => [(none, .notRule)]

/-! ### The first fault -/

/-- The fault that a step fails with. -/
def fault? {α : Type} : Except Fault α → Option Fault
  | .ok _ => none
  | .error fault => some fault

/-- Problems as the faults that steps fail with. -/
def refusal? (location : Location) (problem? : Option Problem) : Option Fault :=
  problem?.map fun problem => .rejected (.field location problem)

section Steps

variable {α β : Type} {location : Location} {value : Json}

lemma fault?_eq_some_iff {step : Except Fault α} {fault : Fault} :
    fault? step = some fault ↔ step = .error fault := by
  cases step <;> simp [fault?]

/-- Two steps fail with the first of their faults. -/
lemma fault?_bind {step : Except Fault α} {next : α → Except Fault β} {rest : Option Fault}
    (h : ∀ a, step = .ok a → fault? (next a) = rest) :
    fault? (step >>= next) = (fault? step).or rest := by
  cases step with
  | error fault => rfl
  | ok a => exact h a rfl

lemma fault?_map (step : Except Fault α) (f : α → β) :
    fault? (do let a ← step; pure (f a)) = fault? step := by
  cases step <;> rfl

lemma fault?_readString : fault? (readString location value) =
    refusal? location (stringProblem? value) := by
  cases value <;> rfl

lemma fault?_readNonempty : fault? (readNonempty location value) =
    refusal? location (nonemptyProblem? value) := by
  cases value with
  | string s =>
    by_cases h : s = ""
    · subst h
      rfl
    · simp [readNonempty, readString, nonemptyProblem?, refusal?, fault?, h, bind, Except.bind,
        pure, Except.pure]
  | _ => rfl

lemma fault?_readSeverity : fault? (readSeverity location value) =
    refusal? location (severityProblem? value) := by
  cases value with
  | string s =>
    unfold readSeverity severityProblem?
    dsimp only
    have hknown : s ∈ Severity.all.map Severity.name ↔ (Severity.ofName? s).isSome = true := by
      simp [Severity.ofName?]
    cases h : Severity.ofName? s with
    | some severity =>
      rw [if_pos (hknown.mpr (by rw [h]; rfl))]
      rfl
    | none =>
      rw [if_neg (mt hknown.mp (by rw [h]; simp))]
      rfl
  | _ => rfl

lemma fault?_readPattern [Pattern.Platform] (h : ∀ source limit, value = .string source →
      Pattern.read patternFlags source ≠ .error (.beyond limit)) :
    fault? (readPattern location value) = refusal? location (patternProblem? value) := by
  cases value with
  | string s =>
    by_cases hempty : s = ""
    · subst hempty
      rfl
    · have hread : readNonempty location (.string s) = .ok s :=
        readNonempty_eq_ok_iff.mpr ⟨rfl, hempty⟩
      unfold readPattern patternProblem?
      rw [hread]
      simp only [bind, Except.bind, hempty, if_false]
      cases hpattern : Pattern.read patternFlags s with
      | ok pattern => rfl
      | error fault =>
        cases fault with
        | beyond limit => exact absurd hpattern (h s limit rfl)
        | _ => rfl
  | _ => rfl

lemma fault?_readOptional {value : Option Json} :
    fault? (readOptional location value) = refusal? location (optionalProblem? value) := by
  have hsome (value : Json) : fault? (do pure (some (← readString location value))) =
      refusal? location (stringProblem? value) := by
    rw [fault?_map, fault?_readString]
  cases value with
  | none => rfl
  | some value =>
    cases value with
    | null => rfl
    | _ => exact hsome _

/-- A field that may be left out is read before anything behind it. -/
lemma fault?_optional_bind {value : Option Json} {next : Option String → Except Fault β}
    {rest : Option Fault} (hnext : ∀ text, fault? (next text) = rest) :
    fault? (do let text ← readOptional location value; next text) =
      (refusal? location (optionalProblem? value)).or rest := by
  rw [fault?_bind fun text _ => hnext text, fault?_readOptional]

/-- A required field is read before anything behind it. -/
lemma fault?_required_bind {members : List (String × Json)} {location : String → Location}
    {name : String} {read : Json → Except Fault α} {problem? : Json → Option Problem}
    {next : α → Except Fault β} {rest : Option Fault}
    (hread : ∀ value, Json.member? members name = some value →
      fault? (read value) = refusal? (location name) (problem? value))
    (hnext : ∀ a, fault? (next a) = rest) :
    fault? (do let value ← required members location name; let a ← read value; next a) =
      (refusal? (location name) (requiredProblem? problem? (Json.member? members name))).or
        rest := by
  unfold required
  cases hmember : Json.member? members name with
  | none => rfl
  | some value => exact (fault?_bind fun a _ => hnext a).trans (by rw [hread value hmember]; rfl)

end Steps

lemma fault?_refuseUnknown {location : String → Location} {members : List (String × Json)} :
    fault? (refuseUnknown location ruleFields members) =
      (unknownMembers members).head?.bind fun member =>
        refusal? (location member.1) (some .unknown) := by
  unfold refuseUnknown unknownMembers
  extract_lets taken
  rw [List.head?_filter]
  cases members.find? fun member => !taken.contains member.1 <;> rfl

/-- The entries that are at fault come before the rest of a list. -/
lemma head?_faults (entries : List (String × Option Problem)) (rest : List (String × Problem))
    (location : String → Location) :
    ((entries.filterMap fun (name, problem?) => problem?.map fun p => (name, p)) ++ rest).head?.bind
        (fun (name, problem) => refusal? (location name) (some problem)) =
      entries.foldr (fun entry later => (refusal? (location entry.1) entry.2).or later)
        (rest.head?.bind fun (name, problem) => refusal? (location name) (some problem)) := by
  induction entries with
  | nil => rfl
  | cons entry entries ih =>
    obtain ⟨name, problem?⟩ := entry
    rw [List.foldr_cons, ← ih]
    cases problem? with
    | none => rfl
    | some problem => rfl

/-- An object that holds no pattern beyond a limit is refused for its first fault. -/
lemma fault?_readRule [Pattern.Platform] (index : Nat) {members : List (String × Json)}
    (h : limit? members = none) :
    fault? (readRule index (.object members)) =
      (memberFaults members).head?.bind fun (name, problem) =>
        refusal? ⟨[.name "customPatterns", .index index], shownId? members, [.name name]⟩
          (some problem) := by
  have hpattern : ∀ value, Json.member? members "pattern" = some value → ∀ source limit,
      value = .string source → Pattern.read patternFlags source ≠ .error (.beyond limit) := by
    rintro _ hmember source limit rfl hread
    rw [limit_eq_some_iff.mpr ⟨source, hmember, hread⟩] at h
    cases h
  unfold readRule
  extract_lets entry
  dsimp -zeta only
  extract_lets location link linkName
  rw [h, memberFaults, head?_faults _ _ location]
  refine fault?_required_bind (fun _ _ => fault?_readNonempty) fun _ => ?_
  refine fault?_required_bind
    (fun value hmember => fault?_readPattern (hpattern value hmember)) fun _ => ?_
  refine fault?_required_bind (fun _ _ => fault?_readNonempty) fun _ => ?_
  refine fault?_required_bind (fun _ _ => fault?_readSeverity) fun _ => ?_
  refine fault?_optional_bind fun _ => ?_
  refine fault?_optional_bind fun _ => ?_
  refine fault?_optional_bind fun _ => ?_
  rw [fault?_map, fault?_refuseUnknown,
    List.head?_map]
  cases (unknownMembers members).head? <;> rfl

/-! ### Faults of entries among others -/

/-- Where a fault of a list of rules is: the place of the entry, its id and its field. -/
def entryLocation (index : Nat) (entry : Json) (field : Option String) : Location :=
  ⟨[.name "customPatterns", .index index], strayId? entry, field.toList.map .name⟩

/-- What refuses an entry is its first fault, at whatever place the entry stands. -/
lemma readRule_of_rejected [Pattern.Platform] {entry : Json} {place : Nat} {why : Rejection}
    (h : readRule place entry = .error (.rejected why)) :
    ∃ field problem others, entryFaults entry = (field, problem) :: others ∧ ∀ index,
      readRule index entry =
        .error (.rejected (.field (entryLocation index entry field) problem)) := by
  cases entry with
  | object members =>
    have hlimit : limit? members = none := by
      cases hfound : limit? members with
      | none => rfl
      | some limit =>
        rw [readRule_eq_beyond_iff.mpr ⟨members, rfl, hfound⟩] at h
        cases h
    cases hfaults : memberFaults members with
    | nil =>
      have hnone := fault?_readRule place hlimit
      rw [hfaults, fault?_eq_some_iff.mpr h] at hnone
      cases hnone
    | cons fault others =>
      refine ⟨some fault.1, fault.2, others.map fun (name, problem) => (some name, problem), ?_, ?_⟩
      · rw [entryFaults, hfaults]
        rfl
      · intro index
        rw [← fault?_eq_some_iff, fault?_readRule index hlimit, hfaults]
        rfl
  | _ => exact ⟨none, .notRule, [], rfl, fun _ => rfl⟩

/-- Reading goes on behind entries that are rules, and ends at one that is none. -/
lemma readRulesFrom_append [Pattern.Platform] {index : Nat} {pre post : List Json} {bad : Json}
    {fault : Fault}
    (hpre : ∀ entry ∈ pre, ∃ rule, ReadsRule entry rule)
    (hbad : readRule (index + pre.length) bad = .error fault) :
    readRulesFrom index (pre ++ bad :: post) = .error fault := by
  induction pre generalizing index with
  | nil => exact bind_eq_error_iff.mpr (.inl hbad)
  | cons entry pre ih =>
    obtain ⟨⟨rule, hrule⟩, hpre⟩ := List.forall_mem_cons.mp hpre
    rw [List.length_cons, ← Nat.add_assoc, Nat.add_right_comm] at hbad
    refine bind_eq_error_iff.mpr (.inr ⟨rule, readRule_eq_ok_iff.mpr hrule, ?_⟩)
    exact bind_eq_error_iff.mpr (.inl (ih hpre hbad))

/-- An entry has an id when it is an object whose id counts as present. -/
def HasId (entry id : Json) : Prop :=
  ∃ members, entry = .object members ∧ Json.member? members "id" = some id ∧ id.isTruthy = true

lemma strayId?_eq_some_iff {entry id : Json} : strayId? entry = some id ↔ HasId entry id := by
  cases entry with
  | object members => simp [strayId?, shownId?, HasId, Option.filter_eq_some_iff]
  | _ => simp [strayId?, HasId]

lemma strayId?_eq_none_iff {entry : Json} : strayId? entry = none ↔ ∀ id, ¬ HasId entry id := by
  simp only [Option.eq_none_iff_forall_ne_some, ne_eq, strayId?_eq_some_iff]

lemma pathText_entry (index : Nat) :
    pathText [.name "customPatterns", .index index] =
      "customPatterns[" ++ toString index ++ "]" := by
  have htext : pathText [.name "customPatterns", .index index] =
      "customPatterns" ++ ("[" ++ toString index ++ "]") := by
    simp [pathText]
    rfl
  rw [htext, ← String.append_assoc, ← String.append_assoc]
  rfl

lemma pathText_field (index : Nat) (name : String) :
    pathText [.name "customPatterns", .index index, .name name] =
      "customPatterns[" ++ toString index ++ "]" ++ ("." ++ name) := by
  have hstep : pathText [.name "customPatterns", .index index, .name name] =
      if pathText [.name "customPatterns", .index index] = "" then name
      else pathText [.name "customPatterns", .index index] ++ "." ++ name :=
    rfl
  have hplace : "customPatterns[" ++ toString index ++ "]" ≠ "" := by
    simp [← String.toList_inj]
  rw [hstep, pathText_entry, if_neg hplace, String.append_assoc]

/-- What is told of where an entry is at fault, behind its place: its id and the name of the field.
Behind an id a field with an empty name is not told. -/
def fieldText (id : Option Json) (field : Option String) : String :=
  match id with
  | none => (field.map ("." ++ ·)).getD ""
  | some id =>
    " (id=" ++ Text.valueLiteral id ++ ")" ++
      ((field.filter (· != "")).map ("." ++ ·)).getD ""

lemma text_entryLocation (index : Nat) (entry : Json) (field : Option String) :
    (entryLocation index entry field).text =
      "customPatterns[" ++ toString index ++ "]" ++ fieldText (strayId? entry) field := by
  unfold entryLocation Location.text fieldText
  cases strayId? entry with
  | none =>
    cases field with
    | none => exact (pathText_entry index).trans String.append_empty.symm
    | some name => exact pathText_field index name
  | some id =>
    have hname : ∀ name : String, pathText [.name name] = name := fun name => rfl
    have hid : ∀ rest : String, pathText [.name "customPatterns", .index index] ++ " (id=" ++
        Text.valueLiteral id ++ ")" ++ rest = "customPatterns[" ++ toString index ++ "]" ++
          (" (id=" ++ Text.valueLiteral id ++ ")" ++ rest) := by
      intro rest
      rw [pathText_entry]
      simp only [String.append_assoc]
    cases field with
    | none => exact hid ""
    | some name =>
      by_cases hempty : name = ""
      · subst hempty
        exact hid ""
      · have hshown : ((some name).filter (· != "")).map ("." ++ ·) = some ("." ++ name) := by
          simp [hempty]
        have hrest : (if pathText [.name name] = "" then "" else "." ++ pathText [.name name]) =
            "." ++ name := by
          rw [hname, if_neg hempty]
        rw [hshown]
        exact (congrArg (_ ++ ·) hrest).trans (hid ("." ++ name))

/-! ### Lists of rules -/

/-- A list of rules is refused for its first entry that is none, whatever stands behind it and
whatever rules stand in front of it. What is told begins with the place of this entry, has its id
exactly when it has one, and the name of its first field at fault. A list that holds rules only is
read as these, in its order. -/
theorem readRules_tells_first_fault [Pattern.Platform] :
    (∀ (bad : Json) (place : Nat) (why : Rejection),
      readRule place bad = .error (.rejected why) →
      ∃ field problem others told,
        entryFaults bad = (field, problem) :: others ∧
        (" (id=".toList <+: told.toList ↔ ∃ id, HasId bad id) ∧
        (∀ id, HasId bad id → told = " (id=" ++ Text.valueLiteral id ++ ")" ++
          ((field.filter (· != "")).map ("." ++ ·)).getD "" ++ ": " ++ problem.text) ∧
        ((∀ id, ¬ HasId bad id) → told =
          (field.map ("." ++ ·)).getD "" ++ ": " ++ problem.text) ∧
        ∀ pre post : List Json, (∀ entry ∈ pre, ∃ rule, ReadsRule entry rule) →
          ∃ rejection, readRules (pre ++ bad :: post) = .error (.rejected rejection) ∧
            rejection.message = "customPatterns[" ++ toString pre.length ++ "]" ++ told) ∧
    ∀ values : List Json, (∀ entry ∈ values, ∃ rule, ReadsRule entry rule) →
      ∃ rules, readRules values = .ok rules ∧ List.Forall₂ ReadsRule values rules := by
  constructor
  · intro bad place why hbad
    obtain ⟨field, problem, others, hfaults, hread⟩ := readRule_of_rejected hbad
    refine ⟨field, problem, others, fieldText (strayId? bad) field ++ ": " ++ problem.text, hfaults,
      ?_, ?_, ?_, ?_⟩
    · constructor
      · intro hshown
        by_contra hnone
        rw [not_exists] at hnone
        rw [strayId?_eq_none_iff.mpr hnone] at hshown
        cases field <;> simp [fieldText] at hshown
      · rintro ⟨id, hid⟩
        rw [strayId?_eq_some_iff.mpr hid]
        simp [fieldText]
    · intro id hid
      rw [strayId?_eq_some_iff.mpr hid]
      rfl
    · intro hnone
      rw [strayId?_eq_none_iff.mpr hnone]
      rfl
    · intro pre post hpre
      refine ⟨_, readRulesFrom_append hpre (hread _), ?_⟩
      rw [Nat.zero_add]
      have htext := text_entryLocation pre.length bad field
      have hshown : (entryLocation pre.length bad field).text ≠ "" := by
        rw [htext]
        simp [← String.toList_inj]
      have hmessage : (Rejection.field (entryLocation pre.length bad field) problem).message =
          (entryLocation pre.length bad field).text ++ ": " ++ problem.text :=
        if_neg hshown
      rw [hmessage, htext]
      simp only [String.append_assoc]
  · intro values hvalues
    obtain ⟨rules, hrules⟩ : ∃ rules, List.Forall₂ ReadsRule values rules := by
      induction values with
      | nil => exact ⟨[], .nil⟩
      | cons value values ih =>
        obtain ⟨⟨rule, hrule⟩, hvalues⟩ := List.forall_mem_cons.mp hvalues
        obtain ⟨rules, hrules⟩ := ih hvalues
        exact ⟨rule :: rules, .cons hrule hrules⟩
    exact ⟨rules, readRulesFrom_eq_ok_iff.mpr hrules, hrules⟩

/-- A rule, and an entry whose id is a number and whose other fields are missing. -/
def numberedRules : List Json := [
  .object [("id", .string "x"), ("pattern", .string "a"), ("message", .string "m"),
    ("severity", .string "low")],
  .object [("severity", .string "urgent"), ("id", .int 7)]]

/-- The number is told as the id and is the first fault, in front of what is missing. -/
theorem readRules_tells_first_fault_numbered :
    letI := Pattern.Platform.withRoom 100
    ∃ good bad why, numberedRules = [good, bad] ∧ readRule 0 bad = .error (.rejected why) ∧
      (∃ rule, ReadsRule good rule) ∧
      ∃ rejection, readRules [good, bad, .null] = .error (.rejected rejection) ∧
        rejection.message = "customPatterns[1] (id=7).id: Input should be a valid string" := by
  let := Pattern.Platform.withRoom 100
  have hgood : ∃ rule, ReadsRule (.object [("id", .string "x"), ("pattern", .string "a"),
      ("message", .string "m"), ("severity", .string "low")]) rule := by
    simp only [← @readRule_eq_ok_iff _ 0]
    exact ⟨_, rfl⟩
  refine ⟨_, _, _, rfl, rfl, hgood, ?_⟩
  obtain ⟨field, problem, others, told, hfaults, -, hid, -, hread⟩ :=
    readRules_tells_first_fault.1 (.object [("severity", .string "urgent"), ("id", .int 7)]) 0 _ rfl
  cases hfaults
  obtain ⟨rejection, hrejection, hmessage⟩ := hread _ [.null] (List.forall_mem_singleton.mpr hgood)
  rw [hid (.int 7) ⟨_, rfl, rfl, rfl⟩] at hmessage
  exact ⟨rejection, hrejection, hmessage⟩

end SlopLint.Settings
