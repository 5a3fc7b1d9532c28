import SlopLint.Proofs.FailingSteps
import SlopLint.Proofs.PatternLimits
import SlopLint.Settings.Reader

/-!
# Faults of reading settings

Settings that cannot be read are refused with the field at fault, with one exception: a pattern
beyond a limit of the reader is no refusal. That happens at the first such rule behind rules that
can all be read, and only if the text of its pattern shows it.
-/

namespace SlopLint.Settings

/-- A step that fails only by refusing a field. -/
def Refuses {α : Type} (step : Except Fault α) : Prop :=
  ∀ fault, step = .error fault → ∃ location problem, fault = .rejected (.field location problem)

section Steps

variable {α β : Type}

lemma refuse_refuses (location : Location) (problem : Problem) :
    Refuses (refuse (α := α) location problem) := by
  rintro fault ⟨⟩
  exact ⟨location, problem, rfl⟩

lemma ok_refuses (value : α) : Refuses (.ok value) :=
  nofun

lemma bind_refuses_of_eq {step : Except Fault α} {next : α → Except Fault β} (hstep : Refuses step)
    (hnext : ∀ value, step = .ok value → Refuses (next value)) : Refuses (step >>= next) := by
  intro fault h
  obtain hfault | ⟨value, hvalue, hfault⟩ := bind_eq_error_iff.mp h
  · exact hstep fault hfault
  · exact hnext value hvalue fault hfault

lemma bind_refuses {step : Except Fault α} {next : α → Except Fault β} (hstep : Refuses step)
    (hnext : ∀ value, Refuses (next value)) : Refuses (step >>= next) :=
  bind_refuses_of_eq hstep fun value _ => hnext value

end Steps

/-! ### Values -/

lemma readString_refuses (location : Location) (value : Json) :
    Refuses (readString location value) := by
  unfold readString
  split
  · exact ok_refuses _
  · exact refuse_refuses _ _

lemma readNonempty_refuses (location : Location) (value : Json) :
    Refuses (readNonempty location value) := by
  refine bind_refuses (readString_refuses _ _) fun s => ?_
  split
  · exact refuse_refuses _ _
  · exact ok_refuses _

lemma eq_of_readNonempty {location : Location} {value : Json} {source : String}
    (h : readNonempty location value = .ok source) : value = .string source := by
  obtain ⟨s, hs, hsource⟩ := bind_eq_ok_iff.mp h
  have hvalue : value = .string s := by
    unfold readString at hs
    split at hs
    · cases hs
      rfl
    · cases hs
  split at hsource
  · cases hsource
  · cases hsource
    exact hvalue

lemma readOptional_refuses (location : Location) (value : Option Json) :
    Refuses (readOptional location value) := by
  unfold readOptional
  split
  · exact ok_refuses _
  · exact ok_refuses _
  · exact bind_refuses (readString_refuses _ _) fun _ => ok_refuses _

lemma readSeverity_refuses (location : Location) (value : Json) :
    Refuses (readSeverity location value) := by
  unfold readSeverity
  split
  · split
    · exact ok_refuses _
    · exact refuse_refuses _ _
  · exact refuse_refuses _ _

lemma refuseUnknown_refuses (location : String → Location) (fields : List (List String))
    (members : List (String × Json)) : Refuses (refuseUnknown location fields members) := by
  unfold refuseUnknown
  extract_lets taken
  split
  · exact refuse_refuses _ _
  · exact ok_refuses _

lemma required_refuses (members : List (String × Json)) (location : String → Location)
    (name : String) : Refuses (required members location name) := by
  unfold required
  split
  · exact ok_refuses _
  · exact refuse_refuses _ _

lemma member_of_required {members : List (String × Json)} {location : String → Location}
    {name : String} {value : Json} (h : required members location name = .ok value) :
    Json.member? members name = some value := by
  unfold required at h
  split at h
  · cases h
    assumption
  · cases h

lemma member_of_field {members : List (String × Json)} {names : List String} {name : String}
    {value : Json} (h : field? members names = some (name, value)) :
    name ∈ names ∧ Json.member? members name = some value := by
  obtain ⟨taken, htaken, hmember⟩ := List.exists_of_findSome?_eq_some h
  obtain ⟨_, hvalue, heq⟩ := Option.map_eq_some_iff.mp hmember
  cases heq
  exact ⟨htaken, hvalue⟩

section Rules

variable [Pattern.Platform]

lemma readPattern_refuses {location : Location} {value : Json}
    (h : ∀ source limit, value = .string source →
      Pattern.read patternFlags source ≠ .error (.beyond limit)) :
    Refuses (readPattern location value) := by
  refine bind_refuses_of_eq (readNonempty_refuses _ _) fun source hsource => ?_
  split
  · exact ok_refuses _
  · exact refuse_refuses _ _
  · exact refuse_refuses _ _
  · exact refuse_refuses _ _
  next limit hbeyond => exact absurd hbeyond (h source limit (eq_of_readNonempty hsource))

lemma limit_eq_some_iff {members : List (String × Json)} {limit : Pattern.Limit} :
    limit? members = some limit ↔ ∃ source, Json.member? members "pattern" = some (.string source) ∧
      Pattern.read patternFlags source = .error (.beyond limit) := by
  unfold limit?
  split
  next source hmember =>
    split
    next beyond hread => simp [hmember, hread]
    next hread => simpa [hmember] using hread limit
  next hmember => simpa using fun source h => absurd h (hmember source)

lemma readRule_refuses {index : Nat} {members : List (String × Json)}
    (h : limit? members = none) : Refuses (readRule index (.object members)) := by
  unfold readRule
  extract_lets entry
  dsimp -zeta only
  extract_lets location
  rw [h]
  refine bind_refuses (required_refuses _ _ _) fun _ => ?_
  refine bind_refuses (readNonempty_refuses _ _) fun _ => ?_
  refine bind_refuses_of_eq (required_refuses _ _ _) fun value hvalue => ?_
  -- No limit was found when the rule was looked at first, and it is the same pattern.
  have hpattern : ∀ source limit, value = .string source →
      Pattern.read patternFlags source ≠ .error (.beyond limit) := by
    rintro source limit rfl hread
    have hlimit := limit_eq_some_iff.mpr ⟨source, member_of_required hvalue, hread⟩
    rw [h] at hlimit
    cases hlimit
  refine bind_refuses (readPattern_refuses hpattern) fun _ => ?_
  refine bind_refuses (required_refuses _ _ _) fun _ => ?_
  refine bind_refuses (readNonempty_refuses _ _) fun _ => ?_
  refine bind_refuses (required_refuses _ _ _) fun _ => ?_
  refine bind_refuses (readSeverity_refuses _ _) fun _ => ?_
  refine bind_refuses (readOptional_refuses _ _) fun _ => ?_
  refine bind_refuses (readOptional_refuses _ _) fun _ => ?_
  refine bind_refuses (readOptional_refuses _ _) fun _ => ?_
  exact bind_refuses (refuseUnknown_refuses _ _ _) fun _ => ok_refuses _

/-- A rule is beyond a limit exactly when its pattern is, whatever else is wrong with it. -/
lemma readRule_eq_beyond_iff {index : Nat} {value : Json} {limit : Pattern.Limit} :
    readRule index value = .error (.beyond limit) ↔
      ∃ members, value = .object members ∧ limit? members = some limit := by
  cases value with
  | object members =>
    cases hlimit : limit? members with
    | none =>
      constructor
      · intro h
        obtain ⟨_, _, hfault⟩ := readRule_refuses hlimit _ h
        cases hfault
      · rintro ⟨_, ⟨⟩, hsome⟩
        rw [hlimit] at hsome
        cases hsome
    | some beyond =>
      have hread : readRule index (.object members) = .error (.beyond beyond) := by
        unfold readRule
        simp [hlimit]
      simp [hread, hlimit]
  | _ => simp [readRule, refuse]

end Rules

/-! ### The other fields -/

section Settings

variable [Pattern.Platform]

end Settings

end SlopLint.Settings
