import SlopLint.Proofs.AsciiTexts
import SlopLint.Proofs.BuiltRules
import SlopLint.Proofs.OccurrencePlaces

/-!
# Plain words

A rule of the user's own whose pattern is a word of ASCII letters and digits searches for this
word: the text is read as its characters one by one, and on a line of ASCII characters they take
what reads the same in lower case. So the matches are the places of the word, each looked for behind
the one before it.
-/

namespace SlopLint

open Text
open Settings (patternFlags)

/-- A word of ASCII letters and digits. -/
def Text.IsPlain (word : List Char) : Prop :=
  ∀ c ∈ word, c.isAlphanum = true

/-- A word stands on a line behind so many characters, case not counting. -/
def Text.ReadsAt (word line : List Char) (start : Nat) : Prop :=
  lowerText ((line.drop start).take word.length) = lowerText word

instance (word line : List Char) (start : Nat) : Decidable (Text.ReadsAt word line start) :=
  inferInstanceAs (Decidable (_ = _))

/-- The places of a word from left to right, each the first one behind the end of the one before. -/
inductive Text.WordPlaces (word line : List Char) : Nat → List Nat → Prop
  | done {start : Nat} (hnone : ∀ place, start ≤ place → ¬ ReadsAt word line place) :
    WordPlaces word line start []
  | next {start place : Nat} {others : List Nat} (hstart : start ≤ place)
    (hhere : ReadsAt word line place)
    (hfirst : ∀ earlier, start ≤ earlier → earlier < place → ¬ ReadsAt word line earlier)
    (hothers : WordPlaces word line (place + word.length) others) :
    WordPlaces word line start (place :: others)

/-- The places of a word are settled. -/
lemma Text.WordPlaces.unique {word line : List Char} {start : Nat} {places others : List Nat}
    (h : WordPlaces word line start places) (h' : WordPlaces word line start others) :
    others = places := by
  induction h generalizing others with
  | done hnone =>
    cases h' with
    | done => rfl
    | next hstart hhere => exact absurd hhere (hnone _ hstart)
  | @next start place places hstart hhere hfirst _ ih =>
    cases h' with
    | done hnone => exact absurd hhere (hnone _ hstart)
    | @next _ place' others hstart' hhere' hfirst' hothers' =>
      obtain hlt | rfl | hlt := Nat.lt_trichotomy place place'
      · exact absurd hhere (hfirst' place hstart hlt)
      · rw [ih hothers']
      · exact absurd hhere' (hfirst place' hstart' hlt)

/-! ### How a plain word is read -/

namespace Pattern

/-- The characters that stand for something else in a pattern. -/
def specials : List Char :=
  ['\\', '|', ')', '[', '*', '+', '?', '\x7b', '(', '.', '^', '$']

lemma ne_of_isAlphanum {c special : Char} (hc : c.isAlphanum = true) (h : special ∈ specials) :
    c ≠ special := by
  have hall : ∀ special ∈ specials, special.isAlphanum = false :=
    List.forall_iff_forall_mem.mp (by decide)
  rintro rfl
  rw [hall c h] at hc
  cases hc

section Reading

variable {word : List Char} {r : Reading}

lemma peek_of_isPlain {c : Char} (hc : c.isAlphanum = true) (hrest : r.rest = c :: word) :
    r.peek = some (.plain c) := by
  unfold Reading.peek
  rw [hrest]
  split
  · next heq => cases heq
  · next heq =>
    obtain ⟨rfl, -⟩ := List.cons.inj heq
    exact absurd rfl (ne_of_isAlphanum hc (show '\\' ∈ specials by decide))
  · next heq =>
    obtain ⟨rfl, -⟩ := List.cons.inj heq
    rfl

lemma moveTo_of_isPlain (hword : IsPlain word) : r.moveTo word = .ok { r with rest := word } := by
  refine if_neg ?_
  rintro rfl
  exact absurd (hword '\\' (List.mem_singleton.mpr rfl)) (by decide)

lemma plainItem_of_isAlphanum {flags : Flags} {c : Char} (hc : c.isAlphanum = true) :
    plainItem flags c = (.yes, .char flags.mode (.code false c.toNat)) := by
  unfold plainItem
  rw [if_neg (ne_of_isAlphanum hc (by decide)), if_neg (ne_of_isAlphanum hc (by decide)),
    if_neg (ne_of_isAlphanum hc (by decide))]

/-- A plain word is read character by character. -/
lemma readSequence_of_isPlain [Platform] {fuel : Nat} {place : Place}
    (hverbose : place.flags.verbose = false)
    (hword : IsPlain word) (hrest : r.rest = word) (hfuel : word.length < fuel) (items : Items) :
    readSequence fuel place items r =
      .ok (.sequence (items.reverse.map (·.2) ++ place.flags.mode.word word),
        { r with rest := [] }) := by
  induction word generalizing fuel items r with
  | nil =>
    obtain ⟨fuel, rfl⟩ : ∃ n, fuel = n + 1 := ⟨fuel - 1, by omega⟩
    have hpeek : r.peek = none := by
      unfold Reading.peek
      rw [hrest]
    unfold readSequence
    rw [hpeek, Mode.word, List.map_nil, List.append_nil, ← hrest]
  | cons c word ih =>
    obtain ⟨fuel, rfl⟩ : ∃ n, fuel = n + 1 := ⟨fuel - 1, by omega⟩
    obtain ⟨hc, hword⟩ := List.forall_mem_cons.mp hword
    have hne : ∀ special ∈ specials, (c == special) = false :=
      fun special h => beq_eq_false_iff_ne.mpr (ne_of_isAlphanum hc h)
    have hadvance : r.advance = .ok { r with rest := word } := by
      unfold Reading.advance
      rw [hrest]
      split
      · next heq =>
        obtain ⟨rfl, -⟩ := List.cons.inj heq
        exact absurd rfl (ne_of_isAlphanum hc (show '\\' ∈ specials by decide))
      · exact moveTo_of_isPlain hword
    have hbar : (c == '|' || c == ')') = false := by
      rw [hne '|' (by decide), hne ')' (by decide), Bool.or_self]
    have hset : (c == '[') = false := hne '[' (by decide)
    have hcounts : (c == '*' || c == '+' || c == '?' || c == '\x7b') = false := by
      rw [hne '*' (by decide), hne '+' (by decide), hne '?' (by decide), hne '\x7b' (by decide)]
      rfl
    have hgroup : (c == '(') = false := hne '(' (by decide)
    unfold readSequence
    rw [peek_of_isPlain hc hrest]
    dsimp only
    rw [hbar, if_neg Bool.false_ne_true]
    refine bind_eq_ok_iff.mpr ⟨_, hadvance, ?_⟩
    rw [hverbose, Bool.false_and, Bool.false_and, hset, hcounts, hgroup]
    simp only [Bool.false_eq_true, if_false]
    rw [ih hword rfl (by simpa using hfuel), plainItem_of_isAlphanum hc]
    simp [Mode.word]

lemma fault?_sequence {template : Bool} {groups : List (Nat × Width)} {nodes : List Node}
    (h : ∀ node ∈ nodes, node.fault? template groups = none) :
    (Node.sequence nodes).fault? template groups = none := by
  induction nodes with
  | nil => rfl
  | cons node nodes ih =>
    obtain ⟨hnode, hnodes⟩ := List.forall_mem_cons.mp h
    cases nodes with
    | nil => exact hnode
    | cons next nodes => exact Option.or_eq_none_iff.mpr ⟨hnode, ih hnodes⟩

lemma fault?_word (mode : Mode) (word : List Char) {template : Bool}
    {groups : List (Nat × Width)} :
    (Node.sequence (mode.word word)).fault? template groups = none := by
  refine fault?_sequence fun node hnode => ?_
  obtain ⟨c, -, rfl⟩ := List.mem_map.mp hnode
  rfl

/-- A plain word is the pattern that takes it, case not counting. -/
theorem read_of_isPlain [Platform] {word : String} (hword : IsPlain word.toList) :
    read patternFlags word = .ok ⟨word, .sequence (anyCaseMode.word word.toList)⟩ := by
  let start : Reading := { rest := word.toList, flags := patternFlags }
  have hmove : start.moveTo word.toList = .ok start := moveTo_of_isPlain hword
  have hsequence : readSequence (4 * word.toList.length + 3) ⟨patternFlags, true, true⟩ [] start =
      .ok (.sequence (anyCaseMode.word word.toList), { start with rest := [] }) :=
    readSequence_of_isPlain rfl hword rfl (by omega) []
  have hchoice : readChoice (4 * word.toList.length + 4) ⟨patternFlags, true, true⟩ start =
      .ok (.sequence (anyCaseMode.word word.toList), { start with rest := [] }) := by
    unfold readChoice
    exact bind_eq_ok_iff.mpr ⟨_, hsequence, rfl⟩
  have hgroups : word.toList.count '(' = 0 :=
    List.count_eq_zero.mpr fun h => absurd (hword '(' h) (by decide)
  unfold read
  rw [Platform.overflow?_eq_none _ _ (hgroups ▸ Nat.zero_le _)]
  refine bind_eq_ok_iff.mpr ⟨_, hmove, bind_eq_ok_iff.mpr ⟨_, hchoice, ?_⟩⟩
  simp [start, patternFlags, fault?_word, pure, Except.pure]

end Reading

/-! ### Where a plain word is found -/

section Finding

variable {word : List Char} {pattern : Pattern} {read unread line : List Char}

lemma isAscii_of_isPlain (hword : IsPlain word) : IsAscii word := by
  intro c hc
  rcases Bool.or_eq_true _ _ ▸ hword c hc with halpha | hdigit
  · exact toNat_lt_of_isAlpha halpha
  · simp only [Char.isDigit, Bool.and_eq_true, decide_eq_true_eq, UInt32.le_iff_toNat_le] at hdigit
    exact Nat.lt_of_le_of_lt hdigit.2 (by decide)

lemma isRegular_word (mode : Mode) (word : List Char) :
    (Node.sequence (mode.word word)).isRegular = true := by
  induction word with
  | nil => rfl
  | cons c word ih =>
    cases word with
    | nil => rfl
    | cons d word => exact ih

/-- At a place of a line of ASCII characters, a plain word takes what reads like it. -/
lemma taken?_of_isPlain (hword : IsPlain word) (hfull : word ≠ [])
    (hnode : pattern.node = .sequence (anyCaseMode.word word)) (hunread : IsAscii unread)
    {text : List Char} : pattern.taken? read unread = some text ↔
      text = unread.take word.length ∧ lowerText text = lowerText word := by
  have hascii := isAscii_of_isPlain hword
  have hregular : pattern.node.isRegular = true := by
    rw [hnode]
    exact isRegular_word anyCaseMode word
  have hsound : ∀ text, pattern.taken? read unread = some text →
      text = unread.take word.length ∧ lowerText text = lowerText word := by
    intro text htaken
    obtain ⟨-, after, rfl, htakes⟩ := takes_of_taken? hregular htaken
    rw [hnode] at htakes
    have hspells := takes_word.mp htakes
    have htext : IsAscii text := fun c hc => hunread c (List.mem_append_left after hc)
    exact ⟨(List.take_left' hspells.length_eq.symm).symm,
      (spells_iff_of_isAscii hascii htext).mp hspells⟩
  refine ⟨hsound text, ?_⟩
  rintro ⟨rfl, hlower⟩
  have htext : IsAscii (unread.take word.length) := fun c hc => hunread c (List.mem_of_mem_take hc)
  have hspells := (spells_iff_of_isAscii hascii htext).mpr hlower
  have htake : unread.take word.length ≠ [] := by
    intro hnil
    rw [hnil] at hspells
    cases hspells
    exact hfull rfl
  have htakes : pattern.node.takes read.reverse (unread.take word.length)
      (unread.drop word.length) := by
    rw [hnode]
    exact takes_word.mpr hspells
  have hsome := taken?_isSome_of_takes hregular htake htakes
  rw [List.take_append_drop] at hsome
  obtain ⟨text, htaken⟩ := Option.isSome_iff_exists.mp hsome
  rw [htaken, (hsound text htaken).1]

/-- A text that is passed over has no place at which the word stands. -/
lemma not_readsAt_of_passesOver {front after : List Char} {place : Nat} (hword : IsPlain word)
    (hfull : word ≠ []) (hnode : pattern.node = .sequence (anyCaseMode.word word))
    (hline : IsAscii line) (hsplit : line = read ++ (front ++ after))
    (hpasses : pattern.PassesOver read front after) (hstart : read.length ≤ place)
    (hplace : place < read.length + front.length) : ¬ ReadsAt word line place := by
  intro hhere
  obtain ⟨passed, rest, rfl, rfl, hrest⟩ : ∃ passed rest, front = passed ++ rest ∧
      place = (read ++ passed).length ∧ rest ≠ [] := by
    refine ⟨front.take (place - read.length), front.drop (place - read.length),
      (List.take_append_drop _ _).symm, ?_, ?_⟩
    · rw [List.length_append, List.length_take]
      omega
    · apply List.ne_nil_of_length_pos
      rw [List.length_drop]
      omega
  rw [List.append_assoc, ← List.append_assoc] at hsplit
  have hascii : IsAscii (rest ++ after) :=
    fun c hc => hline c (hsplit ▸ List.mem_append_right _ hc)
  unfold ReadsAt at hhere
  rw [hsplit, List.drop_left] at hhere
  have hnone := hpasses passed rest rfl hrest
  rw [(taken?_of_isPlain hword hfull hnode hascii).mpr ⟨rfl, hhere⟩] at hnone
  cases hnone

/-- A search for a plain word finds its places. -/
lemma wordPlaces_of_scans (hword : IsPlain word) (hfull : word ≠ [])
    (hnode : pattern.node = .sequence (anyCaseMode.word word)) (hline : IsAscii line)
    {found : List Occurrence} (h : pattern.Scans read unread found)
    (hsplit : line = read ++ unread) :
    ∃ places, WordPlaces word line read.length places ∧
      found = places.map fun place => ⟨place, (line.drop place).take word.length⟩ := by
  induction h with
  | @done read unread hpasses =>
    refine ⟨[], .done ?_, rfl⟩
    intro place hstart hhere
    by_cases hplace : place < read.length + unread.length
    · rw [← List.append_nil unread] at hsplit
      exact not_readsAt_of_passesOver hword hfull hnode hline hsplit hpasses hstart hplace hhere
    · -- behind the end of the line nothing is left that could read like the word
      unfold ReadsAt at hhere
      rw [List.drop_eq_nil_of_le (by rw [hsplit, List.length_append]; omega), List.take_nil,
        lowerText_of_isAscii (isAscii_of_isPlain hword)] at hhere
      exact hfull (List.map_eq_nil_iff.mp hhere.symm)
  | @next read unread others front text after hunread hpasses htaken _ ih =>
    subst hunread
    have hascii : IsAscii (text ++ after) := fun c hc => hline c (by simp [hsplit, hc])
    obtain ⟨htext, hlower⟩ := (taken?_of_isPlain hword hfull hnode hascii).mp htaken
    have hdrop : line.drop (read ++ front).length = text ++ after := by
      rw [hsplit, ← List.append_assoc, List.drop_left]
    obtain ⟨places, hplaces, rfl⟩ := ih (by simp [hsplit])
    refine ⟨(read ++ front).length :: places, .next ?_ ?_ ?_ ?_, ?_⟩
    · rw [List.length_append]
      exact Nat.le_add_right _ _
    · unfold ReadsAt
      rwa [hdrop, ← htext]
    · intro earlier hstart hearlier
      rw [List.length_append] at hearlier
      exact not_readsAt_of_passesOver hword hfull hnode hline hsplit hpasses hstart hearlier
    · have hlength := congrArg List.length hlower
      rw [lowerText_of_isAscii (fun c hc => hascii c (List.mem_append_left after hc)),
        lowerText_of_isAscii (isAscii_of_isPlain hword), List.length_map,
        List.length_map] at hlength
      rwa [List.length_append, hlength] at hplaces
    · rw [List.map_cons, hdrop, ← htext]

end Finding

end Pattern

/-! ### Rules of the user's own -/

open Settings (ReadsRule Sound RuleMembers value?)

/-- A rule of the user's own as it stands in settings. -/
def ownRule (id pattern message : String) (severity : Severity) : Json :=
  .object [("id", .string id), ("pattern", .string pattern), ("message", .string message),
    ("severity", .string severity.name)]

section Own

variable {custom : List Json} {overrides : List (String × Json)} {set : RuleSet} {word : String}

/-- A set of rules that have not been checked is built from what they are read as. -/
lemma build_of_ofJson [Pattern.Platform] (h : RuleSet.ofJson custom overrides = .ok set) :
    ∃ own severities, List.Forall₂ ReadsRule custom own ∧
      RuleSet.build own severities = .ok set := by
  obtain ⟨own, hown, h⟩ := bind_eq_ok_iff.mp h
  obtain ⟨extended, hextended, h⟩ := bind_eq_ok_iff.mp h
  obtain ⟨severities, _, h⟩ := bind_eq_ok_iff.mp h
  refine ⟨own, severities, Settings.readRulesFrom_eq_ok_iff.mp hown, ?_⟩
  exact bind_eq_ok_iff.mpr ⟨extended, hextended, h⟩

/-- The rule that is made from a rule of the user's own stands behind the built-in ones. -/
lemma exists_rule_of_own [Pattern.Platform] (hset : RuleSet.ofJson custom overrides = .ok set)
    {i : Nat}
    {members : List (String × Json)} (hcustom : custom[i]? = some (.object members))
    (hpattern : value? members ["pattern"] = some (.string word)) :
    ∃ rule, set.rules[Rule.builtin.length + i]? = some rule ∧
      Pattern.read patternFlags word = .ok rule.pattern := by
  obtain ⟨own, severities, hread, hbuild⟩ := build_of_ofJson hset
  obtain ⟨-, rfl⟩ := build_eq_ok_iff.mp hbuild
  obtain ⟨hi, hat⟩ := List.getElem?_eq_some_iff.mp hcustom
  obtain ⟨hlength, hreads⟩ := List.forall₂_iff_get.mp hread
  obtain ⟨hsound, _, hmembers, hrule⟩ := hreads i hi (hlength ▸ hi)
  rw [List.get_eq_getElem, hat] at hmembers
  obtain rfl := Json.object.inj hmembers
  have hword := hpattern.symm.trans hrule.pattern
  obtain rfl := Json.string.inj (Option.some.inj hword)
  refine ⟨RuleSet.overrideRule severities (RuleSet.ofCustom (own.get ⟨i, hlength ▸ hi⟩)), ?_,
    hsound.pattern⟩
  have hother : i < own.length := hlength ▸ hi
  simp [RuleSet.override, RuleSet.extended, hother]

/-- A rule with a plain word as its pattern is accepted, whatever else it holds. -/
lemma ofJson_ownRule [Pattern.Platform] (hfull : word ≠ "") (hword : IsPlain word.toList)
    {id message : String}
    (hid : id ≠ "") (hfresh : id ∉ RuleSet.default.ids) (hmessage : message ≠ "")
    (severity : Severity) :
    ∃ set, RuleSet.ofJson [ownRule id word message severity] [] = .ok set := by
  let own : CustomRule :=
    ⟨id, ⟨word, .sequence (anyCaseMode.word word.toList)⟩, message, severity, none, none, none⟩
  have hsound : Sound own := ⟨hid, hfull, hmessage, Pattern.read_of_isPlain hword⟩
  have hknown : Settings.refuseUnknown (fun name => ⟨[], none, [.name name]⟩) Settings.ruleFields
      [("id", .string id), ("pattern", .string word), ("message", .string message),
        ("severity", .string severity.name)] = .ok () := rfl
  have hmembers : RuleMembers [("id", .string id), ("pattern", .string word),
      ("message", .string message), ("severity", .string severity.name)] own :=
    ⟨rfl, rfl, rfl, rfl, rfl, rfl, rfl, Settings.refuseUnknown_eq_ok_iff.mp hknown⟩
  have hread : Settings.readRules [ownRule id word message severity] = .ok [own] :=
    Settings.readRulesFrom_eq_ok_iff.mpr (.cons ⟨hsound, _, rfl, hmembers⟩ .nil)
  have hextend : RuleSet.default.extend [own] = .ok (RuleSet.extended [own]) := by
    have hduplicate : RuleSet.duplicate? RuleSet.default.ids 0 [own] = none :=
      (duplicate?_eq_none_iff _ 0 _).mpr
        ⟨List.nodup_singleton _, List.forall_mem_singleton.mpr hfresh⟩
    unfold RuleSet.extend
    rw [hduplicate]
    rfl
  exact ⟨_, bind_eq_ok_iff.mpr ⟨_, hread, bind_eq_ok_iff.mpr ⟨_, hextend, rfl⟩⟩⟩

end Own

/-- A rule whose pattern is a plain word can always be made, and on a line of ASCII characters it
has one match for each place of the word, from left to right, as a search without case tells them
that goes on behind each of them. -/
theorem plain_words_found [Pattern.Platform] {word : String} (hfull : word ≠ "")
    (hword : IsPlain word.toList) :
    (∀ id message severity, id ≠ "" → id ∉ RuleSet.default.ids → message ≠ "" →
      ∃ set, RuleSet.ofJson [ownRule id word message severity] [] = .ok set) ∧
    ∀ custom overrides set, RuleSet.ofJson custom overrides = .ok set → ∀ (i : Nat) members,
      custom[i]? = some (.object members) → value? members ["pattern"] = some (.string word) →
      ∃ rule, set.rules[Rule.builtin.length + i]? = some rule ∧
        ∀ file number line, IsAscii line → ∃ places,
          (∀ others, WordPlaces word.toList line 0 others ↔ others = places) ∧
          Scan.ruleMatches file number line rule = places.map fun place : Nat =>
            ⟨file, number, place + 1,
              String.ofList ((line.drop place).take word.toList.length), rule.id⟩ := by
  refine ⟨fun id message severity hid hfresh hmessage =>
    ofJson_ownRule hfull hword hid hfresh hmessage severity, ?_⟩
  intro custom overrides set hset i members hcustom hpattern
  obtain ⟨rule, hrule, hread⟩ := exists_rule_of_own hset hcustom hpattern
  refine ⟨rule, hrule, ?_⟩
  intro file number line hline
  have hnode : rule.pattern.node = .sequence (anyCaseMode.word word.toList) := by
    rw [Pattern.read_of_isPlain hword] at hread
    rw [← Except.ok.inj hread]
  have hfullList : word.toList ≠ [] := mt String.toList_eq_nil_iff.mp hfull
  obtain ⟨places, hplaces, hfound⟩ := Pattern.wordPlaces_of_scans hword hfullList hnode hline
    (Pattern.occurrences_scans rule.pattern line) rfl
  refine ⟨places, fun others => ⟨hplaces.unique, fun heq => heq ▸ hplaces⟩, ?_⟩
  unfold Scan.ruleMatches
  rw [hfound, List.map_map]
  rfl

/-- The word stands at overlapping places, of which the first one is found. -/
theorem plain_words_found_overlap :
    letI := Pattern.Platform.withRoom 100
    ∃ set, RuleSet.ofJson [ownRule "twice" "aa" "m" .low] [] = .ok set ∧
      ∃ rule, set.rules[Rule.builtin.length]? = some rule ∧
        Scan.ruleMatches "a.ts" 1 "aAa AA".toList rule =
          [⟨"a.ts", 1, 1, "aA", rule.id⟩, ⟨"a.ts", 1, 5, "AA", rule.id⟩] := by
  let := Pattern.Platform.withRoom 100
  have hword : IsPlain "aa".toList := List.forall_iff_forall_mem.mp (by decide)
  have hline : IsAscii "aAa AA".toList := List.forall_iff_forall_mem.mp (by decide)
  have hbetween : ∀ place < 4, 2 ≤ place → ¬ ReadsAt "aa".toList "aAa AA".toList place := by
    decide +kernel
  have hbehind : ∀ place, 6 ≤ place → ¬ ReadsAt "aa".toList "aAa AA".toList place := by
    intro place hle
    unfold ReadsAt
    rw [List.drop_eq_nil_of_le hle]
    decide
  have hplaces : WordPlaces "aa".toList "aAa AA".toList 0 [0, 4] :=
    .next (Nat.le_refl 0) (by decide +kernel) (fun _ _ hlt => absurd hlt (Nat.not_lt_zero _))
      (.next (by decide) (by decide +kernel) (fun place hle hlt => hbetween place hlt hle)
        (.done hbehind))
  obtain ⟨haccepted, hfound⟩ := plain_words_found (by decide : "aa" ≠ "") hword
  obtain ⟨set, hset⟩ := haccepted "twice" "m" .low (by decide) (by decide +kernel) (by decide)
  obtain ⟨rule, hrule, hmatches⟩ := hfound _ _ set hset 0 _ rfl rfl
  obtain ⟨places, hunique, heq⟩ := hmatches "a.ts" 1 _ hline
  obtain rfl := (hunique _).mp hplaces
  exact ⟨set, hset, rule, hrule, heq⟩

end SlopLint
