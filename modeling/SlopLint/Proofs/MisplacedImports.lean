import Mathlib.Tactic.Lemma
import SlopLint.Proofs.FindingOrigins
import SlopLint.Proofs.LetterFolding
import SlopLint.Proofs.PatternForms

/-!
# Misplaced imports

With the built-in rules a run is critical when a line imports from `react` what `react` does not
export. The two patterns that look for it are compared with a description of such a line, and no
exception, no other rule and no finding about nesting has a say in the answer, apart from test
files in a quiet run.
-/

namespace SlopLint

open Text Pattern

namespace MisplacedImport

/-- Names that come with the framework's components. -/
def componentNames : List String :=
  ["useRouter", "useParams", "useSearchParams", "Link", "Image", "Script"]

/-- Names that pages export. -/
def pageNames : List String :=
  ["getServerSideProps", "getStaticProps", "getStaticPaths"]

/-! ### The form of an import -/

/-- A text that spells a word, case not counting. -/
def Spells (word : String) (text : List Char) : Prop :=
  anyCaseMode.Spells word.toList text

/-- The start of an import: the key word, blanks and the opening brace. -/
def IsOpening (text : List Char) : Prop :=
  ∃ keyword gap, text = keyword ++ gap ++ ['\x7b'] ∧ Spells "import" keyword ∧
    ∀ c ∈ gap, isBlank c = true

/-- The end of an import: the closing brace, the key word between blanks, and the name of the
package between quotes. -/
def IsClosing (text : List Char) : Prop :=
  ∃ gap keyword gap' quote package quote',
    text = '\x7d' :: gap ++ keyword ++ gap' ++ quote :: package ++ [quote'] ∧
    (∀ c ∈ gap, isBlank c = true) ∧ Spells "from" keyword ∧ (∀ c ∈ gap', isBlank c = true) ∧
    (quote = '\'' ∨ quote = '"') ∧ Spells "react" package ∧ (quote' = '\'' ∨ quote' = '"')

/-- A list of imported names that holds a name as a word of its own. -/
def Names (name : String) (body : List Char) : Prop :=
  ∃ left found right, body = left ++ found ++ right ∧ Spells name found ∧
    (∀ c ∈ left.getLast?, isWord c = false) ∧ ∀ c ∈ right.head?, isWord c = false

/-- A line that imports a name from the package. -/
def Imports (name : String) (line : List Char) : Prop :=
  ∃ before opening body closing after, line = before ++ opening ++ body ++ closing ++ after ∧
    IsOpening opening ∧ '\x7d' ∉ body ∧ Names name body ∧ IsClosing closing

/-! ### The patterns by their pieces -/

/-- A character of the patterns. -/
def piece (test : CharTest) : Node := .char anyCaseMode test

/-- A character repeated at will. -/
def star (test : CharTest) : Node := .loop .greedy 0 none (piece test)

def blank : CharTest := .category false .blank

def openBrace : CharTest := .code false 123

def closeBrace : CharTest := .code false 125

def insideBraces : CharTest := .code true 125

def quoteMark : CharTest := .set false [.code 39, .code 34]

def boundary : Node := .anchor (.wordBoundary false false)

def openingNodes : List Node :=
  anyCaseMode.word "import".toList ++ [star blank, piece openBrace]

def bodyNodes (names : List String) : List Node :=
  [star insideBraces, boundary,
    .choice (names.map fun name => .sequence (anyCaseMode.word name.toList)), boundary,
    star insideBraces]

def closingNodes : List Node :=
  piece closeBrace :: star blank :: (anyCaseMode.word "from".toList ++
    star blank :: piece quoteMark :: (anyCaseMode.word "react".toList ++ [piece quoteMark]))

/-- The pattern for a list of names. -/
def node (names : List String) : Node :=
  .sequence (openingNodes ++ (bodyNodes names ++ closingNodes))

lemma componentPattern_node :
    Rule.Builtin.hallucinatedReactImport.pattern.node = node componentNames := by
  decide +kernel

lemma pagePattern_node :
    Rule.Builtin.hallucinatedNextImport.pattern.node = node pageNames := by
  decide +kernel

lemma isRegular_component : (node componentNames).isRegular = true := by decide

lemma isRegular_page : (node pageNames).isRegular = true := by decide

/-! ### What the pieces take -/

lemma passes_code {n : Nat} (negated : Bool) (hcase : Folding.unicode.isCased n = false)
    (c : Char) : (CharTest.code negated n).passes anyCaseMode c = ((c.toNat == n) != negated) := by
  have hcode : anyCaseMode.takesCode n c = (c.toNat == n) := by
    have hfolding : anyCaseMode.folding = Folding.unicode := rfl
    unfold Mode.takesCode
    rw [hfolding, hcase, Bool.and_false, if_neg Bool.false_ne_true]
  change (anyCaseMode.takesCode n c != negated) = _
  rw [hcode]

lemma passes_blank (c : Char) : blank.passes anyCaseMode c = isBlank c :=
  Bool.bne_false (isBlank c)

lemma passes_openBrace {c : Char} : openBrace.passes anyCaseMode c = true ↔ c = '\x7b' := by
  rw [openBrace, passes_code false (by decide), Bool.bne_false, beq_iff_eq]
  exact Char.toNat_inj (d := '\x7b')

lemma passes_closeBrace {c : Char} : closeBrace.passes anyCaseMode c = true ↔ c = '\x7d' := by
  rw [closeBrace, passes_code false (by decide), Bool.bne_false, beq_iff_eq]
  exact Char.toNat_inj (d := '\x7d')

lemma passes_insideBraces {c : Char} : insideBraces.passes anyCaseMode c = true ↔ c ≠ '\x7d' := by
  rw [insideBraces, passes_code true (by decide), Bool.bne_true, Bool.not_eq_true',
    beq_eq_false_iff_ne]
  exact not_congr (Char.toNat_inj (d := '\x7d'))

lemma passes_quoteMark {c : Char} :
    quoteMark.passes anyCaseMode c = true ↔ c = '\'' ∨ c = '"' := by
  have hitems : anyCaseMode.takesItems [.code 39, .code 34] c = (c.toNat == 39 || c.toNat == 34) := by
    have hcase : (anyCaseMode.ignoreCase &&
        [SetItem.code 39, SetItem.code 34].any (·.isCased anyCaseMode.folding)) = false := by
      decide
    unfold Mode.takesItems
    rw [hcase, if_neg Bool.false_ne_true, List.any_cons, List.any_cons, List.any_nil, Bool.or_false]
    rfl
  change (anyCaseMode.takesItems [.code 39, .code 34] c != false) = true ↔ _
  rw [hitems, Bool.bne_false, Bool.or_eq_true, beq_iff_eq, beq_iff_eq]
  exact or_congr (Char.toNat_inj (d := '\'')) (Char.toNat_inj (d := '"'))

section Pieces

variable {before text after : List Char}

lemma takes_blanks_cons {nodes : List Node} :
    (Node.sequence (star blank :: nodes)).takes before text after ↔
      ∃ gap rest, text = gap ++ rest ∧ (∀ c ∈ gap, isBlank c = true) ∧
        (Node.sequence nodes).takes (gap.reverse ++ before) rest after := by
  unfold star piece
  simp only [takes_star_cons, passes_blank]

lemma takes_inside_cons {nodes : List Node} :
    (Node.sequence (star insideBraces :: nodes)).takes before text after ↔
      ∃ run rest, text = run ++ rest ∧ '\x7d' ∉ run ∧
        (Node.sequence nodes).takes (run.reverse ++ before) rest after := by
  have hrun : ∀ run : List Char,
      (∀ c ∈ run, insideBraces.passes anyCaseMode c = true) ↔ '\x7d' ∉ run := by
    intro run
    simp only [passes_insideBraces]
    constructor
    · intro h hmem
      exact h _ hmem rfl
    · rintro h c hc rfl
      exact h hc
  unfold star piece
  simp only [takes_star_cons, hrun]

lemma takes_opening :
    (Node.sequence openingNodes).takes before text after ↔ IsOpening text := by
  unfold openingNodes
  rw [takes_word_append]
  constructor
  · rintro ⟨keyword, _, rfl, hkeyword, hrest⟩
    obtain ⟨gap, _, rfl, hgap, hrest⟩ := takes_blanks_cons.mp hrest
    obtain ⟨c, _, rfl, hc, rfl⟩ := takes_char_cons.mp hrest
    obtain rfl := passes_openBrace.mp hc
    exact ⟨keyword, gap, (List.append_assoc _ _ _).symm, hkeyword, hgap⟩
  · rintro ⟨keyword, gap, rfl, hkeyword, hgap⟩
    refine ⟨keyword, gap ++ ['\x7b'], List.append_assoc _ _ _, hkeyword, ?_⟩
    apply takes_blanks_cons.mpr
    refine ⟨gap, ['\x7b'], rfl, hgap, ?_⟩
    apply takes_char_cons.mpr
    exact ⟨'\x7b', [], rfl, passes_openBrace.mpr rfl, rfl⟩

lemma takes_closing :
    (Node.sequence closingNodes).takes before text after ↔ IsClosing text := by
  unfold closingNodes
  constructor
  · intro h
    obtain ⟨c, _, rfl, hc, hrest⟩ := takes_char_cons.mp h
    obtain rfl := passes_closeBrace.mp hc
    obtain ⟨gap, _, rfl, hgap, hrest⟩ := takes_blanks_cons.mp hrest
    obtain ⟨keyword, _, rfl, hkeyword, hrest⟩ := takes_word_append.mp hrest
    obtain ⟨gap', _, rfl, hgap', hrest⟩ := takes_blanks_cons.mp hrest
    obtain ⟨quote, _, rfl, hquote, hrest⟩ := takes_char_cons.mp hrest
    obtain ⟨package, _, rfl, hpackage, hrest⟩ := takes_word_append.mp hrest
    obtain ⟨quote', _, rfl, hquote', rfl⟩ := takes_char_cons.mp hrest
    refine ⟨gap, keyword, gap', quote, package, quote', ?_, hgap, hkeyword, hgap',
      passes_quoteMark.mp hquote, hpackage, passes_quoteMark.mp hquote'⟩
    simp only [List.append_assoc, List.cons_append]
  · rintro ⟨gap, keyword, gap', quote, package, quote', rfl, hgap, hkeyword, hgap', hquote,
      hpackage, hquote'⟩
    simp only [List.append_assoc, List.cons_append]
    apply takes_char_cons.mpr
    refine ⟨'\x7d', _, rfl, passes_closeBrace.mpr rfl, ?_⟩
    apply takes_blanks_cons.mpr
    refine ⟨gap, _, rfl, hgap, ?_⟩
    apply takes_word_append.mpr
    refine ⟨keyword, _, rfl, hkeyword, ?_⟩
    apply takes_blanks_cons.mpr
    refine ⟨gap', _, rfl, hgap', ?_⟩
    apply takes_char_cons.mpr
    refine ⟨quote, _, rfl, passes_quoteMark.mpr hquote, ?_⟩
    apply takes_word_append.mpr
    refine ⟨package, _, rfl, hpackage, ?_⟩
    apply takes_char_cons.mpr
    exact ⟨quote', [], rfl, passes_quoteMark.mpr hquote', rfl⟩

end Pieces

/-! ### Names as words of their own -/

/-- Whether a name is made of letters. -/
def isLetters (name : String) : Bool :=
  !name.toList.isEmpty && name.toList.all Char.isAlpha

lemma isWord_of_spells {name : String} {text : List Char} (hletters : isLetters name = true)
    (h : Spells name text) : text ≠ [] ∧ ∀ c ∈ text, isWord c = true := by
  simp only [isLetters, Bool.and_eq_true, Bool.not_eq_true', List.isEmpty_eq_false_iff,
    List.all_eq_true] at hletters
  obtain ⟨hne, halpha⟩ := hletters
  unfold Spells Mode.Spells at h
  generalize name.toList = letters at hne halpha h
  constructor
  · rintro rfl
    cases h
    exact hne rfl
  · clear hne
    induction h with
    | nil => simp
    | cons htakes _ ih =>
      intro c hc
      rcases List.mem_cons.mp hc with rfl | hc
      · exact isWord_of_takesCode (halpha _ List.mem_cons_self) htakes
      · exact ih (fun d hd => halpha d (List.mem_cons_of_mem _ hd)) c hc

lemma any_head?_append {rest : List Char} (run : List Char) (h : rest.head?.any isWord = false) :
    (run ++ rest).head?.any isWord = false ↔ ∀ c ∈ run.head?, isWord c = false := by
  cases run with
  | nil => simpa using h
  | cons c run => simp

lemma any_head?_word {run : List Char} (rest : List Char) (hne : run ≠ [])
    (hword : ∀ c ∈ run, isWord c = true) : (run ++ rest).head?.any isWord = true := by
  cases run with
  | nil => exact absurd rfl hne
  | cons c run => exact hword c List.mem_cons_self

lemma takes_names {names : List String} (hne : names ≠ []) {before text after : List Char} :
    (Node.choice (names.map fun name => .sequence (anyCaseMode.word name.toList))).takes
        before text after ↔ ∃ name ∈ names, Spells name text := by
  rw [takes_choice (by simpa using hne)]
  simp only [List.mem_map, exists_exists_and_eq_and, takes_word]
  rfl

section Boundaries

variable {found before after : List Char}

lemma boundary_start_iff (left : List Char) (hfull : found ≠ [])
    (hword : ∀ c ∈ found, isWord c = true) (hbefore : before.head?.any isWord = false) :
    (left.reverse ++ before).head?.any isWord ≠ (found ++ after).head?.any isWord ↔
      ∀ c ∈ left.getLast?, isWord c = false := by
  rw [any_head?_word _ hfull hword, ne_eq, Bool.not_eq_true, any_head?_append _ hbefore,
    List.head?_reverse]

lemma boundary_stop_iff (right : List Char) (hfull : found ≠ [])
    (hword : ∀ c ∈ found, isWord c = true) (hafter : after.head?.any isWord = false) :
    (found.reverse ++ before).head?.any isWord ≠ (right ++ after).head?.any isWord ↔
      ∀ c ∈ right.head?, isWord c = false := by
  rw [any_head?_word _ (by simpa using hfull) (by simpa using hword), ne_comm, ne_eq,
    Bool.not_eq_true, any_head?_append _ hafter]

end Boundaries

/-- Between braces, the boundaries around a name are those of a word of its own. -/
lemma takes_body {names : List String} (hne : names ≠ []) (hletters : names.all isLetters = true)
    {before text after : List Char} (hbefore : before.head?.any isWord = false)
    (hafter : after.head?.any isWord = false) :
    (Node.sequence (bodyNodes names)).takes before text after ↔
      '\x7d' ∉ text ∧ ∃ name ∈ names, Names name text := by
  have hall := List.all_eq_true.mp hletters
  have hbrace : ∀ {name found}, name ∈ names → Spells name found → '\x7d' ∉ found := by
    intro name found hname hspells hmem
    have hword := (isWord_of_spells (hall name hname) hspells).2 _ hmem
    exact absurd hword (by decide)
  -- The name is made of word characters, so a boundary beside it asks for no other one.
  unfold bodyNodes boundary
  constructor
  · intro h
    obtain ⟨left, _, rfl, hleft, hrest⟩ := takes_inside_cons.mp h
    obtain ⟨hstart, hrest⟩ := takes_boundary_cons.mp hrest
    obtain ⟨found, _, rfl, hfound, hrest⟩ := (takes_sequence_cons _ _).mp hrest
    obtain ⟨hstop, hrest⟩ := takes_boundary_cons.mp hrest
    obtain ⟨right, _, rfl, hright, rfl⟩ := takes_inside_cons.mp hrest
    obtain ⟨name, hname, hspells⟩ := (takes_names hne).mp hfound
    obtain ⟨hfull, hword⟩ := isWord_of_spells (hall name hname) hspells
    simp only [List.append_nil, List.append_assoc] at hstart hstop ⊢
    rw [boundary_start_iff left hfull hword hbefore] at hstart
    rw [boundary_stop_iff right hfull hword hafter] at hstop
    refine ⟨?_, name, hname, left, found, right, (List.append_assoc _ _ _).symm, hspells, hstart,
      hstop⟩
    simp only [List.mem_append, not_or]
    exact ⟨hleft, hbrace hname hspells, hright⟩
  · rintro ⟨hinside, name, hname, left, found, right, rfl, hspells, hstart, hstop⟩
    obtain ⟨hfull, hword⟩ := isWord_of_spells (hall name hname) hspells
    simp only [List.append_assoc, List.mem_append, not_or] at hinside ⊢
    apply takes_inside_cons.mpr
    refine ⟨left, found ++ right, rfl, hinside.1, ?_⟩
    apply takes_boundary_cons.mpr
    constructor
    · rw [List.append_assoc]
      exact (boundary_start_iff left hfull hword hbefore).mpr hstart
    rw [takes_sequence_cons]
    refine ⟨found, right, rfl, (takes_names hne).mpr ⟨name, hname, hspells⟩, ?_⟩
    apply takes_boundary_cons.mpr
    constructor
    · exact (boundary_stop_iff right hfull hword hafter).mpr hstop
    apply takes_inside_cons.mpr
    exact ⟨right, [], (List.append_nil right).symm, hinside.2.2, rfl⟩

/-- The pattern for a list of names takes the imports of one of them. -/
lemma takes_node {names : List String} (hne : names ≠ [])
    (hletters : names.all isLetters = true) {before text after : List Char} :
    (node names).takes before text after ↔
      ∃ opening body closing, text = opening ++ (body ++ closing) ∧ IsOpening opening ∧
        ('\x7d' ∉ body ∧ ∃ name ∈ names, Names name body) ∧ IsClosing closing := by
  have hopen : ∀ {opening}, IsOpening opening →
      (opening.reverse ++ before).head?.any isWord = false := by
    rintro _ ⟨keyword, gap, rfl, _, _⟩
    rw [List.reverse_append]
    exact (by decide : isWord '\x7b' = false)
  have hclose : ∀ {closing}, IsClosing closing → (closing ++ after).head?.any isWord = false := by
    rintro _ ⟨gap, keyword, gap', quote, package, quote', rfl, _⟩
    exact (by decide : isWord '\x7d' = false)
  unfold node
  rw [takes_sequence_append]
  constructor
  · rintro ⟨opening, _, rfl, hopening, hrest⟩
    obtain ⟨body, closing, rfl, hbody, hclosing⟩ := takes_sequence_append.mp hrest
    have hopening := takes_opening.mp hopening
    have hclosing := takes_closing.mp hclosing
    exact ⟨opening, body, closing, rfl, hopening,
      (takes_body hne hletters (hopen hopening) (hclose hclosing)).mp hbody, hclosing⟩
  · rintro ⟨opening, body, closing, rfl, hopening, hbody, hclosing⟩
    refine ⟨opening, body ++ closing, rfl, takes_opening.mpr hopening, ?_⟩
    rw [takes_sequence_append]
    exact ⟨body, closing, rfl,
      (takes_body hne hletters (hopen hopening) (hclose hclosing)).mpr hbody,
      takes_closing.mpr hclosing⟩

/-- A pattern for a list of names occurs on the lines that import one of them. -/
theorem occurrences_ne_nil_iff_imports {names : List String} {pattern : Pattern}
    (hnode : pattern.node = node names) (hregular : (node names).isRegular = true)
    (hne : names ≠ []) (hletters : names.all isLetters = true) (line : List Char) :
    pattern.occurrences line ≠ [] ↔ ∃ name ∈ names, Imports name line := by
  have hmoves : ∀ before after, ¬ pattern.node.takes before [] after := by
    intro before after h
    rw [hnode, takes_node hne hletters] at h
    obtain ⟨opening, body, closing, hnil, ⟨keyword, gap, rfl, _⟩, _⟩ := h
    simp at hnil
  rw [occurrences_ne_nil_iff pattern (hnode ▸ hregular) hmoves, hnode]
  constructor
  · rintro ⟨before, _, after, rfl, htakes⟩
    obtain ⟨opening, body, closing, rfl, hopening, ⟨hinside, name, hname, hnames⟩, hclosing⟩ :=
      (takes_node hne hletters).mp htakes
    refine ⟨name, hname, before, opening, body, closing, after, ?_, hopening, hinside, hnames,
      hclosing⟩
    simp only [List.append_assoc]
  · rintro ⟨name, hname, before, opening, body, closing, after, rfl, hopening, hinside, hnames,
      hclosing⟩
    refine ⟨before, opening ++ (body ++ closing), after, ?_, ?_⟩
    · simp only [List.append_assoc]
    · exact (takes_node hne hletters).mpr
        ⟨opening, body, closing, rfl, hopening, ⟨hinside, name, hname, hnames⟩, hclosing⟩

/-! ### Critical findings -/

/-- The critical rules are the two about misplaced imports. -/
lemma critical_builtin : Rule.builtin.filter (·.severity == .critical) =
    [Rule.Builtin.hallucinatedReactImport, Rule.Builtin.hallucinatedNextImport] := rfl

/-- A rule without exceptions of its own counts everywhere but in test files of a quiet run. -/
lemma ruleIssues_ne_nil_iff {rule : Rule} {kinds : FileKinds} {quiet : Bool} {file : String}
    {lines : List Line} {number : Int} {line : Line}
    (haccepts : ∀ site, accepts rule.subject kinds quiet site = .ok (!(quiet && kinds.isTest))) :
    Scan.ruleIssues kinds quiet file lines number line rule ≠ [] ↔
      (quiet && kinds.isTest) = false ∧ rule.pattern.occurrences line ≠ [] := by
  have hcounts : Scan.counts rule kinds quiet lines = fun _ => !(quiet && kinds.isTest) := by
    funext found
    rw [Scan.counts, haccepts]
  have hfilter : Scan.ruleIssues kinds quiet file lines number line rule =
      if (quiet && kinds.isTest) = true then []
      else (Scan.ruleMatches file number line rule).map (Scan.toIssue rule) := by
    unfold Scan.ruleIssues
    rw [hcounts]
    cases quiet && kinds.isTest <;> simp
  rw [hfilter]
  cases quiet && kinds.isTest <;> simp [Scan.ruleMatches]

/-- A subject without exceptions is left out in test files of a quiet run, and only there. -/
lemma accepts_of_plain {subject : Subject} (kinds : FileKinds) (quiet : Bool) (site : Site)
    (htests : subject.skipInTests = false) (hmocks : subject.skipInMocks = false)
    (hpermissive : Rule.isPermissive subject.id = false)
    (hcast : Rule.isUnsafe subject.id = false) (hplain : site.isExcused subject.id = .ok false)
    (hcall : subject.id ≠ "missing_error_handling")
    (hlog : subject.id ≠ "production_console_log") :
    accepts subject kinds quiet site = .ok (!(quiet && kinds.isTest)) := by
  have hquiet : (quiet && subject.id != "production_console_log" && kinds.isTest) =
      (quiet && kinds.isTest) := by
    rw [bne_iff_ne.mpr hlog, Bool.and_true]
  unfold accepts
  rw [htests, hmocks, hpermissive, hcast, hplain, hquiet, if_neg hcall]
  cases quiet && kinds.isTest <;> rfl

lemma accepts_critical {rule : Rule} (h : rule ∈ Rule.builtin.filter (·.severity == .critical))
    (kinds : FileKinds) (quiet : Bool) (site : Site) :
    accepts rule.subject kinds quiet site = .ok (!(quiet && kinds.isTest)) := by
  rw [critical_builtin] at h
  rcases List.mem_pair.mp h with rfl | rfl
  · exact accepts_of_plain kinds quiet site rfl rfl (by decide) (by decide) rfl
      (by decide) (by decide)
  · exact accepts_of_plain kinds quiet site rfl rfl (by decide) (by decide) rfl
      (by decide) (by decide)

/-- What is found on a line is critical when one of the critical rules has found it. -/
lemma exists_critical_origin_iff {quiet : Bool} {file : String} {lines : List Line} {number : Int}
    {line : Line} :
    (∃ origin ∈ RuleSet.default.origins, origin.severity = .critical ∧
        origin.findings quiet file lines number line ≠ []) ↔
      ∃ rule ∈ Rule.builtin.filter (·.severity == .critical),
        Scan.ruleIssues (.ofPath file) quiet file lines number line rule ≠ [] := by
  constructor
  · rintro ⟨origin, horigin, hcritical, hfound⟩
    rcases List.mem_append.mp horigin with hmapped | hnesting
    · obtain ⟨rule, hrule, rfl⟩ := List.mem_map.mp hmapped
      exact ⟨rule, List.mem_filter.mpr ⟨hrule, beq_iff_eq.mpr hcritical⟩, hfound⟩
    · obtain rfl := List.mem_singleton.mp hnesting
      cases hcritical
  · rintro ⟨rule, hrule, hfound⟩
    obtain ⟨hmem, hcritical⟩ := List.mem_filter.mp hrule
    exact ⟨.rule rule, List.mem_append_left _ (List.mem_map.mpr ⟨rule, hmem, rfl⟩),
      beq_iff_eq.mp hcritical, hfound⟩

/-- The critical rules occur on the lines that import what the package does not export. -/
lemma exists_critical_occurrence_iff (line : Line) :
    (∃ rule ∈ Rule.builtin.filter (·.severity == .critical), rule.pattern.occurrences line ≠ []) ↔
      ∃ name ∈ componentNames ++ pageNames, Imports name line := by
  have hcomponent := occurrences_ne_nil_iff_imports componentPattern_node isRegular_component
    (by decide) (by decide) line
  have hpage := occurrences_ne_nil_iff_imports pagePattern_node isRegular_page
    (by decide) (by decide) line
  rw [critical_builtin]
  constructor
  · rintro ⟨rule, hrule, hoccurs⟩
    rcases List.mem_pair.mp hrule with rfl | rfl
    · obtain ⟨name, hname, himports⟩ := hcomponent.mp hoccurs
      exact ⟨name, List.mem_append_left _ hname, himports⟩
    · obtain ⟨name, hname, himports⟩ := hpage.mp hoccurs
      exact ⟨name, List.mem_append_right _ hname, himports⟩
  · rintro ⟨name, hname, himports⟩
    rcases List.mem_append.mp hname with hname | hname
    · exact ⟨_, List.mem_cons_self, hcomponent.mpr ⟨name, hname, himports⟩⟩
    · exact ⟨_, List.mem_cons_of_mem _ List.mem_cons_self, hpage.mpr ⟨name, hname, himports⟩⟩

/-- On a line something critical is found when it imports what the package does not export. -/
lemma exists_critical_iff {quiet : Bool} {file : String} {lines : List Line} {number : Int}
    {line : Line} :
    (∃ origin ∈ RuleSet.default.origins, origin.severity = .critical ∧
        origin.findings quiet file lines number line ≠ []) ↔
      (quiet && FileKind.isTest file) = false ∧
        ∃ name ∈ componentNames ++ pageNames, Imports name line := by
  rw [exists_critical_origin_iff, ← exists_critical_occurrence_iff]
  constructor
  · rintro ⟨rule, hrule, hfound⟩
    rw [ruleIssues_ne_nil_iff (accepts_critical hrule _ _)] at hfound
    exact ⟨hfound.1, rule, hrule, hfound.2⟩
  · rintro ⟨hquiet, rule, hrule, hoccurs⟩
    exact ⟨rule, hrule,
      (ruleIssues_ne_nil_iff (accepts_critical hrule _ _)).mpr ⟨hquiet, hoccurs⟩⟩

end MisplacedImport

open MisplacedImport in
/-- Without settings a run is critical when a file, other than a test file of a quiet run, has a
line that imports from the package a name it does not export. -/
theorem hasCritical_iff_misplacedImport (quiet : Bool) (files : List SourceFile) :
    ∃ result, Detection.run none quiet files = .ok result ∧
      (result.hasCritical = true ↔
        ∃ file ∈ files, ¬ (quiet = true ∧ FileKind.isTest file.path = true) ∧
          ∃ line ∈ Text.lines file.content.toList,
            ∃ name ∈ componentNames ++ pageNames, Imports name line) := by
  refine ⟨.scan .default quiet files, rfl, ?_⟩
  have hquiet : ∀ path, ¬ (quiet = true ∧ FileKind.isTest path = true) ↔
      (quiet && FileKind.isTest path) = false := by
    intro path
    rw [← Bool.and_eq_true, Bool.not_eq_true]
  simp only [hquiet]
  unfold Detection.hasCritical Detection.scan Detection.ofIssues Detection.filesIssues
  rw [List.any_eq_true]
  constructor
  · rintro ⟨issue, hissue, hcritical⟩
    obtain ⟨file, hfile, hissue⟩ := List.mem_flatMap.mp hissue
    obtain ⟨k, origin, horigin, hat⟩ := mem_fileIssues.mp hissue
    obtain ⟨line, hline, hfound⟩ := mem_findingsAt.mp hat
    have hseverity : origin.severity = .critical := by
      apply Severity.name_injective
      rw [← severity_of_mem_findings hfound]
      exact beq_iff_eq.mp hcritical
    obtain ⟨hcounts, himports⟩ := exists_critical_iff.mp
      ⟨origin, horigin, hseverity, List.ne_nil_of_mem hfound⟩
    exact ⟨file, hfile, hcounts, line, List.mem_of_getElem? hline, himports⟩
  · rintro ⟨file, hfile, hcounts, line, hline, himports⟩
    obtain ⟨k, hk⟩ := List.mem_iff_getElem?.mp hline
    obtain ⟨origin, horigin, hseverity, hfound⟩ := exists_critical_iff.mpr ⟨hcounts, himports⟩
    obtain ⟨issue, hissue⟩ := List.exists_mem_of_ne_nil _ hfound
    refine ⟨issue, List.mem_flatMap.mpr ⟨file, hfile, ?_⟩, ?_⟩
    · exact mem_fileIssues.mpr ⟨k, origin, horigin, mem_findingsAt.mpr ⟨line, hk, hissue⟩⟩
    · rw [severity_of_mem_findings hissue, hseverity]
      exact beq_iff_eq.mpr rfl

end SlopLint
