import SlopLint.Proofs.EncodedTexts
import SlopLint.Proofs.FailingSteps
import SlopLint.SourceTree.Reading

/-!
# Line breaks

A text in which carriage returns stand before line feeds only has the lines it has without them.
Reading such a text takes just these carriage returns away, so a run finds the same in the files
that are read as in the texts as they are.
-/

namespace SlopLint

namespace Text

/-! ### Paired carriage returns -/

/-- Right behind each carriage return stands a line feed. -/
def ReturnsPaired (text : List Char) : Prop :=
  ∀ before after, text = before ++ '\r' :: after → after.head? = some '\n'

lemma returnsPaired_nil : ReturnsPaired [] := by
  intro before after h
  simp at h

lemma returnsPaired_cons_iff {c : Char} {rest : List Char} :
    ReturnsPaired (c :: rest) ↔ (c = '\r' → rest.head? = some '\n') ∧ ReturnsPaired rest := by
  constructor
  · intro h
    constructor
    · rintro rfl
      exact h [] rest rfl
    · rintro before after rfl
      exact h (c :: before) after rfl
  · rintro ⟨hfirst, hrest⟩ before after h
    cases before with
    | nil =>
      obtain ⟨rfl, rfl⟩ := List.cons.inj h
      exact hfirst rfl
    | cons _ before => exact hrest before after (List.cons.inj h).2

instance : (text : List Char) → Decidable (ReturnsPaired text)
  | [] => isTrue returnsPaired_nil
  | c :: rest =>
    have := instDecidableReturnsPaired rest
    decidable_of_iff ((c = '\r' → rest.head? = some '\n') ∧ ReturnsPaired rest)
      returnsPaired_cons_iff.symm

lemma ReturnsPaired.tail {c : Char} {rest : List Char} (h : ReturnsPaired (c :: rest)) :
    ReturnsPaired rest :=
  (returnsPaired_cons_iff.mp h).2

/-- In front of what is no line break of two characters stands no carriage return. -/
lemma ReturnsPaired.ne_return {c : Char} {rest : List Char} (h : ReturnsPaired (c :: rest))
    (hpair : ∀ after, c = '\r' → rest = '\n' :: after → False) : c ≠ '\r' := by
  intro hc
  obtain ⟨after, hafter⟩ := List.head?_eq_some_iff.mp ((returnsPaired_cons_iff.mp h).1 hc)
  exact hpair after hc hafter

/-- The text with a line feed for each carriage return that has one right behind it. -/
def joinBreaks : List Char → List Char
  | [] => []
  | '\r' :: '\n' :: rest => '\n' :: joinBreaks rest
  | c :: rest => c :: joinBreaks rest

lemma joinBreaks_cons {c : Char} (hc : c ≠ '\r') (rest : List Char) :
    joinBreaks (c :: rest) = c :: joinBreaks rest :=
  joinBreaks.eq_3 c rest fun _ hreturn => absurd hreturn hc

lemma normalizeBreaks_cons {c : Char} (hc : c ≠ '\r') (rest : List Char) :
    normalizeBreaks (c :: rest) = c :: normalizeBreaks rest :=
  normalizeBreaks.eq_4 c rest (fun _ hreturn => absurd hreturn hc) hc

/-- Reading such a text does no more than joining its breaks. -/
lemma normalizeBreaks_eq_joinBreaks {text : List Char} (h : ReturnsPaired text) :
    normalizeBreaks text = joinBreaks text := by
  induction text using joinBreaks.induct with
  | case1 => rfl
  | case2 rest ih =>
    rw [normalizeBreaks, joinBreaks, ih h.tail.tail]
  | case3 c rest hpair ih =>
    have hc := h.ne_return hpair
    rw [normalizeBreaks_cons hc, joinBreaks_cons hc, ih h.tail]

/-! ### Lines -/

lemma lines_feed (rest : List Char) : lines ('\n' :: rest) = [] :: lines rest :=
  rfl

/-- The carriage return before a line feed is all of a piece, and dropped from it. -/
lemma lines_return_feed (rest : List Char) : lines ('\r' :: '\n' :: rest) = [] :: lines rest :=
  rfl

lemma dropTrailingReturn_cons {c : Char} (hc : c ≠ '\r') (line : Line) :
    dropTrailingReturn (c :: line) = c :: dropTrailingReturn line := by
  cases line with
  | nil => simp [dropTrailingReturn, hc]
  | cons d line =>
    unfold dropTrailingReturn
    rw [List.getLast?_cons_cons, List.dropLast_cons_cons]
    split <;> rfl

/-- Any other character is the first of the first line. -/
lemma lines_cons {c : Char} (hfeed : c ≠ '\n') (hreturn : c ≠ '\r') (rest : List Char) :
    lines (c :: rest) = (lines rest).modifyHead (c :: ·) := by
  unfold lines
  rw [splitOnChar, if_neg (by simpa using hfeed)]
  cases hpieces : splitOnChar '\n' rest with
  | nil => exact absurd hpieces (splitOnChar_ne_nil _ _)
  | cons piece pieces =>
    rw [List.map_cons, List.map_cons, List.modifyHead_cons, dropTrailingReturn_cons hreturn]

/-- Joining the breaks of a text leaves it its lines. -/
theorem lines_joinBreaks {text : List Char} (h : ReturnsPaired text) :
    lines (joinBreaks text) = lines text := by
  induction text using joinBreaks.induct with
  | case1 => rfl
  | case2 rest ih =>
    rw [joinBreaks, lines_feed, lines_return_feed, ih h.tail.tail]
  | case3 c rest hpair ih =>
    have hc := h.ne_return hpair
    rw [joinBreaks_cons hc]
    by_cases hfeed : c = '\n'
    · rw [hfeed, lines_feed, lines_feed, ih h.tail]
    · rw [lines_cons hfeed hc, lines_cons hfeed hc, ih h.tail]

end Text

/-! ### Findings -/

/-- The file with its line breaks joined. -/
def SourceFile.joinBreaks (file : SourceFile) : SourceFile :=
  { file with content := String.ofList (Text.joinBreaks file.content.toList) }

/-- The issues of a file are those of its lines. -/
lemma Scan.fileIssues_joinBreaks {file : SourceFile} (h : Text.ReturnsPaired file.content.toList)
    (set : RuleSet) (quiet : Bool) :
    Scan.fileIssues set quiet file.joinBreaks.path file.joinBreaks.content =
      Scan.fileIssues set quiet file.path file.content := by
  unfold Scan.fileIssues SourceFile.joinBreaks
  dsimp only
  rw [String.toList_ofList, Text.lines_joinBreaks h]

lemma Detection.run_joinBreaks {files : List SourceFile}
    (h : ∀ file ∈ files, Text.ReturnsPaired file.content.toList) (settings : Option Settings)
    (quiet : Bool) :
    Detection.run settings quiet (files.map SourceFile.joinBreaks) =
      Detection.run settings quiet files := by
  have hissues (set : RuleSet) : Detection.filesIssues set quiet (files.map SourceFile.joinBreaks) =
      Detection.filesIssues set quiet files := by
    unfold Detection.filesIssues
    rw [List.flatMap_map]
    exact List.flatMap_congr fun file hfile => Scan.fileIssues_joinBreaks (h file hfile) set quiet
  unfold Detection.run Detection.scan
  simp only [hissues, List.length_map]

/-- A file that holds the bytes of a text is read as this text with its breaks joined. -/
lemma SourceTree.readSource_joinBreaks {tree : SourceTree} {root : Path} {file : SourceFile}
    (h : Text.ReturnsPaired file.content.toList)
    (hfile : tree.readFile root (Path.names file.path) =
      .ok (Text.Utf8.encode file.content.toList)) (rootText : String) :
    tree.readSource root rootText file.path = .ok file.joinBreaks := by
  unfold SourceTree.readSource textOfBytes
  simp only [hfile, Text.Utf8.decode_encode, Text.normalizeBreaks_eq_joinBreaks h]
  rfl

/-- Where carriage returns stand before line feeds only they change no issue of a file. A run
therefore gives the same for the texts as for the files with their bytes once these are read. -/
theorem findings_of_joined_breaks :
    (∀ (set : RuleSet) (quiet : Bool) (path content : String),
      Text.ReturnsPaired content.toList →
      Scan.fileIssues set quiet path content =
        Scan.fileIssues set quiet path (String.ofList (Text.joinBreaks content.toList))) ∧
    ∀ (settings : Option Settings) (quiet : Bool) (tree : SourceTree) (root : Path)
      (rootText : String) (files : List SourceFile),
      (∀ file ∈ files, Text.ReturnsPaired file.content.toList ∧
        tree.readFile root (Path.names file.path) =
          .ok (Text.Utf8.encode file.content.toList)) →
      ∃ sources, tree.readSources root rootText (files.map SourceFile.path) = .ok sources ∧
        sources = files.map SourceFile.joinBreaks ∧
        Detection.run settings quiet files = Detection.run settings quiet sources := by
  constructor
  · intro set quiet path content h
    exact (@Scan.fileIssues_joinBreaks ⟨path, content⟩ h set quiet).symm
  · intro settings quiet tree root rootText files hfiles
    refine ⟨_, ?_, rfl, (Detection.run_joinBreaks (fun file hfile => (hfiles file hfile).1)
      settings quiet).symm⟩
    unfold SourceTree.readSources
    rw [mapM_eq_ok_iff, List.forall₂_map_left_iff, List.forall₂_map_right_iff, List.forall₂_same]
    intro file hfile
    exact SourceTree.readSource_joinBreaks (hfiles file hfile).1 (hfiles file hfile).2 rootText

/-- Breaks of both kinds, an empty line, and a last line that no break ends. -/
def mixedBreaks : SourceFile :=
  ⟨"app/a.ts", "if (a) if (b) c();\r\n\r\n\tlet d: any;\n// TODO"⟩

def mixedBreaksTree : SourceTree :=
  ⟨[(["app", "a.ts"], Text.Utf8.encode mixedBreaks.content.toList)], []⟩

theorem findings_of_joined_breaks_mixed :
    Scan.fileIssues RuleSet.default false "app/a.ts" mixedBreaks.content =
        Scan.fileIssues RuleSet.default false "app/a.ts"
          "if (a) if (b) c();\n\n\tlet d: any;\n// TODO" ∧
      ∃ sources, mixedBreaksTree.readSources [] "/srv" ["app/a.ts"] = .ok sources ∧
        sources = [⟨"app/a.ts", "if (a) if (b) c();\n\n\tlet d: any;\n// TODO"⟩] ∧
        Detection.run none false [mixedBreaks] = Detection.run none false sources := by
  have hpaired : Text.ReturnsPaired mixedBreaks.content.toList := by decide +kernel
  have hread : mixedBreaksTree.readFile [] (Path.names mixedBreaks.path) =
      .ok (Text.Utf8.encode mixedBreaks.content.toList) := by decide +kernel
  have hjoined : mixedBreaks.joinBreaks =
      ⟨"app/a.ts", "if (a) if (b) c();\n\n\tlet d: any;\n// TODO"⟩ := by decide +kernel
  have hcontent : String.ofList (Text.joinBreaks mixedBreaks.content.toList) =
      "if (a) if (b) c();\n\n\tlet d: any;\n// TODO" :=
    congrArg SourceFile.content hjoined
  constructor
  · rw [← hcontent]
    exact findings_of_joined_breaks.1 RuleSet.default false "app/a.ts" _ hpaired
  · rw [← hjoined]
    refine findings_of_joined_breaks.2 none false mixedBreaksTree [] "/srv" [mixedBreaks] ?_
    intro file hfile
    cases List.mem_singleton.mp hfile
    exact ⟨hpaired, hread⟩

end SlopLint
