import SlopLint.Proofs.LineBreaks
import SlopLint.Proofs.TreeWriting
import SlopLint.Proofs.WrittenJson
import SlopLint.Report.Writing

/-!
# Written reports

A report holds texts, whole numbers and names that differ, so its text gives it back, with all names
and items in their order. The text is ASCII: its file has one byte for every character, and reading
the file gives the text.
-/

namespace SlopLint

open Json Text

/-! ### Reports as recoverable values -/

lemma recoverable_nat (n : Nat) : Recoverable none (.int n) :=
  .int n fun _ hlimit => by cases hlimit

lemma recoverable_strings (texts : List String) : Recoverable none (.strings texts) := by
  refine .array _ fun item hitem => ?_
  obtain ⟨text, _, rfl⟩ := List.mem_map.mp hitem
  exact .string text

lemma recoverable_score (score : Score) : Recoverable none score.toJson := by
  refine .object _ (show ["informationUtility", "informationQuality", "style", "total"].Nodup by
    decide) ?_
  simp only [List.forall_mem_cons]
  exact ⟨recoverable_nat _, recoverable_nat _, recoverable_nat _, recoverable_nat _, by simp⟩

lemma recoverable_entry (entry : Consolidated) : Recoverable none entry.toJson := by
  refine .object _ (show ["type", "file", "code", "message", "severity", "location"].Nodup by
    decide) ?_
  simp only [List.forall_mem_cons]
  exact ⟨.string _, .string _, .string _, .string _, .string _, recoverable_strings _, by simp⟩

lemma recoverable_sample (sample : Sample) : Recoverable none sample.toJson := by
  refine .object _ (show ["file", "locations", "code"].Nodup by decide) ?_
  simp only [List.forall_mem_cons]
  exact ⟨.string _, recoverable_strings _, .string _, by simp⟩

lemma recoverable_map {α : Type} {toJson : α → Json} (h : ∀ value, Recoverable none (toJson value))
    (values : List α) : Recoverable none (.array (values.map toJson)) := by
  refine .array _ fun item hitem => ?_
  obtain ⟨value, _, rfl⟩ := List.mem_map.mp hitem
  exact h value

lemma recoverable_summary (summary : RuleSummary) : Recoverable none summary.toJson := by
  refine .object _ (show ["type", "occurrences", "uniqueIssues", "sample"].Nodup by decide) ?_
  simp only [List.forall_mem_cons]
  exact ⟨.string _, recoverable_nat _, recoverable_nat _, recoverable_map recoverable_sample _,
    by simp⟩

/-- The counts by severity stand under the names of the severities. -/
lemma recoverable_bySeverity (detection : Detection) :
    Recoverable none (.object ((Report.ofDetection detection).bySeverity.map
      fun (severity, count) => (severity.name, .int count))) := by
  refine .object _ (show ["critical", "high", "medium", "low"].Nodup by decide) ?_
  intro member hmember
  obtain ⟨⟨severity, count⟩, _, rfl⟩ := List.mem_map.mp hmember
  exact recoverable_nat count

lemma recoverable_report (timestamp : String) (detection : Detection) :
    Recoverable none ((Report.ofDetection detection).toJson timestamp) := by
  refine .object _ (show ["timestamp", "filesScanned", "uniqueIssues", "totalOccurrences",
    "bySeverity", "byType", "score", "verdict", "issues"].Nodup by decide) ?_
  simp only [Report.members, List.forall_mem_cons]
  exact ⟨.string _, recoverable_nat _, recoverable_nat _, recoverable_nat _,
    recoverable_bySeverity detection, recoverable_map recoverable_summary _, recoverable_score _,
    .string _, recoverable_map recoverable_entry _, by simp⟩

/-! ### Files of written characters -/

lemma normalizeBreaks_of_no_return {text : List Char} (h : '\r' ∉ text) :
    normalizeBreaks text = text := by
  induction text with
  | nil => rfl
  | cons c rest ih =>
    rw [List.mem_cons, not_or] at h
    rw [normalizeBreaks_cons (Ne.symm h.1), ih h.2]

lemma toNat_lt_of_isWritten {c : Char} (h : IsWritten c) : c.toNat < 128 := by
  rcases h with rfl | ⟨-, h⟩
  · decide
  · omega

/-- ASCII characters are encoded by themselves. -/
lemma toNat_lt_of_mem_encode {text : List Char} (h : ∀ c ∈ text, c.toNat < 128) :
    ∀ b ∈ Utf8.encode text, b.toNat < 128 := by
  intro b hb
  obtain ⟨c, hc, hbyte⟩ := List.mem_flatMap.mp hb
  have hascii : c.toNat < 0x80 := h c hc
  rw [Utf8.encodeChar, if_pos hascii, List.mem_singleton] at hbyte
  rw [hbyte, Utf8.toNat_byte (by omega)]
  exact hascii

/-- A file of written characters is read as it was written. -/
lemma textOfBytes_encode {text : List Char} (h : ∀ c ∈ text, IsWritten c) :
    textOfBytes (Utf8.encode text) = .ok text := by
  have hreturn : '\r' ∉ text := fun hmem => absurd (h _ hmem) (by decide)
  rw [textOfBytes, Utf8.decode_encode]
  exact congrArg Except.ok (normalizeBreaks_of_no_return hreturn)

/-- The report on what a run has found is written as ASCII, and its text denotes the report again.
Where it is written to a file, the file has ASCII bytes and is read as that text. -/
theorem written_report_denotes (detection : Detection) (timestamp : String) :
    let report := Report.ofDetection detection
    let text := (report.text timestamp).toList
    (∀ c ∈ text, c.toNat < 128) ∧
    Json.parse none text = .ok (report.toJson timestamp) ∧
    ∀ (tree written : SourceTree) (start : Path) (shown : List String → String)
      (names : List String),
      tree.writeReport start shown names timestamp report = .ok written →
      ∃ bytes, written.file? (Path.follow start names) = some bytes ∧
        (∀ b ∈ bytes, b.toNat < 128) ∧ textOfBytes bytes = .ok text := by
  intro report text
  have hreport : Recoverable none (report.toJson timestamp) :=
    recoverable_report timestamp detection
  have hwritten : ∀ c ∈ text, IsWritten c := by
    have h := isWritten_render hreport 0
    simpa only [text, Report.text, Json.write, String.toList_ofList] using h
  have hascii : ∀ c ∈ text, c.toNat < 128 := fun c hc => toNat_lt_of_isWritten (hwritten c hc)
  refine ⟨hascii, parse_write hreport, ?_⟩
  intro tree written start shown names hwrite
  obtain ⟨made, _, rfl⟩ := SourceTree.writeFile_eq_ok hwrite
  exact ⟨_, SourceTree.file?_setFile_self made _ _, toNat_lt_of_mem_encode hascii,
    textOfBytes_encode hwritten⟩

/-- An issue whose code has a quote, a backslash, a control character and one beyond the first
plane. -/
def escapedIssue : Issue :=
  ⟨"any_type_usage", "a.ts", 1, -2, "\"\\\u0007\u2028😀", "é", "high"⟩

theorem written_report_denotes_escaped :
    let report := Report.ofDetection (.ofIssues [escapedIssue] 1)
    let text := (report.text "now").toList
    Json.parse none text = .ok (report.toJson "now") ∧
    ∃ bytes,
      (SourceTree.empty.writeReport [] Path.text ["report.json"] "now" report).map
        (·.file? ["report.json"]) = .ok (some bytes) ∧
      textOfBytes bytes = .ok text := by
  obtain ⟨_, hparse, hwritten⟩ := written_report_denotes (.ofIssues [escapedIssue] 1) "now"
  obtain ⟨bytes, hfile, _, htext⟩ := hwritten .empty _ [] Path.text ["report.json"] rfl
  exact ⟨hparse, bytes, congrArg Except.ok hfile, htext⟩

end SlopLint
