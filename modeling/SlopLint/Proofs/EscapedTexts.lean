import Mathlib.Tactic.IntervalCases
import Mathlib.Tactic.Lemma
import Mathlib.Tactic.SplitIfs
import SlopLint.Json.Reader
import SlopLint.Json.Writer

/-!
# Escaped texts

Every text is read back from its written form in quotes. A character goes through its escape on its
own: by a letter, as itself, as one code unit, or as a pair of surrogates that the reader joins. No
single code unit is taken for half of a pair, as no character is a surrogate.
-/

namespace SlopLint.Json

/-! ### Code units -/

lemma hexValue?_hexDigit {d : Nat} (h : d < 16) : hexValue? (hexDigit d) = some d := by
  interval_cases d <;> rfl

/-- The four digits of a code unit are read, whatever comes behind them. -/
lemma hexCode?_digits {n : Nat} (h : n < 0x10000) (rest : List Char) :
    hexCode? (hexDigit (n / 4096 % 16) :: hexDigit (n / 256 % 16) :: hexDigit (n / 16 % 16) ::
      hexDigit (n % 16) :: rest) = some (n, rest) := by
  have hcode : ((n / 4096 % 16 * 16 + n / 256 % 16) * 16 + n / 16 % 16) * 16 + n % 16 = n := by
    omega
  rw [hexCode?, hexValue?_hexDigit (by omega), hexValue?_hexDigit (by omega),
    hexValue?_hexDigit (by omega), hexValue?_hexDigit (by omega)]
  simp [hcode]

/-- A unit that is no high surrogate is left alone. -/
lemma joinSurrogates?_of_not_high {unit : Nat} (h : ¬ (0xD800 ≤ unit ∧ unit ≤ 0xDBFF))
    (rest : List Char) : joinSurrogates? unit rest = .ok none := by
  unfold joinSurrogates?
  split
  · exact if_neg fun hboth => h ⟨hboth.1, hboth.2.1⟩
  · rfl

lemma joinSurrogates?_pair {high low : Nat} (hhigh : high < 0x400) (hlow : low < 0x400)
    {rest : List Char} (hrest : rest ≠ []) :
    joinSurrogates? (0xD800 + high) (codeUnit (0xDC00 + low) ++ rest) =
      .ok (some (0x10000 + high * 0x400 + low, rest)) := by
  have hpos : 0 < rest.length := List.length_pos_iff.mpr hrest
  have hcode : 0x10000 + (0xD800 + high - 0xD800) * 0x400 + (0xDC00 + low - 0xDC00) =
      0x10000 + high * 0x400 + low := by omega
  simp only [codeUnit, List.cons_append, List.nil_append, joinSurrogates?]
  rw [if_pos ⟨by omega, by omega, by simp only [List.length_cons]; omega⟩,
    hexCode?_digits (by omega)]
  dsimp only
  rw [if_pos ⟨by omega, by omega⟩, hcode]

/-- A code unit that is no surrogate is read as its character. -/
lemma codeEscape_unit {n : Nat} (h : n < 0xD800 ∨ (0xDFFF < n ∧ n < 0x10000)) {rest : List Char}
    (hrest : rest ≠ []) :
    codeEscape (codeUnit n ++ rest).tail = .ok (Char.ofNat n, rest) := by
  obtain ⟨c, tail, rfl⟩ := List.exists_cons_of_ne_nil hrest
  simp only [codeUnit, List.cons_append, List.nil_append, List.tail_cons, codeEscape,
    List.drop_succ_cons, List.drop_zero]
  rw [hexCode?_digits (by omega)]
  dsimp only
  rw [joinSurrogates?_of_not_high (by omega)]
  simp only [bind, Except.bind, pure, Except.pure]
  rw [if_neg (by omega)]

/-- A pair of surrogates is read as one character. -/
lemma codeEscape_pair {high low : Nat} (hhigh : high < 0x400) (hlow : low < 0x400)
    {rest : List Char} (hrest : rest ≠ []) :
    codeEscape (codeUnit (0xD800 + high) ++ (codeUnit (0xDC00 + low) ++ rest)).tail =
      .ok (Char.ofNat (0x10000 + high * 0x400 + low), rest) := by
  have hjoin := joinSurrogates?_pair hhigh hlow hrest
  generalize hbehind : codeUnit (0xDC00 + low) ++ rest = behind at hjoin ⊢
  obtain ⟨c, tail, rfl⟩ : ∃ c tail, behind = c :: tail := ⟨_, _, hbehind.symm⟩
  simp only [codeUnit, List.cons_append, List.nil_append, List.tail_cons, codeEscape,
    List.drop_succ_cons, List.drop_zero]
  rw [hexCode?_digits (by omega)]
  dsimp only
  rw [hjoin]
  rfl

/-! ### Characters -/

lemma stringTail_letter {opening fuel : Nat} {read rest : List Char} {letter c : Char}
    (h : escapeLetter? letter = some c) :
    stringTail opening (fuel + 1) read ('\\' :: letter :: rest) =
      stringTail opening fuel (c :: read) rest := by
  have hu : letter ≠ 'u' := by
    rintro rfl
    cases h
  rw [stringTail]
  · simp only [h]
  · exact hu

lemma stringTail_codeUnit {opening fuel n : Nat} {read behind rest : List Char} {c : Char}
    (h : codeEscape (codeUnit n ++ behind).tail = .ok (c, rest)) :
    stringTail opening (fuel + 1) read (codeUnit n ++ behind) =
      stringTail opening fuel (c :: read) rest := by
  simp only [codeUnit, List.cons_append, List.nil_append, List.tail_cons] at h
  simp only [codeUnit, List.cons_append, List.nil_append, stringTail]
  rw [h]
  rfl

lemma stringTail_plain {opening fuel : Nat} {read rest : List Char} {c : Char} (hquote : c ≠ '"')
    (hslash : c ≠ '\\') (hcontrol : ¬ c.toNat < 32) :
    stringTail opening (fuel + 1) read (c :: rest) = stringTail opening fuel (c :: read) rest := by
  rw [stringTail.eq_def]
  split <;> simp_all

/-- A character is read from its escape. -/
lemma stringTail_escape (opening fuel : Nat) (read : List Char) (c : Char) {rest : List Char}
    (hrest : rest ≠ []) :
    stringTail opening (fuel + 1) read (escape c ++ rest) =
      stringTail opening fuel (c :: read) rest := by
  have hvalid : c.toNat < 0xD800 ∨ (0xDFFF < c.toNat ∧ c.toNat < 0x110000) := c.valid
  unfold escape
  dsimp only
  split_ifs with hquote hslash hfeed hreturn htab hback hform hplain hunit
  · exact stringTail_letter (by rw [hquote]; rfl)
  · exact stringTail_letter (by rw [hslash]; rfl)
  · exact stringTail_letter (by rw [hfeed]; rfl)
  · exact stringTail_letter (by rw [hreturn]; rfl)
  · exact stringTail_letter (by rw [htab]; rfl)
  · exact stringTail_letter (by rw [← Char.ofNat_toNat c, hback]; rfl)
  · exact stringTail_letter (by rw [← Char.ofNat_toNat c, hform]; rfl)
  · exact stringTail_plain hquote hslash (by omega)
  · have hread := codeEscape_unit (n := c.toNat) (by omega) hrest
    rw [Char.ofNat_toNat] at hread
    exact stringTail_codeUnit hread
  · have hcode : 0x10000 + (c.toNat - 0x10000) / 0x400 * 0x400 + (c.toNat - 0x10000) % 0x400 =
        c.toNat := by omega
    have hhigh : (c.toNat - 0x10000) / 0x400 < 0x400 := by omega
    have hlow : (c.toNat - 0x10000) % 0x400 < 0x400 := by omega
    have hread := codeEscape_pair hhigh hlow hrest
    rw [hcode, Char.ofNat_toNat] at hread
    rw [List.append_assoc]
    exact stringTail_codeUnit hread

/-! ### Texts -/

lemma escape_ne_nil (c : Char) : escape c ≠ [] := by
  unfold escape codeUnit
  dsimp only
  split_ifs <;> simp

lemma length_le_length_flatMap_escape (text : List Char) :
    text.length ≤ (text.flatMap escape).length := by
  induction text with
  | nil => rfl
  | cons c text ih =>
    have hpos : 0 < (escape c).length := List.length_pos_iff.mpr (escape_ne_nil c)
    rw [List.flatMap_cons, List.length_append, List.length_cons]
    omega

lemma stringTail_text (opening : Nat) (text rest : List Char) :
    ∀ fuel read, text.length < fuel →
      stringTail opening fuel read (text.flatMap escape ++ '"' :: rest) =
        .ok (String.ofList (read.reverse ++ text), rest) := by
  induction text with
  | nil =>
    intro fuel read hfuel
    obtain ⟨fuel, rfl⟩ : ∃ n, fuel = n + 1 := ⟨fuel - 1, by omega⟩
    simp [stringTail]
  | cons c text ih =>
    intro fuel read hfuel
    rw [List.length_cons] at hfuel
    obtain ⟨fuel, rfl⟩ : ∃ n, fuel = n + 1 := ⟨fuel - 1, by omega⟩
    rw [List.flatMap_cons, List.append_assoc, stringTail_escape _ _ _ _ (by simp),
      ih fuel _ (by omega), List.reverse_cons, List.append_assoc, List.singleton_append]

/-- A text is read back from behind its opening quote. -/
theorem readString_quote (text : String) (rest : List Char) :
    readString ((quote text).tail ++ rest) = .ok (text, rest) := by
  have hlength := length_le_length_flatMap_escape text.toList
  have htail : (quote text).tail ++ rest = text.toList.flatMap escape ++ '"' :: rest := by
    simp [quote]
  rw [htail, readString, stringTail_text _ _ _ _ _ (by rw [List.length_append]; omega)]
  simp

end SlopLint.Json
