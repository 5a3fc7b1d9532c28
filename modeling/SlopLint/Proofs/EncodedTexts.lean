import Mathlib.Tactic.IntervalCases
import Mathlib.Tactic.Lemma
import Mathlib.Tactic.SplitIfs
import SlopLint.Proofs.FailingSteps
import SlopLint.Text.Utf8

/-!
# Encoded texts

Every text is read back from its encoding, and nothing else can be read. The bounds on the second
byte of a character, which keep out longer encodings, surrogates and what is beyond the last code
point, are met by the encodings of all characters.
-/

namespace SlopLint.Text.Utf8

lemma toNat_byte {n : Nat} (h : n < 256) : (byte n).toNat = n :=
  UInt8.toNat_ofNat_of_lt' h

/-- A byte that goes on with a character adds six bits. -/
lemma readTail_cons {taken tail low high bits n : Nat} {bytes : List UInt8} (hlow : low ≤ 0x80 + n)
    (hhigh : 0x80 + n ≤ high) (hn : n < 64) :
    readTail taken (tail + 1) low high bits (byte (0x80 + n) :: bytes) =
      readTail (taken + 1) tail 0x80 0xBF (bits * 64 + n) bytes := by
  have hbyte : (byte (0x80 + n)).toNat = 0x80 + n := toNat_byte (by omega)
  have hbits : (0x80 + n) % 64 = n := by omega
  rw [readTail, hbyte, if_pos ⟨hlow, hhigh⟩, hbits]

lemma readTail_zero {taken low high bits : Nat} {bytes : List UInt8} :
    readTail taken 0 low high bits bytes = .ok (bits, bytes) :=
  rfl

lemma lead?_one {n : Nat} (h : n < 0x80) : lead? n = some ⟨0, 0, 0, n⟩ :=
  if_pos h

lemma lead?_two {n : Nat} (hlow : 2 ≤ n) (hhigh : n < 32) :
    lead? (0xC0 + n) = some ⟨1, 0x80, 0xBF, n⟩ := by
  interval_cases n <;> rfl

/-- The second of three bytes keeps out shorter characters and surrogates. -/
lemma lead?_three {n : Nat} (h : n < 16) :
    lead? (0xE0 + n) =
      some ⟨2, if n = 0 then 0xA0 else 0x80, if n = 13 then 0x9F else 0xBF, n⟩ := by
  interval_cases n <;> rfl

/-- The second of four bytes keeps out shorter characters and what is beyond the last one. -/
lemma lead?_four {n : Nat} (h : n < 5) :
    lead? (0xF0 + n) =
      some ⟨3, if n = 0 then 0x90 else 0x80, if n = 4 then 0x8F else 0xBF, n⟩ := by
  interval_cases n <;> rfl

/-- A character is read where its first byte and those behind it make up its code point. -/
lemma decodeFrom_cons {fuel position : Nat} {b : UInt8} {rest bytes : List UInt8} {lead : Lead}
    {c : Char} (hlead : lead? b.toNat = some lead)
    (htail : readTail 1 lead.tail lead.low lead.high lead.bits rest = .ok (c.toNat, bytes)) :
    decodeFrom (fuel + 1) position (b :: rest) =
      (decodeFrom fuel (position + lead.tail + 1) bytes).map (c :: ·) := by
  simp only [decodeFrom, hlead, htail, Char.ofNat_toNat]
  cases decodeFrom fuel (position + lead.tail + 1) bytes <;> rfl

/-- The bytes of a character are read as this character, whatever comes behind them. -/
lemma decodeFrom_encodeChar (fuel position : Nat) (c : Char) (bytes : List UInt8) :
    ∃ next, decodeFrom (fuel + 1) position (encodeChar c ++ bytes) =
      (decodeFrom fuel next bytes).map (c :: ·) := by
  have hvalid : c.toNat < 0xD800 ∨ (0xDFFF < c.toNat ∧ c.toNat < 0x110000) := c.valid
  generalize hn : c.toNat = n at hvalid
  unfold encodeChar
  dsimp only
  rw [hn]
  split
  · next hone =>
    have hlead : lead? (byte n).toNat = some ⟨0, 0, 0, n⟩ := by
      rw [toNat_byte (by omega), lead?_one hone]
    simp only [List.cons_append, List.nil_append]
    refine ⟨_, decodeFrom_cons hlead ?_⟩
    rw [readTail_zero, hn]
  split
  · next htwo =>
    have hlead : lead? (byte (0xC0 + n / 64)).toNat = some ⟨1, 0x80, 0xBF, n / 64⟩ := by
      rw [toNat_byte (by omega), lead?_two (by omega) (by omega)]
    have hcode : n / 64 * 64 + n % 64 = n := by omega
    simp only [List.cons_append, List.nil_append]
    refine ⟨_, decodeFrom_cons hlead ?_⟩
    dsimp only
    rw [readTail_cons (by omega) (by omega) (by omega), readTail_zero, hn, hcode]
  split
  · next hthree =>
    have hlead : lead? (byte (0xE0 + n / 4096)).toNat = some ⟨2,
        if n / 4096 = 0 then 0xA0 else 0x80, if n / 4096 = 13 then 0x9F else 0xBF, n / 4096⟩ := by
      rw [toNat_byte (by omega), lead?_three (by omega)]
    have hcode : (n / 4096 * 64 + n / 64 % 64) * 64 + n % 64 = n := by omega
    simp only [List.cons_append, List.nil_append]
    refine ⟨_, decodeFrom_cons hlead ?_⟩
    dsimp only
    rw [readTail_cons (by split <;> omega) (by split <;> omega) (by omega),
      readTail_cons (by omega) (by omega) (by omega), readTail_zero, hn, hcode]
  · have hlead : lead? (byte (0xF0 + n / 262144)).toNat = some ⟨3,
        if n / 262144 = 0 then 0x90 else 0x80, if n / 262144 = 4 then 0x8F else 0xBF,
        n / 262144⟩ := by
      rw [toNat_byte (by omega), lead?_four (by omega)]
    have hcode : ((n / 262144 * 64 + n / 4096 % 64) * 64 + n / 64 % 64) * 64 + n % 64 = n := by
      omega
    simp only [List.cons_append, List.nil_append]
    refine ⟨_, decodeFrom_cons hlead ?_⟩
    dsimp only
    rw [readTail_cons (by split <;> omega) (by split <;> omega) (by omega),
      readTail_cons (by omega) (by omega) (by omega),
      readTail_cons (by omega) (by omega) (by omega), readTail_zero, hn, hcode]

lemma encode_cons (c : Char) (text : List Char) :
    encode (c :: text) = encodeChar c ++ encode text :=
  List.flatMap_cons

lemma encodeChar_ne_nil (c : Char) : encodeChar c ≠ [] := by
  unfold encodeChar
  dsimp only
  split_ifs <;> simp

lemma length_le_length_encode (text : List Char) : text.length ≤ (encode text).length := by
  induction text with
  | nil => rfl
  | cons c text ih =>
    have hpos : 0 < (encodeChar c).length := List.length_pos_iff.mpr (encodeChar_ne_nil c)
    rw [encode_cons, List.length_append, List.length_cons]
    omega

/-- A text is read back from its encoding. -/
theorem decode_encode (text : List Char) : decode (encode text) = .ok text := by
  have hfrom : ∀ fuel position, text.length ≤ fuel →
      decodeFrom fuel position (encode text) = .ok text := by
    induction text with
    | nil =>
      intro fuel position _
      cases fuel <;> rfl
    | cons c text ih =>
      intro fuel position hfuel
      obtain ⟨fuel, rfl⟩ : ∃ n, fuel = n + 1 := ⟨fuel - 1, by simp at hfuel; omega⟩
      obtain ⟨next, hnext⟩ := decodeFrom_encodeChar fuel position c (encode text)
      rw [encode_cons, hnext, ih fuel next (by simpa using hfuel)]
      rfl
  exact hfrom _ 0 (length_le_length_encode text)

/-! ### What is decoded -/

lemma byte_toNat (b : UInt8) : byte b.toNat = b :=
  UInt8.ofNat_toNat

/-- The bytes that start a character, by the number of bytes behind them. -/
lemma lead?_eq_some {b : UInt8} {lead : Lead} (h : lead? b.toNat = some lead) :
    (b.toNat < 0x80 ∧ lead = ⟨0, 0, 0, b.toNat⟩) ∨
    (∃ n, 2 ≤ n ∧ n < 32 ∧ b = byte (0xC0 + n) ∧ lead = ⟨1, 0x80, 0xBF, n⟩) ∨
    (∃ n, n < 16 ∧ b = byte (0xE0 + n) ∧
      lead = ⟨2, if n = 0 then 0xA0 else 0x80, if n = 13 then 0x9F else 0xBF, n⟩) ∨
    ∃ n, n < 5 ∧ b = byte (0xF0 + n) ∧
      lead = ⟨3, if n = 0 then 0x90 else 0x80, if n = 4 then 0x8F else 0xBF, n⟩ := by
  have hbyte : ∀ base n, b.toNat = base + n → b = byte (base + n) := by
    rintro base n hn
    rw [← hn, byte_toNat]
  by_cases hone : b.toNat < 0x80
  · rw [lead?_one hone] at h
    exact .inl ⟨hone, (Option.some.inj h).symm⟩
  right
  by_cases hlow : b.toNat < 0xC2
  · simp [lead?, hone, hlow] at h
  by_cases htwo : b.toNat < 0xE0
  · obtain ⟨n, hn⟩ := Nat.exists_eq_add_of_le (show 0xC0 ≤ b.toNat by omega)
    rw [hn, lead?_two (by omega) (by omega)] at h
    exact .inl ⟨n, by omega, by omega, hbyte _ _ hn, (Option.some.inj h).symm⟩
  right
  by_cases hthree : b.toNat < 0xF0
  · obtain ⟨n, hn⟩ := Nat.exists_eq_add_of_le (show 0xE0 ≤ b.toNat by omega)
    rw [hn, lead?_three (by omega)] at h
    exact .inl ⟨n, by omega, hbyte _ _ hn, (Option.some.inj h).symm⟩
  right
  by_cases hfour : b.toNat < 0xF5
  · obtain ⟨n, hn⟩ := Nat.exists_eq_add_of_le (show 0xF0 ≤ b.toNat by omega)
    rw [hn, lead?_four (by omega)] at h
    exact ⟨n, by omega, hbyte _ _ hn, (Option.some.inj h).symm⟩
  · generalize b.toNat = n at *
    unfold lead? at h
    split_ifs at h <;> omega

/-- A byte behind a lead is one that goes on with a character. -/
lemma readTail_succ_eq_ok {taken tail low high bits : Nat} {bytes : List UInt8}
    {result : Nat × List UInt8} (hlow : 0x80 ≤ low) (hhigh : high ≤ 0xBF)
    (h : readTail taken (tail + 1) low high bits bytes = .ok result) :
    ∃ n rest, bytes = byte (0x80 + n) :: rest ∧ n < 64 ∧ low ≤ 0x80 + n ∧ 0x80 + n ≤ high ∧
      readTail (taken + 1) tail 0x80 0xBF (bits * 64 + n) rest = .ok result := by
  cases bytes with
  | nil => cases h
  | cons b rest =>
    rw [readTail] at h
    split at h
    · next hbounds =>
      obtain ⟨n, hn⟩ := Nat.exists_eq_add_of_le (hlow.trans hbounds.1)
      have hbits : b.toNat % 64 = n := by omega
      rw [hbits] at h
      exact ⟨n, rest, by rw [← hn, byte_toNat], by omega, by omega, by omega, h⟩
    · cases h

lemma toNat_ofNat_of_valid {n : Nat} (h : n.isValidChar) : (Char.ofNat n).toNat = n := by
  rw [Char.ofNat, dif_pos h]
  rfl

section Bits

variable {n m l k : Nat}

lemma encodeChar_one (h : n < 0x80) : encodeChar (Char.ofNat n) = [byte n] := by
  unfold encodeChar
  rw [toNat_ofNat_of_valid (.inl (by omega))]
  exact if_pos h

lemma encodeChar_two (hmin : 2 ≤ n) (hmax : n < 32) (hm : m < 64) :
    encodeChar (Char.ofNat (n * 64 + m)) = [byte (0xC0 + n), byte (0x80 + m)] := by
  have hfirst : (n * 64 + m) / 64 = n := by omega
  have hsecond : (n * 64 + m) % 64 = m := by omega
  unfold encodeChar
  rw [toNat_ofNat_of_valid (.inl (by omega))]
  dsimp only
  rw [if_neg (by omega), if_pos (by omega), hfirst, hsecond]

lemma encodeChar_three (hn : n < 16) (hm : m < 64) (hl : l < 64)
    (hlow : (if n = 0 then 0xA0 else 0x80) ≤ 0x80 + m)
    (hhigh : 0x80 + m ≤ if n = 13 then 0x9F else 0xBF) :
    encodeChar (Char.ofNat ((n * 64 + m) * 64 + l)) =
      [byte (0xE0 + n), byte (0x80 + m), byte (0x80 + l)] := by
  have hmin : 0x800 ≤ (n * 64 + m) * 64 + l := by
    split at hlow <;> omega
  have hvalid : ((n * 64 + m) * 64 + l).isValidChar := by
    split at hhigh
    · exact .inl (by omega)
    · rcases Nat.lt_or_gt_of_ne ‹¬ n = 13› with hless | hmore
      · exact .inl (by omega)
      · exact .inr ⟨by omega, by omega⟩
  have hfirst : ((n * 64 + m) * 64 + l) / 4096 = n := by omega
  have hsecond : ((n * 64 + m) * 64 + l) / 64 % 64 = m := by omega
  have hthird : ((n * 64 + m) * 64 + l) % 64 = l := by omega
  unfold encodeChar
  rw [toNat_ofNat_of_valid hvalid]
  dsimp only
  rw [if_neg (by omega), if_neg (by omega), if_pos (by omega), hfirst, hsecond, hthird]

lemma encodeChar_four (hn : n < 5) (hm : m < 64) (hl : l < 64) (hk : k < 64)
    (hlow : (if n = 0 then 0x90 else 0x80) ≤ 0x80 + m)
    (hhigh : 0x80 + m ≤ if n = 4 then 0x8F else 0xBF) :
    encodeChar (Char.ofNat (((n * 64 + m) * 64 + l) * 64 + k)) =
      [byte (0xF0 + n), byte (0x80 + m), byte (0x80 + l), byte (0x80 + k)] := by
  have hmin : 0x10000 ≤ ((n * 64 + m) * 64 + l) * 64 + k := by
    split at hlow <;> omega
  have hvalid : (((n * 64 + m) * 64 + l) * 64 + k).isValidChar := by
    refine .inr ⟨by omega, ?_⟩
    split at hhigh <;> omega
  have hfirst : (((n * 64 + m) * 64 + l) * 64 + k) / 262144 = n := by omega
  have hsecond : (((n * 64 + m) * 64 + l) * 64 + k) / 4096 % 64 = m := by omega
  have hthird : (((n * 64 + m) * 64 + l) * 64 + k) / 64 % 64 = l := by omega
  have hfourth : (((n * 64 + m) * 64 + l) * 64 + k) % 64 = k := by omega
  unfold encodeChar
  rw [toNat_ofNat_of_valid hvalid]
  dsimp only
  rw [if_neg (by omega), if_neg (by omega), if_neg (by omega), hfirst, hsecond, hthird, hfourth]

end Bits

/-- A character that is read has the bytes that were read as its encoding. -/
lemma encodeChar_of_readTail {b : UInt8} {lead : Lead} {bytes rest : List UInt8} {code : Nat}
    (hlead : lead? b.toNat = some lead)
    (htail : readTail 1 lead.tail lead.low lead.high lead.bits bytes = .ok (code, rest)) :
    b :: bytes = encodeChar (Char.ofNat code) ++ rest := by
  obtain ⟨hone, rfl⟩ | ⟨n, hmin, hn, rfl, rfl⟩ | ⟨n, hn, rfl, rfl⟩ | ⟨n, hn, rfl, rfl⟩ :=
    lead?_eq_some hlead
  · cases htail
    rw [encodeChar_one hone, byte_toNat]
    rfl
  · obtain ⟨m, bytes, rfl, hm, -, -, htail⟩ := readTail_succ_eq_ok (by simp) (by simp) htail
    cases htail
    rw [encodeChar_two hmin hn hm]
    rfl
  · obtain ⟨m, bytes, rfl, hm, hlow, hhigh, htail⟩ :=
      readTail_succ_eq_ok (by dsimp only; split <;> omega) (by dsimp only; split <;> omega) htail
    obtain ⟨l, bytes, rfl, hl, -, -, htail⟩ := readTail_succ_eq_ok (by simp) (by simp) htail
    cases htail
    rw [encodeChar_three hn hm hl hlow hhigh]
    rfl
  · obtain ⟨m, bytes, rfl, hm, hlow, hhigh, htail⟩ :=
      readTail_succ_eq_ok (by dsimp only; split <;> omega) (by dsimp only; split <;> omega) htail
    obtain ⟨l, bytes, rfl, hl, -, -, htail⟩ := readTail_succ_eq_ok (by simp) (by simp) htail
    obtain ⟨k, bytes, rfl, hk, -, -, htail⟩ := readTail_succ_eq_ok (by simp) (by simp) htail
    cases htail
    rw [encodeChar_four hn hm hl hk hlow hhigh]
    rfl

/-- What is decoded encodes to the bytes it was decoded from. -/
lemma encode_of_decode {bytes : List UInt8} {text : List Char} (h : decode bytes = .ok text) :
    encode text = bytes := by
  have hfrom : ∀ fuel position bytes text, bytes.length ≤ fuel →
      decodeFrom fuel position bytes = .ok text → encode text = bytes := by
    intro fuel
    induction fuel with
    | zero =>
      intro position bytes text hfuel h
      obtain rfl := List.length_eq_zero_iff.mp (Nat.le_zero.mp hfuel)
      cases h
      rfl
    | succ fuel ih =>
      intro position bytes text hfuel h
      cases bytes with
      | nil =>
        cases h
        rfl
      | cons b bytes =>
        rw [decodeFrom] at h
        split at h
        · cases h
        next lead hlead =>
          split at h
          · cases h
          next code rest htail =>
            obtain ⟨decoded, hrest, hpure⟩ := bind_eq_ok_iff.mp h
            cases hpure
            have hbytes := encodeChar_of_readTail hlead htail
            -- A character takes a byte at least, so the fuel is enough for the rest.
            have hpos := List.length_pos_iff.mpr (encodeChar_ne_nil (Char.ofNat code))
            have hlength := congrArg List.length hbytes
            rw [List.length_append, List.length_cons] at hlength
            rw [List.length_cons] at hfuel
            rw [encode_cons, ih _ _ _ (by omega) hrest, hbytes]
  exact hfrom _ 0 _ _ le_rfl h

/-- Bytes are decoded exactly when they are the encoding of a text. -/
theorem decode_eq_ok_iff {bytes : List UInt8} {text : List Char} :
    decode bytes = .ok text ↔ bytes = encode text := by
  constructor
  · exact fun h => (encode_of_decode h).symm
  · rintro rfl
    exact decode_encode text

end SlopLint.Text.Utf8
