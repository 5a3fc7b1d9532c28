import Mathlib.Data.List.Basic
import Mathlib.Tactic.Lemma
import SlopLint.Proofs.EscapedTexts
import SlopLint.Proofs.PrintedNumbers

/-!
# Written JSON values

A value is read back from its text: every kind of value is, whatever comes behind it, as long as
that cannot go on with a number. Lists of items and members are read one by one behind what has
been read already. Values with floating point numbers are left out, and objects that have a name
twice, as a reader keeps the last of its members only.
-/

namespace SlopLint.Json

/-- What may come behind a value in a written text. -/
inductive Stops : List Char → Prop where
  | done : Stops []
  | comma (rest : List Char) : Stops (',' :: rest)
  | feed (rest : List Char) : Stops ('\n' :: rest)

variable {limit : Option Nat} {rest : List Char}

/-! ### Whole numbers -/

lemma digits_repr (n : Nat) (h : Stops rest) :
    digits (n.repr.toList ++ rest) = (n.repr.toList, rest) := by
  have hdigits : ∀ c ∈ n.repr.toList, c.isDigit = true := fun c => isDigit_of_mem_repr
  have hrest : rest.takeWhile Char.isDigit = [] ∧ rest.dropWhile Char.isDigit = rest := by
    cases h <;> exact ⟨rfl, rfl⟩
  rw [digits, List.takeWhile_append_of_pos hdigits, List.dropWhile_append_of_pos hdigits, hrest.1,
    hrest.2, List.append_nil]

lemma wholePart?_repr (n : Nat) (h : Stops rest) :
    wholePart? (n.repr.toList ++ rest) = some (n.repr.toList, rest) := by
  by_cases hzero : n = 0
  · subst hzero
    rfl
  · have hdigits := digits_repr n h
    have hhead := head?_repr_ne_zero hzero
    obtain ⟨c, tail, hrepr, -⟩ := exists_repr_eq_cons n
    have hc : c ≠ '0' := by simpa [hrepr] using hhead
    rw [hrepr, List.cons_append] at hdigits ⊢
    rw [wholePart?, hdigits]
    · rfl
    · exact fun _ heq => hc (List.head_eq_of_cons_eq heq)

lemma fraction_of_stops (h : Stops rest) : fraction rest = ([], rest) := by
  cases h <;> rfl

lemma exponent?_of_stops (h : Stops rest) : exponent? rest = none := by
  cases h <;> rfl

/-- The digits of a number are read where the limit allows as many. -/
lemma readUnsigned_repr {n : Nat} (hdigits : ∀ most ∈ limit, n.repr.length ≤ most) (h : Stops rest)
    (text : List Char) (negative : Bool) :
    readUnsigned limit text negative (n.repr.toList ++ rest) =
      .ok (.int (if negative then -n else n), rest) := by
  have hlimit : limit.any (· < n.repr.toList.length) = false := by
    rw [String.length_toList]
    cases limit with
    | none => rfl
    | some most => simpa using hdigits most rfl
  simp only [readUnsigned, wholePart?_repr n h, fraction_of_stops h, exponent?_of_stops h, hlimit,
    natOfDigits_repr, List.isEmpty_nil, if_true, Bool.false_eq_true, if_false]

lemma readNumber_toString {n : Int} (hdigits : ∀ most ∈ limit, n.natAbs.repr.length ≤ most)
    (h : Stops rest) : readNumber limit ((toString n).toList ++ rest) = .ok (.int n, rest) := by
  have hread := readUnsigned_repr hdigits h
  rw [toList_toString]
  by_cases hneg : n < 0
  · have habs : -(n.natAbs : Int) = n := by omega
    rw [if_pos hneg, List.singleton_append, List.cons_append, readNumber, hread, if_pos rfl, habs]
  · have habs : (n.natAbs : Int) = n := by omega
    rw [if_neg hneg, List.nil_append, readNumber, hread, if_neg (by simp), habs]
    intro tail heq
    obtain ⟨c, tail', hrepr, hdigit⟩ := exists_repr_eq_cons n.natAbs
    rw [hrepr, List.cons_append] at heq
    rw [List.head_eq_of_cons_eq heq] at hdigit
    cases hdigit

/-- A number has a digit among its first two characters, and no word has. -/
lemma readScalar_toString {n : Int} (hdigits : ∀ most ∈ limit, n.natAbs.repr.length ≤ most)
    (h : Stops rest) : readScalar limit ((toString n).toList ++ rest) = .ok (.int n, rest) := by
  have htable : ∀ word ∈ words, 2 ≤ word.1.toList.length ∧
      (word.1.toList.take 2).all (fun c => !c.isDigit) = true := by decide
  obtain ⟨c, hfront, hdigit⟩ : ∃ c ∈ ((toString n).toList ++ rest).take 2, c.isDigit = true := by
    obtain ⟨c, tail, hrepr, hdigit⟩ := exists_repr_eq_cons n.natAbs
    refine ⟨c, ?_, hdigit⟩
    rw [toList_toString, hrepr]
    by_cases hneg : n < 0 <;> simp [hneg]
  have hwords : words.find? (fun word => word.1.toList.isPrefixOf ((toString n).toList ++ rest)) =
      none := by
    rw [List.find?_eq_none]
    intro word hword hstart
    obtain ⟨hlength, hplain⟩ := htable word hword
    rw [List.isPrefixOf_iff_prefix, List.prefix_iff_eq_take] at hstart
    rw [hstart, List.take_take, Nat.min_eq_left hlength] at hplain
    have hc := List.all_eq_true.mp hplain c hfront
    rw [hdigit] at hc
    cases hc
  rw [readScalar, hwords]
  exact readNumber_toString hdigits h

/-! ### Layout -/

lemma skipGap_cons {c : Char} (h : isGap c = false) (text : List Char) :
    skipGap (c :: text) = c :: text := by
  rw [skipGap, List.dropWhile_cons_of_neg (by simp [h])]

/-- A line break and the blanks of a line are skipped. -/
lemma skipGap_line {text : List Char} (h : skipGap text = text) (level : Nat) :
    skipGap ('\n' :: (indent level ++ text)) = text := by
  have hblanks : ∀ c ∈ indent level, isGap c = true := by
    intro c hc
    rw [List.eq_of_mem_replicate hc]
    rfl
  rw [skipGap, List.dropWhile_cons_of_pos rfl, List.dropWhile_append_of_pos hblanks]
  exact h

lemma quote_eq_cons (name : String) : quote name = '"' :: (quote name).tail := rfl

/-- A value that its text gives back: it holds no floating point numbers, its whole numbers have no
more digits than the limit allows, and none of its objects has a name twice. -/
inductive Recoverable (limit : Option Nat) : Json → Prop where
  | null : Recoverable limit .null
  | bool (value : Bool) : Recoverable limit (.bool value)
  | int (n : Int) (hdigits : ∀ most ∈ limit, n.natAbs.repr.length ≤ most) :
    Recoverable limit (.int n)
  | string (value : String) : Recoverable limit (.string value)
  | array (items : List Json) (hitems : ∀ item ∈ items, Recoverable limit item) :
    Recoverable limit (.array items)
  | object (members : List (String × Json)) (hnames : (members.map Prod.fst).Nodup)
    (hmembers : ∀ member ∈ members, Recoverable limit member.2) :
    Recoverable limit (.object members)

/-- A written value starts with a character of its own: no blank, no bracket that closes, no mark of
the byte order. -/
lemma render_eq_cons {value : Json} (h : Recoverable limit value) (level : Nat) :
    ∃ c tail, render level value = c :: tail ∧ isGap c = false ∧ c ≠ ']' ∧ c ≠ '\ufeff' := by
  cases h with
  | null => exact ⟨_, _, rfl, rfl, by decide, by decide⟩
  | bool value => cases value <;> exact ⟨_, _, rfl, rfl, by decide, by decide⟩
  | int n =>
    obtain ⟨c, tail, hrepr, hdigit⟩ := exists_repr_eq_cons n.natAbs
    have hother : ∀ d : Char, d.isDigit = false → c ≠ d := by
      rintro d hd rfl
      rw [hdigit] at hd
      cases hd
    rw [render, toList_toString, hrepr]
    by_cases hneg : n < 0
    · rw [if_pos hneg]
      exact ⟨_, _, rfl, rfl, by decide, by decide⟩
    · rw [if_neg hneg]
      exact ⟨c, tail, rfl, by simp [isGap, hother], hother _ rfl, hother _ rfl⟩
  | string value => exact ⟨_, _, rfl, rfl, by decide, by decide⟩
  | array items => cases items <;> exact ⟨_, _, rfl, rfl, by decide, by decide⟩
  | object members => cases members <;> exact ⟨_, _, rfl, rfl, by decide, by decide⟩

lemma skipGap_render {value : Json} (h : Recoverable limit value) (level : Nat) :
    skipGap (render level value ++ rest) = render level value ++ rest := by
  obtain ⟨c, tail, hrender, hgap, -⟩ := render_eq_cons h level
  rw [hrender]
  exact skipGap_cons hgap _

lemma length_render_pos {value : Json} (h : Recoverable limit value) (level : Nat) :
    0 < (render level value).length := by
  obtain ⟨c, tail, hrender, -⟩ := render_eq_cons h level
  rw [hrender]
  exact Nat.succ_pos _

/-! ### Items and members -/

/-- A value is read wherever it is written, up to what comes behind it. -/
def ReadsBack (limit : Option Nat) (value : Json) : Prop :=
  ∀ level fuel rest, (render level value).length ≤ fuel → Stops rest →
    readValue limit fuel (render level value ++ rest) = .ok (value, rest)

/-- Items are read behind those that have been read, up to the bracket on a line of its own. -/
lemma readItems_render {item : Json} {items : List Json}
    (h : ∀ value ∈ item :: items, Recoverable limit value ∧ ReadsBack limit value)
    (level outer : Nat) :
    ∀ fuel read, (render level item).length + (renderItems level items).length < fuel →
      readItems limit fuel read (render level item ++
        (renderItems level items ++ '\n' :: (indent outer ++ ']' :: rest))) =
        .ok (.array (read.reverse ++ item :: items), rest) := by
  induction items generalizing item with
  | nil =>
    intro fuel read hfuel
    obtain ⟨fuel, rfl⟩ : ∃ n, fuel = n + 1 := ⟨fuel - 1, by omega⟩
    have hread := (h item (by simp)).2 level fuel ('\n' :: (indent outer ++ ']' :: rest))
      (by omega) (.feed _)
    have hclose := skipGap_line (skipGap_cons (c := ']') rfl rest) outer
    rw [renderItems, List.nil_append, readItems, hread]
    simp only [bind, Except.bind, hclose]
    simp [pure, Except.pure]
  | cons next items ih =>
    intro fuel read hfuel
    obtain ⟨fuel, rfl⟩ : ∃ n, fuel = n + 1 := ⟨fuel - 1, by omega⟩
    have hnext : Recoverable limit next := (h next (by simp)).1
    have hpos := length_render_pos (h item (by simp)).1 level
    have hrest : ∀ value ∈ next :: items, Recoverable limit value ∧ ReadsBack limit value :=
      fun value hvalue => h value (List.mem_cons_of_mem _ hvalue)
    rw [renderItems] at hfuel ⊢
    simp only [List.length_cons, List.length_append, List.cons_append, List.append_assoc] at hfuel ⊢
    have hread := (h item (by simp)).2 level fuel (',' :: '\n' :: (indent level ++
      (render level next ++ (renderItems level items ++ '\n' :: (indent outer ++ ']' :: rest)))))
      (by omega) (.comma _)
    rw [readItems, hread]
    simp only [bind, Except.bind, skipGap_cons (c := ',') rfl,
      skipGap_line (skipGap_render hnext level)]
    rw [ih hrest fuel (item :: read) (by omega)]
    simp

/-- A name that is new comes behind the others. -/
lemma setMember_of_not_mem {members : List (String × Json)} {name : String} (value : Json)
    (h : name ∉ members.map Prod.fst) :
    setMember name value members = members ++ [(name, value)] := by
  induction members with
  | nil => rfl
  | cons member members ih =>
    obtain ⟨other, old⟩ := member
    rw [List.map_cons, List.mem_cons, not_or] at h
    have hother : ¬ other = name := fun heq => h.1 heq.symm
    rw [setMember, if_neg (by simpa using hother), ih h.2, List.cons_append]

lemma name_not_mem {read members : List (String × Json)} {name : String} {value : Json}
    (h : ((read ++ (name, value) :: members).map Prod.fst).Nodup) : name ∉ read.map Prod.fst := by
  rw [List.map_append, List.map_cons, List.nodup_append] at h
  exact fun hmem => h.2.2 name hmem name List.mem_cons_self rfl

lemma skipGap_quote (name : String) (text : List Char) :
    skipGap (quote name ++ text) = quote name ++ text := by
  rw [quote_eq_cons]
  exact skipGap_cons rfl _

/-- The name of a member is read, and the blank behind its colon is skipped. -/
lemma readMembers_named (fuel : Nat) (read : List (String × Json)) (name : String)
    (text : List Char) :
    readMembers limit (fuel + 1) read (quote name ++ ':' :: ' ' :: text) =
      readValue limit fuel (skipGap text) >>= fun (value, afterValue) =>
        match skipGap afterValue with
        | '}' :: after => pure (.object (setMember name value read), after)
        | ',' :: after => readMembers limit fuel (setMember name value read) (skipGap after)
        | other => failAt .expectedComma other := by
  rw [quote_eq_cons, List.cons_append, readMembers, readString_quote]
  rfl

/-- Members are read behind those that have been read, up to the brace on a line of its own. -/
lemma readMembers_render {name : String} {value : Json} {members : List (String × Json)}
    (h : ∀ member ∈ (name, value) :: members,
      Recoverable limit member.2 ∧ ReadsBack limit member.2) (level outer : Nat) :
    ∀ fuel read, ((read ++ (name, value) :: members).map Prod.fst).Nodup →
      (render level value).length + (renderMembers level members).length < fuel →
      readMembers limit fuel read (quote name ++ ':' :: ' ' :: (render level value ++
        (renderMembers level members ++ '\n' :: (indent outer ++ '}' :: rest)))) =
        .ok (.object (read ++ (name, value) :: members), rest) := by
  induction members generalizing name value with
  | nil =>
    intro fuel read hnames hfuel
    obtain ⟨fuel, rfl⟩ : ∃ n, fuel = n + 1 := ⟨fuel - 1, by omega⟩
    obtain ⟨hvalue, hreads⟩ : Recoverable limit value ∧ ReadsBack limit value :=
      h (name, value) (by simp)
    have hread := hreads level fuel ('\n' :: (indent outer ++ '}' :: rest)) (by omega) (.feed _)
    have hclose := skipGap_line (skipGap_cons (c := '}') rfl rest) outer
    rw [renderMembers, List.nil_append, readMembers_named, skipGap_render hvalue, hread]
    simp only [bind, Except.bind, hclose, setMember_of_not_mem value (name_not_mem hnames)]
    rfl
  | cons next members ih =>
    intro fuel read hnames hfuel
    obtain ⟨nextName, nextValue⟩ := next
    obtain ⟨fuel, rfl⟩ : ∃ n, fuel = n + 1 := ⟨fuel - 1, by omega⟩
    obtain ⟨hvalue, hreads⟩ : Recoverable limit value ∧ ReadsBack limit value :=
      h (name, value) (by simp)
    have hpos := length_render_pos hvalue level
    have hrest : ∀ member ∈ (nextName, nextValue) :: members,
        Recoverable limit member.2 ∧ ReadsBack limit member.2 :=
      fun member hmember => h member (List.mem_cons_of_mem _ hmember)
    rw [renderMembers] at hfuel ⊢
    simp only [List.length_cons, List.length_append, List.cons_append, List.append_assoc] at hfuel ⊢
    have hread := hreads level fuel (',' :: '\n' :: (indent level ++ (quote nextName ++
      ':' :: ' ' :: (render level nextValue ++ (renderMembers level members ++
        '\n' :: (indent outer ++ '}' :: rest)))))) (by omega) (.comma _)
    rw [readMembers_named, skipGap_render hvalue, hread]
    simp only [bind, Except.bind, skipGap_cons (c := ',') rfl, skipGap_line (skipGap_quote _ _),
      setMember_of_not_mem value (name_not_mem hnames)]
    rw [ih hrest fuel (read ++ [(name, value)]) (by simpa using hnames) (by omega)]
    simp

/-! ### Values -/

lemma readValue_scalar {c : Char} {tail : List Char} (hquote : c ≠ '"') (hbracket : c ≠ '[')
    (hbrace : c ≠ '{') (fuel : Nat) :
    readValue limit (fuel + 1) (c :: tail) = readScalar limit (c :: tail) := by
  rw [readValue.eq_def]
  split <;> simp_all

/-- Every recoverable value is read wherever it is written. -/
lemma readsBack {value : Json} (h : Recoverable limit value) : ReadsBack limit value := by
  induction h with
  | null =>
    intro level fuel rest hfuel _
    obtain ⟨fuel, rfl⟩ : ∃ n, fuel = n + 1 := ⟨fuel - 1, by simp [render] at hfuel; omega⟩
    rfl
  | bool value =>
    intro level fuel rest hfuel _
    obtain ⟨fuel, rfl⟩ : ∃ n, fuel = n + 1 :=
      ⟨fuel - 1, by cases value <;> simp [render] at hfuel <;> omega⟩
    cases value <;> rfl
  | int n hdigits =>
    intro level fuel rest hfuel hrest
    have hpos := length_render_pos (.int n hdigits) level
    obtain ⟨fuel, rfl⟩ : ∃ n, fuel = n + 1 := ⟨fuel - 1, by omega⟩
    have hread := readScalar_toString hdigits hrest
    obtain ⟨c, tail, htext⟩ := List.exists_cons_of_ne_nil (List.length_pos_iff.mp hpos)
    rw [render] at htext ⊢
    have hfirst : ∀ d : Char, d.isDigit = false → d ≠ '-' → c ≠ d := by
      rintro d hd hminus rfl
      exact not_mem_toString hd hminus n (by rw [htext]; exact List.mem_cons_self)
    rw [htext, List.cons_append] at hread ⊢
    rw [readValue_scalar (hfirst _ rfl (by decide)) (hfirst _ rfl (by decide))
      (hfirst _ rfl (by decide)), hread]
  | string value =>
    intro level fuel rest hfuel _
    obtain ⟨fuel, rfl⟩ : ∃ n, fuel = n + 1 := ⟨fuel - 1, by simp [render, quote] at hfuel; omega⟩
    rw [render, quote_eq_cons, List.cons_append, readValue, readString_quote]
    rfl
  | array items hitems ih =>
    intro level fuel rest hfuel hrest
    cases items with
    | nil =>
      obtain ⟨fuel, rfl⟩ : ∃ n, fuel = n + 1 := ⟨fuel - 1, by simp [render] at hfuel; omega⟩
      rfl
    | cons item items =>
      rw [render] at hfuel ⊢
      simp only [List.length_cons, List.length_append, List.cons_append, List.append_assoc,
        List.nil_append] at hfuel ⊢
      obtain ⟨fuel, rfl⟩ : ∃ n, fuel = n + 1 := ⟨fuel - 1, by omega⟩
      have hboth : ∀ value ∈ item :: items, Recoverable limit value ∧ ReadsBack limit value :=
        fun value hvalue => ⟨hitems value hvalue, ih value hvalue⟩
      obtain ⟨c, tail, hrender, -, hclose, -⟩ := render_eq_cons (hitems item (by simp)) (level + 1)
      have hread := @readItems_render limit rest item items hboth (level + 1) level fuel []
        (by omega)
      rw [readValue, skipGap_line (skipGap_render (hitems item (by simp)) _)]
      rw [hrender] at hread ⊢
      simp only [List.cons_append] at hread ⊢
      split
      · next heq => exact absurd (List.head_eq_of_cons_eq heq) hclose
      · exact hread
  | object members hnames hmembers ih =>
    intro level fuel rest hfuel hrest
    cases members with
    | nil =>
      obtain ⟨fuel, rfl⟩ : ∃ n, fuel = n + 1 := ⟨fuel - 1, by simp [render] at hfuel; omega⟩
      rfl
    | cons member members =>
      obtain ⟨name, value⟩ := member
      rw [render] at hfuel ⊢
      simp only [List.length_cons, List.length_append, List.cons_append, List.append_assoc,
        List.nil_append] at hfuel ⊢
      obtain ⟨fuel, rfl⟩ : ∃ n, fuel = n + 1 := ⟨fuel - 1, by omega⟩
      have hboth : ∀ member ∈ (name, value) :: members,
          Recoverable limit member.2 ∧ ReadsBack limit member.2 :=
        fun member hmember => ⟨hmembers member hmember, ih member hmember⟩
      have hread := @readMembers_render limit rest name value members hboth (level + 1) level fuel
        [] hnames (by omega)
      rw [readValue, skipGap_line (skipGap_quote _ _)]
      exact hread

/-- A written value starts a text without blanks and without a mark of the byte order. -/
theorem parse_write {value : Json} (h : Recoverable limit value) :
    parse limit (write value).toList = .ok value := by
  obtain ⟨c, tail, hrender, hgap, -, hmark⟩ := render_eq_cons h 0
  have hread := readsBack h 0 (2 * (render 0 value).length + 2) [] (by omega) .done
  rw [List.append_nil] at hread
  rw [write, String.toList_ofList]
  rw [hrender] at hread ⊢
  rw [parse, skipGap_cons hgap, hread]
  · rfl
  · exact fun _ heq => hmark (List.head_eq_of_cons_eq heq)

/-! ### Characters -/

/-- The characters that texts are written with: printable ASCII and the line feed. -/
def IsWritten (c : Char) : Prop :=
  c = '\n' ∨ (32 ≤ c.toNat ∧ c.toNat < 127)

instance (c : Char) : Decidable (IsWritten c) :=
  inferInstanceAs (Decidable (_ ∨ _))

lemma isWritten_hexDigit {d : Nat} (h : d < 16) : IsWritten (hexDigit d) := by
  have hall : ∀ d < 16, IsWritten (hexDigit d) := by decide
  exact hall d h

lemma isWritten_codeUnit (n : Nat) : ∀ c ∈ codeUnit n, IsWritten c := by
  have hdigit : ∀ m, IsWritten (hexDigit (m % 16)) :=
    fun m => isWritten_hexDigit (Nat.mod_lt m (by decide))
  simp only [codeUnit, List.forall_mem_cons, hdigit, true_and]
  exact ⟨by decide, by decide, fun _ hc => absurd hc List.not_mem_nil⟩

lemma isWritten_escape (c : Char) : ∀ d ∈ escape c, IsWritten d := by
  have hletter : ∀ letter, IsWritten letter → ∀ d ∈ ['\\', letter], IsWritten d := by
    intro letter h
    rw [List.forall_mem_cons, List.forall_mem_singleton]
    exact ⟨by decide, h⟩
  unfold escape
  dsimp only
  split_ifs with _ _ _ _ _ _ _ hplain
  · exact hletter _ (by decide)
  · exact hletter _ (by decide)
  · exact hletter _ (by decide)
  · exact hletter _ (by decide)
  · exact hletter _ (by decide)
  · exact hletter _ (by decide)
  · exact hletter _ (by decide)
  · exact List.forall_mem_singleton.mpr (.inr hplain)
  · exact isWritten_codeUnit _
  · exact List.forall_mem_append.mpr ⟨isWritten_codeUnit _, isWritten_codeUnit _⟩

lemma isWritten_quote (text : String) : ∀ c ∈ quote text, IsWritten c := by
  rw [quote, List.cons_append, List.forall_mem_cons, List.forall_mem_append,
    List.forall_mem_singleton]
  refine ⟨by decide, ?_, by decide⟩
  intro c hc
  obtain ⟨d, _, hd⟩ := List.mem_flatMap.mp hc
  exact isWritten_escape d c hd

lemma isWritten_toString (n : Int) : ∀ c ∈ (toString n).toList, IsWritten c := by
  intro c hc
  by_cases hminus : c = '-'
  · subst hminus
    decide
  · have hdigit : c.isDigit = true := by
      by_contra h
      exact not_mem_toString (by simpa using h) hminus n hc
    obtain ⟨hzero, hnine⟩ := Char.isDigit_iff_toNat.mp hdigit
    exact .inr ⟨Nat.le_trans (by decide) hzero, Nat.lt_of_le_of_lt hnine (by decide)⟩

lemma isWritten_indent (level : Nat) : ∀ c ∈ indent level, IsWritten c := by
  intro c hc
  rw [List.eq_of_mem_replicate hc]
  decide

lemma isWritten_renderItems {items : List Json} {level : Nat}
    (h : ∀ item ∈ items, ∀ c ∈ render level item, IsWritten c) :
    ∀ c ∈ renderItems level items, IsWritten c := by
  induction items with
  | nil => exact fun _ hc => absurd hc List.not_mem_nil
  | cons item items ih =>
    obtain ⟨hitem, hitems⟩ := List.forall_mem_cons.mp h
    simp only [renderItems, List.cons_append, List.forall_mem_cons, List.forall_mem_append]
    exact ⟨by decide, by decide, ⟨isWritten_indent level, hitem⟩, ih hitems⟩

lemma isWritten_renderMembers {members : List (String × Json)} {level : Nat}
    (h : ∀ member ∈ members, ∀ c ∈ render level member.2, IsWritten c) :
    ∀ c ∈ renderMembers level members, IsWritten c := by
  induction members with
  | nil => exact fun _ hc => absurd hc List.not_mem_nil
  | cons member members ih =>
    obtain ⟨hmember, hmembers⟩ := List.forall_mem_cons.mp h
    simp only [renderMembers, List.cons_append, List.forall_mem_cons, List.forall_mem_append]
    exact ⟨by decide, by decide,
      ⟨⟨isWritten_indent level, isWritten_quote _⟩, by decide, by decide, hmember⟩, ih hmembers⟩

lemma isWritten_of_all {text : List Char} (h : text.all (fun c => decide (IsWritten c)) = true) :
    ∀ c ∈ text, IsWritten c :=
  fun c hc => of_decide_eq_true (List.all_eq_true.mp h c hc)

/-- The text of a value has no other characters than those. -/
theorem isWritten_render {value : Json} (h : Recoverable limit value) :
    ∀ level, ∀ c ∈ render level value, IsWritten c := by
  induction h with
  | null => exact fun _ => isWritten_of_all rfl
  | bool value => cases value <;> exact fun _ => isWritten_of_all rfl
  | int n => exact fun _ => isWritten_toString n
  | string value => exact fun _ => isWritten_quote value
  | array items hitems ih =>
    intro level
    cases items with
    | nil => exact isWritten_of_all rfl
    | cons item items =>
      have hall : ∀ value ∈ item :: items, ∀ c ∈ render (level + 1) value, IsWritten c :=
        fun value hvalue => ih value hvalue (level + 1)
      obtain ⟨hitem, hrest⟩ := List.forall_mem_cons.mp hall
      simp only [render, List.cons_append, List.forall_mem_cons, List.forall_mem_append]
      exact ⟨by decide, by decide,
        ⟨⟨⟨isWritten_indent _, hitem⟩, isWritten_renderItems hrest⟩, by decide, isWritten_indent _⟩,
        by decide, fun _ hc => absurd hc List.not_mem_nil⟩
  | object members hnames hmembers ih =>
    intro level
    cases members with
    | nil => exact isWritten_of_all rfl
    | cons member members =>
      obtain ⟨name, value⟩ := member
      have hall : ∀ other ∈ (name, value) :: members,
          ∀ c ∈ render (level + 1) other.2, IsWritten c :=
        fun other hother => ih other hother (level + 1)
      obtain ⟨hmember, hrest⟩ := List.forall_mem_cons.mp hall
      simp only [render, List.cons_append, List.forall_mem_cons, List.forall_mem_append]
      exact ⟨by decide, by decide,
        ⟨⟨⟨⟨isWritten_indent _, isWritten_quote _⟩, by decide, by decide, hmember⟩,
          isWritten_renderMembers hrest⟩, by decide, isWritten_indent _⟩,
        by decide, fun _ hc => absurd hc List.not_mem_nil⟩

end SlopLint.Json
