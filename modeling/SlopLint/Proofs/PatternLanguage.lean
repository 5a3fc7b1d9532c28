import Mathlib.Tactic.Lemma
import SlopLint.Proofs.PatternEnds

/-!
# The language of a pattern

A pattern built from characters, places, sequences, alternatives, groups and repetitions that give
back is regular: which texts it takes at a place is said without an order of attempts. Its ends
are exactly the places behind the texts it takes, so backtracking loses none of them, and a search
succeeds as soon as there is an occurrence.
-/

namespace SlopLint.Pattern

/-- The place between two texts, the first of them in reverse. -/
def Cursor.between (before after : List Char) (groups : List (Nat × Captured)) : Cursor :=
  ⟨before, after, after.length, groups⟩

/-- Which texts are taken, between what comes before them, in reverse, and what comes after. -/
abbrev Language := List Char → List Char → List Char → Prop

namespace Language

/-- A text of the first language, then one of the second. -/
def followedBy (first second : Language) : Language := fun before text after =>
  ∃ head tail, text = head ++ tail ∧ first before head (tail ++ after) ∧
    second (head.reverse ++ before) tail after

/-- The texts of `n` rounds. -/
def rounds (body : Language) : Nat → Language
  | 0 => fun _ text _ => text = []
  | n + 1 => body.followedBy (rounds body n)

/-- The texts of the rounds that may follow the required ones. -/
def spare (body : Language) (min : Nat) (max : Option Nat) : Language := fun before text after =>
  ∃ n, (∀ most, max = some most → n ≤ most - min) ∧ body.rounds n before text after

end Language

namespace Node

/-- The texts that a regular node takes; nodes of the other kinds are left out. -/
def takes : Node → Language
  | empty => fun _ text _ => text = []
  | char mode test => fun _ text _ => ∃ c, text = [c] ∧ test.passes mode c = true
  | anchor place => fun before text after =>
    text = [] ∧ place.holds (.between before after []) = true
  | cat first second => first.takes.followedBy second.takes
  | alt first second => fun before text after =>
    first.takes before text after ∨ second.takes before text after
  | capture _ body => body.takes
  | loop _ min max body => (body.takes.rounds min).followedBy (body.takes.spare min max)
  | _ => fun _ _ _ => False

/-- Whether a node is regular. -/
def isRegular : Node → Bool
  | empty | char _ _ | anchor _ => true
  | cat first second => first.isRegular && second.isRegular
  | alt first second => first.isRegular && second.isRegular
  | capture _ body => body.isRegular
  | loop greed _ _ body => greed != .possessive && body.isRegular
  | _ => false

end Node

/-- Ends realize a language when they are the places behind its texts. -/
structure Ends.Realizes (ends : Ends) (language : Language) : Prop where
  sound : ∀ before rest groups, ∀ t ∈ ends (.between before rest groups),
    ∃ text after groups', rest = text ++ after ∧
      t = .between (text.reverse ++ before) after groups' ∧ language before text after
  complete : ∀ before text after groups, language before text after →
    ∃ groups', .between (text.reverse ++ before) after groups' ∈
      ends (.between before (text ++ after) groups)

/-! ### Sequences and rounds -/

section Loops

variable {ends ends' : Ends} {body language : Language}

lemma followedBy_realizes (h : ends.Realizes body) (h' : ends'.Realizes language) :
    Ends.Realizes (fun s => (ends s).flatMap ends') (body.followedBy language) := by
  constructor
  · intro before rest groups t ht
    obtain ⟨s, hs, ht⟩ := List.mem_flatMap.mp ht
    obtain ⟨head, rest', groups', rfl, rfl, hhead⟩ := h.sound _ _ _ s hs
    obtain ⟨tail, after, groups'', rfl, rfl, htail⟩ := h'.sound _ _ _ t ht
    refine ⟨head ++ tail, after, groups'', (List.append_assoc _ _ _).symm, ?_,
      head, tail, rfl, hhead, htail⟩
    rw [List.reverse_append, List.append_assoc]
  · rintro before _ after groups ⟨head, tail, rfl, hhead, htail⟩
    obtain ⟨groups', hmem⟩ := h.complete before head (tail ++ after) groups hhead
    obtain ⟨groups'', hmem'⟩ := h'.complete _ tail after groups' htail
    rw [List.append_assoc, List.reverse_append, List.append_assoc]
    exact ⟨groups'', List.mem_flatMap.mpr ⟨_, hmem, hmem'⟩⟩

lemma here_realizes : Ends.Realizes (fun s => [s]) fun _ text _ => text = [] := by
  constructor
  · intro before rest groups t ht
    exact ⟨[], rest, groups, rfl, List.mem_singleton.mp ht, rfl⟩
  · rintro before _ after groups rfl
    exact ⟨groups, List.mem_singleton.mpr rfl⟩

lemma times_realizes (h : ends.Realizes body) (n : Nat) :
    Ends.Realizes (ends.times n) (body.rounds n) := by
  induction n with
  | zero => exact here_realizes
  | succ n ih => exact followedBy_realizes h ih

/-- Rounds that take nothing can be left out, so there need not be more than characters. -/
lemma rounds_le_length {n : Nat} {before text after : List Char}
    (h : body.rounds n before text after) :
    ∃ m ≤ text.length, body.rounds m before text after := by
  induction n generalizing before text with
  | zero => exact ⟨0, Nat.zero_le _, h⟩
  | succ n ih =>
    obtain ⟨first, rest, rfl, hfirst, hrest⟩ := h
    obtain ⟨m, hm, hrounds⟩ := ih hrest
    cases first with
    | nil => exact ⟨m, hm, hrounds⟩
    | cons c first =>
      refine ⟨m + 1, ?_, c :: first, rest, rfl, hfirst, hrounds⟩
      rw [List.length_append, List.length_cons]
      omega

/-- The ends of up to `n` rounds, in whatever order they are listed: the place itself, and behind
a first round those of the others, if it has taken something. -/
structure Ends.Spares (spares : Nat → Ends) (ends : Ends) : Prop where
  zero : ∀ s t, t ∈ spares 0 s ↔ t = s
  succ : ∀ n s t, t ∈ spares (n + 1) s ↔
    t = s ∨ ∃ r ∈ ends s, t ∈ if r.left < s.left then spares n r else [r]

lemma greedy_spares (ends : Ends) : Ends.Spares ends.greedy ends := by
  constructor
  · intro s t
    exact List.mem_singleton
  · intro n s t
    change t ∈ (ends s).flatMap (fun r => if r.left < s.left then ends.greedy n r else [r]) ++ [s] ↔
      _
    rw [List.mem_append, List.mem_flatMap, List.mem_singleton, or_comm]

lemma lazy_spares (ends : Ends) : Ends.Spares ends.lazy ends := by
  constructor
  · intro s t
    exact List.mem_singleton
  · intro n s t
    change t ∈ s :: (ends s).flatMap (fun r => if r.left < s.left then ends.lazy n r else [r]) ↔ _
    rw [List.mem_cons, List.mem_flatMap]

variable {spares : Nat → Ends}

lemma spares_sound (hspares : Ends.Spares spares ends) (h : ends.Realizes body) (n : Nat)
    (before rest : List Char) (groups : List (Nat × Captured)) (t : Cursor)
    (ht : t ∈ spares n (.between before rest groups)) :
    ∃ text after groups', rest = text ++ after ∧
      t = .between (text.reverse ++ before) after groups' ∧
      ∃ m ≤ n, body.rounds m before text after := by
  induction n generalizing before rest groups with
  | zero =>
    obtain rfl := (hspares.zero _ _).mp ht
    exact ⟨[], rest, groups, rfl, rfl, 0, Nat.le_refl _, rfl⟩
  | succ n ih =>
    obtain rfl | ⟨r, hr, ht⟩ := (hspares.succ n _ _).mp ht
    · exact ⟨[], rest, groups, rfl, rfl, 0, Nat.zero_le _, rfl⟩
    · obtain ⟨first, rest', groups', rfl, rfl, hfirst⟩ := h.sound _ _ _ r hr
      split at ht
      · obtain ⟨text, after, groups'', rfl, rfl, m, hm, hrounds⟩ := ih _ _ _ ht
        refine ⟨first ++ text, after, groups'', (List.append_assoc _ _ _).symm, ?_,
          m + 1, by omega, first, text, rfl, hfirst, hrounds⟩
        rw [List.reverse_append, List.append_assoc]
      · obtain rfl := List.mem_singleton.mp ht
        exact ⟨first, rest', groups', rfl, rfl, 1, by omega, first, [],
          (List.append_nil _).symm, hfirst, rfl⟩

/-- A first round that takes nothing is passed over, the others are made in turn. -/
lemma spares_complete (hspares : Ends.Spares spares ends) (h : ends.Realizes body) {m n : Nat}
    (hmn : m ≤ n) (before text after : List Char) (groups : List (Nat × Captured))
    (hrounds : body.rounds m before text after) :
    ∃ groups', .between (text.reverse ++ before) after groups' ∈
      spares n (.between before (text ++ after) groups) := by
  induction m generalizing n before text groups with
  | zero =>
    obtain rfl := hrounds
    refine ⟨groups, ?_⟩
    cases n with
    | zero => exact (hspares.zero _ _).mpr rfl
    | succ n => exact (hspares.succ n _ _).mpr (.inl rfl)
  | succ m ih =>
    obtain ⟨first, rest, rfl, hfirst, hrest⟩ := hrounds
    cases first with
    | nil =>
      -- The matcher would end the loop here, so the other rounds are made from the start.
      exact ih (by omega) before rest groups hrest
    | cons c first =>
      obtain ⟨n, rfl⟩ : ∃ n', n = n' + 1 := ⟨n - 1, by omega⟩
      obtain ⟨groups', hmem⟩ := h.complete before (c :: first) (rest ++ after) groups hfirst
      obtain ⟨groups'', hmem'⟩ := ih (by omega : m ≤ n) _ rest groups' hrest
      rw [List.append_assoc, List.reverse_append, List.append_assoc]
      refine ⟨groups'', (hspares.succ n _ _).mpr (.inr ⟨_, hmem, ?_⟩)⟩
      have hfewer : (rest ++ after).length < (c :: first ++ (rest ++ after)).length := by
        rw [List.length_append, List.length_append, List.length_append, List.length_cons]
        omega
      rw [if_pos (show Cursor.left _ < Cursor.left _ from hfewer)]
      exact hmem'

/-- Without a bound there are rounds enough for every character. -/
lemma loop_realizes (hspares : Ends.Spares spares ends) (h : ends.Realizes body) (min : Nat)
    (max : Option Nat) :
    Ends.Realizes (fun s => spares (spareRounds min max s) s) (body.spare min max) := by
  constructor
  · intro before rest groups t ht
    obtain ⟨text, after, groups', rfl, rfl, m, hm, hrounds⟩ :=
      spares_sound hspares h _ before rest groups t ht
    refine ⟨text, after, groups', rfl, rfl, m, ?_, hrounds⟩
    rintro most rfl
    exact hm
  · rintro before text after groups ⟨m, hm, hrounds⟩
    cases max with
    | some most => exact spares_complete hspares h (hm most rfl) before text after groups hrounds
    | none =>
      obtain ⟨m', hm', hrounds'⟩ := rounds_le_length hrounds
      refine spares_complete hspares h ?_ before text after groups hrounds'
      simp only [spareRounds, Cursor.between, List.length_append]
      omega

end Loops

/-! ### Nodes -/

lemma char_realizes (mode : Mode) (test : CharTest) :
    Ends.Realizes (Node.char mode test).ends (Node.char mode test).takes := by
  constructor
  · intro before rest groups t ht
    cases rest with
    | nil => cases ht
    | cons c rest =>
      simp only [Node.ends, Cursor.between] at ht
      split at ht
      · next hpasses =>
        obtain rfl := List.mem_singleton.mp ht
        exact ⟨[c], rest, groups, rfl, rfl, c, rfl, hpasses⟩
      · cases ht
  · rintro before _ after groups ⟨c, rfl, hpasses⟩
    refine ⟨groups, ?_⟩
    simp only [Node.ends, Cursor.between, List.singleton_append, hpasses, if_true]
    exact List.mem_singleton.mpr rfl

lemma anchor_realizes (place : Anchor) :
    Ends.Realizes (Node.anchor place).ends (Node.anchor place).takes := by
  have hgroups : ∀ before after groups,
      place.holds (.between before after groups) = place.holds (.between before after []) := by
    intro before after groups
    cases place <;> rfl
  constructor
  · intro before rest groups t ht
    simp only [Node.ends] at ht
    split at ht
    · next hholds =>
      obtain rfl := List.mem_singleton.mp ht
      exact ⟨[], rest, groups, rfl, rfl, rfl, (hgroups before rest groups).symm.trans hholds⟩
    · cases ht
  · rintro before _ after groups ⟨rfl, hholds⟩
    refine ⟨groups, ?_⟩
    simp only [Node.ends, List.nil_append, hgroups before after groups, hholds, if_true]
    exact List.mem_singleton.mpr rfl

/-- Backtracking finds a regular node exactly where its language says. -/
theorem ends_realize (node : Node) (hregular : node.isRegular = true) :
    Ends.Realizes node.ends node.takes := by
  induction node with
  | empty => exact here_realizes
  | char mode test => exact char_realizes mode test
  | anchor place => exact anchor_realizes place
  | cat first second ih₁ ih₂ =>
    simp only [Node.isRegular, Bool.and_eq_true] at hregular
    exact followedBy_realizes (ih₁ hregular.1) (ih₂ hregular.2)
  | alt first second ih₁ ih₂ =>
    simp only [Node.isRegular, Bool.and_eq_true] at hregular
    have h₁ := ih₁ hregular.1
    have h₂ := ih₂ hregular.2
    constructor
    · intro before rest groups t ht
      rcases List.mem_append.mp ht with ht | ht
      · obtain ⟨text, after, groups', rfl, rfl, htakes⟩ := h₁.sound _ _ _ t ht
        exact ⟨text, after, groups', rfl, rfl, .inl htakes⟩
      · obtain ⟨text, after, groups', rfl, rfl, htakes⟩ := h₂.sound _ _ _ t ht
        exact ⟨text, after, groups', rfl, rfl, .inr htakes⟩
    · intro before text after groups htakes
      rcases htakes with htakes | htakes
      · obtain ⟨groups', hmem⟩ := h₁.complete _ _ _ groups htakes
        exact ⟨groups', List.mem_append_left _ hmem⟩
      · obtain ⟨groups', hmem⟩ := h₂.complete _ _ _ groups htakes
        exact ⟨groups', List.mem_append_right _ hmem⟩
  | capture group body ih =>
    have h := ih hregular
    constructor
    · intro before rest groups t ht
      obtain ⟨t, hmem, rfl⟩ := List.mem_map.mp ht
      obtain ⟨text, after, groups', rfl, rfl, htakes⟩ := h.sound _ _ _ t hmem
      exact ⟨text, after, _, rfl, rfl, htakes⟩
    · intro before text after groups htakes
      obtain ⟨groups', hmem⟩ := h.complete _ _ _ groups htakes
      exact ⟨_, List.mem_map.mpr ⟨_, hmem, rfl⟩⟩
  | loop greed min max body ih =>
    simp only [Node.isRegular, Bool.and_eq_true] at hregular
    have h := ih hregular.2
    cases greed with
    | greedy =>
      exact followedBy_realizes (times_realizes h min) (loop_realizes (greedy_spares _) h min max)
    | lazy =>
      exact followedBy_realizes (times_realizes h min) (loop_realizes (lazy_spares _) h min max)
    | possessive => exact absurd hregular.1 (by decide)
  | atomic _ _ => cases hregular
  | ahead _ _ _ => cases hregular
  | behind _ _ _ _ => cases hregular
  | backref _ _ => cases hregular
  | conditional _ _ _ _ _ => cases hregular

/-- A regular node ends nowhere when it takes nothing of what is unread. -/
lemma ends_eq_nil_iff {node : Node} (hregular : node.isRegular = true) {before unread : List Char}
    {groups : List (Nat × Captured)} :
    node.ends (.between before unread groups) = [] ↔
      ∀ text after, unread = text ++ after → ¬ node.takes before text after := by
  have hends := ends_realize node hregular
  constructor
  · rintro hnil text after rfl htakes
    obtain ⟨_, hmem⟩ := hends.complete before text after groups htakes
    rw [hnil] at hmem
    cases hmem
  · intro hnone
    apply List.eq_nil_iff_forall_not_mem.mpr
    intro t ht
    obtain ⟨text, after, _, hunread, -, htakes⟩ := hends.sound before unread groups t ht
    exact hnone text after hunread htakes

/-! ### Searching -/

section Searching

variable {node : Node}

lemma matchAt_false (node : Node) (s : Cursor) : matchAt node false s = (node.ends s).head? :=
  first_eq_head? node s

lemma firstMatch_of_mem {before text : List Char} {t : Cursor}
    (h : (node.ends (.between before text [])).head? = some t) :
    firstMatch node false before text text.length = some (.between before text [], t) := by
  rw [← matchAt_false] at h
  unfold firstMatch
  dsimp only
  rw [show matchAt node false ⟨before, text, text.length, []⟩ = some t from h]
  rfl

lemma firstMatch_of_nil {before text : List Char}
    (h : (node.ends (.between before text [])).head? = none) :
    firstMatch node false before text text.length =
      match text with
      | [] => none
      | c :: rest => firstMatch node false (c :: before) rest rest.length := by
  rw [← matchAt_false] at h
  conv => lhs; unfold firstMatch
  dsimp only
  rw [show matchAt node false ⟨before, text, text.length, []⟩ = none from h]
  cases text <;> rfl

lemma firstMatch_eq_some (hregular : node.isRegular = true) {before text : List Char}
    {s t : Cursor} (h : firstMatch node false before text text.length = some (s, t)) :
    ∃ skipped found after groups, text = skipped ++ found ++ after ∧
      s = .between (skipped.reverse ++ before) (found ++ after) [] ∧
      t = .between (found.reverse ++ (skipped.reverse ++ before)) after groups ∧
      node.takes (skipped.reverse ++ before) found after := by
  induction text generalizing before with
  | nil =>
    cases hhead : (node.ends (.between before [] [])).head? with
    | none =>
      rw [firstMatch_of_nil hhead] at h
      cases h
    | some r =>
      rw [firstMatch_of_mem hhead] at h
      cases h
      obtain ⟨found, after, groups, heq, rfl, htakes⟩ :=
        (ends_realize node hregular).sound before [] [] t (List.mem_of_mem_head? hhead)
      exact ⟨[], found, after, groups, heq, by rw [← heq]; rfl, rfl, htakes⟩
  | cons c text ih =>
    cases hhead : (node.ends (.between before (c :: text) [])).head? with
    | none =>
      rw [firstMatch_of_nil hhead] at h
      obtain ⟨skipped, found, after, groups, rfl, rfl, rfl, htakes⟩ := ih h
      refine ⟨c :: skipped, found, after, groups, rfl, ?_⟩
      rw [List.reverse_cons, List.append_assoc]
      exact ⟨rfl, rfl, htakes⟩
    | some r =>
      rw [firstMatch_of_mem hhead] at h
      cases h
      obtain ⟨found, after, groups, heq, rfl, htakes⟩ :=
        (ends_realize node hregular).sound before (c :: text) [] t (List.mem_of_mem_head? hhead)
      exact ⟨[], found, after, groups, heq, by rw [← heq]; rfl, rfl, htakes⟩

lemma firstMatch_isSome (hregular : node.isRegular = true) {before skipped found after : List Char}
    (h : node.takes (skipped.reverse ++ before) found after) :
    (firstMatch node false before (skipped ++ (found ++ after))
      (skipped ++ (found ++ after)).length).isSome := by
  induction skipped generalizing before with
  | nil =>
    obtain ⟨groups, hmem⟩ := (ends_realize node hregular).complete before found after [] h
    rw [List.nil_append]
    cases hhead : (node.ends (.between before (found ++ after) [])).head? with
    | none =>
      rw [List.head?_eq_none_iff] at hhead
      rw [hhead] at hmem
      cases hmem
    | some r =>
      rw [firstMatch_of_mem hhead]
      rfl
  | cons c skipped ih =>
    rw [List.reverse_cons, List.append_assoc] at h
    rw [List.cons_append]
    cases hhead : (node.ends (.between before (c :: (skipped ++ (found ++ after))) [])).head? with
    | none =>
      rw [firstMatch_of_nil hhead]
      exact ih h
    | some r =>
      rw [firstMatch_of_mem hhead]
      rfl

end Searching

/-- A regular pattern that takes no empty text occurs in a text when a part of it is taken. -/
theorem occurrences_ne_nil_iff (pattern : Pattern) (hregular : pattern.node.isRegular = true)
    (hmoves : ∀ before after, ¬ pattern.node.takes before [] after) (text : List Char) :
    pattern.occurrences text ≠ [] ↔
      ∃ before found after, text = before ++ found ++ after ∧
        pattern.node.takes before.reverse found after := by
  unfold Pattern.occurrences occurrencesFrom Cursor.atStart
  dsimp only
  constructor
  · intro h
    cases hfirst : firstMatch pattern.node false [] text text.length with
    | none => simp [hfirst] at h
    | some place =>
      obtain ⟨skipped, found, after, _, heq, _, _, htakes⟩ :=
        firstMatch_eq_some hregular (s := place.1) (t := place.2) hfirst
      rw [List.append_nil] at htakes
      exact ⟨skipped, found, after, heq, htakes⟩
  · rintro ⟨before, found, after, rfl, htakes⟩
    rw [List.append_assoc]
    rw [← List.append_nil before.reverse] at htakes
    have hsome := firstMatch_isSome hregular htakes
    obtain ⟨⟨s, t⟩, hfirst⟩ := Option.isSome_iff_exists.mp hsome
    obtain ⟨skipped, found', after', groups, _, rfl, rfl, htakes'⟩ :=
      firstMatch_eq_some hregular hfirst
    cases found' with
    | nil => exact absurd htakes' (hmoves _ _)
    | cons c found' =>
      have hlength : (c :: found' ++ after').length - after'.length = found'.length + 1 := by
        rw [List.length_append, List.length_cons]
        omega
      rw [hfirst]
      dsimp only [Cursor.between]
      rw [List.filter_cons_of_pos]
      · exact List.cons_ne_nil _ _
      · rw [hlength]
        rfl

end SlopLint.Pattern
