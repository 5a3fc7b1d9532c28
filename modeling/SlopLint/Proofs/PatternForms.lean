import Mathlib.Data.List.Basic
import Mathlib.Tactic.Lemma
import SlopLint.Proofs.PatternLanguage

/-!
# Reading a language off a pattern

What a sequence, a choice, a word, a repeated character and a word boundary take, said about texts
alone. With these the form that a pattern looks for is read off its tree piece by piece.
-/

namespace SlopLint.Pattern

section Reading

variable {before text after : List Char}

lemma followedBy_empty (language : Language) :
    (language.followedBy fun _ text _ => text = []) before text after ↔
      language before text after := by
  constructor
  · rintro ⟨head, _, rfl, hhead, rfl⟩
    rw [List.append_nil]
    exact hhead
  · intro h
    exact ⟨text, [], (List.append_nil text).symm, h, rfl⟩

lemma takes_sequence_cons (node : Node) (nodes : List Node) :
    (Node.sequence (node :: nodes)).takes before text after ↔
      node.takes.followedBy (Node.sequence nodes).takes before text after := by
  cases nodes with
  | nil => exact (followedBy_empty node.takes).symm
  | cons _ _ => rfl

lemma followedBy_assoc (first second third : Language) :
    ((first.followedBy second).followedBy third) before text after ↔
      (first.followedBy (second.followedBy third)) before text after := by
  constructor
  · rintro ⟨_, tail, rfl, ⟨head, middle, rfl, hhead, hmiddle⟩, htail⟩
    rw [List.reverse_append, List.append_assoc] at htail
    refine ⟨head, middle ++ tail, List.append_assoc _ _ _, ?_, middle, tail, rfl, hmiddle, htail⟩
    rw [List.append_assoc]
    exact hhead
  · rintro ⟨head, _, rfl, hhead, middle, tail, rfl, hmiddle, htail⟩
    rw [List.append_assoc] at hhead
    refine ⟨head ++ middle, tail, (List.append_assoc _ _ _).symm, ⟨head, middle, rfl, hhead, hmiddle⟩,
      ?_⟩
    rw [List.reverse_append, List.append_assoc]
    exact htail

lemma takes_sequence_append {nodes nodes' : List Node} :
    (Node.sequence (nodes ++ nodes')).takes before text after ↔
      (Node.sequence nodes).takes.followedBy (Node.sequence nodes').takes before text after := by
  induction nodes generalizing before text after with
  | nil =>
    constructor
    · intro h
      exact ⟨[], text, rfl, rfl, h⟩
    · rintro ⟨_, tail, rfl, rfl, h⟩
      exact h
  | cons node nodes ih =>
    have hih : (Node.sequence (nodes ++ nodes')).takes =
        (Node.sequence nodes).takes.followedBy (Node.sequence nodes').takes := by
      funext before text after
      exact propext ih
    have hcons : (Node.sequence (node :: nodes)).takes =
        node.takes.followedBy (Node.sequence nodes).takes := by
      funext before text after
      exact propext (takes_sequence_cons node nodes)
    rw [List.cons_append, takes_sequence_cons, hih, hcons, followedBy_assoc]

lemma takes_choice {nodes : List Node} (h : nodes ≠ []) :
    (Node.choice nodes).takes before text after ↔ ∃ node ∈ nodes, node.takes before text after := by
  induction nodes with
  | nil => exact absurd rfl h
  | cons node nodes ih =>
    cases nodes with
    | nil => simp [Node.choice]
    | cons node' nodes =>
      change node.takes before text after ∨ (Node.choice (node' :: nodes)).takes before text after ↔ _
      rw [ih (List.cons_ne_nil _ _), List.exists_mem_cons_iff _ node]

lemma takes_rounds_char {mode : Mode} {test : CharTest} {n : Nat} :
    (Node.char mode test).takes.rounds n before text after ↔
      text.length = n ∧ ∀ c ∈ text, test.passes mode c = true := by
  induction n generalizing before text with
  | zero =>
    constructor
    · rintro rfl
      simp
    · rintro ⟨hlength, -⟩
      exact List.length_eq_zero_iff.mp hlength
  | succ n ih =>
    constructor
    · rintro ⟨_, rest, rfl, ⟨c, rfl, hc⟩, hrest⟩
      obtain ⟨hlength, hpasses⟩ := ih.mp hrest
      refine ⟨by rw [List.length_append, hlength]; exact Nat.add_comm 1 n, ?_⟩
      exact List.forall_mem_cons.mpr ⟨hc, hpasses⟩
    · rintro ⟨hlength, hpasses⟩
      obtain ⟨c, rest, rfl⟩ := List.exists_cons_of_length_eq_add_one hlength
      obtain ⟨hc, hpasses⟩ := List.forall_mem_cons.mp hpasses
      exact ⟨[c], rest, rfl, ⟨c, rfl, hc⟩, ih.mpr ⟨Nat.succ.inj hlength, hpasses⟩⟩

/-- A repeated character takes the texts that pass the test all over and have an allowed length. -/
lemma takes_repeated {greed : Greed} {mode : Mode} {test : CharTest} {min : Nat} {max : Option Nat} :
    (Node.loop greed min max (.char mode test)).takes before text after ↔
      (∀ c ∈ text, test.passes mode c = true) ∧ min ≤ text.length ∧
        ∀ most, max = some most → text.length - min ≤ most - min := by
  constructor
  · rintro ⟨required, spare, rfl, hrequired, n, hn, hspare⟩
    obtain ⟨rfl, hpasses⟩ := takes_rounds_char.mp hrequired
    obtain ⟨rfl, hpasses'⟩ := takes_rounds_char.mp hspare
    refine ⟨fun c hc => (List.mem_append.mp hc).elim (hpasses c) (hpasses' c), ?_, ?_⟩
    · rw [List.length_append]
      exact Nat.le_add_right _ _
    · rw [List.length_append, Nat.add_sub_cancel_left]
      exact hn
  · rintro ⟨hpasses, hmin, hmax⟩
    refine ⟨text.take min, text.drop min, (List.take_append_drop min text).symm, ?_,
      text.length - min, hmax, ?_⟩
    · refine takes_rounds_char.mpr ⟨List.length_take_of_le hmin, ?_⟩
      exact fun c hc => hpasses c (List.mem_of_mem_take hc)
    · refine takes_rounds_char.mpr ⟨List.length_drop, ?_⟩
      exact fun c hc => hpasses c (List.mem_of_mem_drop hc)

/-- Whether a text spells a word, its characters compared under a mode. -/
def Mode.Spells (mode : Mode) (word text : List Char) : Prop :=
  List.Forall₂ (fun c d => mode.takesCode c.toNat d = true) word text

/-- The nodes of a word. -/
def Mode.word (mode : Mode) (word : List Char) : List Node :=
  word.map fun c => .char mode (.code false c.toNat)

lemma takes_word {mode : Mode} {word : List Char} :
    (Node.sequence (mode.word word)).takes before text after ↔ mode.Spells word text := by
  induction word generalizing before text with
  | nil =>
    constructor
    · rintro rfl
      exact .nil
    · rintro (_ | _)
      rfl
  | cons c word ih =>
    have hpasses : ∀ d, (CharTest.code false c.toNat).passes mode d = mode.takesCode c.toNat d :=
      fun d => Bool.bne_false _
    rw [Mode.word, List.map_cons, takes_sequence_cons]
    constructor
    · rintro ⟨_, tail, rfl, ⟨d, rfl, hd⟩, htail⟩
      rw [hpasses] at hd
      exact .cons hd (ih.mp htail)
    · rintro (_ | ⟨hd, htail⟩)
      exact ⟨[_], _, rfl, ⟨_, rfl, (hpasses _).trans hd⟩, ih.mpr htail⟩

/-! ### Sequences by their first piece -/

section Pieces

variable {mode : Mode} {test : CharTest} {nodes : List Node}

lemma takes_char_cons :
    (Node.sequence (.char mode test :: nodes)).takes before text after ↔
      ∃ c rest, text = c :: rest ∧ test.passes mode c = true ∧
        (Node.sequence nodes).takes (c :: before) rest after := by
  rw [takes_sequence_cons]
  constructor
  · rintro ⟨_, rest, rfl, ⟨c, rfl, hpasses⟩, hrest⟩
    exact ⟨c, rest, rfl, hpasses, hrest⟩
  · rintro ⟨c, rest, rfl, hpasses, hrest⟩
    exact ⟨[c], rest, rfl, ⟨c, rfl, hpasses⟩, hrest⟩

lemma takes_repeated_cons {greed : Greed} {min : Nat} {max : Option Nat} :
    (Node.sequence (.loop greed min max (.char mode test) :: nodes)).takes before text after ↔
      ∃ run rest, text = run ++ rest ∧ ((∀ c ∈ run, test.passes mode c = true) ∧
        min ≤ run.length ∧ ∀ most, max = some most → run.length - min ≤ most - min) ∧
        (Node.sequence nodes).takes (run.reverse ++ before) rest after := by
  rw [takes_sequence_cons]
  constructor
  · rintro ⟨run, rest, rfl, hrun, hrest⟩
    exact ⟨run, rest, rfl, takes_repeated.mp hrun, hrest⟩
  · rintro ⟨run, rest, rfl, hrun, hrest⟩
    exact ⟨run, rest, rfl, takes_repeated.mpr hrun, hrest⟩

lemma takes_star_cons {greed : Greed} :
    (Node.sequence (.loop greed 0 none (.char mode test) :: nodes)).takes before text after ↔
      ∃ run rest, text = run ++ rest ∧ (∀ c ∈ run, test.passes mode c = true) ∧
        (Node.sequence nodes).takes (run.reverse ++ before) rest after := by
  simp [takes_repeated_cons]

lemma takes_word_append {word : List Char} :
    (Node.sequence (mode.word word ++ nodes)).takes before text after ↔
      ∃ spelled rest, text = spelled ++ rest ∧ mode.Spells word spelled ∧
        (Node.sequence nodes).takes (spelled.reverse ++ before) rest after := by
  rw [takes_sequence_append]
  constructor
  · rintro ⟨spelled, rest, rfl, hspelled, hrest⟩
    exact ⟨spelled, rest, rfl, takes_word.mp hspelled, hrest⟩
  · rintro ⟨spelled, rest, rfl, hspelled, hrest⟩
    exact ⟨spelled, rest, rfl, takes_word.mpr hspelled, hrest⟩

/-- A boundary is where exactly one neighbour is a character of a word. -/
lemma takes_boundary_cons :
    (Node.sequence (.anchor (.wordBoundary false false) :: nodes)).takes before text after ↔
      before.head?.any Text.isWord ≠ (text ++ after).head?.any Text.isWord ∧
        (Node.sequence nodes).takes before text after := by
  have hholds : ∀ rest, (Anchor.wordBoundary false false).holds (.between before rest []) = true ↔
      before.head?.any Text.isWord ≠ rest.head?.any Text.isWord := by
    intro rest
    simp [Anchor.holds, atBoundary, Cursor.between]
  rw [takes_sequence_cons]
  constructor
  · rintro ⟨_, rest, rfl, ⟨rfl, hhere⟩, hrest⟩
    exact ⟨(hholds _).mp hhere, hrest⟩
  · rintro ⟨hhere, hrest⟩
    exact ⟨[], text, rfl, ⟨rfl, (hholds _).mpr hhere⟩, hrest⟩

end Pieces

end Reading

end SlopLint.Pattern
