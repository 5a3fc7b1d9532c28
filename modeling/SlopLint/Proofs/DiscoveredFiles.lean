import Mathlib.Data.List.Sort
import Mathlib.Data.List.TakeWhile
import Mathlib.Data.String.Basic
import SlopLint.Proofs.GlobMatching
import SlopLint.SourceTree.Discovery

/-!
# Discovered files

What discovery lists, file by file: the ending of its name is asked for, none of the folders
between the root and the file is left out or hidden, it is no declaration file, and no pattern of
files to ignore accepts its path. Different files below a root have different texts for their
paths, so the list is strictly increasing, and it is fixed by what it contains.
-/

namespace SlopLint

namespace Path

/-! ### Endings of names -/

/-- The ending of a name: its last dot and what follows, with something on both sides of the dot. A
name without such a dot has the empty ending. -/
inductive EndsIn : List Char → List Char → Prop
  | dotted {stem tail : List Char} (hlast : '.' ∉ tail) (hstem : stem ≠ []) (htail : tail ≠ []) :
      EndsIn (stem ++ '.' :: tail) ('.' :: tail)
  | plain {name : List Char} (h : ∀ stem tail, name = stem ++ '.' :: tail → '.' ∉ tail →
      stem = [] ∨ tail = []) : EndsIn name []

lemma ending_append {name : String} {stem tail : List Char}
    (hname : name.toList = stem ++ '.' :: tail) (hlast : '.' ∉ tail) :
    ending name = if tail = [] ∨ stem = [] then [] else '.' :: tail := by
  have htail : (stem ++ '.' :: tail).reverse.takeWhile (· != '.') = tail.reverse := by
    rw [List.reverse_append, List.reverse_cons, List.append_assoc, List.takeWhile_append_of_pos]
    · simp
    · intro c hc
      rw [bne_iff_ne]
      rintro rfl
      exact hlast (List.mem_reverse.mp hc)
  rw [ending, hname, htail]
  simp

lemma ending_of_not_mem {name : String} (h : '.' ∉ name.toList) : ending name = [] := by
  have htail : name.toList.reverse.takeWhile (· != '.') = name.toList.reverse := by
    refine List.takeWhile_eq_self_iff.mpr fun c hc => ?_
    rw [bne_iff_ne]
    rintro rfl
    exact h (List.mem_reverse.mp hc)
  rw [ending, htail]
  simp

lemma exists_last_dot {name : List Char} (h : '.' ∈ name) :
    ∃ stem tail, name = stem ++ '.' :: tail ∧ '.' ∉ tail := by
  obtain ⟨tail, stem, hname, htail⟩ := List.eq_append_cons_of_mem (List.mem_reverse.mpr h)
  refine ⟨stem.reverse, tail.reverse, ?_, by simpa using htail⟩
  rw [← List.reverse_reverse name, hname]
  simp

/-- A name has one ending. -/
lemma endsIn_iff {name : String} {text : List Char} :
    EndsIn name.toList text ↔ ending name = text := by
  constructor
  · intro h
    generalize hname : name.toList = chars at h
    cases h with
    | dotted hlast hstem htail =>
      rw [ending_append hname hlast, if_neg (by simp [hstem, htail])]
    | plain h =>
      by_cases hdot : '.' ∈ name.toList
      · obtain ⟨stem, tail, hcut, hlast⟩ := exists_last_dot hdot
        rw [ending_append hcut hlast, if_pos (h stem tail (hname ▸ hcut) hlast).symm]
      · exact ending_of_not_mem hdot
  · rintro rfl
    by_cases hempty : ending name = []
    · rw [hempty]
      refine .plain fun stem tail hcut hlast => ?_
      rw [ending_append hcut hlast] at hempty
      by_contra hboth
      rw [if_neg (mt Or.symm hboth)] at hempty
      cases hempty
    · have hdot : '.' ∈ name.toList := by
        by_contra hnone
        exact hempty (ending_of_not_mem hnone)
      obtain ⟨stem, tail, hcut, hlast⟩ := exists_last_dot hdot
      rw [ending_append hcut hlast] at hempty ⊢
      have hboth : ¬ (tail = [] ∨ stem = []) := fun hnone => hempty (if_pos hnone)
      rw [if_neg hboth, hcut]
      rw [not_or] at hboth
      exact .dotted hlast hboth.2 hboth.1

/-! ### Texts of paths -/

/-- Names without slashes can be read off the text of their path. -/
lemma text_injective {a b : Path} (ha : a ≠ []) (hb : b ≠ [])
    (haNames : ∀ name ∈ a, '/' ∉ name.toList) (hbNames : ∀ name ∈ b, '/' ∉ name.toList)
    (h : text a = text b) : a = b := by
  have hsplit : ∀ path : Path, path ≠ [] → (∀ name ∈ path, '/' ∉ name.toList) →
      (text path).toList.splitOn '/' = path.map String.toList := by
    intro path hne hnames
    rw [text, String.toList_intercalate]
    refine List.splitOn_intercalate '/' ?_ (by simpa using hne)
    simpa using hnames
  have hlists : a.map String.toList = b.map String.toList := by
    rw [← hsplit a ha haNames, ← hsplit b hb hbNames, h]
  exact List.map_injective_iff.mpr (fun _ _ => String.toList_inj.mp) hlists

end Path

namespace SourceTree

/-! ### Trees -/

/-- Every path of a tree belongs to one file, and slashes only stand between names. -/
structure WellFormed (tree : SourceTree) : Prop where
  nodup : (tree.files.map Prod.fst).Nodup
  slashless : ∀ file ∈ tree.files, ∀ name ∈ file.1, '/' ∉ name.toList

lemma isFile_iff {tree : SourceTree} {path : Path} :
    tree.isFile path = true ↔ path ∈ tree.files.map Prod.fst := by
  rw [isFile, file?, Option.isSome_iff_ne_none, ne_eq, List.lookup_eq_none_iff]
  simp only [bne_iff_ne, not_forall, not_not, List.mem_map, exists_prop]
  exact exists_congr fun file => and_congr_right fun _ => eq_comm

lemma belowRoot?_eq_some_iff {root path below : Path} :
    belowRoot? root path = some below ↔ below ≠ [] ∧ path = root ++ below := by
  unfold belowRoot?
  simp only [Bool.and_eq_true, List.isPrefixOf_iff_prefix, bne_iff_ne, Option.ite_none_right_eq_some,
    Option.some.injEq]
  constructor
  · rintro ⟨⟨⟨rest, rfl⟩, hne⟩, rfl⟩
    rw [List.drop_left]
    exact ⟨fun hrest => hne (by rw [hrest, List.append_nil]), rfl⟩
  · rintro ⟨hne, rfl⟩
    exact ⟨⟨List.prefix_append root below, by simpa using hne⟩, List.drop_left⟩

/-! ### Selections -/

/-- What a file is selected for, by the folders below the root and its name. -/
structure Selection.Lists (selection : Selection) (folders : List String) (name : String) :
    Prop where
  extension : ∃ ending, Path.EndsIn name.toList ending ∧
    String.ofList (Text.lowerText ending) ∈ orDefault selection.extensions defaultExtensions
  visible : ∀ folder ∈ folders,
    folder ∉ orDefault selection.excludedFolders defaultExcluded ∧
    ¬ ".".toList <+: folder.toList
  source : ¬ ".d.ts".toList <:+ name.toList
  kept : ∀ pattern ∈ selection.ignorePaths,
    ¬ Glob.Accepts pattern.toList (Path.text (folders ++ [name])).toList

lemma selects_iff {selection : Selection} {folders : List String} {name : String} :
    selection.selects (folders ++ [name]) = true ↔ selection.Lists folders name := by
  have hextension : (∃ ending, Path.EndsIn name.toList ending ∧ String.ofList
      (Text.lowerText ending) ∈ orDefault selection.extensions defaultExtensions) ↔
      String.ofList (Text.lowerText (Path.ending name)) ∈
        orDefault selection.extensions defaultExtensions := by
    simp [Path.endsIn_iff]
  have hsource : ".d.ts".toList.isSuffixOf name.toList = false ↔
      ¬ ".d.ts".toList <:+ name.toList := by
    rw [← Bool.not_eq_true, List.isSuffixOf_iff_suffix]
  unfold Selection.selects inExcludedFolder
  simp only [List.getLast?_concat, Option.getD_some, List.dropLast_concat, Bool.and_eq_true,
    Bool.not_eq_true', List.any_eq_false, Bool.or_eq_true, not_or, Glob.accepts_iff,
    List.contains_iff_mem, List.isPrefixOf_iff_prefix, ← hextension, hsource]
  constructor
  · rintro ⟨⟨⟨hext, hvisible⟩, hsource⟩, hkept⟩
    exact ⟨hext, hvisible, hsource, hkept⟩
  · rintro ⟨hext, hvisible, hsource, hkept⟩
    exact ⟨⟨⟨hext, hvisible⟩, hsource⟩, hkept⟩

/-! ### Lists of discovered files -/

lemma discover_of_isFolder {tree : SourceTree} {root : Path} (hroot : tree.isFolder root)
    (selection : Selection) : tree.discover root selection = .ok (tree.selected root selection) :=
  if_pos hroot

lemma eq_selected_of_discover {tree : SourceTree} {root : Path} {selection : Selection}
    {found : List String} (h : tree.discover root selection = .ok found) :
    found = tree.selected root selection := by
  unfold discover at h
  split at h
  · exact (Except.ok.inj h).symm
  · cases h

lemma mem_selected_iff {tree : SourceTree} {root : Path} {selection : Selection} {text : String} :
    text ∈ tree.selected root selection ↔ ∃ folders name,
      tree.isFile (root ++ (folders ++ [name])) = true ∧
      Path.text (folders ++ [name]) = text ∧ selection.Lists folders name := by
  have hbelow : ∀ below, below ∈ tree.files.filterMap (fun file => belowRoot? root file.1) ↔
      below ≠ [] ∧ tree.isFile (root ++ below) = true := by
    intro below
    simp only [List.mem_filterMap, belowRoot?_eq_some_iff, isFile_iff, List.mem_map]
    constructor
    · rintro ⟨file, hfile, hne, hpath⟩
      exact ⟨hne, file, hfile, hpath⟩
    · rintro ⟨hne, file, hfile, hpath⟩
      exact ⟨file, hfile, hne, hpath⟩
  simp only [selected, List.mem_mergeSort, List.mem_map, List.mem_filter, hbelow]
  constructor
  · rintro ⟨below, ⟨⟨hne, hfile⟩, hselects⟩, htext⟩
    obtain ⟨folders, name, rfl⟩ := (List.eq_nil_or_concat' below).resolve_left hne
    exact ⟨folders, name, hfile, htext, selects_iff.mp hselects⟩
  · rintro ⟨folders, name, hfile, htext, hlists⟩
    exact ⟨folders ++ [name], ⟨⟨by simp, hfile⟩, selects_iff.mpr hlists⟩, htext⟩

/-- Files below a root have different texts for their paths. -/
lemma nodup_texts {tree : SourceTree} (htree : tree.WellFormed) (root : Path)
    (selects : Path → Bool) :
    (((tree.files.filterMap fun file => belowRoot? root file.1).filter selects).map
      Path.text).Nodup := by
  have hpaths : (tree.files.filterMap fun file => belowRoot? root file.1).Nodup := by
    have hfiltered : ((tree.files.map Prod.fst).filterMap (belowRoot? root)).Nodup := by
      refine htree.nodup.filterMap ?_
      intro path other below hpath hother
      rw [(belowRoot?_eq_some_iff.mp hpath).2, (belowRoot?_eq_some_iff.mp hother).2]
    rwa [List.filterMap_map] at hfiltered
  have hbelow : ∀ below ∈ (tree.files.filterMap fun file => belowRoot? root file.1).filter selects,
      below ≠ [] ∧ ∀ name ∈ below, '/' ∉ name.toList := by
    intro below hmem
    obtain ⟨file, hfile, hfound⟩ := List.mem_filterMap.mp (List.mem_filter.mp hmem).1
    obtain ⟨hne, hpath⟩ := belowRoot?_eq_some_iff.mp hfound
    refine ⟨hne, fun name hname => htree.slashless file hfile name ?_⟩
    rw [hpath]
    exact List.mem_append_right root hname
  refine (hpaths.filter _).map_on fun a ha b hb htext => ?_
  exact Path.text_injective (hbelow a ha).1 (hbelow b hb).1 (hbelow a ha).2 (hbelow b hb).2 htext

lemma selected_pairwise {tree : SourceTree} (htree : tree.WellFormed) (root : Path)
    (selection : Selection) : (tree.selected root selection).Pairwise (· < ·) := by
  have hordered : (tree.selected root selection).Pairwise (· ≤ ·) :=
    List.pairwise_mergeSort' (· ≤ ·) _
  have hnodup : (tree.selected root selection).Nodup :=
    (List.mergeSort_perm _ _).nodup_iff.mpr (nodup_texts htree root _)
  exact (hordered.and hnodup).imp fun h => lt_of_le_of_ne h.1 h.2

/-- Discovery lists the selected files below the root and nothing else, each by the text of its
path and in the order of code points. More patterns of files to ignore list fewer of them, and two
groups of patterns together leave what each of them leaves. -/
theorem discover_lists_selected {tree : SourceTree} (htree : tree.WellFormed) {root : Path}
    (hroot : tree.isFolder root) (selection : Selection) :
    ∃ found : List String → List String,
    (∀ ignorePaths, (tree.discover root { selection with ignorePaths }).map (keepCore false) =
      .ok (found ignorePaths)) ∧
    (∀ ignorePaths, (found ignorePaths).Pairwise (· < ·)) ∧
    (∀ ignorePaths text, text ∈ found ignorePaths ↔ ∃ folders name,
      tree.isFile (root ++ (folders ++ [name])) = true ∧ Path.text (folders ++ [name]) = text ∧
      { selection with ignorePaths }.Lists folders name) ∧
    (∀ fewer more, fewer ⊆ more → (found more).Sublist (found fewer)) ∧
    ∀ a b, found (a ++ b) = (found a).filter fun text => decide (text ∈ found b) := by
  let found (ignorePaths : List String) : List String :=
    tree.selected root { selection with ignorePaths }
  have hsorted : ∀ ignorePaths, (found ignorePaths).Pairwise (· < ·) :=
    fun ignorePaths => selected_pairwise htree root _
  have hmem : ∀ ignorePaths text, text ∈ found ignorePaths ↔ ∃ folders name,
      tree.isFile (root ++ (folders ++ [name])) = true ∧ Path.text (folders ++ [name]) = text ∧
      { selection with ignorePaths }.Lists folders name :=
    fun ignorePaths text => mem_selected_iff
  have hfewer : ∀ fewer more, fewer ⊆ more → found more ⊆ found fewer := by
    intro fewer more hsub text htext
    obtain ⟨folders, name, hfile, hname, hlists⟩ := (hmem more text).mp htext
    exact (hmem fewer text).mpr ⟨folders, name, hfile, hname,
      { hlists with kept := fun pattern hpattern => hlists.kept pattern (hsub hpattern) }⟩
  have hfound : ∀ ignorePaths, (tree.discover root { selection with ignorePaths }).map
      (keepCore false) = .ok (found ignorePaths) := by
    intro ignorePaths
    rw [discover_of_isFolder hroot]
    rfl
  refine ⟨found, hfound, hsorted, hmem, ?_, ?_⟩
  · intro fewer more hsub
    exact List.sublist_of_subperm_of_pairwise
      (List.subperm_of_subset (hsorted more).nodup (hfewer fewer more hsub)) (hsorted more)
      (hsorted fewer)
  · intro a b
    refine (hsorted (a ++ b)).eq_of_mem_iff ((hsorted a).filter _) fun text => ?_
    rw [List.mem_filter, decide_eq_true_iff]
    constructor
    · exact fun h => ⟨hfewer a _ (List.subset_append_left a b) h,
        hfewer b _ (List.subset_append_right a b) h⟩
    · rintro ⟨ha, hb⟩
      obtain ⟨folders, name, hfile, htext, hlists⟩ := (hmem a text).mp ha
      obtain ⟨_, _, _, hsame, hothers⟩ := (hmem b text).mp hb
      refine (hmem (a ++ b) text).mpr ⟨folders, name, hfile, htext, { hlists with kept := ?_ }⟩
      intro pattern hpattern
      rcases List.mem_append.mp hpattern with hpattern | hpattern
      · exact hlists.kept pattern hpattern
      · have hkept := hothers.kept pattern hpattern
        rwa [hsame, ← htext] at hkept

/-- Below `srv` lie two files that are listed, a declaration file, a name that is no ending, and a
file in a hidden folder. -/
def nestedTree : SourceTree where
  files := [
    (["srv", "app", "a.ts"], []), (["srv", "app", "a.d.ts"], []), (["srv", "app", ".ts"], []),
    (["srv", "app-x", "B.TSX"], []), (["srv", ".cache", "c.ts"], []), (["dist", "d.ts"], [])]
  folders := []

/-- The folder `app` comes first in the tree, but the hyphen comes before the slash. -/
theorem discover_lists_selected_nestedTree :
    nestedTree.WellFormed ∧ nestedTree.isFolder ["srv"] ∧
    ∃ found : List String → List String,
      (∀ ignorePaths, (nestedTree.discover ["srv"] { ignorePaths }).map (keepCore false) =
        .ok (found ignorePaths)) ∧
      found [] = ["app-x/B.TSX", "app/a.ts"] ∧
      (found ["*-?/*"]).Sublist ["app-x/B.TSX", "app/a.ts"] ∧
      found ["*-?/*", "[!x-z]pp/*"] =
        (found ["*-?/*"]).filter fun text => decide (text ∈ found ["[!x-z]pp/*"]) := by
  have htree : nestedTree.WellFormed := ⟨by decide +kernel, by decide +kernel⟩
  have hroot : nestedTree.isFolder ["srv"] := by decide +kernel
  obtain ⟨found, hlists, hsorted, -, hfewer, hboth⟩ := discover_lists_selected htree hroot {}
  have hselected : nestedTree.selected ["srv"] {} = found [] := Except.ok.inj (hlists [])
  have hperm : (found []).Perm ["app-x/B.TSX", "app/a.ts"] := by
    rw [← hselected]
    exact (List.mergeSort_perm _ _).trans (by decide +kernel)
  have hfound : found [] = ["app-x/B.TSX", "app/a.ts"] :=
    hperm.eq_of_pairwise' (hsorted []) (by decide +kernel)
  refine ⟨htree, hroot, found, hlists, hfound, ?_, hboth ["*-?/*"] ["[!x-z]pp/*"]⟩
  rw [← hfound]
  exact hfewer [] ["*-?/*"] (List.nil_subset _)

end SourceTree

end SlopLint
