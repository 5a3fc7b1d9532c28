import Mathlib.Data.List.Infix
import SlopLint.Proofs.FailingSteps
import SlopLint.SourceTree.Basic

/-!
# Writing into a source tree

Making folders touches no file, and a file is set where its names lead to: a write leaves every
other file as it was. In a folder that is there no folder is made. Such a write gives a tree that
is the same but for one file, and what is reached without that file is reached as before.
-/

namespace SlopLint.SourceTree

/-! ### Setting a file -/

lemma not_mem_paths {tree : SourceTree} {path : Path} (h : ¬ tree.isFile path) :
    tree.files.lookup path = none := by
  rwa [isFile, Option.not_isSome_iff_eq_none] at h

lemma file?_setFile_self (tree : SourceTree) (path : Path) (content : List UInt8) :
    (tree.setFile path content).file? path = some content := by
  have hreplaced : ∀ files : List (Path × List UInt8), (files.lookup path).isSome →
      (files.map fun file => if file.1 == path then (path, content) else file).lookup path =
        some content := by
    intro files hfound
    induction files with
    | nil => cases hfound
    | cons file files ih =>
      rcases file with ⟨key, kept⟩
      by_cases hkey : key = path
      · simp [hkey]
      · have hother : (path == key) = false := by simpa using Ne.symm hkey
        simp only [List.lookup_cons, hother] at hfound
        simpa [hkey, List.lookup_cons, hother] using ih hfound
  unfold setFile
  split
  · exact hreplaced tree.files ‹_›
  · simp [file?, List.lookup_append, not_mem_paths ‹_›]

lemma file?_setFile_of_ne (tree : SourceTree) {path other : Path} (content : List UInt8)
    (h : other ≠ path) : (tree.setFile path content).file? other = tree.file? other := by
  have hskip : (other == path) = false := by simpa using h
  have hreplaced : ∀ files : List (Path × List UInt8),
      (files.map fun file => if file.1 == path then (path, content) else file).lookup other =
        files.lookup other := by
    intro files
    induction files with
    | nil => rfl
    | cons file files ih =>
      rcases file with ⟨key, kept⟩
      by_cases hkey : key = path
      · simpa [hkey, List.lookup_cons, hskip] using ih
      · simp only [List.map_cons, beq_iff_eq, hkey, if_false, List.lookup_cons] at ih ⊢
        rw [ih]
  unfold setFile file?
  split
  · exact hreplaced tree.files
  · simp [List.lookup_append, List.lookup_cons, hskip]

/-- Where the files are, once one is set. -/
lemma paths_setFile (tree : SourceTree) (path : Path) (content : List UInt8) :
    (tree.setFile path content).files.map Prod.fst =
      tree.files.map Prod.fst ++ if tree.isFile path then [] else [path] := by
  unfold setFile
  split
  · rw [List.append_nil, List.map_map]
    apply List.map_congr_left
    intro file _
    by_cases hfile : file.1 = path <;> simp [hfile]
  · simp

/-! ### Ways -/

lemma walk_eq_ok {tree : SourceTree} {start path : Path} {names : List String}
    (h : tree.walk start names = .ok path) : path = Path.follow start names := by
  induction names generalizing start with
  | nil => exact (Except.ok.inj h).symm
  | cons name names ih =>
    unfold walk at h
    split at h
    · exact ih h
    · split at h <;> cases h

lemma locate_eq_folder {tree : SourceTree} {start path : Path} {names : List String}
    (h : tree.locate start names = .ok (.folder path)) :
    path = Path.follow start names ∧ tree.isFolder path ∧ tree.file? path = none := by
  obtain ⟨found, hwalk, hplace⟩ := bind_eq_ok_iff.mp h
  cases hfile : tree.file? found with
  | some content =>
    rw [hfile] at hplace
    cases hplace
  | none =>
    rw [hfile] at hplace
    dsimp only at hplace
    split at hplace
    · cases hplace
      exact ⟨walk_eq_ok hwalk, ‹_›, hfile⟩
    · cases hplace

lemma files_addFolder (tree : SourceTree) (path : Path) :
    (tree.addFolder path).files = tree.files := by
  unfold addFolder
  split <;> rfl

lemma files_makeFolder {tree made : SourceTree} {start : Path} {shown : List String → String}
    {names : List String} (h : tree.makeFolder start shown names = .ok made) :
    made.files = tree.files := by
  induction names generalizing made with
  | nil => rw [Except.ok.inj h]
  | cons name parents ih =>
    unfold makeFolder at h
    dsimp only at h
    split at h
    · -- The last folder is made in a tree that has the folders above it.
      obtain ⟨middle, hmiddle, hrest⟩ := bind_eq_ok_iff.mp h
      rw [← ih hmiddle]
      split at hrest
      · rw [Except.ok.inj hrest]
      · cases hrest
      · rw [← Except.ok.inj hrest, files_addFolder]
    · cases h
    · cases h
    · obtain ⟨middle, hmiddle, hrest⟩ := bind_eq_ok_iff.mp h
      obtain rfl := Except.ok.inj hmiddle
      split at hrest
      · rw [Except.ok.inj hrest]
      · cases hrest
      · rw [← Except.ok.inj hrest, files_addFolder]

/-- A write sets the file that its names lead to, in a tree with the same files. -/
lemma writeFile_eq_ok {tree written : SourceTree} {start : Path} {shown : List String → String}
    {names : List String} {content : List UInt8}
    (h : tree.writeFile start shown names content = .ok written) :
    ∃ made : SourceTree, made.files = tree.files ∧
      written = made.setFile (Path.follow start names) content := by
  obtain ⟨made, hmade, hset⟩ := bind_eq_ok_iff.mp h
  refine ⟨made, files_makeFolder hmade, ?_⟩
  split at hset
  · cases hset
  · rename_i path hwalk
    rw [← walk_eq_ok hwalk]
    split at hset
    · cases hset
    · exact (Except.ok.inj hset).symm

/-- Whether and why a write fails does not depend on what is written. -/
lemma writeFile_map_unit (tree : SourceTree) (start : Path) (shown : List String → String)
    (names : List String) (first second : List UInt8) :
    (tree.writeFile start shown names first).map (fun _ => ()) =
      (tree.writeFile start shown names second).map fun _ => () := by
  unfold writeFile
  cases tree.makeFolder start shown names.reverse.tail with
  | error fault => rfl
  | ok made =>
    simp only [bind, Except.bind]
    cases made.walk start names with
    | error problem => rfl
    | ok path =>
      dsimp only
      split <;> rfl

/-! ### Writing into a folder that is there -/

lemma isFolder_iff {tree : SourceTree} {path : Path} : tree.isFolder path ↔ path = [] ∨
    (∃ folder ∈ tree.folders, path <+: folder) ∨
    ∃ file ∈ tree.files.map Prod.fst, file ≠ path ∧ path <+: file := by
  simp [isFolder, or_assoc]

lemma isFolder_of_inside {tree : SourceTree} {path above : Path} (h : tree.isFolder path)
    (habove : above <+: path) : tree.isFolder above := by
  rw [isFolder_iff] at h ⊢
  rcases h with rfl | ⟨folder, hmem, hpath⟩ | ⟨file, hmem, hne, hpath⟩
  · exact .inl (List.prefix_nil.mp habove)
  · exact .inr (.inl ⟨folder, hmem, habove.trans hpath⟩)
  · refine .inr (.inr ⟨file, hmem, ?_, habove.trans hpath⟩)
    rintro rfl
    exact hne (hpath.eq_of_length_le habove.length_le).symm

lemma walk_of_isFolder {tree : SourceTree} {start : Path} {names : List String}
    (hdots : ".." ∉ names) (h : names ≠ [] → tree.isFolder (start ++ names.dropLast)) :
    tree.walk start names = .ok (start ++ names) := by
  induction names generalizing start with
  | nil => rw [walk, List.append_nil]
  | cons name names ih =>
    obtain ⟨hname, hnames⟩ := not_or.mp (mt List.mem_cons.mpr hdots)
    have hstart := isFolder_of_inside (h (List.cons_ne_nil _ _)) (List.prefix_append _ _)
    rw [walk, if_pos hstart, if_neg (Ne.symm hname), ih hnames, List.append_assoc]
    · rfl
    · intro hmore
      rw [List.append_assoc, List.singleton_append, ← List.dropLast_cons_of_ne_nil hmore]
      exact h (List.cons_ne_nil _ _)

/-- Where a file is written into a folder that is there, it is set in the tree as it is. -/
lemma writeFile_eq {tree : SourceTree} {shown : List String → String} {folder : Path}
    {name : String} (content : List UInt8) (hfolder : tree.isFolder folder) (hname : name ≠ "..") :
    tree.writeFile folder shown [name] content =
      if tree.isFolder (folder ++ [name]) then .error ⟨.isFolder, shown [name]⟩
      else .ok (tree.setFile (folder ++ [name]) content) := by
  have hwalk : tree.walk folder [name] = .ok (folder ++ [name]) := by
    rw [walk, if_pos hfolder, if_neg hname, walk]
  have hmake : tree.makeFolder folder shown [name].reverse.tail = .ok tree := rfl
  rw [writeFile, hmake]
  simp only [bind, Except.bind, hwalk]
  rfl

/-! ### Trees that differ in one file -/

/-- Two trees are the same but for the file at a path. -/
structure SameBut (path : Path) (tree other : SourceTree) : Prop where
  isFolder : ∀ place, other.isFolder place = tree.isFolder place
  file? : ∀ place, place ≠ path → other.file? place = tree.file? place

lemma sameBut_setFile {tree : SourceTree} {folder : Path} (name : String) (content : List UInt8)
    (h : tree.isFolder folder) :
    SameBut (folder ++ [name]) tree (tree.setFile (folder ++ [name]) content) := by
  refine ⟨fun place => ?_, fun place hne => file?_setFile_of_ne tree content hne⟩
  have hfolders : (tree.setFile (folder ++ [name]) content).folders = tree.folders := by
    unfold setFile
    split <;> rfl
  rw [Bool.eq_iff_iff, isFolder_iff, isFolder_iff, hfolders, paths_setFile]
  constructor
  · rintro (hroot | hfolder | ⟨file, hmem, hne, hplace⟩)
    · exact .inl hroot
    · exact .inr (.inl hfolder)
    · rcases List.mem_append.mp hmem with hmem | hnew
      · exact .inr (.inr ⟨file, hmem, hne, hplace⟩)
      · -- What the new file lies in is on the way to its folder, which is there.
        have hfile : file = folder ++ [name] := by
          split at hnew
          · cases hnew
          · exact List.mem_singleton.mp hnew
        subst hfile
        have habove : place <+: folder :=
          (List.prefix_concat_iff.mp hplace).resolve_left (Ne.symm hne)
        exact isFolder_iff.mp (isFolder_of_inside h habove)
  · rintro (hroot | hfolder | ⟨file, hmem, hne, hplace⟩)
    · exact .inl hroot
    · exact .inr (.inl hfolder)
    · exact .inr (.inr ⟨file, List.mem_append_left _ hmem, hne, hplace⟩)

/-- A file that was written into a folder that is there can be written again. -/
lemma writeFile_again {tree written : SourceTree} {shown : List String → String} {folder : Path}
    {name : String} {first : List UInt8} (hfolder : tree.isFolder folder) (hname : name ≠ "..")
    (h : tree.writeFile folder shown [name] first = .ok written) :
    written = tree.setFile (folder ++ [name]) first ∧
      ∀ second, written.writeFile folder shown [name] second =
        .ok (written.setFile (folder ++ [name]) second) := by
  rw [writeFile_eq first hfolder hname] at h
  split at h
  · cases h
  · rename_i hfree
    obtain rfl := Except.ok.inj h
    have hsame := sameBut_setFile name first hfolder
    refine ⟨rfl, fun second => ?_⟩
    rw [writeFile_eq second (by rwa [hsame.isFolder]) hname, hsame.isFolder, if_neg hfree]

section SameBut

variable {path : Path} {tree other : SourceTree} {start : Path} {names : List String}

lemma SameBut.walk_eq_ok (h : SameBut path tree other) {place : Path}
    (hwalk : tree.walk start names = .ok place) : other.walk start names = .ok place := by
  induction names generalizing start with
  | nil => exact hwalk
  | cons name names ih =>
    unfold walk at hwalk ⊢
    rw [h.isFolder]
    split at hwalk
    · rw [if_pos ‹_›]
      exact ih hwalk
    · split at hwalk <;> cases hwalk

/-- What a way led to is still there, if it did not lead to the file. -/
lemma SameBut.locate_eq_ok (h : SameBut path tree other) {place : Place}
    (hway : Path.follow start names ≠ path) (hthere : tree.locate start names = .ok place) :
    other.locate start names = .ok place := by
  obtain ⟨found, hwalk, hplace⟩ := bind_eq_ok_iff.mp hthere
  refine bind_eq_ok_iff.mpr ⟨found, h.walk_eq_ok hwalk, ?_⟩
  have hfound : found = Path.follow start names := SourceTree.walk_eq_ok hwalk
  rwa [h.file? found (hfound ▸ hway), h.isFolder]

lemma SameBut.readFile_eq_ok (h : SameBut path tree other) {content : List UInt8}
    (hway : Path.follow start names ≠ path) (hread : tree.readFile start names = .ok content) :
    other.readFile start names = .ok content := by
  obtain ⟨place, hplace, hcontent⟩ := bind_eq_ok_iff.mp hread
  exact bind_eq_ok_iff.mpr ⟨place, h.locate_eq_ok hway hplace, hcontent⟩

end SameBut

end SlopLint.SourceTree
