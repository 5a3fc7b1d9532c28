import SlopLint.Proofs.DiscoveredFiles
import SlopLint.Proofs.EncodedTexts
import SlopLint.Proofs.JoinedTexts
import SlopLint.Proofs.TreeWriting
import SlopLint.SourceTree.Reading

/-!
# Reading what was discovered

Discovery turns files into texts of paths, and reading turns these texts back into files. In a tree
whose names are names of files and folders the way back leads to the file that was listed, so that
nothing but the bytes of a file can end the reading, and the first file that is no text does.
-/

namespace SlopLint

/-- A path is read off its text when none of its names is cut or passed over. -/
lemma Path.names_text {path : Path}
    (h : ∀ name ∈ path, '/' ∉ name.toList ∧ name ≠ "" ∧ name ≠ ".") :
    Path.names (Path.text path) = path := by
  rcases eq_or_ne path [] with rfl | hne
  · rfl
  · have hslashless : ∀ name ∈ path.map String.toList, '/' ∉ name :=
      List.forall_mem_map.mpr fun name hname => (h name hname).1
    have hsplit : Text.splitOnChar '/' (Path.text path).toList = path.map String.toList := by
      rw [Text.splitOnChar_eq_splitOn, Path.text, String.toList_intercalate]
      exact List.splitOn_intercalate '/' hslashless (by simpa using hne)
    have hnames : (path.map String.toList).map String.ofList = path := by simp
    rw [Path.names, hsplit, hnames, List.filter_eq_self]
    intro name hname
    simpa using (h name hname).2

namespace SourceTree

/-- A tree as a disk holds it: every path belongs to one file, and every name on it is the name of a
file or a folder. -/
structure OnDisk (tree : SourceTree) : Prop extends WellFormed tree where
  named : ∀ file ∈ tree.files, ∀ name ∈ file.1, name ≠ "" ∧ name ≠ "." ∧ name ≠ ".."

/-- The text of a path below a root stands for a file with these bytes. -/
def Contains (tree : SourceTree) (root : Path) (path : String) (bytes : List UInt8) : Prop :=
  ∃ below, below ≠ [] ∧ Path.text below = path ∧ tree.file? (root ++ below) = some bytes

section Reading

variable {tree : SourceTree} {root : Path} {path : String} {bytes : List UInt8}

lemma contains_of_mem_selected {selection : Selection} (h : path ∈ tree.selected root selection) :
    ∃ bytes, tree.Contains root path bytes := by
  obtain ⟨folders, name, hfile, htext, -⟩ := mem_selected_iff.mp h
  obtain ⟨bytes, hbytes⟩ := Option.isSome_iff_exists.mp hfile
  exact ⟨bytes, folders ++ [name], by simp, htext, hbytes⟩

/-- What lies below a folder is reached from it. -/
lemma readFile_of_file? {below : Path} (hne : below ≠ []) (hdots : ".." ∉ below)
    (h : tree.file? (root ++ below) = some bytes) : tree.readFile root below = .ok bytes := by
  have hfolder : tree.isFolder (root ++ below.dropLast) := by
    refine isFolder_iff.mpr (.inr (.inr ⟨root ++ below, ?_, ?_, ?_⟩))
    · exact isFile_iff.mp (by rw [isFile, h]; rfl)
    · intro heq
      have hlength := congrArg List.length (List.append_cancel_left heq)
      have hpos := List.length_pos_iff.mpr hne
      rw [List.length_dropLast] at hlength
      omega
    · exact List.prefix_append_right_inj root |>.mpr (List.dropLast_prefix below)
  have hlocate : tree.locate root below = .ok (.file (root ++ below) bytes) := by
    refine bind_eq_ok_iff.mpr ⟨_, walk_of_isFolder hdots fun _ => hfolder, ?_⟩
    rw [h]
    rfl
  exact bind_eq_ok_iff.mpr ⟨_, hlocate, rfl⟩

/-- The text of a path leads back to the file it stands for. -/
lemma readSource_of_contains (htree : tree.OnDisk) (rootText : String)
    (h : tree.Contains root path bytes) :
    tree.readSource root rootText path =
      (textOfBytes bytes).map fun text => ⟨path, String.ofList text⟩ := by
  obtain ⟨below, hne, rfl, hbytes⟩ := h
  have hfile : root ++ below ∈ tree.files.map Prod.fst :=
    isFile_iff.mp (by rw [isFile, hbytes]; rfl)
  obtain ⟨file, hmem, hpath⟩ := List.mem_map.mp hfile
  have hbelow : ∀ name ∈ below, name ∈ file.1 := fun name hname => by
    rw [hpath]
    exact List.mem_append_right root hname
  have hnames : Path.names (Path.text below) = below := Path.names_text fun name hname =>
    ⟨htree.slashless file hmem name (hbelow name hname),
      (htree.named file hmem name (hbelow name hname)).1,
      (htree.named file hmem name (hbelow name hname)).2.1⟩
  have hdots : ".." ∉ below := fun hname =>
    (htree.named file hmem _ (hbelow _ hname)).2.2 rfl
  unfold readSource
  dsimp only
  rw [hnames, readFile_of_file? hne hdots hbytes]
  dsimp only
  cases textOfBytes bytes <;> rfl

/-- A listed file holds a text and is read as it, or its bytes are those of no text and decoding
them tells where. -/
lemma readSource_cases (htree : tree.OnDisk) (rootText : String)
    (h : tree.Contains root path bytes) :
    (∃ text, bytes = Text.Utf8.encode text ∧ tree.readSource root rootText path =
        .ok ⟨path, String.ofList (Text.normalizeBreaks text)⟩) ∨
      ∃ fault, (∀ text, bytes ≠ Text.Utf8.encode text) ∧ Text.Utf8.decode bytes = .error fault ∧
        tree.readSource root rootText path = .error (.encoding fault) := by
  rw [readSource_of_contains htree rootText h]
  unfold textOfBytes
  cases hdecode : Text.Utf8.decode bytes with
  | ok text => exact .inl ⟨text, Text.Utf8.decode_eq_ok_iff.mp hdecode, rfl⟩
  | error fault =>
    refine .inr ⟨fault, fun text hbytes => ?_, rfl, rfl⟩
    rw [Text.Utf8.decode_eq_ok_iff.mpr hbytes] at hdecode
    cases hdecode

end Reading

lemma keepCore_sublist (quiet : Bool) (paths : List String) :
    (keepCore quiet paths).Sublist paths := by
  unfold keepCore
  split
  · exact List.filter_sublist
  · exact List.Sublist.refl paths

/-- What is discovered is read in its order, a source for each path, or the first listed file that
is no text ends the reading with the fault of its bytes. No file is missing, and none is a
folder. -/
theorem discovered_sources_read {tree : SourceTree} (htree : tree.OnDisk) {root : Path}
    (hroot : tree.isFolder root) (rootText : String) (quiet : Bool) (selection : Selection) :
    ∃ paths, (tree.discover root selection).map (keepCore quiet) = .ok paths ∧
    let result := tree.readSources root rootText paths
    paths.Pairwise (· < ·) ∧
    (∀ fault, result ≠ .error (.file fault)) ∧
    ((∃ sources, result = .ok sources ∧ List.Forall₂ (fun path source => source.path = path ∧
        ∃ text, tree.Contains root path (Text.Utf8.encode text) ∧
          source.content = String.ofList (Text.normalizeBreaks text)) paths sources) ∨
      ∃ before path after bytes fault, paths = before ++ path :: after ∧
        (∀ earlier ∈ before, ∃ text, tree.Contains root earlier (Text.Utf8.encode text)) ∧
        tree.Contains root path bytes ∧ (∀ text, bytes ≠ Text.Utf8.encode text) ∧
        Text.Utf8.decode bytes = .error fault ∧ result = .error (.encoding fault)) := by
  let paths := keepCore quiet (tree.selected root selection)
  have hpaths : (tree.discover root selection).map (keepCore quiet) = .ok paths := by
    rw [discover_of_isFolder hroot]
    rfl
  refine ⟨paths, hpaths, ?_⟩
  intro result
  have hsorted : paths.Pairwise (· < ·) :=
    (selected_pairwise htree.toWellFormed root selection).sublist (keepCore_sublist quiet _)
  have hcontains : ∀ path ∈ paths, ∃ bytes, tree.Contains root path bytes := fun path hpath =>
    contains_of_mem_selected ((keepCore_sublist quiet _).subset hpath)
  have hread : ∀ path ∈ paths, ∀ source, tree.readSource root rootText path = .ok source →
      source.path = path ∧ ∃ text, tree.Contains root path (Text.Utf8.encode text) ∧
        source.content = String.ofList (Text.normalizeBreaks text) := by
    intro path hpath source hsource
    obtain ⟨bytes, hbytes⟩ := hcontains path hpath
    obtain ⟨text, rfl, hok⟩ | ⟨fault, _, _, herror⟩ := readSource_cases htree rootText hbytes
    · cases hsource.symm.trans hok
      exact ⟨rfl, text, hbytes, rfl⟩
    · cases hsource.symm.trans herror
  cases hresult : result with
  | ok sources =>
    refine ⟨hsorted, nofun, .inl ⟨sources, rfl, ?_⟩⟩
    have hall := mapM_eq_ok_iff.mp hresult
    rw [List.forall₂_iff_zip] at hall ⊢
    exact ⟨hall.1, fun hmem => hread _ (List.of_mem_zip hmem).1 _ (hall.2 hmem)⟩
  | error why =>
    obtain ⟨before, path, after, hsplit, hbefore, hpath⟩ := mapM_eq_error_iff.mp hresult
    obtain ⟨bytes, hbytes⟩ := hcontains path (by simp [hsplit])
    obtain ⟨text, rfl, hok⟩ | ⟨fault, hno, hfault, herror⟩ := readSource_cases htree rootText hbytes
    · cases hpath.symm.trans hok
    · cases hpath.symm.trans herror
      refine ⟨hsorted, nofun, .inr ⟨before, path, after, bytes, fault, hsplit, ?_, hbytes, hno,
        hfault, rfl⟩⟩
      intro earlier hearlier
      obtain ⟨source, hsource⟩ := hbefore earlier hearlier
      obtain ⟨-, text, htext, -⟩ := hread earlier (by simp [hsplit, hearlier]) source hsource
      exact ⟨text, htext⟩

/-- Below `srv` lie a source and a folder with the ending of one, which holds a file that is no
text. -/
def misencodedTree : SourceTree where
  files := [
    (["srv", "views.ts", "b.ts"], [0x61, 0xff]),
    (["srv", "app", "a.ts"], Text.Utf8.encode "é\r\n".toList),
    (["srv", "widgets.tsx", "c.md"], [])]
  folders := [["srv", "empty.ts"]]

/-- The byte that starts no character is told of, at its place in its file. -/
theorem discovered_sources_read_misencoded :
    misencodedTree.OnDisk ∧ misencodedTree.isFolder ["srv"] ∧
    let paths := ["app/a.ts", "views.ts/b.ts"]
    (misencodedTree.discover ["srv"] {}).map (keepCore false) = .ok paths ∧
    ∃ before path after bytes fault, paths = before ++ path :: after ∧
      misencodedTree.Contains ["srv"] path bytes ∧ (∀ text, bytes ≠ Text.Utf8.encode text) ∧
      misencodedTree.readSources ["srv"] "/srv" paths = .error (.encoding fault) := by
  have htree : misencodedTree.OnDisk :=
    ⟨⟨by decide +kernel, by decide +kernel⟩, by decide +kernel⟩
  have hroot : misencodedTree.isFolder ["srv"] := by decide +kernel
  obtain ⟨paths, hfound, hsorted, -, hread⟩ :=
    discovered_sources_read htree hroot "/srv" false {}
  have hpaths : paths = ["app/a.ts", "views.ts/b.ts"] := by
    have hselected : misencodedTree.selected ["srv"] {} = paths := Except.ok.inj hfound
    have hperm : paths.Perm ["app/a.ts", "views.ts/b.ts"] := by
      rw [← hselected]
      exact (List.mergeSort_perm _ _).trans (by decide +kernel)
    exact hperm.eq_of_pairwise' hsorted (by decide +kernel)
  subst hpaths
  refine ⟨htree, hroot, hfound, ?_⟩
  obtain ⟨sources, hok, -⟩ | ⟨before, path, after, bytes, fault, hsplit, -, hbytes, hno, -, h⟩ :=
    hread
  · have hfails : (misencodedTree.readSources ["srv"] "/srv"
        ["app/a.ts", "views.ts/b.ts"]).isOk = false := by decide +kernel
    rw [hok] at hfails
    cases hfails
  · exact ⟨before, path, after, bytes, fault, hsplit, hbytes, hno, h⟩

end SourceTree

end SlopLint
