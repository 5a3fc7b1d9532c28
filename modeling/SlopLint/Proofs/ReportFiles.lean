import SlopLint.Proofs.DiscoveredFiles
import SlopLint.Proofs.TreeWriting
import SlopLint.Report.Json
import SlopLint.Settings.Loading
import SlopLint.SourceTree.Discovery
import SlopLint.SourceTree.Reading

/-!
# Reports in source trees

A report that lies in a tree under its own name is passed over. Its ending is none of a source, so
it is not discovered, and the way to a discovered source does not lead to it; its name is none of
the names that settings go by.
-/

namespace SlopLint

open Text

/-! ### The last character of a path -/

lemma getLast?_lowerFrom {c : Char} (hdotted : c ≠ '\u0130') (hsigma : c ≠ '\u03a3')
    (before front : List Char) : (lowerFrom before (front ++ [c])).getLast? = some (lower c) := by
  induction front generalizing before with
  | nil => simp [lowerFrom, hdotted, hsigma]
  | cons d front ih =>
    rw [List.cons_append, lowerFrom, List.getLast?_append, ih, Option.some_or]

lemma ending_concat {name : String} {front : List Char} {c : Char}
    (hname : name.toList = front ++ [c]) :
    Path.ending name = [] ∨ ∃ stem, Path.ending name = stem ++ [c] := by
  have hends : Path.EndsIn (front ++ [c]) (Path.ending name) := hname ▸ Path.endsIn_iff.mpr rfl
  generalize hchars : front ++ [c] = chars at hends
  generalize Path.ending name = text at hends ⊢
  cases hends with
  | plain _ => exact .inl rfl
  | dotted _ _ htail =>
    obtain ⟨tail, d, rfl⟩ := (List.eq_nil_or_concat' _).resolve_left htail
    rw [← List.cons_append, ← List.append_assoc] at hchars
    rw [List.singleton_inj.mp (List.append_inj' hchars rfl).2]
    exact .inr ⟨'.' :: tail, rfl⟩

/-- A selected name ends in a character that no report and no way between folders ends in. -/
lemma last_of_selected {name : String} (h : String.ofList (lowerText (Path.ending name)) ∈
    SourceTree.defaultExtensions) :
    ∃ front c, name.toList = front ++ [c] ∧ c ≠ 'n' ∧ c ≠ '/' ∧ c ≠ '.' := by
  have hlast : (lowerText (Path.ending name)).getLast? ∈ [some 's', some 'x'] := by
    have hall : ∀ extension ∈ SourceTree.defaultExtensions,
        extension.toList.getLast? ∈ [some 's', some 'x'] := by
      decide +kernel
    simpa only [String.toList_ofList] using hall _ h
  rcases List.eq_nil_or_concat' name.toList with hname | ⟨front, c, hname⟩
  · rw [Path.ending, hname] at hlast
    exact absurd hlast (by decide)
  · have hother : ∀ d ∈ ['n', '/', '.'], c ≠ d := by
      rintro d hd rfl
      rcases ending_concat hname with hending | ⟨stem, hending⟩
      · rw [hending] at hlast
        exact absurd hlast (by decide)
      · have hplain : ∀ d ∈ ['n', '/', '.'],
            d ≠ '\u0130' ∧ d ≠ '\u03a3' ∧ some (lower d) ∉ [some 's', some 'x'] := by
          simp only [List.forall_mem_cons, List.not_mem_nil, false_implies, implies_true, and_true]
          decide
        obtain ⟨hdotted, hsigma, hlower⟩ := hplain c hd
        rw [hending, lowerText, getLast?_lowerFrom hdotted hsigma] at hlast
        exact hlower hlast
    exact ⟨front, c, hname, hother _ (by simp), hother _ (by simp), hother _ (by simp)⟩

lemma splitOnChar_concat {separator c : Char} (h : c ≠ separator) (front : List Char) :
    ∃ pieces piece, splitOnChar separator (front ++ [c]) = pieces ++ [piece ++ [c]] := by
  induction front with
  | nil => exact ⟨[], [], by simp [splitOnChar, h]⟩
  | cons d front ih =>
    obtain ⟨pieces, piece, hsplit⟩ := ih
    rw [List.cons_append, splitOnChar, hsplit]
    split
    · exact ⟨[] :: pieces, piece, rfl⟩
    · cases pieces with
      | nil => exact ⟨[], d :: piece, rfl⟩
      | cons first pieces => exact ⟨(d :: first) :: pieces, piece, rfl⟩

/-- A path that ends in neither a slash nor a dot leads to a name that ends as the path does. -/
lemma names_concat {text : String} {front : List Char} {c : Char}
    (htext : text.toList = front ++ [c]) (hslash : c ≠ '/') (hdot : c ≠ '.') :
    ∃ before last piece, Path.names text = before ++ [last] ∧ last.toList = piece ++ [c] := by
  obtain ⟨pieces, piece, hsplit⟩ := splitOnChar_concat hslash front
  have hkept : (String.ofList (piece ++ [c]) != "" && String.ofList (piece ++ [c]) != ".") =
      true := by
    simp only [Bool.and_eq_true, bne_iff_ne, ne_eq, ← String.toList_inj, String.toList_ofList]
    refine ⟨by simp, fun hpiece => hdot ?_⟩
    have := congrArg List.getLast? hpiece
    simpa using this
  refine ⟨(pieces.map String.ofList).filter fun name => name != "" && name != ".",
    String.ofList (piece ++ [c]), piece, ?_, String.toList_ofList⟩
  rw [Path.names, htext, hsplit, List.map_append, List.filter_append, List.map_singleton,
    List.filter_singleton, hkept]
  rfl

lemma toList_text_concat (names : List String) (name : String) :
    ∃ front, (Path.text (names ++ [name])).toList = front ++ name.toList := by
  rw [Path.text, String.toList_intercalate]
  induction names with
  | nil => exact ⟨[], by simp⟩
  | cons first names ih =>
    obtain ⟨front, hfront⟩ := ih
    obtain ⟨second, rest, hrest⟩ := List.exists_cons_of_ne_nil
      (List.append_ne_nil_of_right_ne_nil names (List.cons_ne_nil name []))
    refine ⟨first.toList ++ "/".toList ++ front, ?_⟩
    rw [List.append_assoc, ← hfront, List.cons_append, hrest]
    exact List.intercalate_cons_cons

namespace SourceTree

lemma extension_of_selects {ignorePaths : List String} {below : Path}
    (h : Selection.selects { ignorePaths } below = true) :
    String.ofList (lowerText (Path.ending (below.getLast?.getD ""))) ∈ defaultExtensions := by
  simp only [Selection.selects, Bool.and_eq_true, List.contains_iff_mem] at h
  exact h.1.1.1

/-- The way to a selected file does not lead to a report. -/
lemma follow_of_selects {ignorePaths : List String} {below : Path}
    (h : Selection.selects { ignorePaths } below = true) (root folder : Path) :
    Path.follow root (Path.names (Path.text below)) ≠ folder ++ [Report.defaultName] := by
  obtain ⟨front, c, hname, hn, hslash, hdot⟩ := last_of_selected (extension_of_selects h)
  rcases List.eq_nil_or_concat' below with rfl | ⟨names, name, rfl⟩
  · cases front <;> cases hname
  · rw [List.getLast?_concat, Option.getD_some] at hname
    obtain ⟨above, habove⟩ := toList_text_concat names name
    rw [hname, ← List.append_assoc] at habove
    obtain ⟨before, last, piece, hway, hlast⟩ := names_concat habove hslash hdot
    have hends : last.toList.getLast? = some c := by
      rw [hlast, List.getLast?_concat]
    have hup : last ≠ ".." := by
      rintro rfl
      exact hdot (Option.some.inj hends).symm
    rw [hway, Path.follow, List.foldl_append, List.foldl_cons, List.foldl_nil, if_neg hup]
    intro hreport
    obtain ⟨-, hsame⟩ := List.append_inj' hreport rfl
    rw [List.singleton_inj.mp hsame] at hends
    exact hn (Option.some.inj hends).symm

/-- A report is not selected, wherever the search for sources starts. -/
lemma not_selects_report {ignorePaths : List String} {folder root below : Path}
    (h : belowRoot? root (folder ++ [Report.defaultName]) = some below) :
    ¬ Selection.selects { ignorePaths } below = true := by
  obtain ⟨hne, hpath⟩ := belowRoot?_eq_some_iff.mp h
  have hlast : below.getLast? = some Report.defaultName := by
    rw [← List.getLast?_append_of_ne_nil root hne, ← hpath, List.getLast?_concat]
  intro hselects
  have hextension := extension_of_selects hselects
  rw [hlast] at hextension
  exact absurd hextension (by decide)

section Report

variable {tree : SourceTree} {folder : Path}

lemma selected_setFile (content : List UInt8) (root : Path) (ignorePaths : List String) :
    (tree.setFile (folder ++ [Report.defaultName]) content).selected root { ignorePaths } =
      tree.selected root { ignorePaths } := by
  have hpaths : ∀ files : List (Path × List UInt8),
      files.filterMap (fun file => belowRoot? root file.1) =
        (files.map Prod.fst).filterMap (belowRoot? root) := by
    intro files
    rw [List.filterMap_map]
    rfl
  unfold selected
  rw [hpaths, hpaths, paths_setFile, List.filterMap_append, List.filter_append]
  have hnone : (List.filterMap (belowRoot? root) (if tree.isFile (folder ++ [Report.defaultName])
      then [] else [folder ++ [Report.defaultName]])).filter
        (Selection.selects { ignorePaths }) = [] := by
    rw [List.filter_eq_nil_iff]
    intro below hbelow
    obtain ⟨path, hpath, hfound⟩ := List.mem_filterMap.mp hbelow
    split at hpath
    · cases hpath
    · rw [List.mem_singleton] at hpath
      exact not_selects_report (hpath ▸ hfound)
  rw [hnone, List.append_nil]

lemma discover_setFile (content : List UInt8) (hfolder : tree.isFolder folder) (root : Path)
    (ignorePaths : List String) :
    (tree.setFile (folder ++ [Report.defaultName]) content).discover root { ignorePaths } =
      tree.discover root { ignorePaths } := by
  unfold discover
  rw [(sameBut_setFile Report.defaultName content hfolder).isFolder, selected_setFile]

lemma loadSettings_setFile [Pattern.Platform] (content : List UInt8) (root : Path) :
    (tree.setFile (folder ++ [Report.defaultName]) content).loadSettings root =
      tree.loadSettings root := by
  have hfiles : ∀ name ∈ Settings.fileNames,
      (tree.setFile (folder ++ [Report.defaultName]) content).file? (root ++ [name]) =
        tree.file? (root ++ [name]) := by
    intro name hname
    apply file?_setFile_of_ne
    intro hsame
    have hreport : name = Report.defaultName :=
      List.singleton_inj.mp (List.append_inj' hsame rfl).2
    exact absurd (hreport ▸ hname) (by decide)
  unfold loadSettings
  simp only [← List.head?_filterMap]
  rw [List.filterMap_congr fun name hname =>
    congrArg (Option.map (Prod.mk name)) (hfiles name hname)]

lemma mem_selected {root : Path} {quiet : Bool} {ignorePaths : List String} {path : String}
    (h : path ∈ keepCore quiet (tree.selected root { ignorePaths })) :
    ∃ below, Path.text below = path ∧ Selection.selects { ignorePaths } below = true := by
  have hfound : path ∈ tree.selected root { ignorePaths } := by
    unfold keepCore at h
    split at h
    · exact (List.mem_filter.mp h).1
    · exact h
  obtain ⟨folders, name, _, htext, hlists⟩ := mem_selected_iff.mp hfound
  exact ⟨folders ++ [name], htext, selects_iff.mpr hlists⟩

/-- Sources that could be read are read as before once there is a report. -/
lemma readSources_setFile (content : List UInt8) (hfolder : tree.isFolder folder) {root : Path}
    {rootText : String} {quiet : Bool} {ignorePaths : List String} {sources : List SourceFile}
    (h : tree.readSources root rootText (keepCore quiet (tree.selected root { ignorePaths })) =
      .ok sources) :
    (tree.setFile (folder ++ [Report.defaultName]) content).readSources root rootText
      (keepCore quiet (tree.selected root { ignorePaths })) = .ok sources := by
  have hsame := sameBut_setFile Report.defaultName content hfolder
  rw [readSources, mapM_eq_ok_iff, List.forall₂_iff_zip] at h ⊢
  refine ⟨h.1, fun {path source} hmem => ?_⟩
  obtain ⟨below, rfl, hselects⟩ := mem_selected (List.of_mem_zip hmem).1
  have hread := h.2 hmem
  unfold readSource at hread ⊢
  dsimp only at hread ⊢
  split at hread
  · cases hread
  · rename_i bytes hbytes
    rw [hsame.readFile_eq_ok (follow_of_selects hselects root folder) hbytes]
    exact hread

end Report

end SourceTree

end SlopLint
