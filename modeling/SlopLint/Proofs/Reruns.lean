import SlopLint.Proofs.ReportFiles
import SlopLint.Proofs.WrittenFiles

/-!
# Runs one after another

A run that is given no place for its report leaves it in the folder it has scanned. The next run
passes it over: it accepts the same folder, finds the same settings and the same sources, and
replaces the report by its own. So it tells what the first run told.
-/

namespace SlopLint.CommandLine

section Outcomes

variable [Console.Library]

/-! ### Outcomes with other files -/

lemma tell_with (outcome : Outcome) (tree : SourceTree) (items : List Console.Item) :
    ({ outcome with tree } : Outcome).tell items = { outcome.tell items with tree } := by
  rcases outcome with ⟨code, output, errors, crash, first, written⟩
  cases crash <;> rfl

lemma conclude_with (outcome : Outcome) (tree : SourceTree) (arguments : Arguments)
    (scanned : Scanned) : ({ outcome with tree } : Outcome).conclude arguments scanned =
      { outcome.conclude arguments scanned with tree } := by
  unfold Outcome.conclude
  cases blocks arguments scanned
  · rfl
  · simp only [if_true, tell_with]

/-- A report that fails alike in two trees, or in neither, is told of alike. -/
lemma report_with (outcome : Outcome) (tree : SourceTree) (time time' : String)
    (destination : Destination) (detection : Detection)
    (hwrite : (destination.write tree time' detection).map (fun _ => ()) =
      (destination.write outcome.tree time detection).map fun _ => ()) :
    ∃ tree', ({ outcome with tree } : Outcome).report time' destination detection =
      { outcome.report time destination detection with tree := tree' } := by
  rcases outcome with ⟨code, output, errors, crash, first, written⟩
  cases crash with
  | some crash => exact ⟨tree, rfl⟩
  | none =>
    unfold Outcome.report
    dsimp only at hwrite ⊢
    cases hfirst : destination.write first time detection with
    | error fault =>
      rw [hfirst] at hwrite
      cases hagain : destination.write tree time' detection with
      | error fault' =>
        rw [hagain] at hwrite
        cases hwrite
        exact ⟨tree, rfl⟩
      | ok tree' =>
        rw [hagain] at hwrite
        cases hwrite
    | ok middle =>
      rw [hfirst] at hwrite
      cases hagain : destination.write tree time' detection with
      | error fault' =>
        rw [hagain] at hwrite
        cases hwrite
      | ok tree' => exact ⟨tree', tell_with ⟨code, output, errors, none, middle, _⟩ tree' _⟩

end Outcomes

/-! ### Scans of other trees -/

lemma run_bind_congr {α β : Type} {part : Logged α} {next next' : α → Logged β}
    (h : ∀ value, part.Gives value → next value = next' value) :
    part >>= next = part >>= next' := by
  have hrun : ∀ before, (part >>= next).run.run before = (part >>= next').run.run before := by
    intro before
    rw [run_bind, run_bind]
    rcases hpart : part.run.run before with ⟨result, middle⟩
    cases result with
    | ok value =>
      exact congrArg (fun rest => rest.run.run middle) (h value ⟨before, middle, hpart⟩)
    | error stop => rfl
  exact funext hrun

/-- A scan of a tree with a report in it logs and finds what the scan of the tree without it does. -/
lemma scanFolder_setFile [Pattern.Platform] {surroundings : Surroundings} {root folder : Path}
    {quiet : Bool} {scanned : Scanned} (content : List UInt8) (time : String)
    (hfolder : surroundings.tree.isFolder folder)
    (h : (scanFolder surroundings root quiet).start.1 = .ok scanned) :
    scanFolder
      { surroundings with
        tree := surroundings.tree.setFile (folder ++ [Report.defaultName]) content
        time } root quiet =
      scanFolder surroundings root quiet := by
  obtain ⟨found, paths, sources, hload, hsettings, _, hpaths, hsources, _⟩ := scanFolder_eq_ok h
  have hsame : loadSettings (surroundings.tree.setFile (folder ++ [Report.defaultName]) content)
      root = loadSettings surroundings.tree root := by
    unfold loadSettings
    rw [SourceTree.loadSettings_setFile]
  unfold scanFolder
  dsimp only
  rw [hsame]
  apply run_bind_congr
  intro settings hgives
  apply run_bind_congr
  intro rules _
  have hselect : ∀ ignorePaths, selectFiles
      (surroundings.tree.setFile (folder ++ [Report.defaultName]) content) root quiet ignorePaths =
      selectFiles surroundings.tree root quiet ignorePaths := by
    intro ignorePaths
    unfold selectFiles
    rw [SourceTree.discover_setFile content hfolder]
  rw [hselect]
  apply run_bind_congr
  intro paths' hpaths'
  obtain ⟨found', hload', hsettings'⟩ := gives_loadSettings hgives
  obtain rfl : found' = found := Except.ok.inj (hload'.symm.trans hload)
  have hselected := gives_selectFiles hpaths'
  rw [hsettings', ← hsettings, hpaths] at hselected
  obtain rfl : paths = paths' := Except.ok.inj hselected
  obtain ⟨names, hnames, rfl⟩ := map_eq_ok_iff.mp hpaths
  obtain rfl := SourceTree.eq_selected_of_discover hnames
  rw [hsources, SourceTree.readSources_setFile content hfolder hsources]

/-! ### Accepted folders -/

variable {surroundings : Surroundings} {arguments : Arguments} {root : Path}

lemma placeAt?_eq_folder_iff {text : String} {path : Path} :
    placeAt? surroundings text = some (.folder path) ↔ text ≠ "" ∧
      surroundings.tree.locate (Path.start surroundings.here text) (Path.names text) =
        .ok (.folder path) := by
  unfold placeAt?
  dsimp only
  split
  next htext => simp [htext]
  next htext =>
    cases surroundings.tree.locate (Path.start surroundings.here text) (Path.names text) with
    | error problem => simp
    | ok place =>
      cases place with
      | folder found => simp [htext]
      | file found content =>
        dsimp only
        split <;> simp

lemma rootOf_eq_ok_iff : rootOf surroundings arguments = .ok root ↔
    placeAt? surroundings arguments.root = some (.folder root) := by
  unfold rootOf
  split <;> simp [*]

/-- The folder of a run is there, and it is accepted as well when there is one more file in it. -/
lemma rootOf_eq_ok (h : rootOf surroundings arguments = .ok root) :
    surroundings.tree.isFolder root ∧ ∀ (name : String) (tree : SourceTree) (time : String),
      SourceTree.SameBut (root ++ [name]) surroundings.tree tree →
        rootOf { surroundings with tree, time } arguments = .ok root := by
  obtain ⟨htext, hlocate⟩ := placeAt?_eq_folder_iff.mp (rootOf_eq_ok_iff.mp h)
  obtain ⟨hroot, hfolder, -⟩ := SourceTree.locate_eq_folder hlocate
  refine ⟨hfolder, fun name tree time hsame => ?_⟩
  have hway : Path.follow (Path.start surroundings.here arguments.root)
      (Path.names arguments.root) ≠ root ++ [name] := by
    rw [← hroot]
    exact fun heq => absurd (congrArg List.length heq) (by simp)
  exact rootOf_eq_ok_iff.mpr (placeAt?_eq_folder_iff.mpr
    ⟨htext, hsame.locate_eq_ok hway hlocate⟩)

lemma check_eq_of_no_output (houtput : arguments.output = none) :
    check surroundings arguments =
      rootOf surroundings arguments >>= fun root =>
        match arguments.arguments with
        | _ :: extra :: more => .error (.extraArguments (extra :: more))
        | _ => .ok root := by
  unfold check
  rw [houtput]
  rfl

lemma rootOf_of_check (houtput : arguments.output = none)
    (h : check surroundings arguments = .ok root) : rootOf surroundings arguments = .ok root := by
  rw [check_eq_of_no_output houtput] at h
  obtain ⟨found, hfound, hlast⟩ := bind_eq_ok_iff.mp h
  split at hlast
  · cases hlast
  · rw [hfound, Except.ok.inj hlast]

/-! ### The second run -/

section Reruns

variable [Pattern.Platform] {words : List String} {scanned : Scanned}

/-- A report that is written under its own name is written again in its place. -/
lemma Scans.rewrites (h : Scans surroundings words arguments root scanned)
    (houtput : arguments.output = none) {tree : SourceTree}
    (hwrite : (destination surroundings root arguments).write surroundings.tree surroundings.time
      scanned.detection = .ok tree) (time : String) :
    let path := root ++ [Report.defaultName]
    let report := Report.ofDetection scanned.detection
    let place := destination surroundings root arguments
    surroundings.tree.isFolder root ∧ check { surroundings with tree, time } arguments = .ok root ∧
      place.path = path ∧
      tree = surroundings.tree.setFile path
        (Text.Utf8.encode (report.text surroundings.time).toList) ∧
      place.write tree time scanned.detection =
        .ok (tree.setFile path (Text.Utf8.encode (report.text time).toList)) := by
  intro path report place
  have hroot := rootOf_of_check houtput h.root_accepted
  obtain ⟨hfolder, haccepts⟩ := rootOf_eq_ok hroot
  have hplace : place =
      ⟨root, [Report.defaultName], fun names => Path.absolute (root ++ names)⟩ := by
    simp only [place, destination, houtput]
  have hfirst : place.write surroundings.tree surroundings.time scanned.detection = .ok tree :=
    hwrite
  rw [hplace] at hfirst ⊢
  obtain ⟨hset, hagain⟩ := SourceTree.writeFile_again hfolder (by decide) hfirst
  refine ⟨hfolder, ?_, rfl, hset, hagain _⟩
  have hsame := SourceTree.sameBut_setFile Report.defaultName
    (Text.Utf8.encode (report.text surroundings.time).toList) hfolder
  have haccepted := h.root_accepted
  rw [check_eq_of_no_output houtput, hroot] at haccepted
  rw [check_eq_of_no_output houtput, hset, haccepts _ _ time hsame]
  exact haccepted

variable [Console.Library]

/-- A run that scans the same and can write its report as well as the first tells the same. -/
lemma Scans.run_again (h : Scans surroundings words arguments root scanned) {tree : SourceTree}
    {time : String} (hcheck : check { surroundings with tree, time } arguments = .ok root)
    (hscan : scanFolder { surroundings with tree, time } root (arguments.has .quiet) =
      scanFolder surroundings root (arguments.has .quiet))
    (hwrite :
      let place := destination surroundings root arguments
      (place.write tree time scanned.detection).map (fun _ => ()) =
        (place.write surroundings.tree surroundings.time scanned.detection).map fun _ => ()) :
    ∃ tree', run { surroundings with tree, time } words =
      { run surroundings words with tree := tree' } := by
  have hagain : Scans { surroundings with tree, time } words arguments root scanned :=
    ⟨h.words_read, h.nothing_asked, hcheck, by rw [hscan]; exact h.folder_scanned⟩
  have hlog : scanLog { surroundings with tree, time } root arguments =
      scanLog surroundings root arguments := by
    unfold scanLog
    rw [hscan]
  let summary := summarized surroundings arguments scanned (scanLog surroundings root arguments)
  rw [hagain.run_eq_scanLog, h.run_eq_scanLog, hlog]
  dsimp only
  split
  · exact ⟨tree, conclude_with summary tree arguments scanned⟩
  · obtain ⟨tree', hreport⟩ := report_with summary tree surroundings.time time
      (destination surroundings root arguments) scanned.detection hwrite
    refine ⟨tree', ?_⟩
    rw [← conclude_with, ← hreport]
    rfl

lemma Unreported.exists_run_eq (h : Unreported surroundings words) (time : String) :
    ∃ tree, run { surroundings with time } words = { run surroundings words with tree } := by
  have hscans : ∀ {arguments root scanned}, Scans surroundings words arguments root scanned →
      ∃ tree, run { surroundings with time } words = { run surroundings words with tree } :=
    fun h => h.run_again h.root_accepted rfl (SourceTree.writeFile_map_unit _ _ _ _ _ _)
  have hstops : ∀ {arguments root stop}, Starts surroundings words arguments root →
      (scanFolder surroundings root (arguments.has .quiet)).start.1 = .error stop →
      ∃ tree, run { surroundings with time } words = { run surroundings words with tree } := by
    intro arguments root stop hstarts hstop
    have hagain : Starts { surroundings with time } words arguments root :=
      ⟨hstarts.words_read, hstarts.nothing_asked, hstarts.root_accepted⟩
    refine ⟨(run surroundings words).tree, ?_⟩
    rw [hagain.stops hstop, hstarts.stops hstop]
    rfl
  cases h with
  | refused h =>
    cases h with
    | misread hread =>
      refine ⟨surroundings.tree, ?_⟩
      rw [run_of_misread hread, run_of_misread hread]
    | unsuitable hread hasked hcheck =>
      refine ⟨surroundings.tree, ?_⟩
      rw [run_of_unsuitable hread hasked hcheck]
      exact run_of_unsuitable hread hasked hcheck
    | settings hstarts hstop => exact hstops hstarts hstop
    | sources hstarts hstop => exact hstops hstarts hstop
  | answered hread hasked =>
    refine ⟨surroundings.tree, ?_⟩
    rw [run_of_asked hread hasked, run_of_asked hread hasked]
  | settingsCrash hstarts hstop => exact hstops hstarts hstop
  | summaryCrash h => exact hscans h
  | reportCrash h => exact hscans h
  | silent h => exact hscans h

/-- A run that ends before its report is opened ends so at any time. -/
lemma Unreported.run_eq (h : Unreported surroundings words) (time : String) :
    run { surroundings with time } words = run surroundings words := by
  obtain ⟨tree, hrun⟩ := h.exists_run_eq time
  have hkept : (run { surroundings with time } words).tree = surroundings.tree := by
    apply tree_of_written_eq_nil
    rw [hrun]
    exact h.run_keeps.2
  rw [hrun] at hkept ⊢
  dsimp only at hkept
  rw [hkept, ← h.run_keeps.1]

/-- The run after one that has written its report tells the same, and writes its report there. -/
lemma run_again_of_not_unreported
    (hdefault : ∀ arguments, Arguments.read words = .ok arguments → arguments.output = none)
    (h : ¬ Unreported surroundings words) (time : String) :
    ∃ (folder : Path) (report : Report), surroundings.tree.isFolder folder ∧
      let path := folder ++ [Report.defaultName]
      let first := surroundings.tree.setFile path
        (Text.Utf8.encode (report.text surroundings.time).toList)
      let again := first.setFile path (Text.Utf8.encode (report.text time).toList)
      (run surroundings words).tree = first ∧ (run surroundings words).written = [path] ∧
        run { surroundings with tree := first, time } words =
          { run surroundings words with tree := again } := by
  obtain ⟨arguments, root, scanned, tree, hscans, hreports, hsummary, hwrite⟩ :=
    scans_of_not_unreported h
  have houtput := hdefault arguments hscans.words_read
  obtain ⟨hfolder, hcheck, hpath, hset, hrewrite⟩ := hscans.rewrites houtput hwrite time
  have hscan : scanFolder { surroundings with tree, time } root (arguments.has .quiet) =
      scanFolder surroundings root (arguments.has .quiet) := by
    rw [hset]
    exact scanFolder_setFile _ time hfolder hscans.folder_scanned
  have hagain : Scans { surroundings with tree, time } words arguments root scanned :=
    ⟨hscans.words_read, hscans.nothing_asked, hcheck, by rw [hscan]; exact hscans.folder_scanned⟩
  obtain ⟨htree, hwritten, -⟩ := (hscans.goesOn hsummary).written hreports _ hwrite
  obtain ⟨htree', -, -⟩ := (hagain.goesOn hsummary).written hreports _ hrewrite
  obtain ⟨tree', hrun⟩ := hscans.run_again hcheck hscan (by
    dsimp only at hwrite hrewrite ⊢
    rw [hwrite, hrewrite]
    rfl)
  refine ⟨root, Report.ofDetection scanned.detection, hfolder, htree.trans hset,
    hwritten.trans (by rw [hpath]), ?_⟩
  rw [hrun] at htree'
  dsimp only at htree' ⊢
  rw [← hset, hrun, ← htree']

end Reruns

/-- A run that is given no place for its report can be made again: the second run ends, tells and
writes as the first, and its report differs in nothing but its time. To the settings and the sources
of any folder the report of the first run makes no difference. -/
theorem rerun_repeats [Pattern.Platform] [Console.Library] {words : List String}
    (hdefault : ∀ arguments, Arguments.read words = .ok arguments → arguments.output = none)
    (surroundings : Surroundings) (time : String) :
    let first := run surroundings words
    let again := run { surroundings with tree := first.tree, time } words
    again.exitCode = first.exitCode ∧ again.output = first.output ∧
    again.errors = first.errors ∧ again.crash = first.crash ∧ again.written = first.written ∧
    (∀ path ∈ first.written, ∃ report : Report,
      first.tree.file? path =
        some (Text.Utf8.encode (report.text surroundings.time).toList) ∧
      again.tree.file? path = some (Text.Utf8.encode (report.text time).toList)) ∧
    (∀ path ∉ first.written, again.tree.file? path = first.tree.file? path) ∧
    ∀ root, first.tree.loadSettings root = surroundings.tree.loadSettings root ∧
      ∀ ignorePaths, first.tree.discover root { ignorePaths } =
        surroundings.tree.discover root { ignorePaths } := by
  intro first again
  by_cases h : Unreported surroundings words
  · have htree : first.tree = surroundings.tree := h.run_keeps.1
    have hagain : again = first := by
      simp only [again, htree]
      exact h.run_eq time
    have hwritten : ∀ path, path ∉ first.written := by
      intro path
      rw [h.run_keeps.2]
      exact List.not_mem_nil
    rw [hagain, htree]
    exact ⟨rfl, rfl, rfl, rfl, rfl, fun path hpath => absurd hpath (hwritten path),
      fun _ _ => rfl, fun _ => ⟨rfl, fun _ => rfl⟩⟩
  · obtain ⟨folder, report, hfolder, htree, hwritten, hrun⟩ :=
      run_again_of_not_unreported hdefault h time
    rw [← htree] at hrun
    have hagain : again = _ := hrun
    rw [hagain]
    refine ⟨rfl, rfl, rfl, rfl, rfl, fun path hpath => ⟨report, ?_, ?_⟩, fun path hpath => ?_,
      fun root => ⟨?_, fun ignorePaths => ?_⟩⟩
    · rw [hwritten, List.mem_singleton] at hpath
      rw [hpath, htree, SourceTree.file?_setFile_self]
    · rw [hwritten, List.mem_singleton] at hpath
      rw [hpath, SourceTree.file?_setFile_self]
    · rw [hwritten, List.mem_singleton] at hpath
      exact SourceTree.file?_setFile_of_ne _ _ hpath
    · rw [htree, SourceTree.loadSettings_setFile]
    · rw [htree, SourceTree.discover_setFile _ hfolder]

/-- A folder beside the current one, which holds built files alone, with its report next to them
after the first run. -/
theorem rerun_repeats_subfolder :
    letI := Pattern.Platform.withRoom 100
    letI := Console.Library.plain []
    let surroundings : Surroundings :=
      ⟨⟨[(["srv", "web", "dist", "a.js"], [])], [["srv", "tools"]]⟩, ["srv", "tools"], "now"⟩
    let first := run surroundings ["../web"]
    let again := run { surroundings with tree := first.tree, time := "later" } ["../web"]
    (∀ arguments, Arguments.read ["../web"] = .ok arguments → arguments.output = none) ∧
      first.written = [["srv", "web", "ai-slop-report.json"]] ∧ again.written = first.written ∧
      again.exitCode = first.exitCode ∧ again.output = first.output := by
  let := Pattern.Platform.withRoom 100
  let := Console.Library.plain []
  intro surroundings first again
  have hdefault : ∀ arguments, Arguments.read ["../web"] = .ok arguments →
      arguments.output = none := by
    intro arguments hread
    have hwords : Arguments.read ["../web"] = .ok { arguments := ["../web"] } := by decide +kernel
    rw [← Except.ok.inj (hwords.symm.trans hread)]
  have hwritten : first.written = [["srv", "web", "ai-slop-report.json"]] := by decide +kernel
  obtain ⟨hcode, houtput, -, -, hagain, -⟩ := rerun_repeats hdefault surroundings "later"
  exact ⟨hdefault, hwritten, hagain, hcode, houtput⟩

end SlopLint.CommandLine
