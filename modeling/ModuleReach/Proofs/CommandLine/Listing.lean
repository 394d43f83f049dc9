import Mathlib.Data.String.Basic
import ModuleReach.CommandLine.Traverse
import ModuleReach.Proofs.CommandLine.Console
import ModuleReach.Proofs.Store.Links
import ModuleReach.Proofs.Traversal.FilePaths

/-!
# The list of files for readers

A report for readers begins with a table of its files, in order, one on each line.  The console reads the cells of the
table as markup, but nothing is done to keep a path from being taken for markup.  A path that is bare, typewritten and
short enough stands on its line as it is.  Of other paths what looks like a tag is gone, or the report is not shown at all.
This is so of every console that reads markup.

## Main definitions

* `CommandLine.fileList` — the table of files in which some paths stand as they are.
* `CommandLine.Traverse.Reports` — the traversals that end well, with a report for readers.
* `CommandLine.Traverse.lone` — the trees in which there is one file, and nothing in it.

## Main results

* `CommandLine.Outcome.printing_map_ok` — texts none of which fails are printed one after the other.
* `CommandLine.filesTable_eq`, `CommandLine.exists_tableText_skipsTable` — the tables of a report.
* `CommandLine.Traverse.exists_run_eq_crashed` — a path that cannot be shown ends the command.
* `CommandLine.Traverse.run_listed` — each file of a report stands on a line of its own, as it is.
* `CommandLine.Traverse.reports_lone` — a traversal in such a tree reports its file.
-/

namespace ModuleReach

open Markup (Bare ClosesNothing)
open Layout (Table)
open Text (Typewritten)

namespace CommandLine

/-! ### Printing -/

/-- Texts none of which fails are printed one after the other. -/
theorem Outcome.printing_map_ok (exitCode : Nat) (texts : List String) :
    printing exitCode (texts.map .ok) = ⟨exitCode, String.join texts, "", none⟩ := by
  induction texts with
  | nil => rfl
  | cons text rest ih =>
    rw [List.map_cons, printing, ih, after, String.join_cons]

/-! ### Tables -/

/-- The table of files with some paths in its cells. -/
def fileList (paths : List String) : Table := .ofTexts "Reachable Files" "Path" (paths.map String.toList)

section Report

variable {console : Console} {report : Report}

theorem sortedFiles_perm (report : Report) : (sortedFiles report).Perm report.files := List.mergeSort_perm _ _

/-- Paths of which none occurs twice are in strict order. -/
theorem pairwise_sortedFiles (h : report.files.Nodup) : (sortedFiles report).Pairwise (· < ·) := by
  have hle : (sortedFiles report).Pairwise fun a b => decide (a ≤ b) = true :=
    List.pairwise_mergeSort
      (fun a b c hab hbc => by simpa using le_trans (by simpa using hab) (by simpa using hbc))
      (fun a b => by simpa using le_total a b) report.files
  have hne : (sortedFiles report).Nodup := (sortedFiles_perm report).nodup_iff.2 h
  exact (hle.and hne).imp fun hab => lt_of_le_of_ne (by simpa using hab.1) hab.2

variable {shown : String → List Char}

/-- The table of files whose paths can be shown. -/
theorem filesTable_eq (h : ∀ path ∈ report.files, console.shown path.toList = .ok (shown path)) :
    filesTable console report = .ok (.ofTexts "Reachable Files" "Path" ((sortedFiles report).map shown)) := by
  have hcells : ((sortedFiles report).map fun path => [path]).mapM (shownCells console) =
      .ok (((sortedFiles report).map shown).map fun s => [s]) := by
    rw [mapM_eq_ok_iff, List.map_map, List.map_map, List.map_map]
    refine List.map_congr_left fun path hpath => ?_
    have hcell : shownCells console [path] = .ok [shown path] := by
      rw [shownCells, mapM_eq_ok_iff, List.map_singleton, h path ((sortedFiles_perm report).mem_iff.1 hpath)]
      rfl
    exact hcell
  rw [filesTable, tableOf, hcells, Except.map, Table.ofTexts]

/-- There is no table of files if a path cannot be shown. -/
theorem exists_filesTable_eq_error {path : String} (hpath : path ∈ report.files)
    (h : ∀ s, console.shown path.toList ≠ .ok s) : ∃ cause, filesTable console report = .error cause := by
  cases hcells : ((sortedFiles report).map fun path => [path]).mapM (shownCells console) with
  | error cause =>
    refine ⟨cause, ?_⟩
    rw [filesTable, tableOf, hcells]
    rfl
  | ok cells =>
    -- If all rows could be shown, so could the one of the path.
    have hrow := exists_mapM_iff.1 ⟨cells, hcells⟩ [path]
      (List.mem_map.2 ⟨path, (sortedFiles_perm report).mem_iff.2 hpath, rfl⟩)
    obtain ⟨s, hs⟩ := exists_mapM_iff.1 hrow path List.mem_cons_self
    exact absurd hs (h s)

/-- The skips can be shown if no tag in a specifier or in the path of a file closes another. -/
theorem exists_tableText_skipsTable {isPictograph : List Char → Prop} (hmarkup : console.ReadsMarkup isPictograph)
    (h : ∀ skip ∈ report.skips, ClosesNothing skip.specifier.toList ∧ ClosesNothing skip.referrer.pathname.toList) :
    ∃ text, tableText console (skipsTable console report) = .ok text := by
  have hrows : ∃ shown, (report.skips.map fun s => [s.specifier, s.referrer.pathname,
      toString s.candidates.length]).mapM (shownCells console) = .ok shown := by
    rw [exists_mapM_iff, List.forall_mem_map]
    intro skip hskip
    obtain ⟨specifier, hspecifier⟩ := hmarkup.closesNothing _ (h skip hskip).1
    obtain ⟨pathname, hpathname⟩ := hmarkup.closesNothing _ (h skip hskip).2
    refine ⟨[specifier, pathname, (toString skip.candidates.length).toList], ?_⟩
    rw [shownCells, mapM_eq_ok_iff]
    simp only [List.map_cons, List.map_nil, hspecifier, hpathname, Console.shown_toString hmarkup]
  obtain ⟨shown, hshown⟩ := hrows
  rw [skipsTable, tableOf, hshown]
  exact ⟨_, rfl⟩

/-- What is printed of a report whose tables can be shown: the list of the files, the skips if there are any, and the
numbers of both. -/
theorem exists_printing_reportTexts {files : Table} (hfiles : filesTable console report = .ok files)
    (hskips : ∃ text, tableText console (skipsTable console report) = .ok text) :
    ∃ skips, (if report.skips = [] then skips = "" else tableText console (skipsTable console report) = .ok skips) ∧
      Outcome.printing 0 (reportTexts console report) =
        ⟨0, textOfLines (console.table files) ++ skips ++ summary report, "", none⟩ := by
  have hfirst : tableText console (filesTable console report) = .ok (textOfLines (console.table files)) := by
    rw [hfiles, tableText, Except.map]
  by_cases hnone : report.skips = []
  · have htexts : reportTexts console report = [textOfLines (console.table files), summary report].map .ok := by
      rw [reportTexts, if_pos hnone, hfirst]
      rfl
    refine ⟨"", by rw [if_pos hnone], ?_⟩
    rw [htexts, Outcome.printing_map_ok]
    simp
  · obtain ⟨skips, hskips⟩ := hskips
    have htexts : reportTexts console report =
        [textOfLines (console.table files), skips, summary report].map .ok := by
      rw [reportTexts, if_neg hnone, hfirst, hskips]
      rfl
    refine ⟨skips, by rwa [if_neg hnone], ?_⟩
    rw [htexts, Outcome.printing_map_ok]
    simp [String.append_assoc]

end Report

namespace Traverse

variable {tools : Toolkit} {tree : FileTree} {here : Location} {given : Given} {report : Report}

/-- Whether the arguments ask for a traversal that ends well, and for its report as readers want it. -/
def Reports (tools : Toolkit) (tree : FileTree) (here : Location) (given : Given) (report : Report) : Prop :=
  ∃ r config store, request tree here given = .ok r ∧ r.format = .text ∧
    r.configuration tree here tools.document = .ok config ∧
    DirectoryStore.open? "drive" tree here (Path.tidy r.root) = .ok store ∧
    (r.traversal store.toStore config).outcome = .ok report

/-- The command shows the report, and the log. -/
theorem exists_run_eq (h : Reports tools tree here given report) (verbose : Bool) :
    ∃ notes, run tools tree here verbose given =
      (Outcome.printing 0 (reportTexts tools.console report)).logging (log verbose notes) := by
  obtain ⟨r, config, store, hrequest, hformat, hconfig, hstore, htraversal⟩ := h
  refine ⟨(r.traversal store.toStore config).notes, ?_⟩
  rw [run, hrequest]
  dsimp only
  rw [Request.run, hconfig]
  dsimp only
  rw [hstore]
  dsimp only
  rw [htraversal, hformat]
  rfl

/-- A path that cannot be shown ends the command, though the traversal has ended well. -/
theorem exists_run_eq_crashed (h : Reports tools tree here given report) (verbose : Bool) {path : String}
    (hpath : path ∈ report.files) (hshown : ∀ s, tools.console.shown path.toList ≠ .ok s) :
    ∃ cause notes, run tools tree here verbose given =
      (Outcome.crashed (.markup cause)).logging (log verbose notes) := by
  obtain ⟨notes, hrun⟩ := exists_run_eq h verbose
  obtain ⟨cause, hfiles⟩ := exists_filesTable_eq_error hpath hshown
  refine ⟨cause, notes, ?_⟩
  rw [hrun, reportTexts, hfiles]
  rfl

/-- **Each file stands on a line of its own.**  If a traversal ends well, and the paths of its report are bare,
typewritten and fit a line, and no tag in a skip closes another, then the command ends well.  The table of files has the
paths in its cells, in order and each once, and the console has a line for each of them.  After the table are printed the
skips, if there are any, and the numbers of both. -/
theorem run_listed {isPictograph : List Char → Prop} (hmarkup : tools.console.ReadsMarkup isPictograph)
    (hlines : tools.console.ListsTexts "Reachable Files" "Path") (h : Reports tools tree here given report)
    (verbose : Bool) (hfits : ∀ path ∈ report.files, Typewritten path.toList ∧ path.length + 4 ≤ pageWidth)
    (hbare : ∀ path ∈ report.files, Bare isPictograph path.toList)
    (hskips : ∀ skip ∈ report.skips, ClosesNothing skip.specifier.toList ∧
      ClosesNothing skip.referrer.pathname.toList) :
    ∃ (paths : List String) (above below : List (List Char)) (skips : String) (notes : List Note),
      paths.Perm report.files ∧ paths.Pairwise (· < ·) ∧
      filesTable tools.console report = .ok (fileList paths) ∧
      tools.console.table (fileList paths) =
        above ++ (paths.map String.toList).map (Table.boxed '│' (Table.longest ("Path".toList ::
          paths.map String.toList))) ++ below ∧
      (if report.skips = [] then skips = ""
        else tableText tools.console (skipsTable tools.console report) = .ok skips) ∧
      run tools tree here verbose given =
        ⟨0, textOfLines (tools.console.table (fileList paths)) ++ skips ++ summary report, log verbose notes, none⟩ := by
  obtain ⟨notes, hrun⟩ := exists_run_eq h verbose
  obtain ⟨r, config, store, -, -, -, -, htraversal⟩ := h
  -- No path of a report has a backslash, so a bare path says nothing as markup.
  have hshown : ∀ path ∈ report.files, tools.console.shown path.toList = .ok path.toList := fun path hpath =>
    hmarkup.bare _ (hfits path hpath).1 (hbare path hpath) (Traversal.backslash_not_mem_of_mem_files htraversal hpath)
  have hfiles : filesTable tools.console report = .ok (fileList (sortedFiles report)) := filesTable_eq hshown
  obtain ⟨skips, htable, hprinted⟩ := exists_printing_reportTexts hfiles (exists_tableText_skipsTable hmarkup hskips)
  obtain ⟨above, below, hlines⟩ := hlines
  have htexts : ∀ s ∈ "Path".toList :: (sortedFiles report).map String.toList,
      Typewritten s ∧ s.length + 4 ≤ pageWidth := by
    rw [List.forall_mem_cons, List.forall_mem_map]
    exact ⟨by decide, fun path hpath => hfits path ((sortedFiles_perm report).mem_iff.1 hpath)⟩
  refine ⟨sortedFiles report, _, _, skips, notes, sortedFiles_perm report,
    pairwise_sortedFiles (Traversal.nodup_files htraversal), hfiles, hlines _ htexts, htable, ?_⟩
  rw [hrun, hprinted, Outcome.logging, String.append_empty]

end Traverse

end CommandLine

/-! ### Sources without characters -/

theorem PackJob.outcome_visit_of_empty {job : PackJob} (hlexer : job.lexer "" = []) {path : String}
    (hread : job.store.read path = .ok (some [])) (visited : List String) (pack : Packed) :
    (job.visit visited path pack).outcome = .ok (.ok (pack, [])) := by
  have hsource : job.source? path = .ok none ∨ job.source? path = .ok (some "") := by
    rw [source?, hread]
    dsimp only
    rw [Source.text?]
    split
    · exact .inr rfl
    · exact .inl rfl
  rw [outcome_visit_eq]
  rcases hsource with hsource | hsource
  · rw [hsource]
  · rw [hsource]
    dsimp only
    rw [hlexer]
    rfl

theorem PackJob.outcome_pack_of_empty {job : PackJob} (hlexer : job.lexer "" = []) {path : String}
    (hpath : Path.normalize path = path) (hread : job.store.read path = .ok (some [])) :
    (job.pack path).outcome = .ok (.packed (job.firstPack path [])) := by
  obtain ⟨course, hcourse, houtcome⟩ := job.exists_makes path
  rw [← hpath] at hread
  have hwalk := Makes.walks hread
    (.visit List.not_mem_nil (outcome_visit_of_empty hlexer hread _ _) .done)
  rw [← houtcome, hwalk.unique hcourse, hpath]

/-- A task whose first attempt makes a pack ends well. -/
theorem Task.outcome_settle_of_pack {packer : Packer} {t : Task} {pack : Packed}
    (h : (packer.pack t.entrypoint t.earlier t.deferred).outcome = .ok (.packed pack)) :
    (t.settle packer).outcome = .ok ⟨t.entrypoint, pack.files.keys, t.skips, pack.resolutions⟩ := by
  have hstep : (t.step packer).outcome = .ok (.done ⟨t.entrypoint, pack.files.keys, t.skips, pack.resolutions⟩) := by
    rw [step, outcome_attempt, h]
    rfl
  rw [settle]
  dsimp only
  split
  · rename_i hcause
    cases hcause.symm.trans hstep
  · rename_i hdone
    cases hdone.symm.trans hstep
    rfl
  · rename_i hagain
    cases hagain.symm.trans hstep

/-- A traversal from a source without characters reports this source. -/
theorem Traversal.outcome_run_of_empty {store : Store} {config : Config} {seed : List String} {path : String}
    (hpath : Path.normalize path = path) (hread : store.read path = .ok (some [])) :
    (run (Packer.standard store config) [path] seed).outcome = .ok ⟨[path], [], ∅⟩ := by
  let job := PackJob.standard store Source.entries config.builtins config.targets seed
  have hlexer : job.lexer "" = [] := by
    change Source.entries "" = []
    decide +kernel
  have hpack : (job.pack path).outcome = .ok (.packed (job.firstPack path [])) :=
    job.outcome_pack_of_empty hlexer hpath hread
  have houtcome : outcomeAt (Packer.standard store config) seed path = .ok ⟨path, [path], [], ∅⟩ :=
    @Task.outcome_settle_of_pack job.packer (Task.start path seed) _ hpack
  rw [outcome_run_singleton, hpath, houtcome]
  rfl

namespace CommandLine.Traverse

/-! ### A directory with one empty file -/

/-- An empty step leads nowhere else. -/
theorem locateFrom_empty {t : FileTree} {base : Location} (h : (t.node? base).any FileTree.isDirectory = true)
    (depth : Nat) (rest : List String) : t.locateFrom depth base ("" :: rest) = t.locateFrom depth base rest := by
  rw [FileTree.locateFrom.eq_def]
  dsimp only
  rw [h, if_neg (by decide), if_pos (.inl rfl)]

/-- The tree in which there is one file, and nothing in it. -/
def lone : Location → FileTree
  | [] => .file []
  | name :: rest => .directory [(name, lone rest)]

theorem node?_lone (above below : Location) : (lone (above ++ below)).node? above = some (lone below) := by
  induction above with
  | nil => cases below <;> rfl
  | cons name above ih => simpa [lone, FileTree.node?, FileTree.child?] using ih

theorem lone_ne_link (location : Location) (target : String) : lone location ≠ .link target := by
  cases location <;> exact fun h => FileTree.noConfusion h

section Lone

variable {tools : Toolkit} {names : Location} {path : String}

/-- No step on the way to the file is a link. -/
theorem follow?_lone (hnames : ∀ name ∈ names, FileTree.IsName name) (depth : Nat) :
    (lone names).follow? depth [] names = some names := by
  -- The induction is on the steps that are left, wherever the others have led.
  have hfrom : ∀ below above, names = above ++ below → (lone names).follow? depth above below = some names := by
    intro below
    induction below with
    | nil =>
      rintro above rfl
      rw [FileTree.follow?_nil, List.append_nil]
    | cons name below ih =>
      rintro above rfl
      have hname : FileTree.IsName name := hnames name (List.mem_append_right _ List.mem_cons_self)
      have hnode : (lone (above ++ name :: below)).node? (above ++ [name]) = some (lone below) := by
        simpa using node?_lone (above ++ [name]) below
      have hlink : ∀ target, (lone (above ++ name :: below)).node? (above ++ [name]) ≠ some (.link target) := by
        intro target h
        exact lone_ne_link below target (Option.some.inj (hnode.symm.trans h))
      rw [FileTree.follow?_down hname hlink]
      exact ih (above ++ [name]) (by simp)
  exact hfrom names [] rfl

theorem read_lone (hnames : ∀ name ∈ names, FileTree.IsName name)
    (hpath : Path.normalize path = path) (hsteps : FileTree.steps path = "" :: names)
    (hlength : path.length ≤ DirectoryStore.pathLimit) :
    (DirectoryStore.toStore ⟨"drive", lone names, []⟩).read path = .ok (some []) := by
  have hheld : DirectoryStore.held ⟨"drive", lone names, []⟩ path = .file [] := by
    have hfollow : (lone names).follow? (lone names).linkCount [] ("" :: names) = some names := by
      rw [FileTree.follow?_stay (.inl rfl), follow?_lone hnames]
    have hnode : (lone names).node? names = some (.file []) := by simpa [lone] using node?_lone names []
    rw [DirectoryStore.held, DirectoryStore.real?, hsteps]
    simp only [hfollow, hnode]
    simp
  have hread : (DirectoryStore.toStore ⟨"drive", lone names, []⟩).read path =
      (DirectoryStore.walkHeld ⟨"drive", lone names, []⟩ (Path.normalize path)).answer path := rfl
  rw [hread, hpath, DirectoryStore.walkHeld_of_length_le hlength, hheld, Held.answer]

/-- A traversal from the file reports the file. -/
theorem reports_lone (hne : names ≠ []) (hnames : ∀ name ∈ names, FileTree.IsName name)
    (hpath : Path.normalize path = path) (hsteps : FileTree.steps path = "" :: names)
    (hlength : path.length ≤ DirectoryStore.pathLimit) :
    Reports tools (lone names) [] ⟨[], ["/", path]⟩ ⟨[path], [], ∅⟩ := by
  obtain ⟨name, rest, rfl⟩ := List.exists_cons_of_ne_nil hne
  have hroot : FileTree.steps "/" = ["", ""] := by decide +kernel
  have horigin : FileTree.origin [] "/" = [] := by decide
  have htidy : Path.tidy "/" = "/" := by decide +kernel
  have hlookup : (lone (name :: rest)).lookup [] "/" = .ok (lone (name :: rest)) := by
    have hdirectory : ((lone (name :: rest)).node? []).any FileTree.isDirectory = true := rfl
    have hlocate : (lone (name :: rest)).locate [] "/" = .ok [] := by
      rw [FileTree.locate, if_neg (by decide), horigin, hroot, locateFrom_empty hdirectory, locateFrom_empty hdirectory,
        FileTree.locateFrom]
    rw [FileTree.lookup, hlocate]
    rfl
  have hrequest : request (lone (name :: rest)) [] ⟨[], ["/", path]⟩ = .ok ⟨"/", [path], [], [], none, .text⟩ := by
    have hcheck : checkPlace (lone (name :: rest)) [] "ROOT" "Directory" true "/" = .ok () := by
      rw [checkPlace, hlookup]
      rfl
    have hgiven : (⟨[], ["/", path]⟩ : Given).check (checkOption (lone (name :: rest)) []) = .ok () := rfl
    rw [request, hgiven]
    simp only [hcheck, bind, Except.bind]
    rfl
  have hopen : DirectoryStore.open? "drive" (lone (name :: rest)) [] (Path.tidy "/") =
      .ok ⟨"drive", lone (name :: rest), []⟩ := by
    have hresolve : (lone (name :: rest)).resolve? [] "/" = some [] := by
      rw [FileTree.resolve?, horigin, hroot, FileTree.follow?_stay (.inl rfl), FileTree.follow?_stay (.inl rfl),
        FileTree.follow?_nil]
    rw [htidy, DirectoryStore.open?, hresolve]
    rfl
  refine ⟨_, Config.standard, _, hrequest, rfl, rfl, hopen, ?_⟩
  exact Traversal.outcome_run_of_empty hpath (read_lone hnames hpath hsteps hlength)

end Lone

/-- For instance, the list of one file on the console of the program. -/
theorem run_listed_index :
    let console := Toolkit.standard.console
    let tree := lone ["index.js"]
    let given : Given := ⟨[], ["/", "/index.js"]⟩
    let report : Report := ⟨["/index.js"], [], ∅⟩
    console.ReadsMarkup Pictograph.IsName ∧ console.ListsTexts "Reachable Files" "Path" ∧
    Reports .standard tree [] given report ∧
    (∀ path ∈ report.files, Typewritten path.toList ∧ path.length + 4 ≤ pageWidth) ∧
    (∀ path ∈ report.files, Bare Pictograph.IsName path.toList) ∧
    (∀ skip ∈ report.skips, ClosesNothing skip.specifier.toList ∧ ClosesNothing skip.referrer.pathname.toList) ∧
    ∃ (paths : List String) (above below : List (List Char)) (skips : String) (notes : List Note),
      paths.Perm report.files ∧ paths.Pairwise (· < ·) ∧
      filesTable console report = .ok (fileList paths) ∧
      console.table (fileList paths) =
        above ++ (paths.map String.toList).map (Table.boxed '│' (Table.longest ("Path".toList ::
          paths.map String.toList))) ++ below ∧
      (if report.skips = [] then skips = "" else tableText console (skipsTable console report) = .ok skips) ∧
      run .standard tree [] true given =
        ⟨0, textOfLines (console.table (fileList paths)) ++ skips ++ summary report, log true notes, none⟩ := by
  intro console tree given report
  have hmarkup : console.ReadsMarkup Pictograph.IsName := Console.readsMarkup_terminal
  have hlines : console.ListsTexts "Reachable Files" "Path" := Console.listsTexts_terminal _ _
  have hreports : Reports .standard tree [] given report :=
    reports_lone (by decide) (by decide) (by decide +kernel) (by decide +kernel) (by decide)
  have hfits : ∀ path ∈ report.files, Typewritten path.toList ∧ path.length + 4 ≤ pageWidth := by decide
  have hbare : ∀ path ∈ report.files, Bare Pictograph.IsName path.toList := by
    intro path hpath
    rw [List.mem_singleton.1 hpath]
    exact Markup.bare_of_not_mem (by decide) (by decide)
  have hskips : ∀ skip ∈ report.skips, ClosesNothing skip.specifier.toList ∧
      ClosesNothing skip.referrer.pathname.toList := List.forall_mem_nil _
  exact ⟨hmarkup, hlines, hreports, hfits, hbare, hskips, run_listed hmarkup hlines hreports true hfits hbare hskips⟩

/-- On every console that reads markup, the tag in the name of a file is gone; and if the tag closes nothing, no report is
shown.  The console of the program is one of them. -/
theorem run_bracketed :
    (∀ (tools : Toolkit) (isPictograph : List Char → Prop), tools.console.ReadsMarkup isPictograph →
      (Reports tools (lone ["[id].js"]) [] ⟨[], ["/", "/[id].js"]⟩ ⟨["/[id].js"], [], ∅⟩ ∧
        Typewritten "/[id].js".toList ∧
        filesTable tools.console ⟨["/[id].js"], [], ∅⟩ = .ok (fileList ["/.js"]) ∧
        run tools (lone ["[id].js"]) [] false ⟨[], ["/", "/[id].js"]⟩ =
          ⟨0, textOfLines (tools.console.table (fileList ["/.js"])) ++ "1 files | 0 skipped\n", "", none⟩) ∧
      Reports tools (lone ["a[", "b].js"]) [] ⟨[], ["/", "/a[/b].js"]⟩ ⟨["/a[/b].js"], [], ∅⟩ ∧
        Typewritten "/a[/b].js".toList ∧
        ∃ cause, run tools (lone ["a[", "b].js"]) [] false ⟨[], ["/", "/a[/b].js"]⟩ =
          Outcome.crashed (.markup cause)) ∧
    Toolkit.standard.console.ReadsMarkup Pictograph.IsName := by
  refine ⟨fun tools isPictograph hmarkup => ⟨?_, ?_⟩, Console.readsMarkup_terminal⟩
  · have hreports : Reports tools (lone ["[id].js"]) [] ⟨[], ["/", "/[id].js"]⟩ ⟨["/[id].js"], [], ∅⟩ :=
      reports_lone (by decide) (by decide) (by decide +kernel) (by decide +kernel) (by decide)
    have hshown : tools.console.shown "/[id].js".toList = .ok "/.js".toList :=
      hmarkup.opening "/".toList "id".toList ".js".toList (by decide) (Markup.bare_of_not_mem (by decide) (by decide))
        (by decide) (by decide) (Markup.bare_of_not_mem (by decide) (by decide)) (by decide)
        ⟨'i', ['d'], rfl, rfl, by decide, by decide⟩ fun name h => absurd (List.cons.inj h).1 (by decide)
    have hfiles := @filesTable_eq tools.console ⟨["/[id].js"], [], ∅⟩ (fun _ => "/.js".toList)
      (List.forall_mem_singleton.2 hshown)
    replace hfiles : filesTable tools.console ⟨["/[id].js"], [], ∅⟩ = .ok (fileList ["/.js"]) := by
      rwa [sortedFiles, List.mergeSort_singleton] at hfiles
    obtain ⟨notes, hrun⟩ := exists_run_eq hreports false
    obtain ⟨skips, hnone, hprinted⟩ :=
      exists_printing_reportTexts hfiles (exists_tableText_skipsTable hmarkup (List.forall_mem_nil _))
    have hsummary : summary ⟨["/[id].js"], [], ∅⟩ = "1 files | 0 skipped\n" := by decide +kernel
    refine ⟨hreports, by decide, hfiles, ?_⟩
    rw [if_pos rfl] at hnone
    rw [hrun, hprinted, hnone, hsummary, String.append_empty]
    rfl
  · have hreports : Reports tools (lone ["a[", "b].js"]) [] ⟨[], ["/", "/a[/b].js"]⟩ ⟨["/a[/b].js"], [], ∅⟩ :=
      reports_lone (by decide) (by decide) (by decide +kernel) (by decide +kernel) (by decide)
    obtain ⟨fault, hfault⟩ : ∃ fault, tools.console.shown "/a[/b].js".toList = .error fault :=
      hmarkup.closing "/a".toList ['b'] ".js".toList (Markup.bare_of_not_mem (by decide) (by decide)) (by decide)
        (by decide) (by decide)
    obtain ⟨cause, notes, hrun⟩ := exists_run_eq_crashed hreports false List.mem_cons_self fun s hs => by
      rw [hfault] at hs
      cases hs
    refine ⟨hreports, by decide, cause, ?_⟩
    rw [hrun]
    rfl

end CommandLine.Traverse

end ModuleReach
