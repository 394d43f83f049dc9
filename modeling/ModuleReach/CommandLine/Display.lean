import ModuleReach.CommandLine.Console
import ModuleReach.CommandLine.Outcome
import ModuleReach.Json.Writer
import ModuleReach.Resolution.Plan
import ModuleReach.Traversal.Report

/-!
# Displays

How reports, faults and plans are shown: as JSON for programs, and as tables and panels on a console for readers.  The texts
in the cells of a table are read as markup; those in a panel are not.

## Main definitions

* `Format` — the two ways.
* `Report.json`, `Fault.json`, `Plan.json` — the forms for programs.
* `filesTable`, `skipsTable`, `conditionsTable`, `faultText` — the forms for readers.
-/

namespace ModuleReach

/-! ### For programs -/

/-- A list of texts as JSON. -/
def Json.texts (items : List String) : Json := .array (items.map .string)

/-- A URL as JSON. -/
def Url.json (u : Url) : Json := .object [("href", .string u.href), ("pathname", .string u.pathname)]

/-- A skip as JSON. -/
def Skip.json (s : Skip) : Json :=
  .object [("specifier", .string s.specifier), ("referrer", s.referrer.json),
    ("candidates", .texts s.candidates)]

/-- A report as JSON. -/
def Report.json (r : Report) : Json :=
  .object [("files", .texts r.files), ("skips", .array (r.skips.map Skip.json)),
    ("resolutions", .object (r.resolutions.entries.map fun file =>
      (file.1, .object (file.2.entries.map fun entry => (entry.1, .string entry.2)))))]

/-- A fault as JSON, with what is known of a specifier that was not found. -/
def Fault.json (fault : Fault) : Json :=
  .object (("error", .string fault.message) ::
    match fault with
    | .unresolved specifier referrer candidates =>
      [("code", .string "MODULE_NOT_FOUND"), ("specifier", .string specifier),
       ("referrer", (referrer.map Url.json).getD .null), ("candidates", .texts candidates)]
    | _ => [])

/-- A plan as JSON. -/
def Plan.json (p : Plan) : Json :=
  .object [("kind", .string p.kind.label), ("conditions", .array (p.conditions.map .texts)),
    ("extensions", (p.extensions.map .texts).getD .null)]

namespace CommandLine

/-- The ways to show something. -/
inductive Format
  | text
  | json
  deriving DecidableEq, Repr

/-- The names of the ways. -/
def Format.names : List String := ["text", "json"]

/-- The way with a given name. -/
def Format.ofName : String → Format
  | "json" => .json
  | _ => .text

/-- A value on lines of its own. -/
def jsonText (v : Json) : String := v.write ++ "\n"

/-! ### For readers -/

open Layout (Table)

/-- Lines as a text. -/
def textOfLines (lines : List (List Char)) : String :=
  String.ofList (lines.flatMap fun line => line ++ ['\n'])

section Console

variable (console : Console)

/-- A table as a text. -/
def tableText (table : Except Markup.Fault Table) : Except Markup.Fault String :=
  table.map fun t => textOfLines (console.table t)

/-- What is shown of the texts of a row, which are read as markup. -/
def shownCells (row : List String) : Except Markup.Fault (List (List Char)) :=
  row.mapM fun text => console.shown text.toList

/-- The table with the given rows. -/
def tableOf (title : String) (columns : List Layout.Column) (rows : List (List String)) :
    Except Markup.Fault Table :=
  (rows.mapM (shownCells console)).map fun shown => ⟨title, columns, shown⟩

/-- The paths of a report in order of code points. -/
def sortedFiles (r : Report) : List String := r.files.mergeSort fun a b => decide (a ≤ b)

/-- The table of the files of a report. -/
def filesTable (r : Report) : Except Markup.Fault Table :=
  tableOf console "Reachable Files" [⟨"Path", .left⟩] ((sortedFiles r).map fun path => [path])

/-- The table of the skips of a report. -/
def skipsTable (r : Report) : Except Markup.Fault Table :=
  tableOf console "Skipped Specifiers" [⟨"Specifier", .left⟩, ⟨"Referrer", .left⟩, ⟨"Candidates", .right⟩]
    (r.skips.map fun s => [s.specifier, s.referrer.pathname, toString s.candidates.length])

/-- The line on the numbers of a report.  Its only markup is that of its colours, which are left out here. -/
def summary (r : Report) : String :=
  toString r.files.length ++ " files | " ++ toString r.skips.length ++ " skipped\n"

/-- The texts that show a report; there is no table of skips if nothing was skipped. -/
def reportTexts (r : Report) : List (Except Markup.Fault String) :=
  [tableText console (filesTable console r)] ++
    (if r.skips = [] then [] else [tableText console (skipsTable console r)]) ++
    [.ok (summary r)]

/-- The panel that shows a fault, with what is known of a specifier that was not found. -/
def faultText (fault : Fault) : String :=
  let more :=
    match fault with
    | .unresolved specifier referrer candidates =>
      ["Specifier: " ++ specifier, "Referrer:  " ++ (referrer.map (·.href)).getD "(entrypoint)"] ++
        candidates.map ("  tried " ++ ·)
    | _ => []
  textOfLines (console.panel "Traversal Failed".toList
    (String.intercalate "\n" (fault.message :: more)).toList)

/-- The table of the sets of conditions of a plan. -/
def conditionsTable (p : Plan) : Except Markup.Fault Table :=
  tableOf console ("Conditions (" ++ p.kind.label ++ ")") [⟨"#", .right⟩, ⟨"Condition Tuple", .left⟩]
    (p.conditions.mapIdx fun i conditions =>
      [toString (i + 1), String.intercalate ", " conditions])

/-- The texts that show a plan. -/
def planTexts (p : Plan) : List (Except Markup.Fault String) :=
  [tableText console (conditionsTable console p),
   .ok ("Extensions: " ++
    (match p.extensions with
      | some extensions => String.intercalate " " extensions
      | none => "(exact paths only)") ++ "\n")]

end Console

end CommandLine

end ModuleReach
