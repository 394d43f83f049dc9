import ModuleReach.CommandLine.Traverse
import ModuleReach.Manifest.Basic
import ModuleReach.Proofs.Json.RoundTrip
import ModuleReach.Proofs.Text.WellFormed

/-!
# What the output for programs says

The output of a traversal for programs is a JSON object.  Whoever reads it as a manifest is read finds in it all
that was to be said, in order: the report, or what is known of the entrypoint that was not found.

## Main definitions

* `Json.listOf?`, `Json.mapOf?` — the list in an array and the map in an object.
* `Report.ofJson?`, `Fault.ofJson?` — the report, and the fault of a missing entrypoint, that an object tells
  of.

## Main results

* `Report.ofJson?_json`, `Fault.ofJson?_json` — nothing is lost in an object.
* `CommandLine.Traverse.Request.ofBytes_shown` — nothing is lost in the output.
-/

namespace ModuleReach

/-! ### Lists and maps -/

namespace Json

variable {α : Type}

/-- The list whose items an array holds, each of which is read. -/
def listOf? (read : Json → Option α) : Json → Option (List α)
  | array items => items.mapM read
  | _ => none

/-- The map whose entries an object holds, the value of each of which is read. -/
def mapOf? (read : Json → Option α) : Json → Option (InsertionMap String α)
  | object fields => (fields.mapM fun f => (read f.2).map fun a => (f.1, a)).map InsertionMap.ofList
  | _ => none

theorem mapM_map_eq_some {β : Type} {write : α → β} {read : β → Option α} (h : ∀ a, read (write a) = some a)
    (l : List α) : (l.map write).mapM read = some l := by
  induction l with
  | nil => rfl
  | cons a l ih =>
    rw [List.map_cons, List.mapM_cons, h, ih]
    rfl

variable {read : Json → Option α} {write : α → Json}

/-- A list is read back if its items are. -/
theorem listOf?_array (h : ∀ a, read (write a) = some a) (l : List α) :
    listOf? read (.array (l.map write)) = some l :=
  mapM_map_eq_some h l

/-- A map is read back if its values are. -/
theorem mapOf?_object (h : ∀ a, read (write a) = some a) (m : InsertionMap String α) :
    mapOf? read (.object (m.entries.map fun e => (e.1, write e.2))) = some m := by
  have hentry : ∀ e : String × α, (read (e.1, write e.2).2).map (fun a => ((e.1, write e.2).1, a)) = some e := by
    rintro ⟨name, a⟩
    rw [h, Option.map_some]
  rw [mapOf?, mapM_map_eq_some hentry, Option.map_some, InsertionMap.ofList_entries]

theorem plain_array (h : ∀ a, Plain (write a)) (l : List α) : Plain (.array (l.map write)) := by
  refine .array fun v hv => ?_
  obtain ⟨a, -, rfl⟩ := List.mem_map.1 hv
  exact h a

theorem plain_object (h : ∀ a, Plain (write a)) (m : InsertionMap String α) :
    Plain (.object (m.entries.map fun e => (e.1, write e.2))) := by
  refine .object ?_ fun f hf => ?_
  · rw [List.map_map]
    exact m.nodup
  · obtain ⟨e, -, rfl⟩ := List.mem_map.1 hf
    exact h e.2

theorem text?_string (text : String) : text? (.string text) = some text := rfl

theorem listOf?_texts (texts : List String) : listOf? text? (.texts texts) = some texts :=
  listOf?_array text?_string texts

theorem plain_texts (texts : List String) : Plain (.texts texts) := plain_array .string texts

end Json

open Json (Plain)

/-! ### Reports -/

/-- The URL that an object tells of. -/
def Url.ofJson? (v : Json) : Option Url := do
  let href ← (← v.field? "href").text?
  let pathname ← (← v.field? "pathname").text?
  some ⟨href, pathname⟩

/-- The skip that an object tells of. -/
def Skip.ofJson? (v : Json) : Option Skip := do
  let specifier ← (← v.field? "specifier").text?
  let referrer ← Url.ofJson? (← v.field? "referrer")
  let candidates ← (← v.field? "candidates").listOf? Json.text?
  some ⟨specifier, referrer, candidates⟩

/-- The report that an object tells of. -/
def Report.ofJson? (v : Json) : Option Report := do
  let files ← (← v.field? "files").listOf? Json.text?
  let skips ← (← v.field? "skips").listOf? Skip.ofJson?
  let resolutions ← (← v.field? "resolutions").mapOf? (Json.mapOf? Json.text?)
  some ⟨files, skips, resolutions⟩

theorem Url.ofJson?_json (u : Url) : Url.ofJson? u.json = some u := rfl

theorem Skip.ofJson?_json (s : Skip) : Skip.ofJson? s.json = some s := by
  have hspecifier : s.json.field? "specifier" = some (.string s.specifier) := rfl
  have hreferrer : s.json.field? "referrer" = some s.referrer.json := rfl
  have hcandidates : s.json.field? "candidates" = some (.texts s.candidates) := rfl
  simp [Skip.ofJson?, hspecifier, hreferrer, hcandidates, Json.text?_string, Url.ofJson?_json, Json.listOf?_texts]

/-- Nothing of a report is lost in its object. -/
theorem Report.ofJson?_json (r : Report) : Report.ofJson? r.json = some r := by
  let links (m : InsertionMap String String) : Json := .object (m.entries.map fun e => (e.1, .string e.2))
  have hlinks : ∀ m, Json.mapOf? Json.text? (links m) = some m := Json.mapOf?_object Json.text?_string
  have hfiles : r.json.field? "files" = some (.texts r.files) := rfl
  have hskips : r.json.field? "skips" = some (.array (r.skips.map Skip.json)) := rfl
  have hresolutions : r.json.field? "resolutions" =
      some (.object (r.resolutions.entries.map fun e => (e.1, links e.2))) := rfl
  simp [Report.ofJson?, hfiles, hskips, hresolutions, Json.listOf?_texts, Json.listOf?_array Skip.ofJson?_json,
    Json.mapOf?_object hlinks]

theorem Url.plain_json (u : Url) : Plain u.json := by
  have hnames : ["href", "pathname"].Nodup := by decide
  refine .object hnames fun e he => ?_
  simp only [List.mem_cons, List.not_mem_nil, or_false] at he
  rcases he with rfl | rfl
  · exact .string _
  · exact .string _

theorem Skip.plain_json (s : Skip) : Plain s.json := by
  have hnames : ["specifier", "referrer", "candidates"].Nodup := by decide
  refine .object hnames fun e he => ?_
  simp only [List.mem_cons, List.not_mem_nil, or_false] at he
  rcases he with rfl | rfl | rfl
  · exact .string _
  · exact s.referrer.plain_json
  · exact Json.plain_texts _

theorem Report.plain_json (r : Report) : Plain r.json := by
  have hnames : ["files", "skips", "resolutions"].Nodup := by decide
  refine .object hnames fun e he => ?_
  simp only [List.mem_cons, List.not_mem_nil, or_false] at he
  rcases he with rfl | rfl | rfl
  · exact Json.plain_texts _
  · exact Json.plain_array Skip.plain_json _
  · exact Json.plain_object (fun m => Json.plain_object .string m) _

/-! ### Entrypoints that were not found -/

/-- The fault of a specifier that was not found, if an object tells of one. -/
def Fault.ofJson? (v : Json) : Option Fault := do
  guard ((← (← v.field? "code").text?) = "MODULE_NOT_FOUND")
  let specifier ← (← v.field? "specifier").text?
  let referrer ←
    match ← v.field? "referrer" with
    | .null => some none
    | referrer => (Url.ofJson? referrer).map some
  let candidates ← (← v.field? "candidates").listOf? Json.text?
  some (.unresolved specifier referrer candidates)

section Unresolved

variable (specifier : String) (referrer : Option Url) (candidates : List String)

/-- Nothing is lost in the object of a specifier that was not found. -/
theorem Fault.ofJson?_json : Fault.ofJson? (Fault.unresolved specifier referrer candidates).json =
    some (.unresolved specifier referrer candidates) := by
  cases referrer with
  | none =>
    change (Json.listOf? Json.text? (.texts candidates)).bind
      (fun candidates => some (Fault.unresolved specifier none candidates)) = _
    rw [Json.listOf?_texts]
    rfl
  | some u =>
    change ((Url.ofJson? u.json).map some).bind (fun referrer =>
      (Json.listOf? Json.text? (.texts candidates)).bind
        fun candidates => some (Fault.unresolved specifier referrer candidates)) = _
    rw [u.ofJson?_json, Json.listOf?_texts]
    rfl

theorem Fault.plain_json : Plain (Fault.unresolved specifier referrer candidates).json := by
  have hnames : ["error", "code", "specifier", "referrer", "candidates"].Nodup := by decide
  refine .object hnames fun e he => ?_
  simp only [List.mem_cons, List.not_mem_nil, or_false] at he
  rcases he with rfl | rfl | rfl | rfl | rfl
  · exact .string _
  · exact .string _
  · exact .string _
  · cases referrer with
    | none => exact .null
    | some u => exact u.plain_json
  · exact Json.plain_texts _

end Unresolved

namespace CommandLine.Traverse.Request

/-- A value that is an object is read as a manifest from what is printed of it. -/
theorem ofBytes_jsonText {fields : List (String × Json)} (h : Plain (.object fields)) (path : String) :
    Manifest.ofBytes path (Utf8.encode (jsonText (.object fields)).toList) = pure (some fields) := by
  rw [Manifest.ofBytes, jsonText, Utf8.decode_encode]
  dsimp only
  rw [Json.read?_write h]

/-- **The output for programs says it all.**  Whatever the console, what is printed of a report, read as a manifest is read,
is an object that tells of this report; and what is printed of a specifier that was not found is one that tells of the
specifier, of the file it stands in and of the places looked at. -/
theorem ofBytes_shown (console : Console) (path : String) :
    (∀ report : Report, ∃ fields,
      Manifest.ofBytes path (Utf8.encode (showReport console .json report).output.toList) = pure (some fields) ∧
      Report.ofJson? (.object fields) = some report) ∧
    ∀ (specifier : String) (referrer : Option Url) (candidates : List String), ∃ fields,
      Manifest.ofBytes path
        (Utf8.encode (showFault console .json (.unresolved specifier referrer candidates)).output.toList) =
          pure (some fields) ∧
      Fault.ofJson? (.object fields) = some (.unresolved specifier referrer candidates) := by
  constructor
  · intro report
    exact ⟨_, ofBytes_jsonText report.plain_json path, report.ofJson?_json⟩
  · intro specifier referrer candidates
    exact ⟨_, ofBytes_jsonText (Fault.plain_json specifier referrer candidates) path,
      Fault.ofJson?_json specifier referrer candidates⟩

end CommandLine.Traverse.Request

end ModuleReach
