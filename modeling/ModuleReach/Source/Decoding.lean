import ModuleReach.Path
import ModuleReach.Run

/-!
# Sources as text

Files with one of three extensions are module sources, and so are files without an extension, unless they are not text.

## Main definitions

* `Source.isSource` — whether a file's path is that of a source.
* `Source.decode` — the text of a source, without a byte-order mark.
* `Source.text?` — the text to look for entries in, if a file is to be looked into.
-/

namespace ModuleReach.Source

/-- The extensions of module sources. -/
def extensions : List String := [".cjs", ".js", ".mjs"]

/-- Whether a file's path is that of a source. -/
def isSource (path : String) : Bool :=
  Path.extension path == "" || extensions.contains (Path.extension path)

/-- Why a file is no text. -/
def malformedReason (m : Utf8.Malformed) : String :=
  "not valid UTF-8 (" ++ m.reason.message ++ " at byte " ++ toString m.offset ++ ")"

/-- The text of the source at a path, without a byte-order mark. -/
def decode (path : String) (content : Bytes) : Except Fault String :=
  match Utf8.decode (Utf8.dropMark content) with
  | .ok text => .ok (String.ofList text)
  | .error m => .error (.source path (malformedReason m))

/-- The text to look for entries in: none for a file that is no source, and none, with a note, for a file without an
extension that is no text. -/
def text? (path : String) (content : Bytes) : Run (Option String) :=
  if isSource path then
    match decode path content with
    | .ok text => pure (some text)
    | .error fault =>
      if Path.extension path = "" then ⟨[.notText path], .ok none⟩ else Run.fail fault
  else pure none

end ModuleReach.Source
