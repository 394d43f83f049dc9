import ModuleReach.FileTree
import ModuleReach.Text.Quoted
import ModuleReach.Url
import ModuleReach.Yaml.Fault

/-!
# Faults

Everything that can end a computation of this library early, by cause.  The words for a cause are chosen in one place,
`Fault.message`.

A specifier that cannot be resolved is an ordinary answer and no fault; it becomes one only where the file that the whole
computation starts from is missing.

## Main definitions

* `ConfigFault` — what can be wrong with a configuration.
* `Fault` — every fault; `Fault.kind` sorts them and `Fault.message` puts them into words.
-/

namespace ModuleReach

open Text (quote)

/-- What can be wrong with a configuration or with the file that holds it. -/
inductive ConfigFault
  /-- A target is not an operating system and an architecture with a dash between them. -/
  | invalidTarget (target : String)
  /-- The file cannot be read. -/
  | unreadable (path : String) (cause : AccessFault)
  /-- The file is not a document of the format. -/
  | invalidDocument (path : String)
  /-- The document is not a mapping. -/
  | notMapping (path : String)
  /-- The mapping has keys that mean nothing. -/
  | unknownKeys (path : String) (keys : List String)
  /-- The value of a key is not a list of texts. -/
  | notStringList (path key : String)
  deriving DecidableEq, Repr

/-- The fault in words. -/
def ConfigFault.message : ConfigFault → String
  | .invalidTarget target => "Invalid target " ++ quote target ++ ": expected '<os>-<arch>'"
  | .unreadable path cause =>
    "Cannot read config " ++ path ++ ": " ++ cause.message ++ ": " ++ quote path
  | .invalidDocument path => "Invalid YAML in " ++ path
  | .notMapping path => path ++ ": top level must be a mapping"
  | .unknownKeys path keys => path ++ ": unknown keys " ++ String.intercalate ", " keys
  | .notStringList path key => path ++ ": '" ++ key ++ "' must be a list of strings"

/-- The sorts of fault that a caller may want to tell apart. -/
inductive FaultKind
  | general
  | unresolved
  | source
  | store
  | config
  | traversal
  | value
  | runtime
  | encoding
  | type
  | key
  | index
  | attribute
  deriving DecidableEq, Repr

/-- Whether a sort of fault belongs to the business of this library; the others show that something was handed to it which is not what
it should be. -/
def FaultKind.isExpected : FaultKind → Bool
  | .general | .unresolved | .source | .store | .config | .traversal => true
  | .value | .runtime | .encoding | .type | .key | .index | .attribute => false

/-- What can end a computation early. -/
inductive Fault
  /-- The file to start from does not exist. -/
  | unresolved (specifier : String) (referrer : Option Url) (candidates : List String)
  /-- A source file cannot be read as text. -/
  | source (path reason : String)
  /-- The directory that a store should expose is none. -/
  | noStoreRoot (root : String)
  /-- A path leads out of the directory that a store exposes. -/
  | escapesStore (path root : String)
  /-- The values in a manifest nest deeper than the reader can follow.  This is a fault of the machine that runs the reader, whose
  words on what it was reading are left out. -/
  | manifestTooDeep (path : String)
  /-- A configuration is not valid. -/
  | config (cause : ConfigFault)
  /-- A configuration file is not encoded as text. -/
  | configEncoding
  /-- A configuration has keys that are not texts. -/
  | configKeys
  /-- A value in a configuration file does not exist. -/
  | configScalar (cause : Yaml.ScalarFault)
  /-- A packer stopped at a specifier that it had been told to pass over. -/
  | repeatedStop (specifier href : String)
  /-- Addons that are part of the system were asked for. -/
  | linkedAddon
  /-- A fault of a resolver or packer that the caller supplied. -/
  | foreign (kind : FaultKind) (message : String)
  deriving DecidableEq, Repr

namespace Fault

/-- The sort of a fault. -/
def kind : Fault → FaultKind
  | unresolved .. => .unresolved
  | source .. => .source
  | noStoreRoot .. => .store
  | escapesStore .. => .store
  | manifestTooDeep .. => .runtime
  | config .. => .config
  | configEncoding => .encoding
  | configKeys => .type
  | configScalar (.notInteger ..) => .value
  | configScalar (.notFloat ..) => .value
  | configScalar (.noSuchDate ..) => .value
  | configScalar (.tooManyDigits ..) => .value
  | configScalar .noSuchCharacter => .value
  | configScalar .noDigits => .index
  | configScalar .notBoolean => .key
  | configScalar .notTimestamp => .attribute
  | repeatedStop .. => .traversal
  | linkedAddon => .value
  | foreign kind _ => kind

/-- The fault in words. -/
def message : Fault → String
  | unresolved specifier referrer _ =>
    "Cannot find module " ++ quote specifier ++ " imported from " ++
      (match referrer with
        | some url => url.href
        | none => "<entrypoint>")
  | source path reason => "Cannot parse " ++ path ++ ": " ++ reason
  | noStoreRoot root => "Store root is not a directory: " ++ root
  | escapesStore path root => "Path " ++ quote path ++ " escapes store root " ++ root
  | manifestTooDeep _ => "maximum recursion depth exceeded"
  | config cause => cause.message
  | configEncoding => "not valid UTF-8"
  | configKeys => "keys must be texts"
  | configScalar cause => cause.message
  | repeatedStop specifier href =>
    "Packer reported deferred specifier " ++ quote specifier ++ " from " ++ href ++
      " as unresolved"
  | linkedAddon => "Linked addon resolution is not supported"
  | foreign _ message => message

end Fault

end ModuleReach
