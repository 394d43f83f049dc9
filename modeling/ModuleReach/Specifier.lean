import ModuleReach.Text.Split

/-!
# Specifiers

A specifier is the name by which a module asks for a file.  It is a path, if it begins with `/`, `./` or `../` or is `.` or
`..`; or it begins with `#` and is looked up in a manifest; or else it names a package and something in it.

## Main definitions

* `Specifier.isPath`, `Specifier.isInternal` — the first two kinds.
* `Specifier.PackageRef` — a package's name with a path in the package; `Specifier.package?` reads one.
-/

namespace ModuleReach.Specifier

/-- Whether a specifier is a path. -/
def isPath (specifier : String) : Bool :=
  let s := specifier.toList
  ['/'].isPrefixOf s || ['.', '/'].isPrefixOf s || ['.', '.', '/'].isPrefixOf s ||
    s == ['.'] || s == ['.', '.']

/-- Whether a specifier is looked up in a manifest. -/
def isInternal (specifier : String) : Bool := specifier.toList.head? == some '#'

/-- A package's name with a path in the package. -/
structure PackageRef where
  /-- The name: one segment, or two if the first begins with `@`. -/
  name : String
  /-- Either `.`, for the package itself, or a path that begins with `./`. -/
  subpath : String
  deriving DecidableEq, Repr

/-- The path in a package that is given by the segments after the package's name. -/
def subpathOf (segments : List (List Char)) : List Char :=
  match segments.filter (· ≠ []) with
  | [] => ['.']
  | segments => '.' :: segments.flatMap ('/' :: ·)

/-- The package that a specifier names; none if the name would be empty, or would have an empty second
segment. -/
def package? (specifier : String) : Option PackageRef :=
  match Text.splitWhere (· == '/') specifier.toList with
  | ('@' :: scope) :: name :: rest =>
    if name = [] then none
    else some ⟨String.ofList ('@' :: scope ++ '/' :: name), String.ofList (subpathOf rest)⟩
  | [('@' :: _)] => none
  | name :: rest =>
    if name = [] then none else some ⟨String.ofList name, String.ofList (subpathOf rest)⟩
  | [] => none

end ModuleReach.Specifier
