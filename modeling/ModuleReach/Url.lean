/-!
# File URLs

A file inside a store is named by a URL: the store's scheme, `://`, and the path.

## Main definitions

* `Url` — a URL together with its path.
* `Url.ofPath` — the URL of a path under a scheme.
-/

namespace ModuleReach

/-- A URL of a file inside a store. -/
structure Url where
  /-- The whole URL. -/
  href : String
  /-- The path of the file. -/
  pathname : String
  deriving DecidableEq, Repr

/-- The URL of a path under a scheme. -/
def Url.ofPath (scheme pathname : String) : Url := ⟨scheme ++ "://" ++ pathname, pathname⟩

@[simp] theorem Url.pathname_ofPath (scheme pathname : String) :
    (Url.ofPath scheme pathname).pathname = pathname := rfl

end ModuleReach
