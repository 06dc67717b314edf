import DatabaseLogon.Error

namespace DatabaseLogon

/-!
# Loading the client library

* `SharedObject` — a file that should be a client library.
* `LoadedLibrary.load` — loading it and resolving every entry point.
* `libraryPath` — which file to load.
-/

/-- What a file holds. -/
inductive SharedObject where
  /-- There is no such file, or it is no library. -/
  | unloadable
  /-- A library that exports these functions, and perhaps others. -/
  | exporting (functions : List EntryPoint)
  deriving DecidableEq, Repr

/-- A client library of which all entry points are resolved. -/
structure LoadedLibrary where
  path : String
  deriving DecidableEq, Repr

namespace LoadedLibrary

/-- Load a file. The first entry point that it lacks is the one to complain about. -/
def load (path : String) : SharedObject → Except Error LoadedLibrary
  | .unloadable => .error (.libraryLoad path none)
  | .exporting functions =>
    match EntryPoint.all.find? (· ∉ functions) with
    | some missing => .error (.libraryLoad path (some missing))
    | none => .ok { path }

/-- The text of a loaded library as a value. -/
def describe (l : LoadedLibrary) : String :=
  Text.record "OciLibrary" [("path", Text.quoted l.path)]

end LoadedLibrary

/-- The name under which the system finds the client library. -/
def libraryName : String := "libclntsh.so"

/-- The file to load: the one that the environment names, or else the one that the system finds. -/
def libraryPath (named : Option String) : String :=
  named.getD libraryName

end DatabaseLogon
