/-!
Paths as text: names with slashes between them.

An empty name counts for nothing, and neither does a dot that stands for where one already is,
unless a relative path begins with it. A tilde at the beginning stands for the home directory.
-/

namespace ControlComponent.CommandLine.Path

/-- Whether a path begins at the root. -/
def isAbsolute (path : String) : Bool := path.toList.head? = some '/'

/-- Whether a path can only be a directory's. -/
def endsInSlash (path : String) : Bool := path.toList.getLast? = some '/'

/-- The names in a path. -/
def names (path : String) : List String :=
  let pieces := path.toList.foldr
    (fun c pieces => if c = '/' then [] :: pieces else pieces.modifyHead (c :: ·)) [[]]
  (pieces.filter (· ≠ [])).map String.ofList

@[simp] theorem names_empty : names "" = [] := by simp [names]

/-- The names in a path that count. -/
def parts (path : String) : List String :=
  match names path with
  | [] => []
  | first :: rest =>
    let rest := rest.filter (· ≠ ".")
    if first = "." ∧ isAbsolute path then rest else first :: rest

/-- The last name, unless it leads elsewhere. -/
def fileName? (path : String) : Option String :=
  (parts path).getLast?.filter fun name => name ≠ "." ∧ name ≠ ".."

/-- The directory that the last name stands in. -/
def directory? (path : String) : Option String :=
  let parts := parts path
  if parts.isEmpty then none
  else some ((if isAbsolute path then "/" else "") ++ "/".intercalate parts.dropLast)

/-- A path with the home directory in place of a tilde. -/
def expand (home : Option String) (path : String) : String :=
  match home, path.toList with
  | some home, ['~'] => home
  | some home, '~' :: '/' :: rest => home ++ String.ofList ('/' :: rest)
  | _, _ => path

end ControlComponent.CommandLine.Path
