/-!
# Paths

A path is a text of parts between slashes. Parts that are empty, and points, do not count, but for a
point at the start of a relative path. `parent?` is the path without its last part, and `join` puts
a relative path after another one.
-/

namespace TodoLedger.Path

/-- True of the parts that do not count. -/
def isIdle (part : String) : Bool := part = "" || part = "."

/-- True of the paths that start at the root. -/
def isAbsolute (path : String) : Bool := path.toList.head? = some '/'

/-- The parts without those at the end that do not count. -/
def trimIdle (parts : List String) : List String := (parts.reverse.dropWhile isIdle).reverse

/-- The parts without the last one that counts, if there is one. -/
def dropLast? (parts : List String) : Option (List String) :=
  let parts := trimIdle parts
  if parts.isEmpty then none else some (trimIdle parts.dropLast)

/-- The path without its last part; none for the root and for the empty path. -/
def parent? (path : String) : Option String :=
  match path.splitOn "/" with
  | "" :: rest =>
    if isAbsolute path then (dropLast? rest).map fun parts => "/" ++ "/".intercalate parts else none
  | "." :: rest =>
    match dropLast? rest with
    | some parts => some ("/".intercalate ("." :: parts))
    | none => some ""
  | parts => (dropLast? parts).map fun parts => "/".intercalate parts

/-- The path that a relative one stands for in a directory. -/
def join (directory path : String) : String :=
  if isAbsolute path then path
  else if directory = "" || directory.toList.getLast? = some '/' then directory ++ path
  else directory ++ "/" ++ path

end TodoLedger.Path
