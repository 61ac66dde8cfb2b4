/-!
# Directories

A path is an anchor, which is `/`, a leading `.` or nothing, and segments with slashes between them.
Empty segments and segments `.` at the end name no directory of their own. The parent of a path is
the path without its last segment; nothing is looked up, so the parent of `..` is the empty path.
-/

namespace CallContracts.Directory

/-- The anchor of a path and the characters behind it. -/
def anchored (path : List Char) : String × List Char :=
  match path with
  | '/' :: rest => ("/", rest)
  | ['.'] => (".", [])
  | '.' :: '/' :: rest => (".", '/' :: rest)
  | path => ("", path)

/-- Segments without those at the end that name no directory. -/
def trimmed (segments : List String) : List String :=
  (segments.reverse.dropWhile fun segment => segment = "" || segment = ".").reverse

/-- The path without its last segment, unless there is none. -/
def parent? (path : String) : Option String :=
  let (anchor, rest) := anchored path.toList
  match trimmed ((String.ofList rest).splitOn "/") with
  | [] => if anchor = "." then some "" else none
  | segments => some (anchor ++ "/".intercalate (trimmed segments.dropLast))

/-- A path, its parent, the parent of that and so on: the first `count` of them. -/
def ancestors : (count : Nat) → (path : String) → List String
  | 0, _ => []
  | count + 1, path =>
    path :: match parent? path with
      | some parent => ancestors count parent
      | none => []

def join (directory name : String) : String :=
  if directory.isEmpty || directory.endsWith "/" then directory ++ name
  else directory ++ "/" ++ name

end CallContracts.Directory
