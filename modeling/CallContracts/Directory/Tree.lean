import CallContracts.Directory

/-!
# Directory trees

What stands under every path of a tree of directories and files. A path is followed segment by
segment from the top; `..` leads back to the directory around, and every segment but the last must
be a directory.
-/

namespace CallContracts

/-- What is found under the path of a file. -/
inductive FileState where
  | absent
  | unreadable (reason : String)
  | content (text : String)

abbrev FileTree : Type :=
  String → FileState

/-- What stands under paths, given by their segments: a directory or a file. -/
structure DirectoryTree where
  entries : List (List String × Option FileState)

namespace DirectoryTree

def empty : DirectoryTree :=
  ⟨[([], none)]⟩

def segments (path : String) : List String :=
  (path.splitOn "/").filter fun segment => segment ≠ "" && segment ≠ "."

/-- The tree with a file, or with a directory, and the directories around it. -/
def create (tree : DirectoryTree) (path : String) (entry : Option FileState) : DirectoryTree :=
  let names := segments path
  let around := (List.range names.length).map fun count => (names.take count, none)
  ⟨(names, entry) :: tree.entries ++ around⟩

/-- What is found behind the segments `here`. -/
def resolve (tree : DirectoryTree) (here : List String) : List String → FileState
  | [] =>
    match tree.entries.lookup here with
    | none => .absent
    | some none => .unreadable "Is a directory"
    | some (some state) => state
  | segment :: rest =>
    match tree.entries.lookup here with
    | none => .absent
    | some (some _) => .unreadable "Not a directory"
    | some none =>
      if segment = "" || segment = "." then tree.resolve here rest
      else if segment = ".." then tree.resolve here.dropLast rest
      else tree.resolve (here ++ [segment]) rest

/-- What is found under every path from the topmost directory on. -/
def files (tree : DirectoryTree) : FileTree := fun path =>
  tree.resolve [] (path.splitOn "/")

end DirectoryTree

end CallContracts
