import CallContracts.Directory.Tree
import CallContracts.Settings.OfToml

/-!
# Searching for settings

The settings file is searched in a directory and the directories above it, nearest first. A file
that cannot be read or is not well formed is passed over with a warning; if none of the searched
directories has a usable file, nothing is set.
-/

namespace CallContracts

namespace Settings

/-- The settings of a file, if it is usable, and what there is to tell about it. -/
def ofFile (path : String) : FileState → Option Settings × List Notice
  | .absent => (none, [])
  | .unreadable reason => (none, [.unreadableSettings path reason])
  | .content text =>
    match read text with
    | none => (none, [.malformedSettings])
    | some (settings, warnings) => (some settings, warnings ++ [.loadedSettings path])

/-- The settings of the first usable file, and what there is to tell about the search. -/
def firstOf (tree : FileTree) : (paths : List String) → Settings × List Notice
  | [] => (unset, [.noSettings])
  | path :: paths =>
    match ofFile path (tree path) with
    | (some settings, notices) => (settings, notices)
    | (none, notices) =>
      let (settings, others) := firstOf tree paths
      (settings, notices ++ others)

/-- The settings that are in force in the directory `start`. -/
def search (tree : FileTree) (start : String) : Settings × List Notice :=
  firstOf tree
    ((Directory.ancestors searchedDirectories start).map fun directory =>
      Directory.join directory fileName)

end Settings

end CallContracts
