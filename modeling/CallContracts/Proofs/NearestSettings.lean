import CallContracts.Settings.Search

/-!
# Which file decides the settings

A directory and the directories above it are searched for a settings file, nearest first. It would
be expected that the nearest file there is decides, and that nothing is set if it cannot be used.
The search goes on behind an unusable file instead: the nearest usable file decides. The two differ
exactly where the nearest file is unusable and a file farther up has something to say.
-/

namespace CallContracts

/-! ## The directories that are searched -/

namespace Directory

/-- The directory that many levels above a path, if there are so many. -/
def above? (path : String) : (levels : Nat) → Option String
  | 0 => some path
  | levels + 1 => (parent? path).bind fun parent => above? parent levels

/-- The ancestors of a path are the path itself, its parent and so on, up to the bound or to the end
of the chain. -/
theorem getElem?_ancestors (count : Nat) (path : String) (levels : Nat) :
    (ancestors count path)[levels]? = if levels < count then above? path levels else none := by
  induction count generalizing path levels with
  | zero => simp [ancestors]
  | succ count ih =>
      cases levels with
      | zero => simp [ancestors, above?]
      | succ levels =>
          cases parent : parent? path with
          | none => simp [ancestors, above?, parent]
          | some parent => simp [ancestors, above?, parent, ih]

theorem parent?_root : parent? "/" = none := by
  have split : "".splitOn "/" = [""] := by
    rw [String.splitOn, if_neg (by decide), String.splitOnAux, if_pos (by decide)]
    decide +kernel
  have path : anchored "/".toList = ("/", []) := by decide
  have rest : String.ofList [] = "" := by decide
  simp only [parent?, path, rest, split]
  decide

theorem parent?_below_root : parent? "/a" = some "/" := by
  have split : "a".splitOn "/" = ["a"] := by
    rw [String.splitOn, if_neg (by decide), String.splitOnAux, if_neg (by decide),
      if_neg (by decide), String.splitOnAux, if_pos (by decide)]
    decide +kernel
  have path : anchored "/a".toList = ("/", ['a']) := by decide
  have rest : String.ofList ['a'] = "a" := by decide
  simp only [parent?, path, rest, split]
  decide

end Directory

def FileState.isAbsent : FileState → Bool
  | .absent => true
  | _ => false

namespace Settings

/-! ## The search comes to the nearest usable file -/

/-- The settings of a file, if it can be read and is well formed. -/
def ofState? : FileState → Option Settings
  | .content text => (read text).map Prod.fst
  | _ => none

/-- What is found in the searched directories, nearest first. -/
def searchedStates (tree : FileTree) (start : String) : List FileState :=
  (Directory.ancestors searchedDirectories start).map fun directory =>
    tree (Directory.join directory fileName)

theorem ofFile_fst (path : String) (state : FileState) :
    (ofFile path state).1 = ofState? state := by
  cases state with
  | content text => cases reads : read text <;> simp [ofFile, ofState?, reads]
  | _ => rfl

theorem firstOf_fst (tree : FileTree) (paths : List String) :
    (firstOf tree paths).1 = ((paths.map tree).findSome? ofState?).getD unset := by
  induction paths with
  | nil => rfl
  | cons path paths ih =>
      have usable := ofFile_fst path (tree path)
      rw [firstOf, List.map_cons, List.findSome?_cons, ← usable]
      rcases ofFile path (tree path) with ⟨_ | settings, notices⟩
      · exact ih
      · rfl

theorem search_fst (tree : FileTree) (start : String) :
    (search tree start).1 = ((searchedStates tree start).findSome? ofState?).getD unset := by
  rw [search, firstOf_fst, List.map_map]
  rfl

/-! ## Where the nearest file decides -/

/-- The settings if the nearest file there is decides alone, and nothing is set if it cannot be
used. -/
def ofNearest (states : List FileState) : Settings :=
  ((states.find? fun state => !state.isAbsent).bind ofState?).getD unset

/-- The nearest file there is decides unless it is unusable and a file behind it is in force. -/
theorem findSome?_eq_ofNearest_iff (states : List FileState) :
    (states.findSome? ofState?).getD unset = ofNearest states ↔
      ∀ nearest farther, states.dropWhile FileState.isAbsent = nearest :: farther →
        ofState? nearest = none → (farther.findSome? ofState?).getD unset = unset := by
  induction states with
  | nil => simp [ofNearest]
  | cons state states ih =>
      cases absent : state.isAbsent with
      | true =>
          have unusable : ofState? state = none := by
            cases state <;> simp_all [ofState?, FileState.isAbsent]
          simp only [ofNearest] at ih
          simp [ofNearest, absent, unusable, ih]
      | false =>
          cases usable : ofState? state with
          | none => simp_all [ofNearest]
          | some settings => simp_all [ofNearest]

/-- The settings in force are those of the nearest usable file in the first ten directories of the
chain upwards, and nothing is set if there is none. The nearest file there is decides alone, with
nothing set if it is unusable, exactly if no file farther up says anything in the place of an
unusable nearest one. -/
theorem search_decided_by_nearest_usable (tree : FileTree) (start : String) :
    (∀ levels, (Directory.ancestors searchedDirectories start)[levels]? =
      if levels < 10 then Directory.above? start levels else none) ∧
    (search tree start).1 = ((searchedStates tree start).findSome? ofState?).getD unset ∧
    ((search tree start).1 = ofNearest (searchedStates tree start) ↔
      ∀ nearest farther,
        (searchedStates tree start).dropWhile FileState.isAbsent = nearest :: farther →
        ofState? nearest = none → (farther.findSome? ofState?).getD unset = unset) := by
  refine ⟨Directory.getElem?_ancestors 10 start, search_fst tree start, ?_⟩
  rw [search_fst]
  exact findSome?_eq_ofNearest_iff (searchedStates tree start)

/-- A malformed file in `/a` is passed over, and the file above it is in force. -/
theorem search_passes_over_malformed_file :
    let tree : FileTree := fun path =>
      if path = "/a/.quackquack.toml" then .content "not = [valid"
      else if path = "/.quackquack.toml" then .content "[output]\nformat = \"json\"\n"
      else .absent
    ofNearest (searchedStates tree "/a") = unset ∧
      (search tree "/a").1 = ⟨some ⟨some .json, none⟩, none, none⟩ ∧
      (search tree "/a").1 ≠ ofNearest (searchedStates tree "/a") := by
  intro tree
  have malformed : ofState? (.content "not = [valid") = none := by decide +kernel
  have wellFormed : ofState? (.content "[output]\nformat = \"json\"\n") =
      some ⟨some ⟨some .json, none⟩, none, none⟩ := by decide +kernel
  have directories : Directory.ancestors searchedDirectories "/a" = ["/a", "/"] := by
    rw [searchedDirectories]
    simp only [Directory.ancestors, Directory.parent?_below_root, Directory.parent?_root]
  have near : Directory.join "/a" fileName = "/a/.quackquack.toml" := by decide +kernel
  have far : Directory.join "/" fileName = "/.quackquack.toml" := by decide +kernel
  have states : searchedStates tree "/a" =
      [.content "not = [valid", .content "[output]\nformat = \"json\"\n"] := by
    simp [searchedStates, directories, near, far, tree]
  rw [search_fst, states]
  simp [ofNearest, malformed, wellFormed, unset, FileState.isAbsent]

end Settings

end CallContracts
