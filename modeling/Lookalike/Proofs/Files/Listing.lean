import Lookalike.Files.FileSet
import Mathlib.Data.List.Basic

/-!
# Files of a scan

Where no ignore file has a rule, and excludes of the user do not count, a scan finds all files of a
tree but those that are hidden or lie in a hidden directory.

## Main definitions

* `FileTree.parts` — all files and directories of a tree with their names.
* `FileTree.pythonSources` — the Python sources that are not hidden.
* `Scope.Silent` — no ignore file of a directory has a rule.
* `Scope.Quiet` — nor do excludes count there.

## Main statements

* `filesOf_of_quiet` — what a scan finds.
-/

namespace Lookalike

/-! ## Parts of trees -/

mutual

/-- A tree and all that lies below it, with names from the tree on. -/
def FileTree.parts : FileTree → List (List String × FileTree)
  | .file bytes => [([], .file bytes)]
  | .directory entries => ([], .directory entries) :: partsOfEntries entries

def partsOfEntries : List (String × FileTree) → List (List String × FileTree)
  | [] => []
  | (name, t) :: entries =>
    t.parts.map (fun p => (name :: p.1, p.2)) ++ partsOfEntries entries

end

/-- Whether a part is a file that is neither hidden nor in a hidden directory. -/
def isVisibleFile (p : List String × FileTree) : Bool :=
  !p.2.isDirectory && p.1.all (!isHidden ·)

/-- A file one directory further down is visible when that directory is not hidden and the file
was visible. -/
@[simp, grind =] theorem isVisibleFile_cons (name : String) (p : List String × FileTree) :
    isVisibleFile (name :: p.1, p.2) = (!isHidden name && isVisibleFile p) := by
  simp [isVisibleFile, Bool.and_left_comm]

/-- The names of the files of a tree that are neither hidden nor in a hidden directory. -/
def FileTree.visibleFiles (t : FileTree) : List (List String) :=
  (t.parts.filter isVisibleFile).map Prod.fst

/-- The names of those that are Python sources. -/
def FileTree.pythonSources (t : FileTree) : List (List String) :=
  t.visibleFiles.filter fun names => Path.isPython ("/".intercalate names)

/-! ## Scans -/

/-- No ignore file of the directory has a rule. -/
structure Scope.Silent (s : Scope) : Prop where
  ignore : s.ignore = []
  gitIgnore : s.gitIgnore = []
  gitExclude : s.gitExclude = []

instance (s : Scope) : Decidable s.Silent :=
  decidable_of_iff (s.ignore = [] ∧ s.gitIgnore = [] ∧ s.gitExclude = [])
    ⟨fun ⟨h, h', h''⟩ => ⟨h, h', h''⟩, fun ⟨h, h', h''⟩ => ⟨h, h', h''⟩⟩

/-- Nor do excludes count because of the directory: there are none, or no repository begins
there. -/
structure Scope.Quiet (x : Excludes) (s : Scope) : Prop extends s.Silent where
  excludes : x.rules = [] ∨ s.hasGit = false

variable {x : Excludes} {scopes : List Scope} {directory names : List String} {name : String}
  {isDirectory : Bool}

/-- What ignore files say is the same wherever the directory lies. -/
theorem Scope.quiet_of_congr {names' : List String} {t : FileTree}
    (h : (Scope.of names t).Quiet x) : (Scope.of names' t).Quiet x := ⟨⟨h.1.1, h.1.2, h.1.3⟩, h.2⟩

/-- Scopes without rules decide nothing. -/
theorem Scope.nearest?_eq_none {rules : Scope → List IgnoreRule} (h : ∀ s ∈ scopes, rules s = []) :
    nearest? rules names isDirectory scopes = none := by
  rw [nearest?, List.findSome?_eq_none_iff]
  intro s hs
  rw [h s hs]
  rfl

@[grind →]
theorem Scope.mem_of_mem_repository {s : Scope} (h : s ∈ repository scopes) : s ∈ scopes := by
  rw [repository] at h
  split at h
  · rcases List.mem_append.1 h with h | h
    · exact (List.takeWhile_sublist _).subset h
    · exact List.mem_of_find?_eq_some (Option.mem_toList.1 h)
  · simp at h

/-- The user's own exclusions decide nothing outside a repository, nor when there are none. -/
theorem Scope.excluded?_eq_none (h : ∀ s ∈ scopes, x.rules = [] ∨ s.hasGit = false) :
    excluded? x names isDirectory scopes = none := by
  rw [excluded?, ite_eq_right_iff, List.any_eq_true]
  rintro ⟨s, hs, hgit⟩
  rcases h s hs with hrules | hgit'
  · rw [Excludes.verdict?, hrules]
    rfl
  · rw [hgit'] at hgit
    contradiction

/-- Where no scope has anything to say about a name, there is no verdict on it. -/
theorem Scope.verdict?_eq_none (h : ∀ s ∈ scopes, s.Quiet x) :
    verdict? x scopes names isDirectory = none := by
  have hrepository {s : Scope} (hs : s ∈ repository scopes) : s.Quiet x :=
    h s (mem_of_mem_repository hs)
  rw [verdict?, nearest?_eq_none fun s hs => (h s hs).ignore,
    nearest?_eq_none fun s hs => (hrepository hs).gitIgnore,
    nearest?_eq_none fun s hs => (hrepository hs).gitExclude,
    excluded?_eq_none fun s hs => (h s hs).excludes]
  rfl

/-- Without ignore rules the walk passes over the hidden names and no others. -/
theorem isPassedOver_eq_isHidden (h : ∀ s ∈ scopes, s.Quiet x) :
    isPassedOver x scopes directory name isDirectory = isHidden name := by
  rw [isPassedOver, Scope.verdict?_eq_none h]

mutual

/-- A scan of a tree where nothing counts, with nothing around it that does, finds all files that
are not hidden. -/
theorem filesOf_of_quiet {scopes : List Scope} (hscopes : ∀ s ∈ scopes, s.Quiet x)
    (names : List String) (t : FileTree) (ht : ∀ p ∈ t.parts, (Scope.of p.1 p.2).Quiet x) :
    filesOf x scopes names t = (t.parts.filter isVisibleFile).map (names ++ ·.1) := by
  cases t with
  | file bytes => simp [filesOf, FileTree.parts, isVisibleFile, FileTree.isDirectory]
  | directory entries =>
    rw [FileTree.parts, List.forall_mem_cons] at ht
    rw [filesOf, filesOfEntries_of_quiet _ _ _ ht.2]
    · simp [FileTree.parts, isVisibleFile, FileTree.isDirectory]
    · exact List.forall_mem_cons.2 ⟨Scope.quiet_of_congr ht.1, hscopes⟩

theorem filesOfEntries_of_quiet {scopes : List Scope} (hscopes : ∀ s ∈ scopes, s.Quiet x)
    (names : List String) (entries : List (String × FileTree))
    (ht : ∀ p ∈ partsOfEntries entries, (Scope.of p.1 p.2).Quiet x) :
    filesOfEntries x scopes names entries =
      ((partsOfEntries entries).filter isVisibleFile).map (names ++ ·.1) := by
  cases entries with
  | nil => rfl
  | cons e entries =>
    obtain ⟨name, t⟩ := e
    rw [partsOfEntries, List.forall_mem_append] at ht
    rw [filesOfEntries, filesOfEntries_of_quiet hscopes _ _ ht.2, isPassedOver_eq_isHidden hscopes,
      partsOfEntries, List.filter_append, List.map_append, List.filter_map, List.map_map]
    congr 1
    cases hname : isHidden name
    · have hquiet : ∀ p ∈ t.parts, (Scope.of p.1 p.2).Quiet x := fun p hp =>
        Scope.quiet_of_congr (List.forall_mem_map.1 ht.1 p hp)
      rw [if_neg Bool.false_ne_true, filesOf_of_quiet hscopes _ t hquiet]
      simp [Function.comp_def, hname]
    · simp [Function.comp_def, hname]

end

end Lookalike
