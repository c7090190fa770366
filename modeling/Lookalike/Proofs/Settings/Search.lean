import Lookalike.Settings.Layers
import Mathlib.Data.List.Infix

/-!
# Where settings are looked for

The files of settings in a directory given by an absolute path are the only ones that are read. When
the directory is given by a relative path, a file that is missing there is looked for from the
directories around the working directory as well, and the nearest one is read. So files outside of
the directory make a difference, unless the directory has the file itself.

## Main definitions

* `Disk.around` — the disk from the working directory and from all directories around it.

## Main statements

* `Disk.settingsFile?_of_relative` — which file is read for a relative path.
* `ofDirectory_frame` — what settings depend on.
* `outerSettings_read` — a file outside of the directory that makes a difference.
-/

namespace Lookalike

variable {d d' : Disk} {directory path : String}

/-! ## The nearest file -/

/-- The disk from the working directory and from all directories around it, the nearest first. -/
def Disk.around (d : Disk) : List Disk := d.working.inits.reverse.map (Disk.mk d.tree)

/-- The nearest file is looked for in the directory, then in each one around it. -/
theorem Disk.nearestFile?_eq (tree : FileTree) (path : String) (names : List String) :
    nearestFile? tree path names =
      names.tails.findSome? fun outer => bytes? ⟨tree, outer.reverse⟩ path := by
  induction names with
  | nil => simp [nearestFile?]
  | cons name around ih =>
    rw [nearestFile?, ih, List.tails_cons, List.findSome?_cons]
    cases bytes? ⟨tree, (name :: around).reverse⟩ path <;> rfl

@[simp] theorem Disk.settingsFile?_of_absolute (h : Path.isAbsolute path) :
    d.settingsFile? path = d.bytes? path := if_pos h

/-- The nearest file counts. -/
theorem Disk.settingsFile?_of_relative (h : ¬ Path.isAbsolute path) :
    d.settingsFile? path = (d.around.map (·.bytes? path)).findSome? id := by
  rw [settingsFile?, if_neg h, nearestFile?_eq, List.tails_reverse, ← List.map_reverse,
    List.findSome?_map, around, List.map_map, List.findSome?_map]
  simp [Function.comp_def]

/-- The disk from the working directory itself comes first. -/
theorem Disk.exists_around_eq_cons (d : Disk) : ∃ outer, d.around = d :: outer := by
  obtain ⟨tree, working⟩ := d
  rw [around, List.inits_eq_tails, List.reverse_reverse]
  cases h : working.reverse with
  | nil => exact ⟨[], by simp [List.reverse_eq_nil_iff.1 h]⟩
  | cons name names =>
    refine ⟨(names.tails.map List.reverse).map (Disk.mk tree), ?_⟩
    rw [List.tails_cons, ← h]
    simp

/-- A file that is there is read, whatever stands around the working directory. -/
theorem Disk.settingsFile?_of_bytes? {bytes : List UInt8} (h : d.bytes? path = some bytes) :
    d.settingsFile? path = some bytes := by
  by_cases habs : Path.isAbsolute path
  · rw [settingsFile?_of_absolute habs, h]
  · obtain ⟨outer, houter⟩ := d.exists_around_eq_cons
    rw [settingsFile?_of_relative habs, houter, List.map_cons, h]
    rfl

/-! ## The files of a directory -/

@[simp] theorem Path.isAbsolute_join (h : isAbsolute path = false) :
    isAbsolute (join directory path) = isAbsolute directory := by
  rw [join, if_neg (by simp [h])]
  split_ifs with hend
  · cases hd : directory.toList <;> simp_all [isAbsolute]
  · cases hd : directory.toList <;> simp_all [isAbsolute]

@[grind →] theorem isAbsolute_of_mem_defaultFiles (h : path ∈ Settings.defaultFiles directory) :
    Path.isAbsolute path = Path.isAbsolute directory := by
  have hrelative : ∀ name ∈ ["codetwin.toml", ".codetwin/codetwin.toml"],
      Path.isAbsolute name = false := by decide
  obtain ⟨name, hname, rfl⟩ := List.mem_map.1 h
  exact Path.isAbsolute_join (hrelative name hname)

/-- Two disks have the same file of settings if they have the same file at the path, and one that is
missing is not to be found around the working directory of only one of them. -/
theorem settingsFile?_congr (h : d.bytes? path = d'.bytes? path)
    (haround : d.bytes? path = none →
      Path.isAbsolute path ∨ d.around.map (·.bytes? path) = d'.around.map (·.bytes? path)) :
    d.settingsFile? path = d'.settingsFile? path := by
  cases hfile : d.bytes? path with
  | some bytes =>
    rw [Disk.settingsFile?_of_bytes? hfile, Disk.settingsFile?_of_bytes? (h.symm.trans hfile)]
  | none =>
    by_cases habs : Path.isAbsolute path
    · rw [Disk.settingsFile?_of_absolute habs, Disk.settingsFile?_of_absolute habs, h]
    · rw [Disk.settingsFile?_of_relative habs, Disk.settingsFile?_of_relative habs,
        (haround hfile).resolve_left habs]

/-- What the settings of a directory depend on. For an absolute path these are its two files and
nothing else. For a relative one, a file that is missing is replaced by the nearest one from the
directories around the working directory. If there is none at all, the environment alone is laid
over the defaults. -/
theorem ofDirectory_frame (env : Environment) (directory : String) :
    (∀ d d' : Disk,
      (∀ path ∈ Settings.defaultFiles directory, d.bytes? path = d'.bytes? path ∧
        (d.bytes? path = none → Path.isAbsolute directory ∨
          d.around.map (·.bytes? path) = d'.around.map (·.bytes? path))) →
      Settings.ofDirectory d env directory = Settings.ofDirectory d' env directory) ∧
    (∀ d : Disk,
      (∀ path ∈ Settings.defaultFiles directory, d.bytes? path = none ∧
        (Path.isAbsolute directory ∨ ∀ e ∈ d.around, e.bytes? path = none)) →
      Settings.ofDirectory d env directory = Settings.ofLayers [] env) ∧
    ∀ d : Disk, ¬ Path.isAbsolute directory → Settings.ofDirectory d env directory =
      Settings.ofLayers ((Settings.defaultFiles directory).filterMap fun path =>
        (d.around.map (·.bytes? path)).findSome? id) env := by
  refine ⟨fun d d' h => ?_, fun d h => ?_, fun d habs => ?_⟩
  · rw [Settings.ofDirectory, Settings.ofDirectory]
    congr 1
    refine List.filterMap_congr fun path hpath => ?_
    obtain ⟨hfile, haround⟩ := h path hpath
    rw [← isAbsolute_of_mem_defaultFiles hpath] at haround
    exact settingsFile?_congr hfile haround
  · rw [Settings.ofDirectory]
    congr 1
    refine List.filterMap_eq_nil_iff.2 fun path hpath => ?_
    obtain ⟨hfile, haround⟩ := h path hpath
    by_cases habs : Path.isAbsolute path
    · rw [Disk.settingsFile?_of_absolute habs, hfile]
    · rw [← isAbsolute_of_mem_defaultFiles hpath] at haround
      rw [Disk.settingsFile?_of_relative habs]
      simpa using haround.resolve_left habs
  · rw [Settings.ofDirectory]
    congr 1
    refine List.filterMap_congr fun path hpath => ?_
    exact Disk.settingsFile?_of_relative (isAbsolute_of_mem_defaultFiles hpath ▸ habs)

/-! ## Files outside of a directory -/

def kgramSetting (digit : Char) : FileTree :=
  .file (Utf8.encode ("[fingerprint]\nk = " ++ String.singleton digit ++ "\n"))

def besideSource (outer entries : List (String × FileTree)) : FileTree :=
  .directory (outer ++ [("src", .directory entries)])

/-- With its own file, a directory does not depend on the one outside; the other one is nowhere. -/
theorem ofDirectory_frame_ownFile :
    let own := [("codetwin.toml", kgramSetting '9')]
    let d : Disk := ⟨besideSource [("codetwin.toml", kgramSetting '5')] own, ["src"]⟩
    let d' : Disk := ⟨besideSource [] own, ["src"]⟩
    let none : Disk := ⟨besideSource [] [], ["src"]⟩
    Settings.ofDirectory d [] "." = Settings.ofDirectory d' [] "." ∧
      (Settings.ofDirectory d [] ".").toOption.map (·.options.k) = some 9 ∧
      Settings.ofDirectory none [] "." = Settings.ofLayers [] [] := by
  intro own d d' none
  obtain ⟨hframe, hnone, hread⟩ := ofDirectory_frame [] "."
  have heq := hframe d d' (by decide +kernel)
  have hfiles : (Settings.defaultFiles ".").filterMap (fun path =>
      (d'.around.map (·.bytes? path)).findSome? id) = [Utf8.encode "[fingerprint]\nk = 9\n"] := by
    decide +kernel
  refine ⟨heq, ?_, hnone none (by decide +kernel)⟩
  rw [heq, hread d' (by decide), hfiles]
  decide +kernel

/-- The directory has no file of settings on either disk, and a file outside of it makes a
difference. -/
theorem outerSettings_read :
    ¬ ∀ (tree tree' : FileTree) (working : List String) (env : Environment) (directory : String),
      (∀ path ∈ Settings.defaultFiles directory,
        Disk.bytes? ⟨tree, working⟩ path = Disk.bytes? ⟨tree', working⟩ path) →
      Settings.ofDirectory ⟨tree, working⟩ env directory =
        Settings.ofDirectory ⟨tree', working⟩ env directory := by
  intro h
  have heq := h (besideSource [("codetwin.toml", kgramSetting '5')] []) (besideSource [] [])
    ["src"] [] "." (by decide +kernel)
  have hk := congrArg (fun r => r.toOption.map (·.options.k)) heq
  revert hk
  decide +kernel

end Lookalike
