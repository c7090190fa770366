import Lookalike.Files.Path
import Mathlib.Data.List.Basic

/-!
# Paths that go on

A path that goes on behind another one names what the second path names, and is ordered by it among
all paths that go on behind the same one.

## Main definitions

* `Path.IsName` — an entry of a directory can have the name.

## Main statements

* `Path.names_intercalate` — a path of names has these names.
* `Path.isPython_append` — whether a path names a Python source shows in its end.
-/

namespace Lookalike

section Split

variable {α : Type} [BEq α] {separator : α} {xs ys : List α}

@[simp] theorem splitOn_ne_nil : splitOn separator xs ≠ [] := by
  cases xs with
  | nil => simp [splitOn]
  | cons x xs =>
    rw [splitOn]
    split
    · simp
    · split <;> simp

variable [LawfulBEq α]

/-- The pieces of two texts around a separator are those of the first, then those of the second. -/
@[simp, grind =] theorem splitOn_append :
    splitOn separator (xs ++ separator :: ys) = splitOn separator xs ++ splitOn separator ys := by
  induction xs with
  | nil => simp [splitOn]
  | cons x xs ih =>
    rw [List.cons_append, splitOn, splitOn, ih]
    split
    · rfl
    · cases hxs : splitOn separator xs with
      | nil => exact absurd hxs splitOn_ne_nil
      | cons part parts => rfl

@[simp] theorem splitOn_of_notMem (h : separator ∉ xs) : splitOn separator xs = [xs] := by
  induction xs with
  | nil => rfl
  | cons x xs ih =>
    rw [List.mem_cons, not_or] at h
    simp [splitOn, ih h.2, Ne.symm h.1]

end Split

namespace Path

variable {name path : String} {names root : List String}

/-- An entry of a directory can have the name: it is not empty, does not stand for the directory
itself, and has no slash. -/
structure IsName (name : String) : Prop where
  ne_empty : name ≠ ""
  ne_dot : name ≠ "."
  notMem : '/' ∉ name.toList

instance (name : String) : Decidable (IsName name) :=
  decidable_of_iff (name ≠ "" ∧ name ≠ "." ∧ '/' ∉ name.toList)
    ⟨fun ⟨h, h', h''⟩ => ⟨h, h', h''⟩, fun ⟨h, h', h''⟩ => ⟨h, h', h''⟩⟩

@[simp, grind =] theorem names_append (x y : String) :
    Path.names (x ++ "/" ++ y) = Path.names x ++ Path.names y := by
  simp [Path.names, parts]

@[simp] theorem names_of_isName (h : IsName name) : Path.names name = [name] := by
  simp [Path.names, parts, h.notMem, h.ne_empty, h.ne_dot]

/-- Joining proper names with slashes and splitting again gives the names back. -/
@[simp] theorem names_intercalate (h : ∀ name ∈ names, IsName name) :
    Path.names ("/".intercalate names) = names := by
  induction names with
  | nil => rfl
  | cons name names ih =>
    rw [List.forall_mem_cons] at h
    cases names with
    | nil => simpa using names_of_isName h.1
    | cons name' names =>
      rw [String.intercalate_cons_cons, names_append, names_of_isName h.1, ih h.2,
        List.singleton_append]

/-- The absolute path of what lies below a root goes on behind the root. -/
theorem exists_ofNames_append (root : List String) (hnames : names ≠ []) :
    ∃ outer, ofNames (root ++ names) = outer ++ "/" ++ "/".intercalate names := by
  by_cases hroot : root = []
  · exact ⟨"", by simp [hroot, ofNames]⟩
  · refine ⟨ofNames root, ?_⟩
    rw [ofNames, String.intercalate_append_of_ne_nil hroot hnames, ofNames]
    simp only [String.append_assoc]

/-- The suffix of a path is that of its last part, so a root in front of it changes nothing. -/
theorem isPython_append (outer : String) (h : Path.names path ≠ []) :
    isPython (outer ++ "/" ++ path) = isPython path := by
  rw [isPython, isPython, names_append, List.getLast?_append_of_ne_nil _ h]

/-- A common root does not change the order of two paths. -/
@[simp] theorem comesFirst_append (root a b : List String) :
    comesFirst (root ++ a) (root ++ b) = comesFirst a b := by
  induction root with
  | nil => rfl
  | cons name root ih => simp [comesFirst, ih]

end Path

end Lookalike
