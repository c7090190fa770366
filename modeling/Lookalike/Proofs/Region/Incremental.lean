import Lookalike.Proofs.Region.Components

/-!
# Merging while regions come in

Regions can be merged before all of them are known: a list of regions grows, and in between passes
are made over it. What has been merged so far is a union of groups of the regions that have come
in, so merging the rest leads to the same components as merging all regions at once.

## Main definitions

* `MergeStep` — what is done to a list of regions that grows.
* `MergeStep.run`, `MergeStep.pushed` — the list after some steps, and all that has come in.

## Main statements

* `mergeAll_mergePass_append`, `mergeAll_mergeAll_append` — merging a part first.
* `mergeAll_incremental` — it makes no difference when passes are made.
-/

namespace Lookalike

open Region

/-- What is done to a list of regions that grows. -/
inductive MergeStep where
  | push (r : Region)
  | pass
  | settle
  deriving DecidableEq, Repr

namespace MergeStep

def apply (rs : List Region) : MergeStep → List Region
  | push r => rs ++ [r]
  | pass => mergePass rs
  | settle => mergeAll rs

def pushed? : MergeStep → Option Region
  | push r => some r
  | pass => none
  | settle => none

/-- The list after steps that start from an empty one. -/
def run (steps : List MergeStep) : List Region := steps.foldl apply []

/-- All regions that have come in, in this order. -/
def pushed (steps : List MergeStep) : List Region := steps.filterMap pushed?

end MergeStep

/-! ## Merging a part first -/

/-- A pass over what has arrived so far does not change what merging everything gives. -/
theorem mergeAll_mergePass_append (as bs : List Region) :
    mergeAll (mergePass as ++ bs) = mergeAll (as ++ bs) := by
  let singles := (List.finRange (as ++ bs).length).map ([·])
  have hmap : singles.map (uniteAt (as ++ bs)) = as.map normalized ++ bs.map normalized := by
    rw [map_singletons, List.map_append]
  have hleft : (singles.take as.length).map (uniteAt (as ++ bs)) = as.map normalized := by
    rw [List.map_take, hmap, List.take_left' (by simp)]
  have hright : (singles.drop as.length).map (uniteAt (as ++ bs)) = bs.map normalized := by
    rw [List.map_drop, hmap, List.drop_left' (by simp)]
  have hgroups : Groups (as ++ bs) (singles.take as.length ++ singles.drop as.length) := by
    rw [List.take_append_drop]
    exact Groups.singletons _
  -- A pass over the part in front puts the groups of its entries together.
  have h := hgroups.gatherAll_append.mergeAll_eq
  rw [List.map_append, map_gatherAll_nil, hleft, hright, mergePass_map_normalized] at h
  rw [← mergeAll_map_normalized, List.map_append, map_normalized_mergePass, h,
    mergeAll_eq_components]

@[simp, grind =] theorem mergeAll_mergeAll_append (as bs : List Region) :
    mergeAll (mergeAll as ++ bs) = mergeAll (as ++ bs) := by
  induction as using mergeAll.induct with
  | case1 as next hlt =>
    rename_i ih
    rw [@mergeAll_of_lt as hlt, ih, mergeAll_mergePass_append]
  | case2 as next =>
    rename_i hlt
    rw [@mergeAll_of_not_lt as hlt, mergeAll_mergePass_append]

@[simp, grind =]
theorem mergeAll_mergeAll (rs : List Region) : mergeAll (mergeAll rs) = mergeAll rs := by
  simpa using mergeAll_mergeAll_append rs []

/-! ## Steps -/

namespace MergeStep

/-- One step changes nothing for what comes out in the end, whatever comes in after it. -/
theorem mergeAll_apply_append (s : MergeStep) (rs later : List Region) :
    mergeAll (s.apply rs ++ later) = mergeAll (rs ++ (s.pushed?.toList ++ later)) := by
  cases s with
  | push r => simp [apply, pushed?]
  | pass => exact mergeAll_mergePass_append rs later
  | settle => exact mergeAll_mergeAll_append rs later

/-- Steps in any order merge to what their pushed regions merge to all at once. -/
theorem mergeAll_foldl_append (steps : List MergeStep) (rs later : List Region) :
    mergeAll (steps.foldl apply rs ++ later) = mergeAll (rs ++ (pushed steps ++ later)) := by
  induction steps generalizing rs with
  | nil => rfl
  | cons s steps ih =>
    have hpushed : pushed (s :: steps) = s.pushed?.toList ++ pushed steps := by
      cases s <;> rfl
    rw [List.foldl_cons, ih, mergeAll_apply_append, hpushed, List.append_assoc]

end MergeStep

/-- It makes no difference for the clusters when passes have been made while the regions came in.
So merging clusters again changes nothing, and regions may be merged before others come in. -/
theorem mergeAll_incremental :
    (∀ steps, mergeAll (MergeStep.run steps) = mergeAll (MergeStep.pushed steps)) ∧
      (∀ rs, mergeAll (mergeAll rs) = mergeAll rs) ∧
      ∀ as bs, mergeAll (mergeAll as ++ bs) = mergeAll (as ++ bs) := by
  refine ⟨fun steps => ?_, mergeAll_mergeAll, mergeAll_mergeAll_append⟩
  simpa [MergeStep.run] using MergeStep.mergeAll_foldl_append steps [] []

end Lookalike
