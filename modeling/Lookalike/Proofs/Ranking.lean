import Lookalike.Proofs.Decimal.Order
import Lookalike.Proofs.Exchange
import Lookalike.Proofs.WellFormed
import Lookalike.Scan

/-!
# Rankings

All pairs of places in a list of files are compared, and the reports that reach the least score are
sorted: the most similar pair comes first, equally similar ones come in the order of their names,
and those with equal names in the order of their places, since sorting keeps the order of equal
entries. In another order of the files pairs change sides, but neither names nor scores.

## Main definitions

* `indexedReports` — the reports on files whose contents are indexed in any way.
* `reportAt` — the report on the files at two places.
* `RankedBefore` — the order of reports; `rankedPlaces`, the places in it.
* `Report.unordered` — the names and the score, whichever file is the first.

## Main statements

* `mem_pairs`, `pairwise_pairs`, `pairs_perm` — the pairs of a list.
* `pairwise_mergeSort_lex` — sorting keeps the order of entries with equal keys.
* `compareAllSources_ranked` — what is reported on a list of files, and in which order.
-/

namespace Lookalike

variable {α β : Type}

/-! ## Pairs -/

/-- A list of `n` members has `n * (n - 1) / 2` pairs. -/
@[simp, grind =]
theorem length_pairs (xs : List α) : (pairs xs).length = xs.length * (xs.length - 1) / 2 := by
  rw [← Nat.choose_two_right]
  induction xs with
  | nil => rfl
  | cons x xs ih =>
    rw [pairs, List.length_append, List.length_map, ih, List.length_cons, Nat.choose_succ_succ,
      Nat.choose_one_right]

theorem pairs_map (f : α → β) (xs : List α) : pairs (xs.map f) = (pairs xs).map (Prod.map f f) := by
  induction xs with
  | nil => rfl
  | cons x xs ih => simp [pairs, ih, Function.comp_def]

theorem mem_pairs [Preorder α] {xs : List α} (h : xs.Pairwise (· < ·)) {p : α × α} :
    p ∈ pairs xs ↔ p.1 ∈ xs ∧ p.2 ∈ xs ∧ p.1 < p.2 := by
  obtain ⟨a, b⟩ := p
  induction xs with
  | nil => simp [pairs]
  | cons x xs ih =>
    obtain ⟨hx, hxs⟩ := List.pairwise_cons.1 h
    have hfirst : (a, b) ∈ xs.map (fun y => (x, y)) ↔ a = x ∧ b ∈ xs := by
      simp [and_comm, eq_comm]
    simp only [pairs, List.mem_append, hfirst, ih hxs, List.mem_cons]
    constructor
    · rintro (⟨rfl, hb⟩ | ⟨ha, hb, hab⟩)
      · exact ⟨.inl rfl, .inr hb, hx b hb⟩
      · exact ⟨.inr ha, .inr hb, hab⟩
    · rintro ⟨rfl | ha, rfl | hb, hab⟩
      · exact absurd hab (lt_irrefl _)
      · exact .inl ⟨rfl, hb⟩
      · exact absurd hab (hx a ha).asymm
      · exact .inr ⟨ha, hb, hab⟩

/-- The pairs of an ascending list ascend. -/
theorem pairwise_pairs [PartialOrder α] {xs : List α} (h : xs.Pairwise (· < ·)) :
    (pairs xs).Pairwise fun p q => toLex p < toLex q := by
  induction xs with
  | nil => exact List.Pairwise.nil
  | cons x xs ih =>
    obtain ⟨hx, hxs⟩ := List.pairwise_cons.1 h
    refine List.pairwise_append.2 ⟨?_, ih hxs, ?_⟩
    · refine List.pairwise_map.2 (hxs.imp fun {a b} hlt => ?_)
      exact Prod.Lex.toLex_lt_toLex.2 (.inr ⟨rfl, hlt⟩)
    · intro p hp q hq
      obtain ⟨y, hy, rfl⟩ := List.mem_map.1 hp
      have hlt : x < q.1 := hx _ ((mem_pairs hxs).1 hq).1
      exact Prod.Lex.toLex_lt_toLex.2 (.inl hlt)

theorem nodup_pairs [PartialOrder α] {xs : List α} (h : xs.Pairwise (· < ·)) : (pairs xs).Nodup :=
  (pairwise_pairs h).imp fun hlt => ne_of_apply_ne toLex hlt.ne

/-- In another order of the list, pairs come in another order and with their sides exchanged. -/
theorem pairs_perm {f : α × α → β} (hf : ∀ a b, f (a, b) = f (b, a)) {xs ys : List α}
    (h : xs.Perm ys) : ((pairs xs).map f).Perm ((pairs ys).map f) := by
  induction h with
  | nil => exact .refl _
  | cons x h ih =>
    simp only [pairs, List.map_append, List.map_map]
    exact (h.map _).append ih
  | swap x y l =>
    simp only [pairs, List.map_cons, List.cons_append, List.map_append, List.map_map, hf y x]
    exact .cons _ (List.perm_append_comm_assoc _ _ _)
  | trans _ _ ih ih' => exact ih.trans ih'

/-! ## Sorting -/

/-- Sorting by a key keeps the order of entries with equal keys. -/
theorem pairwise_mergeSort_lex {κ : Type} [LinearOrder κ] {key : α → κ} {le : α → α → Bool}
    (hle : ∀ a b, le a b ↔ key a ≤ key b) {r : α → α → Prop} {xs : List α} (h : xs.Pairwise r) :
    (xs.mergeSort le).Pairwise fun a b => key a < key b ∨ key a = key b ∧ r a b := by
  have trans (a b c : α) (hab : le a b) (hbc : le b c) : le a c :=
    (hle a c).2 (((hle a b).1 hab).trans ((hle b c).1 hbc))
  have total (a b : α) : le a b || le b a := by
    rw [Bool.or_eq_true, hle, hle]
    exact le_total _ _
  induction xs with
  | nil => simp
  | cons x xs ih =>
    obtain ⟨hx, hxs⟩ := List.pairwise_cons.1 h
    obtain ⟨ys, zs, hcons, htail, hbefore⟩ := List.mergeSort_cons trans total x xs
    have hsorted := List.pairwise_mergeSort trans total (x :: xs)
    have ih := ih hxs
    rw [hcons, List.pairwise_append, List.pairwise_cons] at hsorted
    rw [htail, List.pairwise_append] at ih
    obtain ⟨hys, hzs, hyz⟩ := ih
    rw [hcons]
    refine List.pairwise_append.2 ⟨hys, List.pairwise_cons.2 ⟨fun z hz => ?_, hzs⟩, ?_⟩
    · -- The new entry comes before those with the same key.
      have hmem : z ∈ xs := List.mem_mergeSort.1 (htail ▸ List.mem_append_right _ hz)
      have hxz : key x ≤ key z := (hle x z).1 (hsorted.2.1.1 z hz)
      exact hxz.lt_or_eq.imp_right fun heq => ⟨heq, hx z hmem⟩
    · intro y hy z hz
      rcases List.mem_cons.1 hz with rfl | hz
      · have hnot : ¬ key z ≤ key y := fun hzy => by simpa [(hle z y).2 hzy] using hbefore y hy
        exact .inl (not_le.1 hnot)
      · exact hyz y hy z hz

namespace Report

def sortKey (r : Report) : ℤᵒᵈ ×ₗ WithBot String ×ₗ WithBot String :=
  toLex (OrderDual.toDual (orderKey r.score), toLex (r.first, r.second))

/-- The three comparisons of two reports together are the order of their sort keys. -/
theorem comesBy_iff {a b : Report} : a.comesBy b ↔ a.sortKey ≤ b.sortKey := by
  rw [sortKey, sortKey, Prod.Lex.toLex_le_toLex, comesBy, Bool.ite_eq_true_distrib,
    optionalAtMost_lex_iff, decide_eq_true_iff]
  exact ite_le_iff (α := ℤᵒᵈ)

/-- The names and the score, whichever file is the first. -/
def unordered (r : Report) : Sym2 (Option String) × Float := (s(r.first, r.second), r.score)

end Report

/-! ## The largest score -/

section Largest

variable {rs : List Report}

theorem foldl_max_eq {m : Float} (h : ∀ r ∈ rs, ¬ m < r.score) :
    rs.foldl (fun m r => if m < r.score then r.score else m) m = m := by
  induction rs with
  | nil => rfl
  | cons r rs ih =>
    rw [List.forall_mem_cons] at h
    rw [List.foldl_cons, if_neg h.1, ih h.2]

/-- The largest of descending scores is the first one. -/
theorem foldl_max_score (hpos : ∀ r ∈ rs, NonNegative r.score)
    (hsorted : rs.Pairwise fun a b => ¬ a.score < b.score) :
    rs.foldl (fun m r => if m < r.score then r.score else m) 0 =
      (rs.head?.map Report.score).getD 0 := by
  cases rs with
  | nil => rfl
  | cons r rs =>
    have hr : NonNegative r.score := hpos r List.mem_cons_self
    have hfirst : (if 0 < r.score then r.score else 0) = r.score := by
      split_ifs with h
      · rfl
      · rw [nonNegative_zero.lt_iff hr, hr.orderKey_eq, nonNegative_zero.orderKey_eq] at h
        refine orderKey_inj.1 ?_
        rw [hr.orderKey_eq, nonNegative_zero.orderKey_eq]
        have hzero : (0 : Float).toBits.toNat = 0 := rfl
        omega
    rw [List.foldl_cons, hfirst, foldl_max_eq (List.pairwise_cons.1 hsorted).1]
    rfl

end Largest

/-! ## Reports on a list of files -/

/-- The reports on files whose contents are indexed in any way. -/
def indexedReports (index : String → Index) (files : List (String × String)) (options : Options)
    (least : Float) : List Report :=
  compareAll (files.map fun f => (f.1, index f.2)) options least

/-- The report on the files at two places of a list. -/
def reportAt (index : String → Index) (files : List (String × String)) (options : Options)
    (p : Fin files.length × Fin files.length) : Report :=
  compareIndexed (index files[p.1].2) (index files[p.2].2) (some files[p.1].1)
    (some files[p.2].1) options

/-- The report on the files at the places `p` comes before that at `q`: its score is higher, or
equal and its names come first, or they are equal too and `p` comes first. -/
def RankedBefore (index : String → Index) (files : List (String × String)) (options : Options)
    (p q : Fin files.length × Fin files.length) : Prop :=
  let score p := (reportAt index files options p).score
  let names p := toLex (files[p.1].1, files[p.2].1)
  score q < score p ∨
    score p = score q ∧ (names p < names q ∨ names p = names q ∧ toLex p < toLex q)

instance (index : String → Index) (files : List (String × String)) (options : Options)
    (p q : Fin files.length × Fin files.length) :
    Decidable (RankedBefore index files options p q) :=
  inferInstanceAs (Decidable (_ ∨ _))

/-- The pairs of places whose reports reach the least score, in the order of their reports. -/
def rankedPlaces (index : String → Index) (files : List (String × String)) (options : Options)
    (least : Float) : List (Fin files.length × Fin files.length) :=
  ((pairs (List.finRange files.length)).filter fun p =>
    least ≤ (reportAt index files options p).score).mergeSort fun p q =>
      (reportAt index files options p).comesBy (reportAt index files options q)

section Ranked

variable {index : String → Index} {files : List (String × String)} {options : Options}
  {least : Float} {p q : Fin files.length × Fin files.length}

/-- The reports are those at the ranked places, in that order. -/
theorem indexedReports_eq : indexedReports index files options least =
    (rankedPlaces index files options least).map (reportAt index files options) := by
  have hfiles : files.map (fun f => (f.1, index f.2)) =
      (List.finRange files.length).map fun i => (files[i].1, index files[i].2) := by
    conv_lhs => rw [← List.map_get_finRange files]
    rw [List.map_map]
    rfl
  rw [indexedReports, compareAll, hfiles, pairs_map, List.map_map, List.filter_map,
    rankedPlaces, List.map_mergeSort (s := Report.comesBy) fun _ _ _ _ => rfl]
  rfl

/-- Sources are indexed by what the parser finds in them. -/
theorem value_compareAllSources (files : List (String × String)) (options : Options)
    (least : Float) :
    (compareAllSources files options least).value =
      indexedReports (fun text => (Index.ofSource options text).value) files options least := by
  simp [compareAllSources, indexedReports]

@[simp] theorem Overlap.unsigned_score (o : Overlap) : Unsigned o.score.toModel.unpack := by
  rw [Overlap.score]
  split_ifs
  · exact nonNegative_zero.unsigned
  · exact unsigned_ofNat_div_ofNat _ _

/-- A score that reaches the least one is a number and carries no sign. -/
theorem nonNegative_score (h : least ≤ (reportAt index files options p).score) :
    NonNegative (reportAt index files options p).score :=
  nonNegative_of_le (Overlap.unsigned_score _) h

@[simp, grind =] theorem mem_rankedPlaces : p ∈ rankedPlaces index files options least ↔
    p.1 < p.2 ∧ least ≤ (reportAt index files options p).score := by
  rw [rankedPlaces, List.mem_mergeSort, List.mem_filter, decide_eq_true_iff,
    mem_pairs (List.pairwise_lt_finRange _)]
  simp

/-- The keys of reports on files that have names. -/
theorem sortKey_reportAt (p : Fin files.length × Fin files.length) :
    (reportAt index files options p).sortKey =
      toLex (OrderDual.toDual (orderKey (reportAt index files options p).score),
        toLex ((files[p.1].1 : WithBot String), (files[p.2].1 : WithBot String))) := rfl

/-- For scores without a sign the ranking is the order by sort key and then by place. -/
theorem rankedBefore_iff (hp : NonNegative (reportAt index files options p).score)
    (hq : NonNegative (reportAt index files options q).score) :
    RankedBefore index files options p q ↔
      toLex ((reportAt index files options p).sortKey, toLex p) <
        toLex ((reportAt index files options q).sortKey, toLex q) := by
  unfold RankedBefore
  simp only [sortKey_reportAt, Prod.Lex.toLex_lt_toLex, EmbeddingLike.apply_eq_iff_eq,
    OrderDual.toDual_lt_toDual, ← hq.lt_iff hp, Prod.mk.injEq, orderKey_inj, WithBot.coe_lt_coe,
    WithBot.coe_inj]
  grind

theorem RankedBefore.asymm (hp : NonNegative (reportAt index files options p).score)
    (hq : NonNegative (reportAt index files options q).score)
    (h : RankedBefore index files options p q) : ¬ RankedBefore index files options q p := by
  rw [rankedBefore_iff hp hq] at h
  rw [rankedBefore_iff hq hp]
  exact h.asymm

/-- What is ranked before has no lower score. -/
theorem RankedBefore.not_lt (hp : NonNegative (reportAt index files options p).score)
    (hq : NonNegative (reportAt index files options q).score)
    (h : RankedBefore index files options p q) :
    ¬ (reportAt index files options p).score < (reportAt index files options q).score := by
  rw [hp.lt_iff hq]
  rcases h with hlt | ⟨heq, -⟩
  · exact ((hq.lt_iff hp).1 hlt).asymm
  · exact (orderKey_inj.2 heq).not_lt

/-- The ranked places stand in the order of the ranking. -/
theorem pairwise_rankedPlaces :
    (rankedPlaces index files options least).Pairwise (RankedBefore index files options) := by
  have hpairs := (pairwise_pairs (List.pairwise_lt_finRange files.length)).filter
    fun p => least ≤ (reportAt index files options p).score
  have hsorted := pairwise_mergeSort_lex
    (fun p q => @Report.comesBy_iff (reportAt index files options p)
      (reportAt index files options q)) hpairs
  refine hsorted.imp_of_mem fun {p q} hp hq h => ?_
  rw [rankedBefore_iff (nonNegative_score (mem_rankedPlaces.1 hp).2)
    (nonNegative_score (mem_rankedPlaces.1 hq).2)]
  exact Prod.Lex.toLex_lt_toLex.2 h

/-- The score of the first report is the largest. -/
theorem foldl_max_indexedReports :
    (indexedReports index files options least).foldl
        (fun m r => if m < r.score then r.score else m) 0 =
      ((indexedReports index files options least).head?.map Report.score).getD 0 := by
  have hpos : ∀ p ∈ rankedPlaces index files options least,
      NonNegative (reportAt index files options p).score :=
    fun p hp => nonNegative_score (mem_rankedPlaces.1 hp).2
  rw [indexedReports_eq]
  refine foldl_max_score (List.forall_mem_map.2 hpos) (List.pairwise_map.2 ?_)
  exact pairwise_rankedPlaces.imp_of_mem fun hp hq h => h.not_lt (hpos _ hp) (hpos _ hq)

@[simp] theorem nodup_rankedPlaces : (rankedPlaces index files options least).Nodup :=
  (List.mergeSort_perm _ _).nodup_iff.2 ((nodup_pairs (List.pairwise_lt_finRange _)).filter _)

/-- The reports on indexed files, whichever file of a pair is the first, before they are sorted. -/
theorem map_unordered_compareAll (files : List (String × Index)) (options : Options)
    (least : Float) :
    ((compareAll files options least).map Report.unordered).Perm
      (((pairs files).map fun p => (s(some p.1.1, some p.2.1), (p.1.2.overlap p.2.2).score)).filter
        fun r => least ≤ r.2) := by
  refine ((List.mergeSort_perm _ _).map _).trans (.of_eq ?_)
  rw [List.filter_map, List.filter_map, List.map_map]
  rfl

/-- In another order of the files there are the same scores for the same names. -/
theorem compareAll_perm {files files' : List (String × Index)} (h : files.Perm files')
    (options : Options) (least : Float) :
    ((compareAll files options least).map Report.unordered).Perm
      ((compareAll files' options least).map Report.unordered) := by
  have hpairs := pairs_perm (f := fun p : (String × Index) × String × Index =>
    (s(some p.1.1, some p.2.1), (p.1.2.overlap p.2.2).score)) (fun a b => ?_) h
  · exact (map_unordered_compareAll _ _ _).trans
      ((hpairs.filter _).trans (map_unordered_compareAll _ _ _).symm)
  · exact congrArg₂ Prod.mk Sym2.eq_swap Overlap.score_swap

end Ranked

/-! ## Scans -/

/-- The files of a set that are there, with their paths from the root of the set. -/
def FileSet.loaded (s : FileSet) (d : Disk) : List (String × String) :=
  s.files.filterMap fun names =>
    (d.load (Path.ofNames names)).toOption.map fun f => (s.relative names, f.content)

section Scan

variable {d : Disk} {set : FileSet} {names : List String}

@[simp] theorem value_loadFile : (Scan.loadFile d set names).value =
    (d.load (Path.ofNames names)).toOption.map fun f => (set.relative names, f.content) := by
  rw [Scan.loadFile]
  cases d.load (Path.ofNames names) <;> rfl

/-- A scan reports on the files that are there. -/
theorem value_run (s : Scan) (d : Disk) (set : FileSet) :
    (s.run d set).value =
      let files := set.loaded d
      let reports := (compareAllSources files s.options s.minSimilarity).value
      { reports := reports
        summary := {
          files := files.length
          pairsCompared := files.length * (files.length - 1) / 2
          pairsReported := reports.length
          maxSimilarity := reports.foldl (fun m r => if m < r.score then r.score else m) 0 } } := by
  simp [Scan.run, FileSet.loaded]

/-- There are as many pairs of places as a scan says. -/
theorem card_places (n : Nat) :
    (Finset.univ.filter fun p : Fin n × Fin n => p.1 < p.2).card = n * (n - 1) / 2 := by
  have heq : (Finset.univ.filter fun p : Fin n × Fin n => p.1 < p.2) =
      (pairs (List.finRange n)).toFinset := by
    ext p
    simp [mem_pairs (List.pairwise_lt_finRange n)]
  rw [heq, List.toFinset_card_of_nodup (nodup_pairs (List.pairwise_lt_finRange n)), length_pairs,
    List.length_finRange]

end Scan

/-- What is reported on a list of files, whatever is found in their contents. The reports are those
on the pairs of places that reach the least score, each once: the most similar pair comes first,
equally similar ones in the order of their names, and those with equal names in the order of their
places. In another order of the files there are the same scores for the same names. So it is with
what the parser finds in sources. A scan reports so on the files that are there, and counts their
pairs and reports. -/
theorem compareAllSources_ranked (options : Options) (least : Float) :
    (∀ (index : String → Index) (files : List (String × String)),
      ∃ places : List (Fin files.length × Fin files.length),
        indexedReports index files options least = places.map (reportAt index files options) ∧
          places.Nodup ∧
          (∀ p, p ∈ places ↔ p.1 < p.2 ∧ least ≤ (reportAt index files options p).score) ∧
          places.Pairwise (RankedBefore index files options)) ∧
      (∀ (index : String → Index) (files files' : List (String × String)), files.Perm files' →
        ((indexedReports index files options least).map Report.unordered).Perm
          ((indexedReports index files' options least).map Report.unordered)) ∧
      (∀ files : List (String × String), (compareAllSources files options least).value =
        indexedReports (fun text => (Index.ofSource options text).value) files options least) ∧
      ∀ (d : Disk) (set : FileSet),
        let files := set.loaded d
        let reports := (compareAllSources files options least).value
        let analysis := (Scan.run ⟨options, least⟩ d set).value
        analysis.reports = reports ∧ analysis.summary.files = files.length ∧
          analysis.summary.pairsCompared =
            (Finset.univ.filter fun p : Fin files.length × Fin files.length => p.1 < p.2).card ∧
          analysis.summary.pairsReported = reports.length ∧
          analysis.summary.maxSimilarity = (reports.head?.map Report.score).getD 0 := by
  refine ⟨fun index files => ?_, fun index files files' h => ?_,
    fun files => value_compareAllSources files options least, fun d set => ?_⟩
  · exact ⟨_, indexedReports_eq, nodup_rankedPlaces, fun p => mem_rankedPlaces,
      pairwise_rankedPlaces⟩
  · exact compareAll_perm (h.map _) options least
  · intro files reports analysis
    have hanalysis : analysis = _ := value_run ⟨options, least⟩ d set
    have hlargest : reports.foldl (fun m r => if m < r.score then r.score else m) 0 =
        (reports.head?.map Report.score).getD 0 := by
      simp only [reports, value_compareAllSources]
      exact foldl_max_indexedReports
    rw [hanalysis]
    exact ⟨rfl, rfl, (card_places _).symm, rfl, hlargest⟩

def letterIndex (text : String) : Index :=
  let letters := text.toList.zipIdx.map fun (c, i) =>
    ⟨⟨1, i⟩, ⟨1, i + 1⟩, .punctuation (String.ofList [c])⟩
  Index.ofLexed ⟨2, 1, .crossProduct⟩ ⟨letters, .ofList []⟩

def letterFiles : List (String × String) := [("b.py", "abc"), ("a.py", "abd"), ("c.py", "abc")]

def letterPlaces : List (Fin letterFiles.length × Fin letterFiles.length) :=
  [(⟨0, by decide⟩, ⟨2, by decide⟩), (⟨1, by decide⟩, ⟨2, by decide⟩),
    (⟨0, by decide⟩, ⟨1, by decide⟩)]

/-- The two equal texts come first, and then the other pairs in the order of their names. -/
theorem compareAllSources_ranked_letterFiles :
    letterFiles.Perm letterFiles.reverse ∧
      ((indexedReports letterIndex letterFiles {} 0.4).map Report.unordered).Perm
        ((indexedReports letterIndex letterFiles.reverse {} 0.4).map Report.unordered) ∧
      indexedReports letterIndex letterFiles {} 0.4 =
        letterPlaces.map (reportAt letterIndex letterFiles {}) ∧
      letterPlaces.map (fun p => (reportAt letterIndex letterFiles {} p).score) =
        [1, 0.5, 0.5] := by
  have hperm : letterFiles.Perm letterFiles.reverse := letterFiles.reverse_perm.symm
  obtain ⟨hranked, hunordered, -⟩ := compareAllSources_ranked {} 0.4
  obtain ⟨places, hreports, hnodup, hmem, hpairwise⟩ := hranked letterIndex letterFiles
  have hmembers (p) : p ∈ places ↔ p ∈ letterPlaces := by
    rw [hmem]
    revert p
    decide +kernel
  have hranks : letterPlaces.Pairwise (RankedBefore letterIndex letterFiles {}) := by
    decide +kernel
  have hplaces : places = letterPlaces := by
    have hplacesPerm := (List.perm_ext_iff_of_nodup hnodup (by decide)).2 hmembers
    refine hplacesPerm.eq_of_pairwise ?_ hpairwise hranks
    intro p q hp hq hpq hqp
    have hp' := nonNegative_score ((hmem p).1 hp).2
    have hq' := nonNegative_score ((hmem q).1 ((hmembers q).2 hq)).2
    exact absurd hqp (hpq.asymm hp' hq')
  exact ⟨hperm, hunordered letterIndex _ _ hperm, by rw [hreports, hplaces], by decide +kernel⟩

end Lookalike
