import Mathlib.Data.Rat.Floor
import Mathlib.Data.List.Sort
import Mathlib.Algebra.Order.BigOperators.Group.List

/-!
# Cell values and pandas' column statistics

A numeric cell of the pipeline is a float, modelled exactly: a rational, NaN, or an
infinity. Arithmetic follows IEEE 754 on these values (`inf - inf` and `0 * inf` are NaN,
`x / 0` is a signed infinity or NaN); rounding, `float32` included, is not modelled.

The statistics are pandas' skip-NaN reductions as `preprocess_unified_data` calls them:
`median`, `quantile` with numpy's linear interpolation, and the test `std() == 0`, taken as
the sample variance (`ddof = 1`) being zero. `clip` treats a NaN threshold as no bound.

The finiteness lemmas at the end are what the cleaning chain rests on: the median of a
column with a finite entry and no infinity is finite, and so are the quantiles of a column
of finite values.
-/

namespace DdosAnalysis

/-- A float of the pipeline. -/
inductive Num where
  | fin (value : ℚ)
  | nan
  | posInf
  | negInf
  deriving DecidableEq, Repr

namespace Num

/-- `np.isnan`. -/
def isNan : Num → Bool
  | nan => true
  | _ => false

/-- `np.isfinite`. -/
def isFinite : Num → Bool
  | fin _ => true
  | _ => false

/-- `np.isinf`. -/
def isInf : Num → Bool
  | posInf => true
  | negInf => true
  | _ => false

/-- IEEE negation. -/
def neg : Num → Num
  | fin a => fin (-a)
  | nan => nan
  | posInf => negInf
  | negInf => posInf

/-- IEEE addition. -/
def add : Num → Num → Num
  | fin a, fin b => fin (a + b)
  | nan, _ => nan
  | _, nan => nan
  | posInf, negInf => nan
  | negInf, posInf => nan
  | posInf, _ => posInf
  | _, posInf => posInf
  | negInf, _ => negInf
  | _, negInf => negInf

/-- IEEE subtraction. -/
def sub (a b : Num) : Num :=
  add a (neg b)

/-- The infinity of the sign of a nonzero rational. -/
def infOfSign (q : ℚ) : Num :=
  if 0 < q then posInf else negInf

/-- IEEE multiplication. -/
def mul : Num → Num → Num
  | fin a, fin b => fin (a * b)
  | nan, _ => nan
  | _, nan => nan
  | fin a, posInf => if a = 0 then nan else infOfSign a
  | fin a, negInf => if a = 0 then nan else infOfSign (-a)
  | posInf, fin b => if b = 0 then nan else infOfSign b
  | negInf, fin b => if b = 0 then nan else infOfSign (-b)
  | posInf, posInf => posInf
  | negInf, negInf => posInf
  | posInf, negInf => negInf
  | negInf, posInf => negInf

/-- IEEE division (a zero divisor is `+0.0`). -/
def div : Num → Num → Num
  | fin a, fin b => if b = 0 then (if a = 0 then nan else infOfSign a) else fin (a / b)
  | nan, _ => nan
  | _, nan => nan
  | fin _, _ => fin 0
  | posInf, fin b => if b < 0 then negInf else posInf
  | negInf, fin b => if b < 0 then posInf else negInf
  | _, _ => nan

/-- `a == b` on floats: false whenever a NaN is involved. -/
def eq : Num → Num → Bool
  | fin a, fin b => a = b
  | posInf, posInf => true
  | negInf, negInf => true
  | _, _ => false

/-- `a <= b` on floats: false whenever a NaN is involved. -/
def le : Num → Num → Bool
  | fin a, fin b => a ≤ b
  | negInf, nan => false
  | negInf, _ => true
  | nan, _ => false
  | _, nan => false
  | _, posInf => true
  | _, _ => false

/-- `a < b` on floats: false whenever a NaN is involved. -/
def lt (a b : Num) : Bool :=
  le a b && !eq a b

/-- The order `np.sort` puts floats in: `-inf`, the finite values, `inf`, then NaN. -/
def sortLe : Num → Num → Bool
  | fin a, fin b => a ≤ b
  | negInf, _ => true
  | _, nan => true
  | fin _, posInf => true
  | posInf, posInf => true
  | _, _ => false

/-- `fillna(value)` on one cell. -/
def fillna (value x : Num) : Num :=
  if x.isNan then value else x

/-- `replace([np.inf, -np.inf], np.nan)` on one cell. -/
def replaceInf (x : Num) : Num :=
  if x.isInf then nan else x

/-- `clip(lower, upper)` on one cell, as pandas computes it: a NaN threshold is no bound,
a NaN cell stays NaN, and both comparisons are made on the original cell. -/
def clip (lower upper x : Num) : Num :=
  let lowerBound := if lower.isNan then negInf else lower
  let upperBound := if upper.isNan then posInf else upper
  let raised := if x.isNan || le lowerBound x then x else lower
  if x.isNan || le x upperBound then raised else upper

end Num

/-! ## Column statistics -/

namespace Stats

open Num

/-- The non-NaN entries of a column, which every pandas reduction here works on. -/
def skipNan (xs : List Num) : List Num :=
  xs.filter fun x => !x.isNan

/-- The entries in `np.sort` order. -/
def sortNums (xs : List Num) : List Num :=
  xs.insertionSort fun a b => sortLe a b = true

/-- `Series.sum()` of the non-NaN entries, left to right. -/
def sumNums (xs : List Num) : Num :=
  xs.foldl add (fin 0)

/-- `Series.median()`: the middle entry of the sorted non-NaN entries, or the mean of the
two middle ones; NaN when there are none. -/
def median (xs : List Num) : Num :=
  let sorted := sortNums (skipNan xs)
  let count := sorted.length
  if count = 0 then nan
  else if count % 2 = 1 then sorted.getD (count / 2) nan
  else div (add (sorted.getD (count / 2 - 1) nan) (sorted.getD (count / 2) nan)) (fin 2)

/-- numpy's `_lerp`: `a + (b - a) * t`, computed from `b` when `t >= 0.5`. -/
def lerp (a b : Num) (t : ℚ) : Num :=
  if 1 / 2 ≤ t then sub b (mul (sub b a) (fin (1 - t)))
  else add a (mul (sub b a) (fin t))

/-- `Series.quantile(q)` with linear interpolation, as numpy's `percentile` computes it on
the sorted non-NaN entries: the virtual index is `(count - 1) * q`, and from the last index
on both neighbours are the last entry (numpy's index `-1`, which also enters the
interpolation weight). -/
def quantile (xs : List Num) (q : ℚ) : Num :=
  let sorted := sortNums (skipNan xs)
  let count := sorted.length
  if count = 0 then nan
  else
    let position := ((count : ℚ) - 1) * q
    if (count : ℚ) - 1 ≤ position then
      lerp (sorted.getD (count - 1) nan) (sorted.getD (count - 1) nan) (position + 1)
    else
      let previous := ⌊position⌋.toNat
      lerp (sorted.getD previous nan) (sorted.getD (previous + 1) nan) (position - previous)

/-- `Series.var()` with `ddof = 1`, as `nanops.nanvar` computes it: NaN with fewer than two
entries. -/
def variance (xs : List Num) : Num :=
  let values := skipNan xs
  let count := values.length
  if count ≤ 1 then nan
  else
    let average := div (sumNums values) (fin count)
    div (sumNums (values.map fun x => mul (sub average x) (sub average x))) (fin (count - 1))

/-- `Series.std() == 0`: the square root of the variance is zero exactly when the variance
is, and the root of NaN is NaN. -/
def stdIsZero (xs : List Num) : Bool :=
  decide (variance xs = fin 0)

end Stats

/-! ## Finiteness -/

namespace Num

@[simp]
theorem isFinite_fin (q : ℚ) : (fin q).isFinite = true := rfl

theorem isFinite_iff {x : Num} : x.isFinite = true ↔ ∃ q, x = fin q := by
  cases x <;> simp [isFinite]

theorem isNan_of_not_finite_not_inf {x : Num} (notFinite : x.isFinite = false)
    (notInf : x.isInf = false) : x = nan := by
  cases x <;> simp_all [isFinite, isInf]

@[simp]
theorem add_fin (a b : ℚ) : add (fin a) (fin b) = fin (a + b) := rfl

@[simp]
theorem sub_fin (a b : ℚ) : sub (fin a) (fin b) = fin (a - b) := by
  simp [sub, neg, add, sub_eq_add_neg]

@[simp]
theorem mul_fin (a b : ℚ) : mul (fin a) (fin b) = fin (a * b) := rfl

theorem div_fin_of_ne {a b : ℚ} (nonzero : b ≠ 0) : div (fin a) (fin b) = fin (a / b) := by
  simp [div, nonzero]

theorem isFinite_fillna {value x : Num} (finiteValue : value.isFinite = true)
    (finiteOrNan : x.isFinite = true ∨ x = nan) : (fillna value x).isFinite = true := by
  rcases finiteOrNan with finite | rfl
  · obtain ⟨q, rfl⟩ := isFinite_iff.mp finite
    rfl
  · exact finiteValue

theorem finite_or_nan_replaceInf (x : Num) :
    (replaceInf x).isFinite = true ∨ replaceInf x = nan := by
  cases x <;> simp [replaceInf, isInf, isFinite]

theorem isInf_replaceInf (x : Num) : (replaceInf x).isInf = false := by
  cases x <;> rfl

theorem fillna_nan (x : Num) : fillna nan x = x := by
  cases x <;> rfl

theorem isFinite_clip {lower upper x : Num} (finiteLower : lower.isFinite = true)
    (finiteUpper : upper.isFinite = true) (finite : x.isFinite = true) :
    (clip lower upper x).isFinite = true := by
  simp only [clip]
  split_ifs <;> assumption

theorem clip_nan (lower upper : Num) : clip lower upper nan = nan := by
  simp [clip, isNan]

end Num

namespace Stats

open Num

theorem mem_sortNums {x : Num} {xs : List Num} : x ∈ sortNums xs ↔ x ∈ xs :=
  (List.perm_insertionSort _ xs).mem_iff

theorem isFinite_getD {xs : List Num} (allFinite : ∀ x ∈ xs, x.isFinite = true) {i : Nat}
    (inRange : i < xs.length) : (xs.getD i nan).isFinite = true := by
  rw [List.getD_eq_getElem?_getD, List.getElem?_eq_getElem inRange, Option.getD_some]
  exact allFinite _ (List.getElem_mem inRange)

theorem finite_of_mem_sorted {xs : List Num} (noInf : ∀ x ∈ xs, x.isInf = false) :
    ∀ x ∈ sortNums (skipNan xs), x.isFinite = true := by
  intro x member
  rw [mem_sortNums, skipNan, List.mem_filter] at member
  cases finite : x.isFinite
  · have := isNan_of_not_finite_not_inf finite (noInf x member.1)
    simp [this, isNan] at member
  · rfl

/-- The median of a column with a finite entry and no infinity is finite. -/
theorem isFinite_median {xs : List Num} (noInf : ∀ x ∈ xs, x.isInf = false)
    (someFinite : ∃ x ∈ xs, x.isFinite = true) : (median xs).isFinite = true := by
  have sortedFinite := finite_of_mem_sorted noInf
  have nonempty : (sortNums (skipNan xs)).length ≠ 0 := by
    obtain ⟨x, member, finite⟩ := someFinite
    have kept : x ∈ sortNums (skipNan xs) := by
      rw [mem_sortNums, skipNan, List.mem_filter]
      obtain ⟨q, rfl⟩ := isFinite_iff.mp finite
      exact ⟨member, rfl⟩
    exact List.length_pos_of_mem kept |>.ne'
  simp only [median, nonempty, if_false]
  split_ifs
  · exact isFinite_getD sortedFinite (by omega)
  · obtain ⟨a, equalA⟩ := isFinite_iff.mp (isFinite_getD sortedFinite
      (i := (sortNums (skipNan xs)).length / 2 - 1) (by omega))
    obtain ⟨b, equalB⟩ := isFinite_iff.mp (isFinite_getD sortedFinite
      (i := (sortNums (skipNan xs)).length / 2) (by omega))
    rw [equalA, equalB, add_fin, div_fin_of_ne two_ne_zero]
    rfl

/-- The median of a column of NaN is NaN. -/
theorem median_of_all_nan {xs : List Num} (allNan : ∀ x ∈ xs, x = nan) : median xs = nan := by
  have empty : skipNan xs = [] := by
    rw [skipNan, List.filter_eq_nil_iff]
    intro x member
    simp [allNan x member, isNan]
  simp [median, empty, sortNums]

theorem isFinite_lerp {a b : Num} (finiteA : a.isFinite = true) (finiteB : b.isFinite = true)
    (t : ℚ) : (lerp a b t).isFinite = true := by
  obtain ⟨p, rfl⟩ := isFinite_iff.mp finiteA
  obtain ⟨q, rfl⟩ := isFinite_iff.mp finiteB
  unfold lerp
  split_ifs <;> simp

/-- The quantiles of a nonempty column of finite values are finite. -/
theorem isFinite_quantile {xs : List Num} (allFinite : ∀ x ∈ xs, x.isFinite = true)
    (nonempty : xs ≠ []) {q : ℚ} (nonnegative : 0 ≤ q) : (quantile xs q).isFinite = true := by
  have noInf : ∀ x ∈ xs, x.isInf = false := by
    intro x member
    obtain ⟨v, rfl⟩ := isFinite_iff.mp (allFinite x member)
    rfl
  have sortedFinite := finite_of_mem_sorted noInf
  have count : (sortNums (skipNan xs)).length = xs.length := by
    rw [sortNums, List.length_insertionSort, skipNan, List.filter_eq_self.mpr]
    intro x member
    obtain ⟨v, rfl⟩ := isFinite_iff.mp (allFinite x member)
    rfl
  have positive : 0 < xs.length := List.length_pos.mpr nonempty
  simp only [quantile, count, Nat.pos_iff_ne_zero.mp positive, if_false]
  split_ifs with atEnd
  · exact isFinite_lerp (isFinite_getD sortedFinite (by omega))
      (isFinite_getD sortedFinite (by omega)) _
  · push_neg at atEnd
    have floorBound : ⌊((xs.length : ℚ) - 1) * q⌋.toNat + 1 < xs.length := by
      have one : (1 : ℚ) ≤ xs.length := by exact_mod_cast positive
      have floorNonneg : 0 ≤ ⌊((xs.length : ℚ) - 1) * q⌋ :=
        Int.floor_nonneg.mpr (mul_nonneg (by linarith) nonnegative)
      have floorLt : ⌊((xs.length : ℚ) - 1) * q⌋ < (xs.length : ℤ) - 1 :=
        Int.floor_lt.mpr (by push_cast; exact atEnd)
      omega
    exact isFinite_lerp (isFinite_getD sortedFinite (by omega))
      (isFinite_getD sortedFinite (by rw [count]; exact floorBound)) _

/-! ## The zero-variance test -/

theorem sumNums_map_fin (ys : List ℚ) : sumNums (ys.map fin) = fin ys.sum := by
  suffices shifted : ∀ start : ℚ, (ys.map fin).foldl add (fin start) = fin (start + ys.sum) by
    simpa [sumNums] using shifted 0
  induction ys with
  | nil => intro start; simp
  | cons y rest inductionHypothesis =>
      intro start
      simp only [List.map_cons, List.foldl_cons, add_fin, inductionHypothesis, List.sum_cons,
        add_assoc]

theorem skipNan_map_fin (ys : List ℚ) : skipNan (ys.map fin) = ys.map fin :=
  List.filter_eq_self.mpr fun x member => by
    obtain ⟨y, -, rfl⟩ := List.mem_map.mp member
    rfl

theorem sum_mul_self_eq_zero_iff (ds : List ℚ) :
    (ds.map fun d => d * d).sum = 0 ↔ ∀ d ∈ ds, d = 0 := by
  induction ds with
  | nil => simp
  | cons d rest inductionHypothesis =>
      have restNonneg : 0 ≤ (rest.map fun d => d * d).sum :=
        List.sum_nonneg fun x member => by
          obtain ⟨y, -, rfl⟩ := List.mem_map.mp member
          exact mul_self_nonneg y
      rw [List.map_cons, List.sum_cons, add_eq_zero_iff_of_nonneg (mul_self_nonneg d) restNonneg,
        inductionHypothesis]
      simp [mul_self_eq_zero]

/-- On finite values the test `std() == 0` holds exactly when every value is the mean. -/
theorem stdIsZero_map_fin {ys : List ℚ} (two : 2 ≤ ys.length) :
    stdIsZero (ys.map fin) = true ↔ ∀ y ∈ ys, y = ys.sum / ys.length := by
  have count : ((ys.length : ℚ) - 1) ≠ 0 := by
    have : (2 : ℚ) ≤ ys.length := by exact_mod_cast two
    linarith
  have positive : (ys.length : ℚ) ≠ 0 := by
    have : (2 : ℚ) ≤ ys.length := by exact_mod_cast two
    linarith
  have deviations : (ys.map fin).map (fun x => mul (sub (fin (ys.sum / ys.length)) x)
      (sub (fin (ys.sum / ys.length)) x)) =
      (ys.map fun y => (ys.sum / ys.length - y) * (ys.sum / ys.length - y)).map fin := by
    simp [Function.comp_def]
  simp only [stdIsZero, variance, skipNan_map_fin, List.length_map,
    show ¬ ys.length ≤ 1 by omega, if_false, sumNums_map_fin, div_fin_of_ne positive,
    deviations, div_fin_of_ne count, decide_eq_true_eq, fin.injEq, div_eq_zero_iff, count,
    or_false]
  have squares := sum_mul_self_eq_zero_iff (ys.map fun y => ys.sum / ys.length - y)
  simp only [List.map_map, Function.comp_def, List.mem_map, forall_exists_index, and_imp,
    forall_apply_eq_imp_iff₂, sub_eq_zero] at squares
  rw [squares]
  exact forall₂_congr fun _ _ => eq_comm

/-- A column with two different finite values does not have a zero standard deviation. -/
theorem stdIsZero_map_fin_eq_false {ys : List ℚ} {a b : ℚ} (memberA : a ∈ ys) (memberB : b ∈ ys)
    (different : a ≠ b) : stdIsZero (ys.map fin) = false := by
  have two : 2 ≤ ys.length := by
    by_contra short
    obtain ⟨x, rfl⟩ :=
      List.length_eq_one.mp (le_antisymm (by omega) (List.length_pos_of_mem memberA))
    exact different ((List.mem_singleton.mp memberA).trans (List.mem_singleton.mp memberB).symm)
  rw [Bool.eq_false_iff, ne_eq, stdIsZero_map_fin two]
  intro constant
  exact different ((constant a memberA).trans (constant b memberB).symm)

theorem stdIsZero_pair {a b : ℚ} (different : a ≠ b) : stdIsZero [fin a, fin b] = false :=
  stdIsZero_map_fin_eq_false (List.mem_cons_self a [b])
    (List.mem_cons_of_mem a (List.mem_singleton_self b)) different

end Stats

end DdosAnalysis
