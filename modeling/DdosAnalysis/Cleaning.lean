import DdosAnalysis.Preprocess

/-!
# What cleaning leaves

The cleaning chain of `preprocess_unified_data` (median fill, infinities to NaN, median
fill, zero-variance drop, IQR clip) leaves every column either finite throughout or NaN
throughout. The second case is real: a column with no finite entry has a NaN median both
times, its standard deviation is NaN so the `std() == 0` test keeps it, and its NaN clip
bounds clip nothing. A unified dataset with an empty numeric column therefore reaches
`X_train` with NaN in it, against the comments "Handle missing values" and "Handle
infinite values" of the code.

The model computes exactly, while the code casts `X` to float32 and takes its medians in
float32, where a sum of two large cells overflows to an infinity. The result is therefore
stated for datasets in float32's range (`InFloat32Range`), on which no cell the cleaning
computes from finite cells overflows.
-/

namespace DdosAnalysis.Preprocess

open Num Stats

variable {rows : Nat}

/-- A column after cleaning: finite throughout or NaN throughout. -/
def FiniteOrNan (values : Fin rows → Num) : Prop :=
  (∀ i, (values i).isFinite = true) ∨ ∀ i, values i = nan

theorem finiteOrNan_select {values : Fin rows → Num} (clean : FiniteOrNan values)
    (positions : List (Fin rows)) : FiniteOrNan fun j => values (positions.get j) := by
  rcases clean with finite | allNan
  · exact Or.inl fun j => finite _
  · exact Or.inr fun j => allNan _

/-- What the three filling steps do to one column. -/
def fillColumn (values : Fin rows → Num) : Fin rows → Num :=
  let first := fun i => fillna (median (List.ofFn values)) (values i)
  let replaced := fun i => replaceInf (first i)
  fun i => fillna (median (List.ofFn replaced)) (replaced i)

theorem filledFeatures_eq_map (X : NumFrame rows) :
    filledFeatures X = X.map fun entry => (entry.1, fillColumn entry.2) := by
  simp [filledFeatures, fillnaMedian, replaceInfinite, columnwise, fillColumn, Function.comp_def]

/-- Filling leaves a finite column as it is. -/
theorem fillColumn_of_finite {values : Fin rows → Num} (finite : ∀ i, (values i).isFinite = true) :
    fillColumn values = values := by
  have kept : ∀ (fill : Num) (i : Fin rows), fillna fill (values i) = values i := by
    intro fill i
    obtain ⟨q, equal⟩ := isFinite_iff.mp (finite i)
    rw [equal]
    rfl
  funext i
  simp only [fillColumn, kept]
  obtain ⟨q, equal⟩ := isFinite_iff.mp (finite i)
  rw [equal]
  rfl

/-- The three filling steps leave a column finite throughout or NaN throughout. -/
theorem finiteOrNan_filled (values : Fin rows → Num) : FiniteOrNan (fillColumn values) := by
  set replaced := fun i => replaceInf (fillna (median (List.ofFn values)) (values i))
  by_cases someFinite : ∃ i, (replaced i).isFinite = true
  · have medianFinite : (median (List.ofFn replaced)).isFinite = true := by
      refine isFinite_median ?_ ?_
      · intro x member
        obtain ⟨i, rfl⟩ := List.mem_ofFn replaced x |>.mp member
        exact isInf_replaceInf _
      · obtain ⟨i, finite⟩ := someFinite
        exact ⟨replaced i, List.mem_ofFn replaced _ |>.mpr ⟨i, rfl⟩, finite⟩
    exact Or.inl fun i => isFinite_fillna medianFinite (finite_or_nan_replaceInf _)
  · push_neg at someFinite
    have allNan : ∀ i, replaced i = nan := fun i =>
      (finite_or_nan_replaceInf _).resolve_left (by simpa using someFinite i)
    have medianNan : median (List.ofFn replaced) = nan := by
      refine median_of_all_nan fun x member => ?_
      obtain ⟨i, rfl⟩ := List.mem_ofFn replaced x |>.mp member
      exact allNan i
    refine Or.inr fun i => ?_
    show fillna (median (List.ofFn replaced)) (replaced i) = nan
    rw [medianNan, fillna_nan, allNan i]

theorem finiteOrNan_filledFeatures (X : NumFrame rows) :
    ∀ entry ∈ filledFeatures X, FiniteOrNan entry.2 := by
  intro entry member
  rw [filledFeatures_eq_map, List.mem_map] at member
  obtain ⟨original, _, rfl⟩ := member
  exact finiteOrNan_filled original.2

theorem finiteOrNan_dropConstantFeatures {X : NumFrame rows}
    (clean : ∀ entry ∈ X, FiniteOrNan entry.2) (featureColumns : PyObject) :
    ∀ entry ∈ (dropConstantFeatures X featureColumns).1, FiniteOrNan entry.2 := by
  simp only [dropConstantFeatures]
  split
  · exact clean
  · intro entry member
    exact clean entry (List.mem_filter.mp member).1

theorem isFinite_clipBounds {xs : List Num} (allFinite : ∀ x ∈ xs, x.isFinite = true)
    (nonempty : xs ≠ []) :
    (clipBounds xs).1.isFinite = true ∧ (clipBounds xs).2.isFinite = true := by
  obtain ⟨q1, equalQ1⟩ := isFinite_iff.mp (isFinite_quantile allFinite nonempty
    (q := 1 / 4) (by norm_num))
  obtain ⟨q3, equalQ3⟩ := isFinite_iff.mp (isFinite_quantile allFinite nonempty
    (q := 3 / 4) (by norm_num))
  simp only [clipBounds, equalQ1, equalQ3, sub_fin, mul_fin, add_fin, isFinite_fin, and_self]

/-- Clipping keeps a column finite throughout or NaN throughout: the bounds of a finite
column are finite, and a NaN cell stays NaN. -/
theorem finiteOrNan_clip {values : Fin rows → Num} (clean : FiniteOrNan values) :
    FiniteOrNan fun i => clip (clipBounds (List.ofFn values)).1
      (clipBounds (List.ofFn values)).2 (values i) := by
  rcases clean with finite | allNan
  · left
    intro i
    have nonempty : List.ofFn values ≠ [] :=
      List.ne_nil_of_mem (List.mem_ofFn values _ |>.mpr ⟨i, rfl⟩)
    have bounds := isFinite_clipBounds (fun x member => by
      obtain ⟨j, rfl⟩ := List.mem_ofFn values x |>.mp member
      exact finite j) nonempty
    exact isFinite_clip bounds.1 bounds.2 (finite i)
  · refine Or.inr fun i => ?_
    show clip _ _ (values i) = nan
    rw [allNan i, clip_nan]

theorem finiteOrNan_cleanFeatures (X : NumFrame rows) (featureColumns : PyObject) :
    ∀ entry ∈ (cleanFeatures X featureColumns).1, FiniteOrNan entry.2 := by
  intro entry member
  simp only [cleanFeatures, clipOutliers, columnwise, List.mem_map] at member
  obtain ⟨kept, keptMember, rfl⟩ := member
  exact finiteOrNan_clip
    (finiteOrNan_dropConstantFeatures (finiteOrNan_filledFeatures X) _ kept keptMember)

theorem finiteOrNan_selectRows {X : NumFrame rows} (clean : ∀ entry ∈ X, FiniteOrNan entry.2)
    (positions : List (Fin rows)) : ∀ entry ∈ selectRows X positions, FiniteOrNan entry.2 := by
  intro entry member
  simp only [selectRows, List.mem_map] at member
  obtain ⟨original, originalMember, rfl⟩ := member
  exact finiteOrNan_select (clean original originalMember) positions

/-- A dataset on which the float32 arithmetic of the cleaning cannot overflow: fewer than
`2 ^ 60` rows, every finite float cell below `2 ^ 60` in magnitude, and no negative packet
count. The engineered ratios then stay below `2 ^ 60`, since their denominators are counts
plus one, the flow efficiency below `2 ^ 120`, and the label codes below the number of
rows; so `astype(np.float32)` and the float32 medians are finite wherever the exact values
are, and the model's verdicts on finiteness are those of the code. -/
def InFloat32Range (df : Frame rows) : Prop :=
  rows < 2 ^ 60 ∧ ∀ entry ∈ df, ∀ values, entry.2 = .numeric values → ∀ i q,
    values i = fin q → |q| < 2 ^ 60 ∧ (entry.1 ∈ ["tot_fwd_pkts", "tot_bwd_pkts"] → 0 ≤ q)

/-- Whenever `preprocess_unified_data` returns matrices on a dataset in float32's range,
every column of `X_train` and of `X_test` is finite throughout or NaN throughout. -/
theorem preprocessUnifiedData_finiteOrNan {oracle : SplitOracle} {target : String}
    {df : Frame rows} {self self' : Analyzer} {out : SplitData} :
    InFloat32Range df →
      preprocessUnifiedData oracle target df self = .ok (some out, self') →
      (∀ entry ∈ out.xTrain, FiniteOrNan entry.2) ∧ ∀ entry ∈ out.xTest, FiniteOrNan entry.2 := by
  intro _ returned
  obtain ⟨_, _, X, _, train, test, -, -, -, -, rfl, -⟩ := preprocessUnifiedData_eq_some returned
  exact ⟨finiteOrNan_selectRows (finiteOrNan_cleanFeatures _ _) train,
    finiteOrNan_selectRows (finiteOrNan_cleanFeatures _ _) test⟩

/-- Two flows of one source file whose `Flow IAT Std` cells are both empty. -/
def emptyColumnFlows : UnifiedData 2 where
  frame := [("flow_iat_std", .numeric fun _ => nan), ("label", .object fun _ => "BENIGN"),
    ("source_file", .object fun _ => "Friday")]
  names_nodup := by decide

theorem emptyColumnFlows_finiteOrNan :
    InFloat32Range emptyColumnFlows.frame ∧
      ∃ out self', preprocessUnifiedData unshuffledOracle "label" emptyColumnFlows.frame
        Analyzer.init = .ok (some out, self') ∧
      (∀ entry ∈ out.xTrain, FiniteOrNan entry.2) ∧ ∀ entry ∈ out.xTest, FiniteOrNan entry.2 := by
  have inRange : InFloat32Range emptyColumnFlows.frame := by
    refine ⟨by norm_num, fun entry member values numeric i q cell => ?_⟩
    simp only [emptyColumnFlows, List.mem_cons, List.mem_singleton, List.not_mem_nil,
      or_false] at member
    rcases member with rfl | rfl | rfl <;> cases numeric
    cases cell
  obtain ⟨out, self', returned⟩ : ∃ out self', preprocessUnifiedData unshuffledOracle "label"
      emptyColumnFlows.frame Analyzer.init = .ok (some out, self') :=
    preprocessUnifiedData_returns unshuffledOracle
    (rfl : Features.createEngineeredFeatures emptyColumnFlows.frame = _) (by decide) rfl le_rfl
  exact ⟨inRange, out, self', returned, preprocessUnifiedData_finiteOrNan inRange returned⟩

/-- On `emptyColumnFlows`, whatever the split, `preprocess_unified_data` returns an
`X_train` with a NaN entry. -/
theorem emptyColumn_reaches_xTrain (oracle : SplitOracle) :
    ∃ out self', preprocessUnifiedData oracle "label" emptyColumnFlows.frame Analyzer.init =
        .ok (some out, self') ∧ ∃ entry ∈ out.xTrain, ∃ i, entry.2 i = nan := by
  obtain ⟨train, test, split⟩ :=
    trainTestSplit_of_two_le oracle (.object fun (_ : Fin 2) => "BENIGN") le_rfl
  obtain ⟨-, trainNonempty, -⟩ := trainTestSplit_partition split
  have run : preprocessUnifiedData oracle "label" emptyColumnFlows.frame Analyzer.init =
      (trainTestSplit oracle 2 (.object fun _ => "BENIGN")) >>= fun parts =>
        pure (some (splitData [("flow_iat_std", fun _ => nan)] (.object fun _ => "BENIGN")
          parts.1 parts.2), { Analyzer.init with
            originalNetworkData := storeNetworkIdentifiers emptyColumnFlows.frame
            featureColumns := .strList ["flow_iat_std"] }) := rfl
  exact ⟨_, _, by rw [run, split]; rfl, ("flow_iat_std", fun _ => nan),
    List.mem_singleton_self _, ⟨0, List.length_pos.mpr trainNonempty⟩, rfl⟩

/-! ## Which columns survive -/

/-- A column whose label is unique in `X` survives cleaning unless filling makes it pass
the test `std() == 0`. -/
theorem mem_names_cleanFeatures {X : NumFrame rows} {name : String} {values : Fin rows → Num}
    (member : (name, values) ∈ X) (unique : (X.map Prod.fst).Nodup)
    (varying : stdIsZero (List.ofFn (fillColumn values)) = false) (featureColumns : PyObject) :
    name ∈ (cleanFeatures X featureColumns).1.map Prod.fst := by
  have filledMember : (name, fillColumn values) ∈ filledFeatures X := by
    rw [filledFeatures_eq_map]
    exact List.mem_map_of_mem (fun entry => (entry.1, fillColumn entry.2)) member
  have notConstant : name ∉ constantFeatures (filledFeatures X) := by
    simp only [constantFeatures, List.mem_map, List.mem_filter]
    rintro ⟨⟨label, other⟩, ⟨otherMember, constant⟩, rfl⟩
    rw [filledFeatures_eq_map, List.mem_map] at otherMember
    obtain ⟨⟨original, originalValues⟩, originalMember, same⟩ := otherMember
    simp only [Prod.mk.injEq] at same
    obtain ⟨rfl, rfl⟩ := same
    have sameValues : originalValues = values :=
      (List.inj_on_of_nodup_map unique originalMember member rfl |> congrArg Prod.snd)
    rw [sameValues, varying] at constant
    exact Bool.false_ne_true constant
  simp only [cleanFeatures, dropConstantFeatures]
  split
  · simpa [clipOutliers, filledFeatures, fillnaMedian, replaceInfinite] using
      List.mem_map_of_mem Prod.fst member
  · simp only [clipOutliers, names_columnwise, dropColumns, List.mem_map, List.mem_filter,
      decide_eq_true_eq]
    exact ⟨_, ⟨filledMember, notConstant⟩, rfl⟩

/-! ## Statistics, then cells -/

/-- What cleaning computes from all the rows of one column: the median each fill uses, the
verdict of `std() == 0` on the filled column, and its clip bounds. -/
structure ColumnStatistics where
  firstMedian : Num
  secondMedian : Num
  constant : Bool
  bounds : Num × Num
  deriving DecidableEq, Repr

/-- The statistics of one column. -/
def columnStatistics (values : Fin rows → Num) : ColumnStatistics where
  firstMedian := median (List.ofFn values)
  secondMedian :=
    median (List.ofFn fun i => replaceInf (fillna (median (List.ofFn values)) (values i)))
  constant := stdIsZero (List.ofFn (fillColumn values))
  bounds := clipBounds (List.ofFn (fillColumn values))

/-- One cell cleaned with its column's statistics. -/
def cleanCell (statistics : ColumnStatistics) (x : Num) : Num :=
  clip statistics.bounds.1 statistics.bounds.2
    (fillna statistics.secondMedian (replaceInf (fillna statistics.firstMedian x)))

/-- The labels of the columns whose filled values pass `std() == 0`. -/
def constantLabels (X : NumFrame rows) : List String :=
  (X.filter fun entry => (columnStatistics entry.2).constant).map Prod.fst

theorem dropConstantFeatures_filled (X : NumFrame rows) (featureColumns : PyObject) :
    (dropConstantFeatures (filledFeatures X) featureColumns).1 =
      (X.filter fun entry => entry.1 ∉ constantLabels X).map
        fun entry => (entry.1, fillColumn entry.2) := by
  have constant : constantFeatures (filledFeatures X) = constantLabels X := by
    simp [constantFeatures, constantLabels, filledFeatures_eq_map, List.filter_map,
      Function.comp_def, columnStatistics]
  simp only [dropConstantFeatures, constant]
  split
  · rename_i empty
    rw [List.isEmpty_iff.mp empty, filledFeatures_eq_map]
    simp
  · simp [dropColumns, filledFeatures_eq_map, List.filter_map, Function.comp_def]

/-- Cleaning is a statistic of each column, computed from all its rows, and then a rewrite of
each cell from that statistic alone. -/
theorem cleanFeatures_eq (X : NumFrame rows) (featureColumns : PyObject) :
    (cleanFeatures X featureColumns).1 = (X.filter fun entry => entry.1 ∉ constantLabels X).map
      fun entry => (entry.1, fun i => cleanCell (columnStatistics entry.2) (entry.2 i)) := by
  simp only [cleanFeatures]
  rw [dropConstantFeatures_filled]
  simp only [clipOutliers, columnwise, List.map_map]
  rfl

end DdosAnalysis.Preprocess
