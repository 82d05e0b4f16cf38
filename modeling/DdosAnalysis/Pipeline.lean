import DdosAnalysis.Artifacts
import DdosAnalysis.Training
import DdosAnalysis.FeatureColumns

/-! # The `__main__` pipeline

After `preprocess_unified_data`, `__main__` scales the matrices with a robust scaler,
selects `min(50, n)` of their `n` columns by mutual information, runs the model search on
the result, saves the model, the scaler and the metadata, and prints a table of the best
model's feature importances beside the selected feature names.

The scaled and selected matrices are NumPy arrays, kept here by their shapes: what the
composition of the saved components depends on is which columns the scaler was fitted on,
how long the selector's mask is and how many columns it keeps. The scores of
`mutual_info_classif` and `f_classif`, and the importances the forest of RFE assigns, are
library computations, taken as given.
-/

namespace DdosAnalysis.Pipeline

open Preprocess Artifacts Training

variable {rows : Nat}

/-! ## Scaling -/

/-- The shape of a NumPy array. -/
structure Shape where
  rows : Nat
  columns : Nat
  deriving DecidableEq, Repr

/-- The scaler `scale_features` builds for a `method`. -/
def scalerKind (method : String) : ScalerKind :=
  if method = "robust" then .robust else if method = "minmax" then .minmax else .standard

/-- `scale_features(X_train, X_test, method)`: `fit_transform` and `transform` raise
`ValueError` on a frame without rows or columns, and on an `X_test` whose column names are
not those fitted. -/
def scaleFeatures (split : SplitData) (method : String) (self : Analyzer) :
    Except PyError ((Shape × Shape) × Analyzer) :=
  let columns := split.xTrain.map Prod.fst
  if split.trainRows = 0 ∨ columns = [] ∨ split.testRows = 0 ∨
      split.xTest.map Prod.fst ≠ columns then .error .valueError
  else .ok ((⟨split.trainRows, columns.length⟩, ⟨split.testRows, columns.length⟩),
    { self with scaler := .estimator (.scaler (scalerKind method) columns) })

/-! ## Feature selection -/

/-- The library computations of `feature_selection`: the score `mutual_info_classif` and
`f_classif` give each column of `X_train`, and the importance the forest of RFE gives a
column when fitted on the given remaining columns. -/
structure SelectionOutcomes where
  mutualInfo : Nat → ℚ
  fClassif : Nat → ℚ
  importance : List Nat → Nat → ℚ

/-- `get_support()` of a selector that keeps the columns `kept` of `columns`. -/
def supportMask (columns : Nat) (kept : List Nat) : List Bool :=
  (List.range columns).map fun column => decide (column ∈ kept)

/-- The columns `SelectKBest(score_func, k=k)` keeps: the last `k` places of
`np.argsort(scores, kind="mergesort")`, a stable sort. -/
def kBest (score : Nat → ℚ) (columns k : Nat) : List Nat :=
  ((List.range columns).mergeSort fun first second =>
    decide (score first ≤ score second)).drop (columns - k)

/-- The column a round of RFE drops: the first place of `np.argsort(importances)`; ties are
taken to go to the earlier column. -/
def weakest (importance : List Nat → Nat → ℚ) (remaining : List Nat) : Nat :=
  ((remaining.mergeSort fun first second =>
    decide (importance remaining first ≤ importance remaining second)).head?).getD 0

/-- The rounds of `RFE.fit` with `step=1`: each refits the forest on the remaining columns
and drops the weakest. -/
def eliminate (importance : List Nat → Nat → ℚ) : Nat → List Nat → List Nat
  | 0, remaining => remaining
  | rounds + 1, remaining =>
      eliminate importance rounds (remaining.erase (weakest importance remaining))

/-- The columns `RFE(estimator, n_features_to_select=k)` keeps: its loop
`while np.sum(support_) > n_features_to_select` runs once per column above `k`. -/
def rfeKept (importance : List Nat → Nat → ℚ) (columns k : Nat) : List Nat :=
  eliminate importance (columns - k) (List.range columns)

/-- The selector `feature_selection` fits on `columns` columns for a `method`, with
`k = min(k, X_train.shape[1])`; `none` is the `else` branch, which selects nothing. -/
def fitSelector (outcomes : SelectionOutcomes) (method : String) (columns k : Nat) :
    Option (SelectorKind × List Bool) :=
  let k := min k columns
  if method = "mutual_info" then
    some (.mutualInfo, supportMask columns (kBest outcomes.mutualInfo columns k))
  else if method = "f_classif" then
    some (.fClassif, supportMask columns (kBest outcomes.fClassif columns k))
  else if method = "rfe" then
    some (.rfe, supportMask columns (rfeKept outcomes.importance columns k))
  else none

/-- The labels of `columns` at the true places of `support`, indexing the mask by position:
`IndexError` past its end. -/
def pickSupported : List String → List Bool → Except PyError (List String)
  | [], _ => .ok []
  | _ :: _, [] => .error .indexError
  | column :: rest, keep :: support =>
      (fun kept => if keep then column :: kept else kept) <$> pickSupported rest support

/-- `[self.feature_columns[i] for i in range(len(self.feature_columns))
if selector.get_support()[i]]`. -/
def selectedFeatures (featureColumns : PyObject) (support : List Bool) :
    Except PyError (List String) :=
  match featureColumns with
  | .strList columns => pickSupported columns support
  | _ => .error .typeError

/-- `feature_selection(X_train, X_test, y_train, method, k)`: the selected arrays, by shape,
and the analyzer with `feature_selector` set; `transform(X_test)` raises `ValueError` on an
`X_test` of another width. -/
def featureSelection (outcomes : SelectionOutcomes) (method : String) (k : Nat)
    (shapes : Shape × Shape) (self : Analyzer) : Except PyError ((Shape × Shape) × Analyzer) :=
  match fitSelector outcomes method shapes.1.columns k with
  | none => .ok (shapes, self)
  | some (kind, support) =>
      if shapes.2.columns ≠ shapes.1.columns then .error .valueError
      else do
        let self := { self with featureSelector := .estimator (.selector kind support) }
        let _ ← selectedFeatures self.featureColumns support
        pure ((⟨shapes.1.rows, support.count true⟩, ⟨shapes.2.rows, support.count true⟩),
          self)

/-! ### Masks -/

@[simp]
theorem length_supportMask (columns : Nat) (kept : List Nat) :
    (supportMask columns kept).length = columns := by
  simp [supportMask]

/-- A mask over distinct columns in range keeps exactly those columns. -/
theorem count_supportMask {columns : Nat} {kept : List Nat} (unique : kept.Nodup)
    (within : ∀ column ∈ kept, column < columns) :
    (supportMask columns kept).count true = kept.length := by
  rw [supportMask, List.count_eq_countP, List.countP_map, List.countP_eq_length_filter]
  apply List.Perm.length_eq
  rw [List.perm_ext_iff_of_nodup ((List.nodup_range columns).filter _) unique]
  intro column
  simp only [List.mem_filter, List.mem_range, Function.comp, beq_iff_eq, decide_eq_true_eq]
  exact ⟨And.right, fun member => ⟨within column member, member⟩⟩

/-- `k` distinct columns in range, for any `k` up to the width. -/
structure KeepsColumns (columns k : Nat) (kept : List Nat) : Prop where
  unique : kept.Nodup
  within : ∀ column ∈ kept, column < columns
  length : kept.length = k

theorem KeepsColumns.count_supportMask {columns k : Nat} {kept : List Nat}
    (keeps : KeepsColumns columns k kept) : (supportMask columns kept).count true = k :=
  (Pipeline.count_supportMask keeps.unique keeps.within).trans keeps.length

theorem kBest_keepsColumns (score : Nat → ℚ) {columns k : Nat} (atMost : k ≤ columns) :
    KeepsColumns columns k (kBest score columns k) := by
  have sorted := List.mergeSort_perm (List.range columns) fun first second =>
    decide (score first ≤ score second)
  refine ⟨(sorted.nodup_iff.mpr (List.nodup_range columns)).sublist (List.drop_sublist _ _),
    fun column member => List.mem_range.mp (sorted.subset (List.mem_of_mem_drop member)), ?_⟩
  rw [kBest, List.length_drop, sorted.length_eq, List.length_range]
  omega

/-- Each round of RFE drops one of the remaining columns. -/
theorem eliminate_sublist (importance : List Nat → Nat → ℚ) :
    ∀ (rounds : Nat) (remaining : List Nat),
      (eliminate importance rounds remaining).Sublist remaining
  | 0, _ => List.Sublist.refl _
  | rounds + 1, _ => (eliminate_sublist importance rounds _).trans (List.erase_sublist _ _)

theorem weakest_mem (importance : List Nat → Nat → ℚ) {remaining : List Nat}
    (nonempty : remaining ≠ []) : weakest importance remaining ∈ remaining := by
  have sorted := List.mergeSort_perm remaining fun first second =>
    decide (importance remaining first ≤ importance remaining second)
  unfold weakest
  cases ranked : remaining.mergeSort fun first second =>
      decide (importance remaining first ≤ importance remaining second) with
  | nil => exact absurd (List.Perm.eq_nil (ranked ▸ sorted).symm) nonempty
  | cons first _ => exact (ranked ▸ sorted).subset (List.mem_cons_self first _)

theorem length_eliminate (importance : List Nat → Nat → ℚ) :
    ∀ (rounds : Nat) (remaining : List Nat),
      (eliminate importance rounds remaining).length = remaining.length - rounds
  | 0, _ => rfl
  | rounds + 1, [] => by simp [eliminate, length_eliminate importance rounds]
  | rounds + 1, column :: rest => by
      rw [eliminate, length_eliminate importance rounds,
        List.length_erase_of_mem (weakest_mem importance (List.cons_ne_nil _ _))]
      simp only [List.length_cons]
      omega

theorem rfeKept_keepsColumns (importance : List Nat → Nat → ℚ) {columns k : Nat}
    (atMost : k ≤ columns) : KeepsColumns columns k (rfeKept importance columns k) := by
  have kept := eliminate_sublist importance (columns - k) (List.range columns)
  refine ⟨(List.nodup_range columns).sublist kept,
    fun column member => List.mem_range.mp (kept.subset member), ?_⟩
  rw [rfeKept, length_eliminate, List.length_range]
  omega

/-- Every selector `feature_selection` fits has a mask of one entry per column, keeping
`min(k, n)` of them. -/
theorem fitSelector_support {outcomes : SelectionOutcomes} {method : String} {columns k : Nat}
    {kind : SelectorKind} {support : List Bool}
    (fitted : fitSelector outcomes method columns k = some (kind, support)) :
    support.length = columns ∧ support.count true = min k columns := by
  have atMost : min k columns ≤ columns := min_le_right k columns
  unfold fitSelector at fitted
  split at fitted
  · cases fitted
    exact ⟨length_supportMask _ _, (kBest_keepsColumns _ atMost).count_supportMask⟩
  · split at fitted
    · cases fitted
      exact ⟨length_supportMask _ _, (kBest_keepsColumns _ atMost).count_supportMask⟩
    · split at fitted
      · cases fitted
        exact ⟨length_supportMask _ _, (rfeKept_keepsColumns _ atMost).count_supportMask⟩
      · cases fitted

/-- Indexing the mask at every position of `feature_columns` stays in range when the two
have one entry per column. -/
theorem pickSupported_of_length_eq :
    ∀ (columns : List String) (support : List Bool), columns.length = support.length →
      ∃ kept, pickSupported columns support = .ok kept ∧ kept.length = support.count true
  | [], [], _ => ⟨[], rfl, rfl⟩
  | column :: rest, keep :: support, sameLength => by
      obtain ⟨kept, picked, counted⟩ :=
        pickSupported_of_length_eq rest support (Nat.succ.inj sameLength)
      refine ⟨if keep then column :: kept else kept, by rw [pickSupported, picked]; rfl, ?_⟩
      cases keep <;> simp [counted]

/-! ## `__main__` -/

/-- `selected_features` of the importance table: the selected feature names when
`feature_selector` has a mask, else `feature_columns`; `none` for an object that is no list,
which `pd.DataFrame` broadcasts. -/
def importanceFeatures (self : Analyzer) : Except PyError (Option (List String)) :=
  match self.featureSelector with
  | .estimator (.selector _ support) => some <$> selectedFeatures self.featureColumns support
  | _ => match self.featureColumns with
    | .strList columns => .ok (some columns)
    | _ => .ok none

/-- The block `if best_model_name in results:` of `__main__`: with feature importances,
`pd.DataFrame` raises `ValueError` unless `selected_features` has one entry per importance. -/
def importanceReport (self : Analyzer) (state : SearchState) : Except PyError Unit :=
  match state.bestModel with
  | some model =>
      if state.bestModelName ∈ state.results.map Prod.fst ∧ model.hasFeatureImportances then do
        match ← importanceFeatures self with
        | some features =>
            if some features.length = model.nFeaturesIn then pure () else .error .valueError
        | none => pure ()
      else pure ()
  | none => pure ()

/-- `__main__` from `preprocess_unified_data(combined_df)` up to the call of
`save_model_and_scaler`: the analyzer and the search's variables then, or `none` when the
preprocessing returns no matrices. -/
def untilSave (split : SplitOracle) (selection : SelectionOutcomes) (training : Outcomes)
    (combined : Frame rows) : Except PyError (Option (Analyzer × SearchState)) := do
  match ← preprocessUnifiedData split "label" combined Analyzer.init with
  | (none, _) => pure none
  | (some out, self) =>
      let (shapes, self) ← scaleFeatures out "robust" self
      let (shapes, self) ← featureSelection selection "mutual_info" 50 shapes self
      let (state, self) ← trainBestModel training shapes.1.rows shapes.1.columns self
      pure (some (self, state))

theorem scaleFeatures_eq_ok {split : SplitData} {method : String} {self self' : Analyzer}
    {shapes : Shape × Shape} (scaled : scaleFeatures split method self = .ok (shapes, self')) :
    shapes = (⟨split.trainRows, (split.xTrain.map Prod.fst).length⟩,
        ⟨split.testRows, (split.xTrain.map Prod.fst).length⟩) ∧
      self' = { self with scaler := .estimator (.scaler (scalerKind method)
        (split.xTrain.map Prod.fst)) } := by
  unfold scaleFeatures at scaled
  dsimp only at scaled
  split at scaled
  · cases scaled
  · cases scaled
    exact ⟨rfl, rfl⟩

/-- On the matrices `preprocess_unified_data` returns, scaling raises only for an `X_train`
without columns. -/
theorem scaleFeatures_of_returned {split : SplitOracle} {target : String} {df : Frame rows}
    {self self' : Analyzer} {out : SplitData}
    (returned : preprocessUnifiedData split target df self = .ok (some out, self'))
    (features : out.xTrain.map Prod.fst ≠ []) (method : String) (analyzer : Analyzer) :
    scaleFeatures out method analyzer = .ok ((⟨out.trainRows, (out.xTrain.map Prod.fst).length⟩,
      ⟨out.testRows, (out.xTrain.map Prod.fst).length⟩),
      { analyzer with scaler := .estimator (.scaler (scalerKind method)
        (out.xTrain.map Prod.fst)) }) := by
  obtain ⟨_, _, _, _, train, test, -, -, -, partition, rfl, -⟩ :=
    preprocessUnifiedData_eq_some returned
  have sameNames := (featureColumns_eq_of_returned returned).2
  obtain ⟨-, trained, tested⟩ := trainTestSplit_partition partition
  unfold scaleFeatures
  rw [if_neg]
  simp only [splitData, not_or, ne_eq, List.length_eq_zero, not_not] at sameNames features ⊢
  exact ⟨trained, features, tested, sameNames⟩

theorem fitSelector_mutualInfo (outcomes : SelectionOutcomes) (columns k : Nat) :
    fitSelector outcomes "mutual_info" columns k =
      some (.mutualInfo, supportMask columns (kBest outcomes.mutualInfo columns (min k columns))) :=
  rfl

theorem featureSelection_eq_ok {outcomes : SelectionOutcomes} {method : String} {k : Nat}
    {shapes shapes' : Shape × Shape} {self self' : Analyzer} {kind : SelectorKind}
    {support : List Bool}
    (fitted : fitSelector outcomes method shapes.1.columns k = some (kind, support))
    (selected : featureSelection outcomes method k shapes self = .ok (shapes', self')) :
    shapes'.1 = ⟨shapes.1.rows, support.count true⟩ ∧
      self' = { self with featureSelector := .estimator (.selector kind support) } := by
  simp only [featureSelection, fitted] at selected
  split at selected
  · cases selected
  · obtain ⟨_, -, selected⟩ := bind_eq_ok.mp selected
    cases selected
    exact ⟨rfl, rfl⟩

/-- With `feature_columns` naming one column per column of the matrices, selection by
mutual information returns. -/
theorem featureSelection_of_listed (outcomes : SelectionOutcomes) (k : Nat)
    {shapes : Shape × Shape} {self : Analyzer} {columns : List String}
    (listed : self.featureColumns = .strList columns) (width : columns.length = shapes.1.columns)
    (sameWidth : shapes.2.columns = shapes.1.columns) :
    ∃ result, featureSelection outcomes "mutual_info" k shapes self = .ok result := by
  obtain ⟨kept, picked, -⟩ := pickSupported_of_length_eq columns
    (supportMask shapes.1.columns (kBest outcomes.mutualInfo shapes.1.columns
      (min k shapes.1.columns))) (by rw [length_supportMask, width])
  simp only [featureSelection, fitSelector_mutualInfo, sameWidth, ne_eq, not_true_eq_false,
    if_false, listed, selectedFeatures, picked]
  exact ⟨_, rfl⟩

/-- The importance table gets one selected name per importance when the mask has one entry
per feature column and the best model was fitted on the columns the mask keeps. -/
theorem importanceReport_ok {self : Analyzer} {state : SearchState} {kind : SelectorKind}
    {support : List Bool} {columns : List String}
    (selector : self.featureSelector = .estimator (.selector kind support))
    (listed : self.featureColumns = .strList columns) (width : columns.length = support.length)
    (fitted : ∀ model, state.bestModel = some model →
      model.nFeaturesIn = some (support.count true)) :
    importanceReport self state = .ok () := by
  obtain ⟨kept, picked, counted⟩ := pickSupported_of_length_eq columns support width
  have features : importanceFeatures self = .ok (some kept) := by
    simp only [importanceFeatures, selector, selectedFeatures, listed, picked]
    rfl
  unfold importanceReport
  cases best : state.bestModel with
  | none => rfl
  | some model =>
      have agrees : some kept.length = model.nFeaturesIn := by rw [fitted model best, counted]
      simp only [features]
      split
      · exact if_pos agrees
      · rfl

/-! ## The run up to the save -/

theorem untilSave_eq_some {split : SplitOracle} {selection : SelectionOutcomes}
    {training : Outcomes} {combined : Frame rows} {self : Analyzer} {state : SearchState}
    (reached : untilSave split selection training combined = .ok (some (self, state))) :
    ∃ out preprocessed shapes scaled selectedShapes selected,
      preprocessUnifiedData split "label" combined Analyzer.init = .ok (some out, preprocessed) ∧
      scaleFeatures out "robust" preprocessed = .ok (shapes, scaled) ∧
      featureSelection selection "mutual_info" 50 shapes scaled = .ok (selectedShapes, selected) ∧
      trainBestModel training selectedShapes.1.rows selectedShapes.1.columns selected =
        .ok (state, self) := by
  unfold untilSave at reached
  obtain ⟨⟨result, preprocessed⟩, returned, reached⟩ := bind_eq_ok.mp reached
  cases result with
  | none => cases reached
  | some out =>
      obtain ⟨⟨shapes, scaled⟩, scaling, reached⟩ := bind_eq_ok.mp reached
      obtain ⟨⟨selectedShapes, selected⟩, selecting, reached⟩ := bind_eq_ok.mp reached
      obtain ⟨⟨state', self'⟩, searched, reached⟩ := bind_eq_ok.mp reached
      cases reached
      exact ⟨out, preprocessed, shapes, scaled, selectedShapes, selected, returned, scaling,
        selecting, searched⟩

/-- What `__main__` hands `save_model_and_scaler` after preprocessing returned `out`:
`feature_columns` lists the columns of `X_train`, on which the scaler was fitted; the
selector's mask has one entry per column and keeps `min(50, n)` of them; the best model,
if any, was fitted on as many columns; the importance table stays in range; and a save
that writes is loaded back as it was. -/
def ComponentsCompose (out : SplitData) (self : Analyzer) (state : SearchState) : Prop :=
  ∃ support : List Bool,
    self.featureColumns = .strList (out.xTrain.map Prod.fst) ∧
    self.scaler = .estimator (.scaler .robust (out.xTrain.map Prod.fst)) ∧
    self.featureSelector = .estimator (.selector .mutualInfo support) ∧
    support.length = (out.xTrain.map Prod.fst).length ∧
    support.count true = min 50 (out.xTrain.map Prod.fst).length ∧
    (∀ model, self.bestModel = .estimator model →
      model.nFeaturesIn = some (support.count true)) ∧
    importanceReport self state = .ok () ∧
    ∀ disk saved paths,
      saveModelAndScaler disk "unified_ddos_best_model" self = .ok (saved, some paths) →
        loadModelAndScaler saved "unified_ddos_best_model" Analyzer.init = (true, self)

theorem nFeaturesIn_of_bestModelObject {state : SearchState} {features : Nat}
    (fitted : ∀ model, state.bestModel = some model → model.nFeaturesIn = some features)
    {model : Estimator} (saved : bestModelObject state.bestModel = .estimator model) :
    model.nFeaturesIn = some features := by
  cases best : state.bestModel with
  | none => rw [best] at saved; cases saved
  | some chosen =>
      rw [best] at saved
      cases saved
      exact fitted _ best

/-- The components a run that reaches the save holds, by the steps that set them. -/
theorem untilSave_components {split : SplitOracle} {selection : SelectionOutcomes}
    {training : Outcomes} {combined : Frame rows} {self : Analyzer} {state : SearchState}
    (reached : untilSave split selection training combined = .ok (some (self, state))) :
    ∃ out preprocessed support,
      preprocessUnifiedData split "label" combined Analyzer.init = .ok (some out, preprocessed) ∧
      self.featureColumns = .strList (out.xTrain.map Prod.fst) ∧
      self.scaler = .estimator (.scaler .robust (out.xTrain.map Prod.fst)) ∧
      self.featureSelector = .estimator (.selector .mutualInfo support) ∧
      support.length = (out.xTrain.map Prod.fst).length ∧
      support.count true = min 50 (out.xTrain.map Prod.fst).length ∧
      (∀ model, state.bestModel = some model → model.nFeaturesIn = some (support.count true)) ∧
      self.bestModel = bestModelObject state.bestModel := by
  obtain ⟨out, preprocessed, shapes, scaled, selectedShapes, selected, returned, scaling,
    selecting, searched⟩ := untilSave_eq_some reached
  have listed := (featureColumns_eq_of_returned returned).1
  obtain ⟨rfl, rfl⟩ := scaleFeatures_eq_ok scaling
  obtain ⟨selectedTrain, rfl⟩ := featureSelection_eq_ok (fitSelector_mutualInfo _ _ _) selecting
  obtain ⟨width, kept⟩ := fitSelector_support (fitSelector_mutualInfo selection _ 50)
  have fitted : ∀ model, state.bestModel = some model → model.nFeaturesIn = some _ :=
    fun model best => selectedTrain ▸ nFeaturesIn_of_trainBestModel searched best
  obtain ⟨-, -, rfl⟩ := trainBestModel_eq_ok searched
  exact ⟨out, preprocessed, _, returned, listed, rfl, rfl, width, kept, fitted, rfl⟩

/-- Every run of `__main__` that reaches `save_model_and_scaler` hands it components that
compose. -/
theorem savedComponents_compose {split : SplitOracle} {selection : SelectionOutcomes}
    {training : Outcomes} {combined : Frame rows} {self : Analyzer} {state : SearchState}
    (reached : untilSave split selection training combined = .ok (some (self, state))) :
    ∃ out preprocessed,
      preprocessUnifiedData split "label" combined Analyzer.init = .ok (some out, preprocessed) ∧
      ComponentsCompose out self state := by
  obtain ⟨out, preprocessed, support, returned, listed, scaler, selector, width, kept, fitted,
    chosen⟩ := untilSave_components reached
  exact ⟨out, preprocessed, returned, support, listed, scaler, selector, width, kept,
    fun model saved => nFeaturesIn_of_bestModelObject fitted (chosen ▸ saved),
    importanceReport_ok selector listed width.symm fitted,
    fun disk saved paths saving => loadModelAndScaler_of_saved saving _⟩

/-- `__main__` reaches the save whenever preprocessing returns an `X_train` with a column
and the model search returns. -/
theorem untilSave_returns {split : SplitOracle} {selection : SelectionOutcomes}
    {training : Outcomes} {combined : Frame rows} {out : SplitData} {preprocessed : Analyzer}
    (returned : preprocessUnifiedData split "label" combined Analyzer.init =
      .ok (some out, preprocessed))
    (features : out.xTrain.map Prod.fst ≠ [])
    (searches : ∀ self, ∃ result, trainBestModel training out.trainRows
      (min 50 (out.xTrain.map Prod.fst).length) self = .ok result) :
    ∃ self state, untilSave split selection training combined = .ok (some (self, state)) := by
  have scaling := scaleFeatures_of_returned returned features "robust" preprocessed
  obtain ⟨⟨selectedShapes, selected⟩, selecting⟩ : ∃ result, featureSelection selection
      "mutual_info" 50 (⟨out.trainRows, (out.xTrain.map Prod.fst).length⟩,
        ⟨out.testRows, (out.xTrain.map Prod.fst).length⟩)
      { preprocessed with scaler := .estimator (.scaler (scalerKind "robust")
        (out.xTrain.map Prod.fst)) } = .ok result :=
    featureSelection_of_listed selection 50 (featureColumns_eq_of_returned returned).1 rfl rfl
  obtain ⟨selectedTrain, -⟩ := featureSelection_eq_ok (fitSelector_mutualInfo _ _ _) selecting
  obtain ⟨-, kept⟩ := fitSelector_support (fitSelector_mutualInfo selection
    (out.xTrain.map Prod.fst).length 50)
  obtain ⟨⟨state, self⟩, searched⟩ := searches selected
  have trained : trainBestModel training selectedShapes.1.rows selectedShapes.1.columns selected =
      .ok (state, self) := by
    rw [selectedTrain, kept]
    exact searched
  exact ⟨self, state, bind_eq_ok.mpr ⟨_, returned, bind_eq_ok.mpr ⟨_, scaling,
    bind_eq_ok.mpr ⟨_, selecting, bind_eq_ok.mpr ⟨_, trained, rfl⟩⟩⟩⟩⟩

/-- Scores that rank every column alike. -/
def flatScores : SelectionOutcomes :=
  ⟨fun _ => 0, fun _ => 0, fun _ _ => 0⟩

/-- With the search where only the forest returns, `__main__` reaches the save with the
forest as its best model whenever preprocessing returns an `X_train` with a column. -/
theorem untilSave_forestOnly {split : SplitOracle} (selection : SelectionOutcomes)
    {combined : Frame rows} {out : SplitData} {preprocessed : Analyzer}
    (returned : preprocessUnifiedData split "label" combined Analyzer.init =
      .ok (some out, preprocessed))
    (features : out.xTrain.map Prod.fst ≠ []) :
    ∃ self state model, untilSave split selection forestOnly combined =
      .ok (some (self, state)) ∧ self.bestModel = .estimator model := by
  obtain ⟨self, state, reached⟩ := untilSave_returns returned features fun self =>
    (trainBestModel_forestOnly _ _ self).elim fun _ forest => ⟨_, forest⟩
  obtain ⟨_, _, _, _, selectedShapes, selected, -, -, -, searched⟩ := untilSave_eq_some reached
  obtain ⟨_, forest⟩ := trainBestModel_forestOnly selectedShapes.1.rows
    selectedShapes.1.columns selected
  rw [forest] at searched
  cases searched
  exact ⟨_, _, _, reached, rfl⟩

theorem protocolFlows_reaches_save :
    ∃ self state, untilSave unshuffledOracle flatScores forestOnly protocolFlows.frame =
      .ok (some (self, state)) := by
  obtain ⟨out, preprocessed, returned⟩ := protocolFlows_returns unshuffledOracle
  have protocol := mem_xTrain_of_numeric returned
    (List.mem_cons_of_mem _ (List.mem_cons_self _ _)) (by decide) (by decide) (by decide)
    (by decide) (by decide) (Stats.stdIsZero_pair (by norm_num))
  obtain ⟨self, state, -, reached, -⟩ :=
    untilSave_forestOnly flatScores returned (List.ne_nil_of_mem protocol)
  exact ⟨self, state, reached⟩

theorem protocolFlows_components_compose :
    ∃ self state, untilSave unshuffledOracle flatScores forestOnly protocolFlows.frame =
        .ok (some (self, state)) ∧
      ∃ out preprocessed, preprocessUnifiedData unshuffledOracle "label" protocolFlows.frame
          Analyzer.init = .ok (some out, preprocessed) ∧ ComponentsCompose out self state := by
  obtain ⟨self, state, reached⟩ := protocolFlows_reaches_save
  exact ⟨self, state, reached, savedComponents_compose reached⟩

end DdosAnalysis.Pipeline
