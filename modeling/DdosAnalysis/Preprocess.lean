import DdosAnalysis.Features
import DdosAnalysis.Analyzer
import DdosAnalysis.Labels
import Mathlib.Data.List.FinRange
import Mathlib.Data.String.Basic

/-!
# Preprocessing

`preprocess_unified_data` in the order of its numbered steps: store the network
identifiers, engineer features, drop the provenance, timestamp and index columns, map the
labels, encode the categorical columns, keep the numeric ones, clean them (median fill,
infinities to NaN, median fill, zero-variance drop, IQR clipping), and split.

The split is scikit-learn's `train_test_split` with `random_state=42`, first stratified by
the labels and, when that raises, unstratified. Its shuffle is a library computation; it is
taken as an oracle that returns row positions forming a partition of the rows, as
scikit-learn guarantees, and the unstratified split of two or more rows always returns.
-/

namespace DdosAnalysis.Preprocess

open Num Stats Frame Features

/-- A frame of float columns: `X` after the numeric filter. -/
abbrev NumFrame (rows : Nat) :=
  List (String × (Fin rows → Num))

/-- The two calls of `train_test_split`: the training and test row positions, or `none`
for the `ValueError` it raises. -/
structure SplitOracle where
  stratified : (rows : Nat) → Column rows → Option (List (Fin rows) × List (Fin rows))
  shuffled : (rows : Nat) → Option (List (Fin rows) × List (Fin rows))
  stratified_partition : ∀ rows labels train test,
    stratified rows labels = some (train, test) →
      (train ++ test).Perm (List.finRange rows) ∧ train ≠ [] ∧ test ≠ []
  shuffled_partition : ∀ rows train test, shuffled rows = some (train, test) →
    (train ++ test).Perm (List.finRange rows) ∧ train ≠ [] ∧ test ≠ []
  shuffled_total : ∀ rows, 2 ≤ rows → (shuffled rows).isSome

/-- The `try`/`except ValueError` around the two calls of `train_test_split`. -/
def trainTestSplit (oracle : SplitOracle) (rows : Nat) (labels : Column rows) :
    Except PyError (List (Fin rows) × List (Fin rows)) :=
  match oracle.stratified rows labels with
  | some split => .ok split
  | none => match oracle.shuffled rows with
    | some split => .ok split
    | none => .error .valueError

/-- A split that keeps the row order, with the first `⌈rows / 5⌉` rows as the test part.
It meets the contract of a `SplitOracle`, so that contract can be met. -/
def unshuffledSplit (rows : Nat) : Option (List (Fin rows) × List (Fin rows)) :=
  if 2 ≤ rows then
    some ((List.finRange rows).drop ((rows + 4) / 5), (List.finRange rows).take ((rows + 4) / 5))
  else none

theorem unshuffledSplit_partition (rows : Nat) (train test : List (Fin rows))
    (split : unshuffledSplit rows = some (train, test)) :
    (train ++ test).Perm (List.finRange rows) ∧ train ≠ [] ∧ test ≠ [] := by
  unfold unshuffledSplit at split
  split at split
  · rename_i enough
    simp only [Option.some.injEq, Prod.mk.injEq] at split
    obtain ⟨rfl, rfl⟩ := split
    refine ⟨List.perm_append_comm.trans (by rw [List.take_append_drop]), ?_, ?_⟩
    · simp only [ne_eq, List.drop_eq_nil_iff, List.length_finRange]
      omega
    · simp only [ne_eq, List.take_eq_nil_iff, List.finRange_eq_nil]
      omega
  · cases split

/-- The oracle that never stratifies and splits with `unshuffledSplit`. -/
def unshuffledOracle : SplitOracle where
  stratified _ _ := none
  shuffled := unshuffledSplit
  stratified_partition _ _ _ _ split := by cases split
  shuffled_partition := unshuffledSplit_partition
  shuffled_total rows enough := by simp [unshuffledSplit, enough]

/-- Whatever split `train_test_split` returns is a partition of the rows into two nonempty
parts. -/
theorem trainTestSplit_partition {oracle : SplitOracle} {rows : Nat} {labels : Column rows}
    {train test : List (Fin rows)} (split : trainTestSplit oracle rows labels = .ok (train, test)) :
    (train ++ test).Perm (List.finRange rows) ∧ train ≠ [] ∧ test ≠ [] := by
  unfold trainTestSplit at split
  split at split
  · rename_i stratifiedSplit
    cases split
    exact oracle.stratified_partition _ _ _ _ stratifiedSplit
  · split at split
    · rename_i shuffledSplit
      cases split
      exact oracle.shuffled_partition _ _ _ shuffledSplit
    · cases split

/-- With two rows or more the fallback always returns, so the split does. -/
theorem trainTestSplit_of_two_le (oracle : SplitOracle) {rows : Nat} (labels : Column rows)
    (enough : 2 ≤ rows) : ∃ train test, trainTestSplit oracle rows labels = .ok (train, test) := by
  unfold trainTestSplit
  split
  · exact ⟨_, _, rfl⟩
  · obtain ⟨⟨train, test⟩, shuffledSplit⟩ :=
      Option.isSome_iff_exists.mp (oracle.shuffled_total rows enough)
    exact ⟨train, test, by rw [shuffledSplit]⟩

/-- What `preprocess_unified_data` returns: `X_train, X_test, y_train, y_test`. -/
structure SplitData where
  trainRows : Nat
  testRows : Nat
  xTrain : NumFrame trainRows
  xTest : NumFrame testRows
  yTrain : Column trainRows
  yTest : Column testRows

variable {rows : Nat}

/-! ## Steps 1 to 6 -/

/-- Step 1: `self.original_network_data`, a copy of each identifier column or `None`. -/
def storeNetworkIdentifiers (df : Frame rows) : PyObject :=
  .dict (["src_ip", "dst_ip", "protocol", "src_port", "dst_port"].map fun name =>
    (name, match df.column? name with
      | some column => .series rows column
      | none => .none))

/-- Step 3: drop `source_file`, the timestamp columns, and every column whose label
contains `Unnamed`. -/
def dropUnnecessary (df : Frame rows) : Frame rows :=
  let df := df.drop ["source_file"]
  let df := df.drop (["timestamp", "Timestamp"].filter (· ∈ df.names))
  df.drop (df.names.filter fun col => Text.pyContains "Unnamed" col)

/-- Step 4: `df[target].map(label_mapping).fillna(df[target])`; a float label matches no
key and is kept. -/
def mapLabels : Column rows → Column rows
  | .object labels => .object fun i => Labels.mapLabel (labels i)
  | .numeric values => .numeric values

/-- `LabelEncoder.fit`: the sorted distinct strings of the column. -/
def encoderClasses (values : Fin rows → String) : List String :=
  (List.ofFn values).dedup.insertionSort (· ≤ ·)

/-- `LabelEncoder.transform`: the position of each string among the classes. -/
def encode (classes : List String) (values : Fin rows → String) : Fin rows → Num :=
  fun i => fin (classes.indexOf (values i))

/-- One round of the encoding loop: an object column other than `src_ip` and `dst_ip`
is replaced by its codes, and its encoder stored in `self.label_encoders`. -/
def encodeColumn (state : Frame rows × PyObject) (entry : String × Column rows) :
    Except PyError (Frame rows × PyObject) :=
  match entry.2 with
  | .object values =>
      if entry.1 ∈ ["src_ip", "dst_ip"] then .ok state
      else do
        let classes := encoderClasses values
        let encoders ← state.2.setItem entry.1 (.estimator (.labelEncoder classes))
        pure (state.1.set entry.1 (.numeric (encode classes values)), encoders)
  | .numeric _ => .ok state

/-- `df[available_features].select_dtypes(include='object')`: the columns the encoding loop
visits, in order. -/
def objectColumns (available : List String) (df : Frame rows) : Frame rows :=
  df.filter fun entry => entry.1 ∈ available && entry.2.isObject

/-- Step 5: the encoding loop. -/
def encodeCategorical (available : List String) (df : Frame rows) (encoders : PyObject) :
    Except PyError (Frame rows × PyObject) :=
  (objectColumns available df).foldlM encodeColumn (df, encoders)

/-- Step 6: `X = df[available_features]` restricted to the non-object columns. -/
def numericColumns (available : List String) (df : Frame rows) : NumFrame rows :=
  df.filterMap fun entry =>
    if entry.1 ∈ available then
      match entry.2 with
      | .numeric values => some (entry.1, values)
      | .object _ => none
    else none

/-! ## Step 7: cleaning -/

/-- A cleaning step that computes one statistic per column from all its rows and then
rewrites each cell from that statistic alone. -/
def columnwise {α : Type} (statistic : List Num → α) (rewrite : α → Num → Num)
    (X : NumFrame rows) : NumFrame rows :=
  X.map fun entry => (entry.1, fun i => rewrite (statistic (List.ofFn entry.2)) (entry.2 i))

/-- `X.fillna(X.median())`. -/
def fillnaMedian (X : NumFrame rows) : NumFrame rows :=
  columnwise median fillna X

/-- `X.replace([np.inf, -np.inf], np.nan)`. -/
def replaceInfinite (X : NumFrame rows) : NumFrame rows :=
  columnwise (fun _ => ()) (fun _ => replaceInf) X

/-- `X.columns[X.std() == 0]`. -/
def constantFeatures (X : NumFrame rows) : List String :=
  (X.filter fun entry => stdIsZero (List.ofFn entry.2)).map Prod.fst

/-- `X.drop(columns=labels)`. -/
def dropColumns (X : NumFrame rows) (labels : List String) : NumFrame rows :=
  X.filter fun entry => entry.1 ∉ labels

/-- The clip bounds `[Q1 - 3 * IQR, Q3 + 3 * IQR]` of a column. -/
def clipBounds (xs : List Num) : Num × Num :=
  let q1 := quantile xs (1 / 4)
  let q3 := quantile xs (3 / 4)
  let iqr := sub q3 q1
  (sub q1 (mul (fin 3) iqr), add q3 (mul (fin 3) iqr))

/-- `X.clip(lower=lower_bound, upper=upper_bound, axis=1)`. -/
def clipOutliers (X : NumFrame rows) : NumFrame rows :=
  columnwise clipBounds (fun bounds => clip bounds.1 bounds.2) X

/-- `iloc[positions]` on every column. -/
def selectRows (X : NumFrame rows) (positions : List (Fin rows)) : NumFrame positions.length :=
  X.map fun entry => (entry.1, fun j => entry.2 (positions.get j))

/-- The frame after the three filling steps. -/
def filledFeatures (X : NumFrame rows) : NumFrame rows :=
  fillnaMedian (replaceInfinite (fillnaMedian X))

/-- Step 7 up to the zero-variance drop, with the labels `self.feature_columns` then
holds: it is reassigned only when a column is dropped. -/
def dropConstantFeatures (X : NumFrame rows) (featureColumns : PyObject) :
    NumFrame rows × PyObject :=
  let constant := constantFeatures X
  if constant.isEmpty then (X, featureColumns)
  else
    let X := dropColumns X constant
    (X, .strList (X.map Prod.fst))

/-- Step 7 after the numeric filter: fill, drop the zero-variance columns, clip. -/
def cleanFeatures (X : NumFrame rows) (featureColumns : PyObject) : NumFrame rows × PyObject :=
  let (X, featureColumns) := dropConstantFeatures (filledFeatures X) featureColumns
  (clipOutliers X, featureColumns)

/-- The four returned frames, from the cleaned `X`, the labels and the split. -/
def splitData (X : NumFrame rows) (y : Column rows) (train test : List (Fin rows)) :
    SplitData :=
  ⟨train.length, test.length, selectRows X train, selectRows X test, y.select train,
    y.select test⟩

/-! ## The whole step -/

/-- `available_features`: every label but the target. -/
def availableFeatures (target : String) (df : Frame rows) : List String :=
  df.names.filter (· ≠ target)

/-- Steps 1 to 6 on a frame that has the target column, given that column: the labels are
mapped, the categorical columns encoded, and the numeric columns other than the target
kept. -/
def prepareFeatures (target : String) (df : Frame rows) (labels : Column rows)
    (encoders : PyObject) : Except PyError (NumFrame rows × PyObject) := do
  let df := df.set target (mapLabels labels)
  let available := availableFeatures target df
  let (df, encoders) ← encodeCategorical available df encoders
  pure (numericColumns available df, encoders)

/-- `preprocess_unified_data(df, target_column)` on the analyzer `self`: `none` is the
early `return None, None, None, None` of a frame without the target column. -/
def preprocessUnifiedData (oracle : SplitOracle) (target : String) (df : Frame rows)
    (self : Analyzer) : Except PyError (Option SplitData × Analyzer) := do
  let self := { self with originalNetworkData := storeNetworkIdentifiers df }
  let df ← createEngineeredFeatures df
  let df := dropUnnecessary df
  match df.column? target with
  | none => pure (none, self)
  | some labels =>
      let (X, encoders) ← prepareFeatures target df labels self.labelEncoders
      let (X, featureColumns) := cleanFeatures X (.strList (X.map Prod.fst))
      let y := mapLabels labels
      let (train, test) ← trainTestSplit oracle rows y
      pure (some (splitData X y train test),
        { self with labelEncoders := encoders, featureColumns := featureColumns })

/-- Everything a run of `preprocess_unified_data` that returns matrices has done. -/
theorem preprocessUnifiedData_eq_some {oracle : SplitOracle} {target : String}
    {df : Frame rows} {self self' : Analyzer} {out : SplitData}
    (returned : preprocessUnifiedData oracle target df self = .ok (some out, self')) :
    ∃ engineered labels X encoders train test,
      createEngineeredFeatures df = .ok engineered ∧
      (dropUnnecessary engineered).column? target = some labels ∧
      prepareFeatures target (dropUnnecessary engineered) labels self.labelEncoders =
        .ok (X, encoders) ∧
      trainTestSplit oracle rows (mapLabels labels) = .ok (train, test) ∧
      out = splitData (cleanFeatures X (.strList (X.map Prod.fst))).1 (mapLabels labels)
        train test ∧
      self' = { self with
        originalNetworkData := storeNetworkIdentifiers df
        labelEncoders := encoders
        featureColumns := (cleanFeatures X (.strList (X.map Prod.fst))).2 } := by
  simp only [preprocessUnifiedData, bind_eq_ok] at returned
  obtain ⟨engineered, engineeredOk, returned⟩ := returned
  split at returned
  · simp [pure, Except.pure] at returned
  · rename_i labels found
    obtain ⟨⟨X, encoders⟩, prepared, returned⟩ := bind_eq_ok.mp returned
    obtain ⟨⟨train, test⟩, split, returned⟩ := bind_eq_ok.mp returned
    simp only [pure, Except.pure, Except.ok.injEq, Prod.mk.injEq, Option.some.injEq] at returned
    exact ⟨engineered, labels, X, encoders, train, test, engineeredOk, found, prepared, split,
      returned.1.symm, returned.2.symm⟩

/-- One round of the encoding loop either leaves the state alone, for a float column or an
IP column, or replaces an object column by its codes and stores its encoder. -/
theorem encodeColumn_cases {state next : Frame rows × PyObject} {entry : String × Column rows}
    (step : encodeColumn state entry = .ok next) :
    (next = state ∧ (entry.2.isObject = false ∨ entry.1 ∈ ["src_ip", "dst_ip"])) ∨
      ∃ values encoders, entry.2 = .object values ∧ entry.1 ∉ ["src_ip", "dst_ip"] ∧
        state.2.setItem entry.1 (.estimator (.labelEncoder (encoderClasses values))) =
          .ok encoders ∧
        next = (state.1.set entry.1 (.numeric (encode (encoderClasses values) values)),
          encoders) := by
  unfold encodeColumn at step
  split at step
  · rename_i values isObject
    split at step
    · rename_i identifier
      exact Or.inl ⟨(Except.ok.inj step).symm, Or.inr identifier⟩
    · rename_i notIdentifier
      obtain ⟨encoders, stored, step⟩ := bind_eq_ok.mp step
      exact Or.inr ⟨values, encoders, isObject, notIdentifier, stored, (pure_eq_ok.mp step).symm⟩
  · rename_i isNumeric
    exact Or.inl ⟨(Except.ok.inj step).symm, Or.inl (by rw [isNumeric]; rfl)⟩

/-- With `self.label_encoders` a dictionary the encoding loop cannot raise. -/
theorem encodeCategorical_ok (available : List String) (df : Frame rows)
    (entries : List (String × PyObject)) :
    ∃ result, encodeCategorical available df (.dict entries) = .ok result ∧
      ∃ entries', result.2 = .dict entries' := by
  refine foldlM_ok (fun state : Frame rows × PyObject => ∃ entries, state.2 = .dict entries) _ _
    (fun entry _ ⟨frame, encoders⟩ ⟨entries, isDict⟩ => ?_) ⟨entries, rfl⟩
  cases isDict
  unfold encodeColumn
  split
  · split
    · exact ⟨_, rfl, entries, rfl⟩
    · exact ⟨_, rfl, _, rfl⟩
  · exact ⟨_, rfl, entries, rfl⟩

/-- The run of `preprocess_unified_data` on a frame whose steps all return. -/
theorem preprocessUnifiedData_of_steps {oracle : SplitOracle} {target : String}
    {df engineered : Frame rows} {labels : Column rows} {self : Analyzer} {X : NumFrame rows}
    {encoders : PyObject} {train test : List (Fin rows)}
    (engineeredOk : createEngineeredFeatures df = .ok engineered)
    (found : (dropUnnecessary engineered).column? target = some labels)
    (prepared : prepareFeatures target (dropUnnecessary engineered) labels self.labelEncoders =
      .ok (X, encoders))
    (split : trainTestSplit oracle rows (mapLabels labels) = .ok (train, test)) :
    preprocessUnifiedData oracle target df self =
      .ok (some (splitData (cleanFeatures X (.strList (X.map Prod.fst))).1 (mapLabels labels)
        train test), { self with
          originalNetworkData := storeNetworkIdentifiers df
          labelEncoders := encoders
          featureColumns := (cleanFeatures X (.strList (X.map Prod.fst))).2 }) := by
  simp only [preprocessUnifiedData, engineeredOk, bind, Except.bind, found, prepared, split, pure,
    Except.pure]

/-- `preprocess_unified_data` returns matrices whenever the engineer returns, the target
column survives the drops, `self.label_encoders` is a dictionary, and there are two rows
to split. -/
theorem preprocessUnifiedData_returns (oracle : SplitOracle) {target : String}
    {df engineered : Frame rows} (engineeredOk : createEngineeredFeatures df = .ok engineered)
    (present : target ∈ (dropUnnecessary engineered).names) {self : Analyzer}
    {entries : List (String × PyObject)} (encodersDict : self.labelEncoders = .dict entries)
    (enough : 2 ≤ rows) :
    ∃ out self', preprocessUnifiedData oracle target df self = .ok (some out, self') := by
  obtain ⟨labels, found⟩ := column?_of_mem_names present
  obtain ⟨⟨encoded, encoders⟩, ran, -⟩ := encodeCategorical_ok
    (availableFeatures target ((dropUnnecessary engineered).set target (mapLabels labels)))
    ((dropUnnecessary engineered).set target (mapLabels labels)) entries
  obtain ⟨train, test, split⟩ := trainTestSplit_of_two_le oracle (mapLabels labels) enough
  have prepared : prepareFeatures target (dropUnnecessary engineered) labels self.labelEncoders =
      .ok (numericColumns (availableFeatures target
        ((dropUnnecessary engineered).set target (mapLabels labels))) encoded, encoders) := by
    simp only [prepareFeatures, encodersDict, ran, bind, Except.bind, pure, Except.pure]
  exact ⟨_, _, preprocessUnifiedData_of_steps engineeredOk found prepared split⟩

/-! ## Labels through cleaning and splitting -/

@[simp]
theorem names_columnwise {α : Type} (statistic : List Num → α) (rewrite : α → Num → Num)
    (X : NumFrame rows) : (columnwise statistic rewrite X).map Prod.fst = X.map Prod.fst := by
  simp [columnwise, Function.comp_def]

@[simp]
theorem names_selectRows (X : NumFrame rows) (positions : List (Fin rows)) :
    (selectRows X positions).map Prod.fst = X.map Prod.fst := by
  simp [selectRows, Function.comp_def]

/-- `self.feature_columns` ends as the labels of the cleaned `X`, whether or not a constant
column was dropped. -/
theorem cleanFeatures_featureColumns (X : NumFrame rows) :
    (cleanFeatures X (.strList (X.map Prod.fst))).2 =
      .strList ((cleanFeatures X (.strList (X.map Prod.fst))).1.map Prod.fst) := by
  simp only [cleanFeatures, dropConstantFeatures]
  split <;> simp [clipOutliers, filledFeatures, fillnaMedian, replaceInfinite]

end DdosAnalysis.Preprocess
