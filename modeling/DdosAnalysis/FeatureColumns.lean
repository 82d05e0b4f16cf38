import DdosAnalysis.Cleaning
import DdosAnalysis.Schema
import Mathlib.Data.Fin.VecNotation

/-!
# Which columns become features

`self.feature_columns` ends as the labels of `X_train`, which are those of `X_test`. A
label gets there from the unified dataset or from the engineer, and only past three
filters: the drops of step 3 (`source_file`, `timestamp`, `Timestamp` and every label
containing `Unnamed`), the target test, and the numeric filter of step 6, which removes the
object columns the encoding loop leaves alone, `src_ip` and `dst_ip`.

Nothing else is filtered. The identifiers `protocol`, `src_port` and `dst_port` are numeric
in the flow exports, so they pass, and `normalize_column_names` has already lowercased a
pandas index header `Unnamed: 0` to `unnamed:_0` when the case-sensitive `Unnamed` test
runs. Any such column that is finite and not constant becomes a feature, as `protocolFlows`
shows. The model computes exactly; where the code's float32 cast could merge values and make
a column constant, the result is stated for columns that float32 holds exactly
(`Float32Exact`).
-/

namespace DdosAnalysis.Preprocess

open Num Stats Frame Features

variable {rows : Nat}

/-! ## Step 3 -/

theorem mem_drop_present {df : Frame rows} {labels : List String} {entry : String × Column rows} :
    entry ∈ df.drop (labels.filter (· ∈ df.names)) ↔ entry ∈ df ∧ entry.1 ∉ labels := by
  rw [Frame.mem_drop]
  constructor
  · rintro ⟨member, notDropped⟩
    exact ⟨member, fun listed => notDropped
      (List.mem_filter.mpr ⟨listed, decide_eq_true (List.mem_map_of_mem Prod.fst member)⟩)⟩
  · rintro ⟨member, notListed⟩
    exact ⟨member, fun dropped => notListed (List.mem_filter.mp dropped).1⟩

theorem mem_drop_selected {df : Frame rows} {selected : String → Bool}
    {entry : String × Column rows} :
    entry ∈ df.drop (df.names.filter selected) ↔ entry ∈ df ∧ selected entry.1 = false := by
  rw [Frame.mem_drop]
  constructor
  · rintro ⟨member, notDropped⟩
    exact ⟨member, Bool.eq_false_iff.mpr fun chosen => notDropped
      (List.mem_filter.mpr ⟨List.mem_map_of_mem Prod.fst member, chosen⟩)⟩
  · rintro ⟨member, kept⟩
    exact ⟨member, fun dropped =>
      Bool.false_ne_true (kept.symm.trans (List.mem_filter.mp dropped).2)⟩

/-- The columns step 3 keeps. -/
theorem mem_dropUnnecessary {df : Frame rows} {entry : String × Column rows} :
    entry ∈ dropUnnecessary df ↔ entry ∈ df ∧
      entry.1 ∉ ["source_file", "timestamp", "Timestamp"] ∧
      Text.pyContains "Unnamed" entry.1 = false := by
  simp only [dropUnnecessary]
  rw [mem_drop_selected, mem_drop_present, Frame.mem_drop]
  simp only [List.mem_cons, List.mem_singleton, List.not_mem_nil, or_false, not_or, and_assoc]

theorem names_dropUnnecessary_sublist (df : Frame rows) :
    (dropUnnecessary df).names.Sublist df.names := by
  simp only [dropUnnecessary, Frame.drop, Frame.names]
  exact (((List.filter_sublist _).trans (List.filter_sublist _)).trans
    (List.filter_sublist _)).map _

/-! ## Steps 5 and 6 -/

/-- The encoding loop only reassigns labels the frame already has. -/
theorem names_encodeCategorical {available : List String} {df : Frame rows}
    {encoders : PyObject} {result : Frame rows × PyObject}
    (ran : encodeCategorical available df encoders = .ok result) : result.1.names = df.names := by
  refine foldlM_invariant (fun state : Frame rows × PyObject => state.1.names = df.names) _ _ _
    (fun entry member state next sameNames step => ?_) rfl ran
  rcases encodeColumn_cases step with ⟨rfl, -⟩ | ⟨values, _, _, _, -, rfl⟩
  · exact sameNames
  · have present : entry.1 ∈ state.1.names :=
      sameNames ▸ List.mem_map_of_mem Prod.fst (List.mem_filter.mp member).1
    exact (Frame.names_set_of_mem present _).trans sameNames

/-- Under distinct labels, the encoding loop keeps every float column. -/
theorem mem_encodeCategorical_of_numeric {available : List String} {df : Frame rows}
    {encoders : PyObject} {result : Frame rows × PyObject}
    (ran : encodeCategorical available df encoders = .ok result) (unique : df.names.Nodup)
    {name : String} {values : Fin rows → Num} (member : (name, .numeric values) ∈ df) :
    (name, .numeric values) ∈ result.1 := by
  refine foldlM_invariant (fun state : Frame rows × PyObject => (name, .numeric values) ∈ state.1)
    _ _ _ (fun entry encoded state next kept step => ?_) member ran
  rcases encodeColumn_cases step with ⟨rfl, -⟩ | ⟨objectValues, _, isObject, _, -, rfl⟩
  · exact kept
  · refine Frame.mem_set_of_ne kept (fun same => ?_) _
    have sameEntry := List.inj_on_of_nodup_map unique (List.mem_filter.mp encoded).1 member
      same.symm
    rw [sameEntry] at isObject
    cases isObject

theorem mem_numericColumns {available : List String} {df : Frame rows}
    {entry : String × (Fin rows → Num)} :
    entry ∈ numericColumns available df ↔
      entry.1 ∈ available ∧ (entry.1, Column.numeric entry.2) ∈ df := by
  obtain ⟨name, values⟩ := entry
  simp only [numericColumns, List.mem_filterMap]
  constructor
  · rintro ⟨⟨label, column⟩, member, found⟩
    by_cases listed : label ∈ available
    · cases column with
      | numeric cells =>
          simp only [listed, if_true, Option.some.injEq, Prod.mk.injEq] at found
          obtain ⟨rfl, rfl⟩ := found
          exact ⟨listed, member⟩
      | object _ => simp [listed] at found
    · simp [listed] at found
  · rintro ⟨listed, member⟩
    exact ⟨_, member, by simp [listed]⟩

theorem names_numericColumns_sublist (available : List String) :
    ∀ df : Frame rows, ((numericColumns available df).map Prod.fst).Sublist df.names
  | [] => List.Sublist.slnil
  | (label, column) :: rest => by
      have earlier := names_numericColumns_sublist available rest
      by_cases listed : label ∈ available
      · cases column <;> simp_all [numericColumns, Frame.names]
      · simp_all [numericColumns, Frame.names]

/-- Under distinct labels, a float column other than the target reaches `X`, whose labels
stay distinct. -/
theorem mem_prepareFeatures_of_numeric {target : String} {df : Frame rows}
    {labels : Column rows} {encoders encoders' : PyObject} {X : NumFrame rows}
    (prepared : prepareFeatures target df labels encoders = .ok (X, encoders'))
    (unique : df.names.Nodup) {name : String} {values : Fin rows → Num}
    (member : (name, .numeric values) ∈ df) (notTarget : name ≠ target) :
    (name, values) ∈ X ∧ (X.map Prod.fst).Nodup := by
  unfold prepareFeatures at prepared
  obtain ⟨⟨encodedFrame, _⟩, encodedOk, prepared⟩ := bind_eq_ok.mp prepared
  simp only [pure_eq_ok, Prod.mk.injEq] at prepared
  obtain ⟨rfl, -⟩ := prepared
  have uniqueSet := Frame.nodup_names_set unique target (mapLabels labels)
  have sameNames := names_encodeCategorical encodedOk
  refine ⟨mem_numericColumns.mpr ⟨?_, ?_⟩, ?_⟩
  · exact List.mem_filter.mpr ⟨(Frame.mem_names_set _ _ _ _).mpr
      (Or.inl (List.mem_map_of_mem Prod.fst member)), decide_eq_true notTarget⟩
  · exact mem_encodeCategorical_of_numeric encodedOk uniqueSet
      (Frame.mem_set_of_ne member notTarget _)
  · exact (names_numericColumns_sublist _ _).nodup (sameNames ▸ uniqueSet)

/-! ## The feature columns -/

/-- In a unified dataset, a finite, non-constant float column that is not the target, not
dropped in step 3 and not under an engineered label is a column of `X_train`. -/
theorem mem_xTrain_of_numeric {oracle : SplitOracle} {target : String} {df : UnifiedData rows}
    {self self' : Analyzer} {out : SplitData}
    (returned : preprocessUnifiedData oracle target df.frame self = .ok (some out, self'))
    {name : String} {values : Fin rows → Num} (member : (name, .numeric values) ∈ df.frame)
    (notTarget : name ≠ target) (notEngineered : name ∉ engineeredNames)
    (notDropped : name ∉ ["source_file", "timestamp", "Timestamp"])
    (notUnnamed : Text.pyContains "Unnamed" name = false)
    (finite : ∀ i, (values i).isFinite = true) (varying : stdIsZero (List.ofFn values) = false) :
    name ∈ out.xTrain.map Prod.fst := by
  obtain ⟨engineered, labels, X, encoders, train, test, engineeredOk, -, prepared, -, rfl, -⟩ :=
    preprocessUnifiedData_eq_some returned
  have assigned := setsEngineered_createEngineeredFeatures engineeredOk
  have kept : (name, .numeric values) ∈ dropUnnecessary engineered :=
    mem_dropUnnecessary.mpr ⟨assigned.mem_of_not_engineered member notEngineered, notDropped,
      notUnnamed⟩
  have unique := (names_dropUnnecessary_sublist engineered).nodup
    (assigned.nodup_names df.names_nodup)
  obtain ⟨inX, uniqueX⟩ := mem_prepareFeatures_of_numeric prepared unique kept notTarget
  simp only [splitData, names_selectRows]
  exact mem_names_cleanFeatures inX uniqueX (by rwa [fillColumn_of_finite finite]) _

/-- `self.feature_columns` ends as the labels of `X_train`, which are those of `X_test`. -/
theorem featureColumns_eq_of_returned {oracle : SplitOracle} {target : String}
    {df : Frame rows} {self self' : Analyzer} {out : SplitData}
    (returned : preprocessUnifiedData oracle target df self = .ok (some out, self')) :
    self'.featureColumns = .strList (out.xTrain.map Prod.fst) ∧
      out.xTest.map Prod.fst = out.xTrain.map Prod.fst := by
  obtain ⟨_, _, X, _, _, _, -, -, -, -, rfl, rfl⟩ := preprocessUnifiedData_eq_some returned
  simp only [splitData, names_selectRows, and_true]
  exact cleanFeatures_featureColumns X

/-- Two flows, one TCP and one UDP, of a capture whose pandas index column was exported
as `Unnamed: 0`. -/
def protocolFlows : UnifiedData 2 where
  frame := [("unnamed:_0", .numeric ![fin 0, fin 1]), ("protocol", .numeric ![fin 6, fin 17]),
    ("label", .object fun _ => "BENIGN"), ("source_file", .object fun _ => "Friday")]
  names_nodup := by decide

theorem protocolFlows_returns (oracle : SplitOracle) :
    ∃ out self', preprocessUnifiedData oracle "label" protocolFlows.frame Analyzer.init =
      .ok (some out, self') :=
  preprocessUnifiedData_returns oracle
    (rfl : createEngineeredFeatures protocolFlows.frame = _) (by decide) rfl le_rfl

/-- `normalize_column_names` turns the index header `Unnamed: 0` into `unnamed:_0`, and
on `protocolFlows` the features then include that index and the `protocol` identifier. -/
theorem protocolFlows_identifiers_are_features (oracle : SplitOracle) :
    Schema.normalizeColumnNames Text.asciiCase ["Unnamed: 0"] = ["unnamed:_0"] ∧
      ∃ out self', preprocessUnifiedData oracle "label" protocolFlows.frame Analyzer.init =
          .ok (some out, self') ∧ self'.featureColumns = .strList (out.xTrain.map Prod.fst) ∧
        "protocol" ∈ out.xTrain.map Prod.fst ∧ "unnamed:_0" ∈ out.xTrain.map Prod.fst := by
  refine ⟨by decide, ?_⟩
  obtain ⟨out, self', returned⟩ := protocolFlows_returns oracle
  refine ⟨out, self', returned, (featureColumns_eq_of_returned returned).1, ?_, ?_⟩
  · exact mem_xTrain_of_numeric returned (List.mem_cons_of_mem _ (List.mem_cons_self _ _))
      (by decide) (by decide) (by decide) (by decide) (by decide) (stdIsZero_pair (by norm_num))
  · exact mem_xTrain_of_numeric returned (List.mem_cons_self _ _)
      (by decide) (by decide) (by decide) (by decide) (by decide) (stdIsZero_pair (by norm_num))

/-- A float column that `astype(np.float32)` keeps exactly and whose `std()` pandas computes
as zero only when it is constant: integers below `2 ^ 24` in magnitude, on fewer than
`2 ^ 53` rows. Pandas sums the squared deviations in float64 and casts the variance to
float32; a non-constant column of such integers has a variance above `2 ^ (-56)`, far from
float32's underflow. -/
def Float32Exact (values : Fin rows → Num) : Prop :=
  rows < 2 ^ 53 ∧ ∀ i, ∃ n : ℤ, |n| < 2 ^ 24 ∧ values i = .fin n

theorem Float32Exact.isFinite {values : Fin rows → Num} (exact : Float32Exact values) (i : Fin rows) :
    (values i).isFinite = true := by
  obtain ⟨n, -, cell⟩ := exact.2 i
  rw [cell]
  rfl

end DdosAnalysis.Preprocess
