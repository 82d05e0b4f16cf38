import DdosAnalysis.Features
import Mathlib.Data.Fin.VecNotation

/-!
# The engineer reads only its own row

Every cell `create_engineered_features` computes is a function of the same row's cells, and
whether it raises depends only on which labels are present and on their dtypes, which a
row selection keeps. So engineering and then taking the rows at some positions is taking
those rows and then engineering: one lemma per step, and one for the whole step, chained
through the monad laws of `Except`.

The model has errors agree as well. In pandas they agree for every selection that keeps a
row: an object column of strings raises on any row. A selection without rows raises
nothing, since pandas computes nothing on an empty column. The statement about the code is
therefore the one for a table that engineers: every selection of it engineers to the
selection of the result.
-/

namespace DdosAnalysis.Features

open Frame

variable {rows : Nat} (positions : List (Fin rows))

theorem equalsIndicator_select (value : ℚ) (column : Column rows) :
    equalsIndicator value (column.select positions) =
      (equalsIndicator value column).select positions := by
  cases column <;> rfl

theorem isinIndicator_select (values : List ℚ) (column : Column rows) :
    isinIndicator values (column.select positions) =
      (isinIndicator values column).select positions := by
  cases column <;> rfl

theorem atMostIndicator_select (bound : ℚ) (column : Column rows) :
    atMostIndicator bound (column.select positions) =
      Column.select positions <$> atMostIndicator bound column := by
  cases column <;> rfl

theorem smoothedRatio_select (numerator denominator : Column rows) :
    smoothedRatio (numerator.select positions) (denominator.select positions) =
      Column.select positions <$> smoothedRatio numerator denominator := by
  cases numerator <;> cases denominator <;> rfl

theorem mapM_floats_select (flags : List (Column rows)) :
    (flags.map (Column.select positions)).mapM Column.floats =
      List.map (fun values j => values (positions.get j)) <$> flags.mapM Column.floats := by
  induction flags with
  | nil => rfl
  | cons flag rest inductionHypothesis =>
      rw [List.map_cons, List.mapM_cons, List.mapM_cons, inductionHypothesis]
      cases flag <;> cases rest.mapM Column.floats <;> rfl

theorem flagSumAndDiversity_select (flags : List (Column rows)) :
    flagSumAndDiversity (flags.map (Column.select positions)) =
      (fun columns => (columns.1.select positions, columns.2.select positions)) <$>
        flagSumAndDiversity flags := by
  unfold flagSumAndDiversity
  rw [mapM_floats_select]
  cases flags.mapM Column.floats with
  | error => rfl
  | ok values => simp [Column.select, List.map_map, Function.comp_def, List.filter_map]

theorem ratioFeatures_select (df : Frame rows) :
    ratioFeatures (df.select positions) =
      (fun out => out.select positions) <$> ratioFeatures df := by
  unfold ratioFeatures
  rw [column?_select, column?_select]
  cases df.column? "tot_fwd_pkts" <;> cases df.column? "tot_bwd_pkts" <;>
    simp only [Option.map_some', Option.map_none', smoothedRatio_select, bind_map_left, map_bind,
      map_pure, set_select]

theorem averageSize_select (name length count : String) (df : Frame rows) :
    averageSize name length count (df.select positions) =
      (fun out => out.select positions) <$> averageSize name length count df := by
  unfold averageSize
  rw [column?_select, column?_select]
  cases df.column? length <;> cases df.column? count <;>
    simp only [Option.map_some', Option.map_none', smoothedRatio_select, bind_map_left, map_bind,
      map_pure, set_select]

theorem packetSizeFeatures_select (df : Frame rows) :
    packetSizeFeatures (df.select positions) =
      (fun out => out.select positions) <$> packetSizeFeatures df := by
  simp only [packetSizeFeatures, averageSize_select, bind_map_left, map_bind]

theorem flowEfficiencyFeature_select (df : Frame rows) :
    flowEfficiencyFeature (df.select positions) =
      (fun out => out.select positions) <$> flowEfficiencyFeature df := by
  unfold flowEfficiencyFeature
  rw [column?_select, column?_select]
  cases df.column? "flow_duration" <;> cases df.column? "flow_pkts_s" <;>
    simp only [Option.map_some', Option.map_none', Column.floats_select, bind_map_left, map_bind,
      map_pure, set_select, Column.select_numeric]

theorem flagFeatures_select (df : Frame rows) :
    flagFeatures (df.select positions) =
      (fun out => out.select positions) <$> flagFeatures df := by
  have lookups : flagColumns.filterMap (df.select positions).column? =
      (flagColumns.filterMap df.column?).map (Column.select positions) := by
    rw [List.map_filterMap]
    exact congrArg (flagColumns.filterMap ·) (funext (column?_select positions df))
  unfold flagFeatures
  rw [lookups, List.length_map]
  by_cases enough : 2 ≤ (flagColumns.filterMap df.column?).length
  · simp only [enough, if_true, flagSumAndDiversity_select, bind_map_left, map_bind, map_pure,
      set_select]
  · simp only [enough, if_false, map_pure]

theorem protocolFeatures_select (df : Frame rows) :
    protocolFeatures (df.select positions) = (protocolFeatures df).select positions := by
  unfold protocolFeatures
  rw [column?_select]
  cases df.column? "protocol" <;> simp only [Option.map_some', Option.map_none', set_select,
    equalsIndicator_select]

theorem portFeatures_select (df : Frame rows) :
    portFeatures (df.select positions) =
      (fun out => out.select positions) <$> portFeatures df := by
  unfold portFeatures
  rw [column?_select, column?_select]
  cases df.column? "src_port" <;> cases df.column? "dst_port" <;>
    simp only [Option.map_some', Option.map_none', atMostIndicator_select, bind_map_left, map_bind,
      map_pure, set_select, isinIndicator_select]

/-- The engineer commutes with row selection, errors included. -/
theorem createEngineeredFeatures_select (df : Frame rows) :
    createEngineeredFeatures (df.select positions) =
      (fun out => out.select positions) <$> createEngineeredFeatures df := by
  simp only [createEngineeredFeatures, ratioFeatures_select, packetSizeFeatures_select,
    flowEfficiencyFeature_select, flagFeatures_select, protocolFeatures_select, portFeatures_select,
    bind_map_left, map_bind]

/-- Engineering a table and then taking the rows at any positions, a single row among them,
gives the same columns, in the same order and with the same values, as taking those rows
and engineering them. -/
theorem createEngineeredFeatures_select_of_ok {df engineered : Frame rows}
    (engineeredOk : createEngineeredFeatures df = .ok engineered) :
    createEngineeredFeatures (df.select positions) = .ok (engineered.select positions) := by
  rw [createEngineeredFeatures_select, engineeredOk]
  rfl

/-- Two flows that carry only a protocol, TCP and UDP. -/
def twoProtocolFlows : Frame 2 :=
  [("protocol", .numeric ![.fin 6, .fin 17])]

/-- The second of them alone engineers to the second row of the engineered pair. -/
theorem twoProtocolFlows_second_row :
    createEngineeredFeatures twoProtocolFlows = .ok (protocolFeatures twoProtocolFlows) ∧
      createEngineeredFeatures (twoProtocolFlows.select [1]) =
        .ok ((protocolFeatures twoProtocolFlows).select [1]) :=
  ⟨rfl, createEngineeredFeatures_select_of_ok [1] rfl⟩

end DdosAnalysis.Features
