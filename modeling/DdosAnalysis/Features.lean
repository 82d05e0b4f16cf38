import DdosAnalysis.Frame

/-!
# The feature engineer

`create_engineered_features` adds derived columns, each guarded by the presence of its
input columns: packet-count ratios with `+1` smoothing, average packet sizes, flow
efficiency, the sum and the diversity of the available TCP flag counts (when at least two
are present), protocol indicators and port indicators. Arithmetic and ordering comparisons
on an object column raise `TypeError`; equality and `isin` on one are false.

Every derived value reads only its own row, and which columns are added depends only on
which labels are present. `engineeredNames` lists the labels the step can assign, and
`SetsEngineered` says that a frame was obtained from another by such assignments alone: it
keeps every other column and keeps the labels distinct.
-/

namespace DdosAnalysis.Features

open Num

variable {rows : Nat}

/-- `(series == value).astype(int)`: an object column of strings is never equal to a
number. -/
def equalsIndicator (value : ℚ) : Column rows → Column rows
  | .numeric values => .numeric fun i => if (values i).eq (fin value) then fin 1 else fin 0
  | .object _ => .numeric fun _ => fin 0

/-- `series.isin(values).astype(int)`. -/
def isinIndicator (values : List ℚ) : Column rows → Column rows
  | .numeric cells => .numeric fun i =>
      if values.any fun v => (cells i).eq (fin v) then fin 1 else fin 0
  | .object _ => .numeric fun _ => fin 0

/-- `(series <= bound).astype(int)`; ordering strings against a number raises. -/
def atMostIndicator (bound : ℚ) (column : Column rows) : Except PyError (Column rows) := do
  let values ← column.floats
  return .numeric fun i => if (values i).le (fin bound) then fin 1 else fin 0

/-- `df[numerator] / (df[denominator] + 1)`. -/
def smoothedRatio (numerator denominator : Column rows) : Except PyError (Column rows) := do
  let top ← numerator.floats
  let bottom ← denominator.floats
  return .numeric fun i => div (top i) (add (bottom i) (fin 1))

/-- `df[available_flags].sum(axis=1)` and `(df[available_flags] > 0).sum(axis=1)`: the
row sum skips NaN, and the count is of entries above zero. A flag column of strings makes
the comparison raise. -/
def flagSumAndDiversity (flags : List (Column rows)) :
    Except PyError (Column rows × Column rows) := do
  let values ← flags.mapM Column.floats
  let total := Column.numeric fun i =>
    (values.map fun column => column i).foldl
      (fun sum x => if x.isNan then sum else add sum x) (fin 0)
  let diversity := Column.numeric fun i =>
    fin ((values.filter fun column => lt (fin 0) (column i)).length : ℚ)
  return (total, diversity)

/-- `flag_cols` of `create_engineered_features`. -/
def flagColumns : List String :=
  ["fin_flag_cnt", "syn_flag_cnt", "rst_flag_cnt", "psh_flag_cnt", "ack_flag_cnt",
    "urg_flag_cnt"]

/-- `common_ports` of `create_engineered_features`. -/
def commonPorts : List ℚ :=
  [80, 443, 22, 21, 25, 53, 110, 995, 993, 143]

/-- "Ratio features". -/
def ratioFeatures (df : Frame rows) : Except PyError (Frame rows) :=
  match df.column? "tot_fwd_pkts", df.column? "tot_bwd_pkts" with
  | some forward, some backward => do
      let forwardRatio ← smoothedRatio forward backward
      let backwardRatio ← smoothedRatio backward forward
      pure ((df.set "fwd_bwd_ratio" forwardRatio).set "bwd_fwd_ratio" backwardRatio)
  | _, _ => pure df

/-- `df[name] = df[length] / (df[count] + 1)`, when both inputs are present. -/
def averageSize (name length count : String) (df : Frame rows) : Except PyError (Frame rows) :=
  match df.column? length, df.column? count with
  | some lengths, some counts => do pure (df.set name (← smoothedRatio lengths counts))
  | _, _ => pure df

/-- "Packet size features": the forward and the backward average, each under its own
presence test. -/
def packetSizeFeatures (df : Frame rows) : Except PyError (Frame rows) :=
  averageSize "avg_fwd_pkt_size" "totlen_fwd_pkts" "tot_fwd_pkts" df >>=
    averageSize "avg_bwd_pkt_size" "totlen_bwd_pkts" "tot_bwd_pkts"

/-- "Flow efficiency features". -/
def flowEfficiencyFeature (df : Frame rows) : Except PyError (Frame rows) :=
  match df.column? "flow_duration", df.column? "flow_pkts_s" with
  | some duration, some rate => do
      let durationValues ← duration.floats
      let rateValues ← rate.floats
      pure (df.set "flow_efficiency" (.numeric fun i => mul (rateValues i) (durationValues i)))
  | _, _ => pure df

/-- "Flag combinations", when at least two flag counts are present. -/
def flagFeatures (df : Frame rows) : Except PyError (Frame rows) :=
  if 2 ≤ (flagColumns.filterMap df.column?).length then
    flagSumAndDiversity (flagColumns.filterMap df.column?) >>= fun columns =>
      pure ((df.set "total_flags" columns.1).set "flag_diversity" columns.2)
  else pure df

/-- "Protocol-specific features". -/
def protocolFeatures (df : Frame rows) : Frame rows :=
  match df.column? "protocol" with
  | some protocol =>
      ((df.set "is_tcp" (equalsIndicator 6 protocol)).set "is_udp"
        (equalsIndicator 17 protocol)).set "is_icmp" (equalsIndicator 1 protocol)
  | none => df

/-- "Port-based features". -/
def portFeatures (df : Frame rows) : Except PyError (Frame rows) :=
  match df.column? "src_port", df.column? "dst_port" with
  | some source, some destination => do
      let sourceWellKnown ← atMostIndicator 1024 source
      let destinationWellKnown ← atMostIndicator 1024 destination
      pure ((((df.set "src_is_wellknown" sourceWellKnown).set "dst_is_wellknown"
        destinationWellKnown).set "src_is_common" (isinIndicator commonPorts source)).set
        "dst_is_common" (isinIndicator commonPorts destination))
  | _, _ => pure df

/-- `create_engineered_features`, its steps in the order of the source. -/
def createEngineeredFeatures (df : Frame rows) : Except PyError (Frame rows) := do
  let df ← ratioFeatures df
  let df ← packetSizeFeatures df
  let df ← flowEfficiencyFeature df
  let df ← flagFeatures df
  portFeatures (protocolFeatures df)

/-- The labels `create_engineered_features` can add. -/
def engineeredNames : List String :=
  ["fwd_bwd_ratio", "bwd_fwd_ratio", "avg_fwd_pkt_size", "avg_bwd_pkt_size", "flow_efficiency",
    "total_flags", "flag_diversity", "is_tcp", "is_udp", "is_icmp", "src_is_wellknown",
    "dst_is_wellknown", "src_is_common", "dst_is_common"]

/-! ## Which columns the engineer touches -/

/-- `out` is `df` after assignments to engineered labels only. -/
inductive SetsEngineered (df : Frame rows) : Frame rows → Prop
  | refl : SetsEngineered df df
  | set {out : Frame rows} (earlier : SetsEngineered df out) {name : String}
      (engineered : name ∈ engineeredNames) (column : Column rows) :
      SetsEngineered df (out.set name column)

namespace SetsEngineered

variable {df out : Frame rows}

theorem trans {middle : Frame rows} (first : SetsEngineered df middle)
    (second : SetsEngineered middle out) : SetsEngineered df out := by
  induction second with
  | refl => exact first
  | set _ engineered column inductionHypothesis => exact inductionHypothesis.set engineered column

/-- Every column of `out` is a column of `df` or carries an engineered label. -/
theorem mem_or_engineered (assigned : SetsEngineered df out) {entry : String × Column rows}
    (member : entry ∈ out) : entry ∈ df ∨ entry.1 ∈ engineeredNames := by
  induction assigned with
  | refl => exact Or.inl member
  | set _ engineered _ inductionHypothesis =>
      rcases Frame.mem_set member with earlier | rfl
      · exact inductionHypothesis earlier
      · exact Or.inr engineered

/-- A column of `df` under a label the engineer never assigns is a column of `out`. -/
theorem mem_of_not_engineered (assigned : SetsEngineered df out) {entry : String × Column rows}
    (member : entry ∈ df) (notEngineered : entry.1 ∉ engineeredNames) : entry ∈ out := by
  induction assigned with
  | refl => exact member
  | set _ engineered column inductionHypothesis =>
      exact Frame.mem_set_of_ne inductionHypothesis
        (fun same => notEngineered (same ▸ engineered)) column

theorem nodup_names (assigned : SetsEngineered df out) (unique : df.names.Nodup) :
    out.names.Nodup := by
  induction assigned with
  | refl => exact unique
  | set _ _ column inductionHypothesis => exact Frame.nodup_names_set inductionHypothesis _ column

end SetsEngineered

theorem setsEngineered_ratioFeatures {df out : Frame rows} (ran : ratioFeatures df = .ok out) :
    SetsEngineered df out := by
  unfold ratioFeatures at ran
  split at ran
  · obtain ⟨_, -, ran⟩ := bind_eq_ok.mp ran
    obtain ⟨_, -, ran⟩ := bind_eq_ok.mp ran
    rw [← pure_eq_ok.mp ran]
    exact (SetsEngineered.refl.set (by decide) _).set (by decide) _
  · rw [← pure_eq_ok.mp ran]
    exact .refl

theorem setsEngineered_averageSize {name length count : String}
    (engineered : name ∈ engineeredNames) {df out : Frame rows}
    (ran : averageSize name length count df = .ok out) : SetsEngineered df out := by
  unfold averageSize at ran
  split at ran
  · obtain ⟨_, -, ran⟩ := bind_eq_ok.mp ran
    rw [← pure_eq_ok.mp ran]
    exact SetsEngineered.refl.set engineered _
  · rw [← pure_eq_ok.mp ran]
    exact .refl

theorem setsEngineered_packetSizeFeatures {df out : Frame rows}
    (ran : packetSizeFeatures df = .ok out) : SetsEngineered df out := by
  obtain ⟨_, first, second⟩ := bind_eq_ok.mp ran
  exact (setsEngineered_averageSize (by decide) first).trans
    (setsEngineered_averageSize (by decide) second)

theorem setsEngineered_flowEfficiencyFeature {df out : Frame rows}
    (ran : flowEfficiencyFeature df = .ok out) : SetsEngineered df out := by
  unfold flowEfficiencyFeature at ran
  split at ran
  · obtain ⟨_, -, ran⟩ := bind_eq_ok.mp ran
    obtain ⟨_, -, ran⟩ := bind_eq_ok.mp ran
    rw [← pure_eq_ok.mp ran]
    exact SetsEngineered.refl.set (by decide) _
  · rw [← pure_eq_ok.mp ran]
    exact .refl

theorem setsEngineered_flagFeatures {df out : Frame rows} (ran : flagFeatures df = .ok out) :
    SetsEngineered df out := by
  unfold flagFeatures at ran
  split at ran
  · obtain ⟨_, -, ran⟩ := bind_eq_ok.mp ran
    rw [← pure_eq_ok.mp ran]
    exact (SetsEngineered.refl.set (by decide) _).set (by decide) _
  · rw [← pure_eq_ok.mp ran]
    exact .refl

theorem setsEngineered_protocolFeatures (df : Frame rows) :
    SetsEngineered df (protocolFeatures df) := by
  unfold protocolFeatures
  split
  · exact ((SetsEngineered.refl.set (by decide) _).set (by decide) _).set (by decide) _
  · exact .refl

theorem setsEngineered_portFeatures {df out : Frame rows} (ran : portFeatures df = .ok out) :
    SetsEngineered df out := by
  unfold portFeatures at ran
  split at ran
  · obtain ⟨_, -, ran⟩ := bind_eq_ok.mp ran
    obtain ⟨_, -, ran⟩ := bind_eq_ok.mp ran
    rw [← pure_eq_ok.mp ran]
    exact (((SetsEngineered.refl.set (by decide) _).set (by decide) _).set (by decide) _).set
      (by decide) _
  · rw [← pure_eq_ok.mp ran]
    exact .refl

/-- The engineer only assigns columns of engineered labels. -/
theorem setsEngineered_createEngineeredFeatures {df out : Frame rows}
    (ran : createEngineeredFeatures df = .ok out) : SetsEngineered df out := by
  unfold createEngineeredFeatures at ran
  obtain ⟨_, ratios, ran⟩ := bind_eq_ok.mp ran
  obtain ⟨_, sizes, ran⟩ := bind_eq_ok.mp ran
  obtain ⟨_, efficiency, ran⟩ := bind_eq_ok.mp ran
  obtain ⟨afterFlags, flags, ran⟩ := bind_eq_ok.mp ran
  exact (setsEngineered_ratioFeatures ratios).trans <|
    (setsEngineered_packetSizeFeatures sizes).trans <|
    (setsEngineered_flowEfficiencyFeature efficiency).trans <|
    (setsEngineered_flagFeatures flags).trans <|
    (setsEngineered_protocolFeatures afterFlags).trans (setsEngineered_portFeatures ran)

/-- The engineer assigns only the fourteen engineered labels: every other column of `df`
comes out as it was, every column it returns is a column of `df` or carries an engineered
label, and distinct labels stay distinct. -/
theorem createEngineeredFeatures_keeps {df out : Frame rows}
    (ran : createEngineeredFeatures df = .ok out) :
    (∀ entry ∈ df, entry.1 ∉ engineeredNames → entry ∈ out) ∧
      (∀ entry ∈ out, entry ∈ df ∨ entry.1 ∈ engineeredNames) ∧
      (df.names.Nodup → out.names.Nodup) :=
  have assigned := setsEngineered_createEngineeredFeatures ran
  ⟨fun _ => assigned.mem_of_not_engineered, fun _ => assigned.mem_or_engineered,
    assigned.nodup_names⟩

/-- A flow of protocol 6, which the engineer marks as TCP. -/
def oneTcpFlow : Frame 1 :=
  [("protocol", .numeric fun _ => .fin 6)]

theorem oneTcpFlow_keeps :
    ∃ out, createEngineeredFeatures oneTcpFlow = .ok out ∧
      (∀ entry ∈ oneTcpFlow, entry.1 ∉ engineeredNames → entry ∈ out) ∧
      (∀ entry ∈ out, entry ∈ oneTcpFlow ∨ entry.1 ∈ engineeredNames) ∧
      (oneTcpFlow.names.Nodup → out.names.Nodup) :=
  ⟨_, rfl, createEngineeredFeatures_keeps rfl⟩

end DdosAnalysis.Features
