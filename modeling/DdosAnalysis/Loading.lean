import DdosAnalysis.Frame
import DdosAnalysis.Schema
import DdosAnalysis.Labels
import Mathlib.Algebra.BigOperators.Group.List
import Mathlib.Data.Fin.Tuple.Basic
import Mathlib.Data.Fin.VecNotation
import Mathlib.Data.List.FinRange
import Mathlib.Data.String.Basic

/-!
# Loading the datasets

`load_all_datasets` reads every CSV file, normalizes its header, finds its label column,
standardizes the labels, caps the file by balanced per-class sampling, tags every row with
the file's name, and concatenates what it loaded. An exception anywhere in a file's `try`
body skips that file.

`df['label']` is a frame, not a column, when several columns carry the label; its `.str`
then raises and the file is skipped. `pd.concat` lines up the columns of the loaded tables
by label, and raises when a table with a repeated label has to be realigned.

The balanced sampling draws its rows with `x.sample(m, random_state=42)`, that is
`RandomState(42).choice(len(x), m, replace=False)`. The draw is a parameter here, given only
by what numpy guarantees of it, so every result holds for every draw.
-/

namespace DdosAnalysis.Loading

open Text Frame

/-- A frame together with its number of rows: what `read_csv`, the balanced sampling and
`pd.concat` return, whose row counts depend on the data. -/
abbrev Table :=
  Σ rows, Frame rows

variable {rows : Nat}

/-! ## The header and the label column -/

/-- `df = self.normalize_column_names(df)`: every column keeps its data under the name the
normalizer gives its position. -/
def normalizeFrame (t : CaseTable) (df : Frame rows) : Frame rows :=
  (Schema.normalizeColumnNames t df.names).zip (df.map Prod.snd)

/-- `df.rename(columns={alt: target}, inplace=True)`: every column labelled `alt` is
relabelled. -/
def renameLabel (df : Frame rows) (alt target : String) : Frame rows :=
  df.map fun entry => if entry.1 = alt then (target, entry.2) else entry

/-- The labels tried, in order, when the target is not a column. -/
def alternativeLabels : List String :=
  ["Label", "label", "LABEL", "target", "Target", "class", "Class", "attack", "Attack"]

/-- "Find label column": the frame with its label column under the target's name, or `none`
for the `continue` that skips the file. -/
def findLabelColumn (target : String) (df : Frame rows) : Option (Frame rows) :=
  if target ∈ df.names then some df
  else (alternativeLabels.find? (· ∈ df.names)).map fun alt => renameLabel df alt target

/-- What `df[name]` returns: the column when one column carries the label, the frame of all
of them when several do. -/
inductive Selection (rows : Nat) where
  | series (column : Column rows)
  | frame (columns : Frame rows)

/-- `df[name]`. -/
def getItem (df : Frame rows) (name : String) : Except PyError (Selection rows) :=
  match df.filter fun entry => entry.1 = name with
  | [] => .error (.keyError name)
  | [(_, column)] => .ok (.series column)
  | columns => .ok (.frame columns)

/-- `astype(str)` on a column: the text of every cell. `floatText` is Python's `str` of a
float, which the model does not compute. -/
def cellTexts (floatText : Num → String) : Column rows → Fin rows → String
  | .numeric values => fun i => floatText (values i)
  | .object values => values

/-- `df[target].astype(str).str.strip().str.upper()`: a frame of several columns has no
`.str` accessor. -/
def standardizedLabels (t : CaseTable) (floatText : Num → String) :
    Selection rows → Except PyError (Fin rows → String)
  | .series column => .ok fun i => Labels.normalizeLabel t (cellTexts floatText column i)
  | .frame _ => .error (.attributeError "str")

theorem names_normalizeFrame (t : CaseTable) (df : Frame rows) :
    (normalizeFrame t df).names = Schema.normalizeColumnNames t df.names := by
  refine List.map_fst_zip _ _ (le_of_eq ?_)
  rw [Schema.normalizeColumnNames_eq_map, List.length_map, Frame.names, List.length_map,
    List.length_map]

/-- `df[name]` is a frame whenever the label is carried twice. -/
theorem getItem_of_repeated {df : Frame rows} {name : String}
    (repeated : 2 ≤ df.names.count name) : ∃ columns, getItem df name = .ok (.frame columns) := by
  have carriers : (df.filter fun entry => entry.1 = name).length = df.names.count name := by
    rw [Frame.names, List.count, List.countP_map, List.countP_eq_length_filter]
    rfl
  unfold getItem
  split
  · rename_i none
    rw [none, List.length_nil] at carriers
    omega
  · rename_i one
    rw [one, List.length_singleton] at carriers
    omega
  · exact ⟨_, rfl⟩

/-! ## Balanced sampling -/

/-- `RandomState(42).choice(size, m, replace=False)`: positions within a group of `size`
rows, which depend on nothing but `size` and `m`. -/
structure SampleOracle where
  choice : (size m : Nat) → List (Fin size)
  choice_nodup : ∀ size m, (choice size m).Nodup
  choice_length : ∀ size m, m ≤ size → (choice size m).length = m

/-- `df[target].nunique()`. -/
def nunique (labels : Fin rows → String) : Nat :=
  (List.ofFn labels).dedup.length

/-- Python's `//` on non-negative integers. -/
def floorDiv (a b : Nat) : Except PyError Nat :=
  if b = 0 then .error .zeroDivisionError else .ok (a / b)

/-- The group keys of `df.groupby(target)`, sorted. -/
def groupKeys (labels : Fin rows → String) : List String :=
  (List.ofFn labels).dedup.insertionSort (· ≤ ·)

/-- The rows of the group of one label, in row order. -/
def groupRows (labels : Fin rows → String) (label : String) : List (Fin rows) :=
  (List.finRange rows).filter fun i => labels i = label

/-- `x.sample(min(len(x), samples_per_class), random_state=42)` on one group. -/
def sampleGroup (oracle : SampleOracle) (group : List (Fin rows)) (perClass : Nat) :
    List (Fin rows) :=
  (oracle.choice group.length (min group.length perClass)).map group.get

/-- The rows `groupby(...).apply(...)` keeps: every group's sample, the groups in key order. -/
def balancedPositions (oracle : SampleOracle) (perClass : Nat) (labels : Fin rows → String) :
    List (Fin rows) :=
  (groupKeys labels).flatMap fun label => sampleGroup oracle (groupRows labels label) perClass

/-- "Enhanced sampling strategy - balanced per class", with the standardized labels as the
group keys. Each group's sample is a selection of its rows, label column included, so the
concatenation of the samples, renumbered by `reset_index(drop=True)`, is the selection of
the kept rows. This is `groupby(...).apply(...)` before pandas 3, which hands each group to
the function with its grouping column; from pandas 3 on the groups lack the label column,
and so would the sample. -/
def balancedSample (oracle : SampleOracle) (maxSamples : Nat) (labels : Fin rows → String)
    (df : Frame rows) : Except PyError Table :=
  if maxSamples < rows then do
    let perClass ← floorDiv maxSamples (nunique labels)
    let positions := balancedPositions oracle perClass labels
    pure ⟨positions.length, df.select positions⟩
  else pure ⟨rows, df⟩

/-- The draw that takes the first `m` rows of the group: it meets the contract of a
`SampleOracle`, so that contract can be met. -/
def firstRows : SampleOracle where
  choice size m := (List.finRange size).take m
  choice_nodup size m := (List.nodup_finRange size).sublist (List.take_sublist _ _)
  choice_length size m fits := by simp [fits]

theorem mem_groupRows {labels : Fin rows → String} {label : String} {i : Fin rows} :
    i ∈ groupRows labels label ↔ labels i = label := by
  simp [groupRows]

theorem nodup_groupRows (labels : Fin rows → String) (label : String) :
    (groupRows labels label).Nodup :=
  (List.nodup_finRange rows).filter _

theorem length_groupRows (labels : Fin rows → String) (label : String) :
    (groupRows labels label).length = (List.ofFn labels).count label := by
  rw [List.ofFn_eq_map, List.count, List.countP_map, List.countP_eq_length_filter, groupRows]
  rfl

theorem mem_groupKeys {labels : Fin rows → String} {label : String} :
    label ∈ groupKeys labels ↔ label ∈ List.ofFn labels := by
  rw [groupKeys, (List.perm_insertionSort _ _).mem_iff, List.mem_dedup]

theorem nodup_groupKeys (labels : Fin rows → String) : (groupKeys labels).Nodup :=
  (List.perm_insertionSort _ _).nodup_iff.mpr (List.nodup_dedup _)

theorem length_groupKeys (labels : Fin rows → String) :
    (groupKeys labels).length = nunique labels :=
  (List.perm_insertionSort _ _).length_eq

theorem nunique_pos (labels : Fin rows → String) (nonempty : 0 < rows) :
    0 < nunique labels :=
  List.length_pos.mpr (List.ne_nil_of_mem
    (List.mem_dedup.mpr ((List.mem_ofFn labels _).mpr ⟨⟨0, nonempty⟩, rfl⟩)))

theorem mem_of_mem_sampleGroup {oracle : SampleOracle} {group : List (Fin rows)}
    {perClass : Nat} {i : Fin rows} (member : i ∈ sampleGroup oracle group perClass) :
    i ∈ group := by
  obtain ⟨position, _, rfl⟩ := List.mem_map.mp member
  exact List.get_mem _ _ _

theorem nodup_sampleGroup (oracle : SampleOracle) {group : List (Fin rows)}
    (nodup : group.Nodup) (perClass : Nat) : (sampleGroup oracle group perClass).Nodup :=
  (oracle.choice_nodup _ _).map_on fun _ _ _ _ same => nodup.get_inj_iff.mp same

theorem length_sampleGroup (oracle : SampleOracle) (group : List (Fin rows)) (perClass : Nat) :
    (sampleGroup oracle group perClass).length = min group.length perClass := by
  rw [sampleGroup, List.length_map, oracle.choice_length _ _ (min_le_left _ _)]

/-- A flat map over distinct keys, of which only one can contribute, is that key's part. -/
theorem flatMap_eq_of_nodup {κ α : Type} [DecidableEq κ] {keys : List κ} (nodup : keys.Nodup)
    {part : κ → List α} {key : κ} (others : ∀ other ∈ keys, other ≠ key → part other = []) :
    keys.flatMap part = if key ∈ keys then part key else [] := by
  induction keys with
  | nil => rfl
  | cons first rest inductionHypothesis =>
      obtain ⟨firstFresh, restNodup⟩ := List.nodup_cons.mp nodup
      have restPart := inductionHypothesis restNodup
        fun other member => others other (List.mem_cons_of_mem _ member)
      rw [List.flatMap_cons, restPart]
      by_cases same : first = key
      · subst same
        simp [firstFresh]
      · simp [others first (List.mem_cons_self _ _) same, Ne.symm same]

section Balanced

variable (oracle : SampleOracle) (perClass : Nat) (labels : Fin rows → String)

theorem labels_of_mem_sampleGroup {label : String} {i : Fin rows}
    (member : i ∈ sampleGroup oracle (groupRows labels label) perClass) : labels i = label :=
  mem_groupRows.mp (mem_of_mem_sampleGroup member)

theorem nodup_balancedPositions : (balancedPositions oracle perClass labels).Nodup :=
  List.nodup_flatMap.mpr ⟨fun _ _ => nodup_sampleGroup oracle (nodup_groupRows _ _) _,
    (nodup_groupKeys labels).imp fun different _ first second =>
      different ((labels_of_mem_sampleGroup oracle perClass labels first).symm.trans
        (labels_of_mem_sampleGroup oracle perClass labels second))⟩

/-- Every label keeps `min(n_l, samples_per_class)` rows: its own group's sample, which no
other group's sample meets. -/
theorem length_filter_balancedPositions (label : String) :
    ((balancedPositions oracle perClass labels).filter fun i => labels i = label).length =
      min ((List.ofFn labels).count label) perClass := by
  have others : ∀ other ∈ groupKeys labels, other ≠ label →
      (sampleGroup oracle (groupRows labels other) perClass).filter
        (fun i => labels i = label) = [] := fun other _ different =>
    List.filter_eq_nil_iff.mpr fun i member => by
      simpa [labels_of_mem_sampleGroup oracle perClass labels member] using different
  rw [balancedPositions, List.filter_flatMap, flatMap_eq_of_nodup (nodup_groupKeys labels) others]
  split
  · rw [List.filter_eq_self.mpr fun i member => by
      simp [labels_of_mem_sampleGroup oracle perClass labels member],
      length_sampleGroup, length_groupRows]
  · rename_i absent
    rw [List.count_eq_zero_of_not_mem (mt mem_groupKeys.mpr absent)]
    simp

theorem length_balancedPositions_le :
    (balancedPositions oracle perClass labels).length ≤ nunique labels * perClass := by
  rw [balancedPositions, List.length_flatMap, ← length_groupKeys, ← smul_eq_mul,
    ← List.length_map _ (List.length ∘ _)]
  refine List.sum_le_card_nsmul _ _ fun count member => ?_
  obtain ⟨label, _, rfl⟩ := List.mem_map.mp member
  simp [length_sampleGroup]

theorem length_balancedPositions_le_max (maxSamples : Nat) :
    (balancedPositions oracle (maxSamples / nunique labels) labels).length ≤ maxSamples :=
  calc _ ≤ nunique labels * (maxSamples / nunique labels) := length_balancedPositions_le _ _ _
    _ ≤ maxSamples := Nat.mul_div_le maxSamples (nunique labels)

end Balanced

theorem balancedSample_of_over (oracle : SampleOracle) (maxSamples : Nat)
    (labels : Fin rows → String) (df : Frame rows) (over : maxSamples < rows) :
    balancedSample oracle maxSamples labels df =
      .ok ⟨(balancedPositions oracle (maxSamples / nunique labels) labels).length,
        df.select (balancedPositions oracle (maxSamples / nunique labels) labels)⟩ := by
  simp only [balancedSample, if_pos over, floorDiv,
    if_neg (Nat.pos_iff_ne_zero.mp (nunique_pos labels (by omega)))]
  rfl

/-- The balanced sampling of a file with more than `M = max_samples_per_file` rows and `k`
distinct labels: `k ≥ 1`, so `M // k` raises nothing; the kept rows are distinct rows of the
table, with all its columns; every label `l` keeps exactly `min(n_l, M // k)` of its `n_l`
rows; and at most `M` rows are kept. -/
theorem balancedSample_keeps_per_label (oracle : SampleOracle) (maxSamples : Nat)
    (labels : Fin rows → String) (df : Frame rows) (over : maxSamples < rows) :
    1 ≤ nunique labels ∧ ∃ positions : List (Fin rows),
      balancedSample oracle maxSamples labels df = .ok ⟨positions.length, df.select positions⟩ ∧
      positions.Nodup ∧
      (∀ label, (positions.filter fun i => labels i = label).length =
        min ((List.ofFn labels).count label) (maxSamples / nunique labels)) ∧
      positions.length ≤ maxSamples :=
  ⟨nunique_pos labels (by omega), _, balancedSample_of_over oracle maxSamples labels df over,
    nodup_balancedPositions _ _ _, length_filter_balancedPositions _ _ _,
    length_balancedPositions_le_max _ _ _⟩

/-- Four flows, two SYN and two benign, with their durations. -/
def fourFlows : Frame 4 :=
  [("label", .object !["SYN", "BENIGN", "SYN", "BENIGN"]),
    ("flow_duration", .numeric ![.fin 1, .fin 2, .fin 3, .fin 4])]

/-- The labels of `fourFlows`. -/
def fourFlowLabels : Fin 4 → String :=
  !["SYN", "BENIGN", "SYN", "BENIGN"]

/-- Capped at three rows, the two labels keep `3 // 2 = 1` row each. -/
example : 3 / nunique fourFlowLabels = 1 := by
  decide

theorem fourFlows_balanced :
    3 < 4 ∧ (1 ≤ nunique fourFlowLabels ∧ ∃ positions : List (Fin 4),
      balancedSample firstRows 3 fourFlowLabels fourFlows =
        .ok ⟨positions.length, fourFlows.select positions⟩ ∧
      positions.Nodup ∧
      (∀ label, (positions.filter fun i => fourFlowLabels i = label).length =
        min ((List.ofFn fourFlowLabels).count label) (3 / nunique fourFlowLabels)) ∧
      positions.length ≤ 3) :=
  ⟨by decide, balancedSample_keeps_per_label firstRows 3 fourFlowLabels fourFlows (by decide)⟩

theorem balancedSample_rows_le {oracle : SampleOracle} {maxSamples : Nat}
    {labels : Fin rows → String} {df : Frame rows} {sampled : Table}
    (returned : balancedSample oracle maxSamples labels df = .ok sampled) :
    sampled.1 ≤ maxSamples := by
  by_cases over : maxSamples < rows
  · rw [balancedSample_of_over oracle maxSamples labels df over, Except.ok.injEq] at returned
    exact returned ▸ length_balancedPositions_le_max oracle labels maxSamples
  · simp only [balancedSample, if_neg over, pure, Except.pure, Except.ok.injEq] at returned
    exact returned ▸ Nat.le_of_not_lt over

/-! ## Concatenation -/

/-- The cells of every table, one table after the other: the rows of their concatenation. -/
def appendRows {α : Type} (cell : (rows : Nat) → Frame rows → Fin rows → α) :
    (tables : List Table) → Fin (tables.map Sigma.fst).sum → α
  | [] => Fin.elim0
  | ⟨_, df⟩ :: rest => Fin.append (cell _ df) (appendRows cell rest)

/-- A table's part of a float column of the concatenation: NaN where it lacks the column. -/
def floatPart : Option (Column rows) → Fin rows → Num
  | some (.numeric values) => values
  | _ => fun _ => .nan

/-- A table's part of an object column of the concatenation: the text of its cells, and
that of NaN where it lacks the column. -/
def textPart (floatText : Num → String) : Option (Column rows) → Fin rows → String
  | some column => cellTexts floatText column
  | none => fun _ => floatText .nan

/-- One column of the concatenation, from each table's part of it: floats unless some part
is of object dtype. -/
def concatColumn (floatText : Num → String) (tables : List Table)
    (part : (rows : Nat) → Frame rows → Option (Column rows)) :
    Column (tables.map Sigma.fst).sum :=
  if tables.any fun table => (part _ table.2).any Column.isObject then
    .object (appendRows (fun _ df => textPart floatText (part _ df)) tables)
  else .numeric (appendRows (fun _ df => floatPart (part _ df)) tables)

/-- `Index.unique`: every label once, in the order of its first appearance. -/
def uniqueNames (names : List String) : List String :=
  names.foldl (fun kept name => if name ∈ kept then kept else kept ++ [name]) []

/-- `pd.concat(tables, ignore_index=True)`. Tables with one header are stacked column by
column. Otherwise the columns are the union of the labels, in order of appearance, and
every table is realigned to it; realigning a table with a repeated label raises. -/
def concat (floatText : Num → String) : List Table → Except PyError Table
  | [] => .error .valueError
  | first :: rest =>
      if rest.all fun table => table.2.names = first.2.names then
        .ok ⟨((first :: rest).map Sigma.fst).sum, first.2.names.enum.map fun entry =>
          (entry.2, concatColumn floatText (first :: rest) fun _ df => df[entry.1]?.map Prod.snd)⟩
      else if (first :: rest).all fun table => table.2.names.Nodup then
        .ok ⟨((first :: rest).map Sigma.fst).sum,
          (uniqueNames ((first :: rest).flatMap fun table => table.2.names)).map fun name =>
            (name, concatColumn floatText (first :: rest) fun _ df => df.column? name)⟩
      else .error .invalidIndexError

theorem concat_rows {floatText : Num → String} {tables : List Table} {combined : Table}
    (concatenated : concat floatText tables = .ok combined) :
    combined.1 = (tables.map Sigma.fst).sum := by
  cases tables with
  | nil => cases concatenated
  | cons first rest =>
      dsimp only [concat] at concatenated
      split_ifs at concatenated <;> cases concatenated <;> rfl

/-! ## The loop over the files -/

section Loader

variable (t : CaseTable) (floatText : Num → String) (oracle : SampleOracle)
  (maxSamples : Nat) (target : String)

/-- The `try` body of `load_all_datasets` after `read_csv`: the tagged table, or `none` when
no label column is found. -/
def loadTable (csvFile : String) (raw : Table) : Except PyError (Option Table) :=
  match findLabelColumn target (normalizeFrame t raw.2) with
  | none => .ok none
  | some df => do
      let labels ← standardizedLabels t floatText (← getItem df target)
      let sampled ← balancedSample oracle maxSamples labels (df.set target (.object labels))
      pure (some ⟨sampled.1,
        sampled.2.set "source_file" (.object fun _ => csvFile.replace ".csv" "")⟩)

/-- The `try` body for one file; `read` is `pd.read_csv` on the file's path. -/
def loadFile (read : String → Except PyError Table) (csvFile : String) :
    Except PyError (Option Table) := do
  loadTable t floatText oracle maxSamples target csvFile (← read csvFile)

/-- `all_dataframes`: a file whose `try` body raises, or that has no label column, is
skipped. -/
def loadedTables (read : String → Except PyError Table) (csvFiles : List String) :
    List Table :=
  csvFiles.filterMap fun csvFile =>
    match loadFile t floatText oracle maxSamples target read csvFile with
    | .ok table => table
    | .error _ => none

/-- `load_all_datasets`: `None` when no file loaded, otherwise the concatenation. -/
def loadAllDatasets (read : String → Except PyError Table) (csvFiles : List String) :
    Except PyError (Option Table) :=
  match loadedTables t floatText oracle maxSamples target read csvFiles with
  | [] => .ok none
  | tables => some <$> concat floatText tables

theorem loadTable_rows_le {csvFile : String} {raw table : Table}
    (loaded : loadTable t floatText oracle maxSamples target csvFile raw = .ok (some table)) :
    table.1 ≤ maxSamples := by
  unfold loadTable at loaded
  split at loaded
  · cases loaded
  · obtain ⟨selection, -, loaded⟩ := bind_eq_ok.mp loaded
    obtain ⟨labels, -, loaded⟩ := bind_eq_ok.mp loaded
    obtain ⟨sampled, sampledOk, loaded⟩ := bind_eq_ok.mp loaded
    rw [pure_eq_ok, Option.some.injEq] at loaded
    rw [← loaded]
    exact show sampled.1 ≤ maxSamples from balancedSample_rows_le sampledOk

theorem rows_le_of_mem_loadedTables {read : String → Except PyError Table}
    {csvFiles : List String} {table : Table}
    (member : table ∈ loadedTables t floatText oracle maxSamples target read csvFiles) :
    table.1 ≤ maxSamples := by
  obtain ⟨csvFile, _, found⟩ := List.mem_filterMap.mp member
  split at found
  · rename_i loaded
    obtain ⟨raw, -, loaded⟩ := bind_eq_ok.mp loaded
    exact loadTable_rows_le t floatText oracle maxSamples target (found ▸ loaded)
  · cases found

theorem concat_of_loadAllDatasets {read : String → Except PyError Table}
    {csvFiles : List String} {combined : Table}
    (loaded : loadAllDatasets t floatText oracle maxSamples target read csvFiles =
      .ok (some combined)) :
    concat floatText (loadedTables t floatText oracle maxSamples target read csvFiles) =
      .ok combined := by
  unfold loadAllDatasets at loaded
  split at loaded
  · cases loaded
  · revert loaded
    cases concat floatText (loadedTables t floatText oracle maxSamples target read csvFiles) <;>
      simp [Functor.map, Except.map]

/-- Every file contributes at most `max_samples_per_file` rows: the unified dataset has at
most that many rows per CSV file. -/
theorem loadAllDatasets_rows_le (read : String → Except PyError Table) (csvFiles : List String)
    {combined : Table}
    (loaded : loadAllDatasets t floatText oracle maxSamples target read csvFiles =
      .ok (some combined)) :
    combined.1 ≤ maxSamples * csvFiles.length := by
  have bounded : ∀ rows ∈ (loadedTables t floatText oracle maxSamples target read
      csvFiles).map Sigma.fst, rows ≤ maxSamples := fun rows member => by
    obtain ⟨table, loaded, rfl⟩ := List.mem_map.mp member
    exact rows_le_of_mem_loadedTables t floatText oracle maxSamples target loaded
  calc combined.1 = _ := concat_rows (concat_of_loadAllDatasets t floatText oracle maxSamples
        target loaded)
    _ ≤ _ • maxSamples := List.sum_le_card_nsmul _ _ bounded
    _ ≤ maxSamples * csvFiles.length := by
      rw [smul_eq_mul, List.length_map, Nat.mul_comm]
      exact Nat.mul_le_mul_left _ (List.length_filterMap_le _ _)

/-- Two captures of one header, capped at two rows: `monday.csv` of two benign flows, kept
whole, and `syn.csv` of three flows, two of them SYN, sampled down to one flow per label. -/
def twoCaptures (csvFile : String) : Except PyError Table :=
  if csvFile = "syn.csv" then .ok ⟨3, [("Label", .object ![" syn", "BENIGN", "SYN"])]⟩
  else .ok ⟨2, [("Label", .object fun _ => "BENIGN")]⟩

example : (loadedTables asciiCase (fun _ => "nan") firstRows 2 "label" twoCaptures
    ["monday.csv", "syn.csv"]).length = 2 := by
  decide

theorem twoCaptures_rows_le :
    ∃ combined, loadAllDatasets asciiCase (fun _ => "nan") firstRows 2 "label" twoCaptures
        ["monday.csv", "syn.csv"] = .ok (some combined) ∧
      combined.1 ≤ 2 * ["monday.csv", "syn.csv"].length :=
  ⟨_, rfl, loadAllDatasets_rows_le asciiCase (fun _ => "nan") firstRows 2 "label" twoCaptures
    ["monday.csv", "syn.csv"] rfl⟩

/-- A file whose normalized header carries the target twice is skipped: `df[target]` is a
frame, and its `.str` raises. -/
theorem loadTable_of_repeated_target {csvFile : String} {raw : Table}
    (repeated : 2 ≤ (normalizeFrame t raw.2).names.count target) :
    loadTable t floatText oracle maxSamples target csvFile raw =
      .error (.attributeError "str") := by
  have present : target ∈ (normalizeFrame t raw.2).names := List.count_pos_iff.mp (by omega)
  obtain ⟨columns, selected⟩ := getItem_of_repeated repeated
  simp only [loadTable, findLabelColumn, if_pos present, selected]
  rfl

end Loader

/-- A binary `label` beside an attack `type`, as network datasets carry them: the normalizer
maps both onto `label`. -/
theorem normalizeColumnNames_label_type (t : CaseTable) :
    Schema.normalizeColumnNames t ["label", "type"] = ["label", "label"] := by
  rw [Schema.normalizeColumnNames_eq_map, List.map_cons, List.map_cons, List.map_nil,
    Schema.formatColumnName_of_plainChars t (by decide : ∀ c ∈ "label".data, _),
    Schema.formatColumnName_of_plainChars t (by decide : ∀ c ∈ "type".data, _)]
  decide

/-- Distinct raw headers that the normalizer merges: `label` and `type` both become `label`,
so `df['label']` is a frame of two columns, its `.str` raises, and `load_all_datasets`
skips the file, whatever its rows. -/
theorem labelBesideType_skipped (t : CaseTable) (floatText : Num → String)
    (oracle : SampleOracle) (maxSamples : Nat) (csvFile : String)
    (labelColumn typeColumn : Column rows) :
    ["label", "type"].Nodup ∧
      Schema.normalizeColumnNames t ["label", "type"] = ["label", "label"] ∧
      loadTable t floatText oracle maxSamples "label" csvFile
          ⟨rows, [("label", labelColumn), ("type", typeColumn)]⟩ =
        .error (.attributeError "str") ∧
      loadedTables t floatText oracle maxSamples "label"
          (fun _ => .ok ⟨rows, [("label", labelColumn), ("type", typeColumn)]⟩) [csvFile] = [] := by
  have merged := normalizeColumnNames_label_type t
  have raises : loadTable t floatText oracle maxSamples "label" csvFile
      ⟨rows, [("label", labelColumn), ("type", typeColumn)]⟩ = .error (.attributeError "str") :=
    loadTable_of_repeated_target t floatText oracle maxSamples "label" (by
      rw [names_normalizeFrame]
      show 2 ≤ (Schema.normalizeColumnNames t ["label", "type"]).count "label"
      rw [merged]
      decide)
  refine ⟨by decide, merged, raises, ?_⟩
  simp only [loadedTables, loadFile, bind, Except.bind, raises, List.filterMap_cons,
    List.filterMap_nil]

end DdosAnalysis.Loading
