import DdosAnalysis.Loading

/-!
# The unified dataset

What `load_all_datasets` hands to `preprocess_unified_data`. Every column of the
concatenation is the concatenation of the tables' columns of the same label, a column of
strings as soon as one table holds it as strings; its header is the union of the tables'
headers; and the concatenation of a single table is that table.

Every file the loop loads carries its label column as standardized strings and its
`source_file` column as the file's stem; through the concatenation, so does every row of the
unified dataset. The label search, run on a normalized header, can only ever fall back to a
column named `target`.
-/

namespace DdosAnalysis.Loading

open Text Frame

variable {rows : Nat}

/-! ## Rows of the concatenation -/

theorem appendRows_mem {α : Type} (cell : (rows : Nat) → Frame rows → Fin rows → α) :
    ∀ (tables : List Table) (row : Fin (tables.map Sigma.fst).sum),
      ∃ table ∈ tables, ∃ j, appendRows cell tables row = cell table.1 table.2 j
  | [], row => row.elim0
  | ⟨rows, df⟩ :: rest, row => by
      refine Fin.addCases (fun j => ?_) (fun i => ?_) row
      · exact ⟨_, List.mem_cons_self _ _, j, Fin.append_left _ _ j⟩
      · obtain ⟨table, member, j, same⟩ := appendRows_mem cell rest i
        exact ⟨table, List.mem_cons_of_mem _ member, j, (Fin.append_right _ _ i).trans same⟩

/-- A map through the cells of the concatenation is the concatenation of the mapped cells. -/
theorem map_appendRows {α β : Type} (f : α → β)
    {cell : (rows : Nat) → Frame rows → Fin rows → α}
    {mapped : (rows : Nat) → Frame rows → Fin rows → β} :
    ∀ (tables : List Table),
      (∀ table ∈ tables, ∀ j, f (cell _ table.2 j) = mapped _ table.2 j) →
      ∀ row, f (appendRows cell tables row) = appendRows mapped tables row
  | [], _, row => row.elim0
  | ⟨rows, df⟩ :: rest, agree, row => by
      refine Fin.addCases (fun j => ?_) (fun i => ?_) row
      · simp only [appendRows, Fin.append_left]
        exact agree _ (List.mem_cons_self _ _) j
      · simp only [appendRows, Fin.append_right]
        exact map_appendRows f rest
          (fun table member => agree table (List.mem_cons_of_mem _ member)) i

/-! ## Columns of the concatenation -/

theorem lookup_map_pair {α : Type} (f : String → α) (name : String) :
    ∀ names : List String, (names.map fun label => (label, f label)).lookup name =
      if name ∈ names then some (f name) else none
  | [] => rfl
  | label :: rest => by
      rw [List.map_cons, List.lookup_cons, lookup_map_pair f name rest]
      by_cases same : name = label
      · subst same
        simp
      · simp [same, beq_false_of_ne same]

theorem lookup_enumFrom {α : Type} (f : Nat → α) (name : String) :
    ∀ (names : List String) (start : Nat),
      ((names.enumFrom start).map fun entry => (entry.2, f entry.1)).lookup name =
        if name ∈ names then some (f (start + names.indexOf name)) else none
  | [], _ => rfl
  | label :: rest, start => by
      rw [List.enumFrom_cons, List.map_cons, List.lookup_cons, lookup_enumFrom f name rest]
      by_cases same : name = label
      · subst same
        simp
      · simp [same, beq_false_of_ne same, List.indexOf_cons_ne _ (Ne.symm same), Nat.add_assoc,
          Nat.add_comm 1]

theorem getElem?_indexOf (name : String) :
    ∀ df : Frame rows, df[df.names.indexOf name]?.map Prod.snd = df.column? name
  | [] => rfl
  | ⟨label, column⟩ :: rest => by
      by_cases same : name = label
      · subst same
        simp [Frame.names, Frame.column?]
      · have := getElem?_indexOf name rest
        simp only [Frame.names, Frame.column?] at this
        simp [Frame.names, Frame.column?, List.indexOf_cons_ne _ (Ne.symm same), this,
          List.lookup_cons, beq_false_of_ne same]


theorem mem_foldl_uniqueNames (name : String) : ∀ (names kept : List String),
    name ∈ names.foldl
        (fun kept label => if label ∈ kept then kept else kept ++ [label]) kept ↔
      name ∈ kept ∨ name ∈ names
  | [], kept => by simp
  | label :: rest, kept => by
      rw [List.foldl_cons, mem_foldl_uniqueNames name rest, List.mem_cons]
      by_cases present : label ∈ kept
      · rw [if_pos present]
        constructor
        · rintro (member | member) <;> simp [member]
        · rintro (member | rfl | member)
          · exact Or.inl member
          · exact Or.inl present
          · exact Or.inr member
      · simp [present, or_assoc]

theorem mem_uniqueNames {names : List String} {name : String} :
    name ∈ uniqueNames names ↔ name ∈ names := by
  simpa using mem_foldl_uniqueNames name names []

theorem concatColumn_congr (floatText : Num → String) {tables : List Table}
    {part other : (rows : Nat) → Frame rows → Option (Column rows)}
    (agree : ∀ table ∈ tables, part _ table.2 = other _ table.2) :
    concatColumn floatText tables part = concatColumn floatText tables other := by
  have objects : (tables.any fun table => (part _ table.2).any Column.isObject) =
      tables.any fun table => (other _ table.2).any Column.isObject := by
    rw [Bool.eq_iff_iff, List.any_eq_true, List.any_eq_true]
    exact exists_congr fun table => and_congr_right fun member => by rw [agree table member]
  unfold concatColumn
  rw [objects]
  congr 2 <;> funext row <;>
    exact map_appendRows id tables (fun table member j => by rw [agree table member]; rfl) row


/-- What a successful `pd.concat` returns, by the two ways it lines up the columns. -/
theorem concat_eq_ok {floatText : Num → String} {tables : List Table}
    {frame : Frame (tables.map Sigma.fst).sum}
    (concatenated : concat floatText tables = .ok ⟨_, frame⟩) :
    ∃ first ∈ tables,
      ((∀ table ∈ tables, table.2.names = first.2.names) ∧
          frame = first.2.names.enum.map fun entry =>
            (entry.2, concatColumn floatText tables fun _ df => df[entry.1]?.map Prod.snd)) ∨
        ((∀ table ∈ tables, table.2.names.Nodup) ∧
          frame = (uniqueNames (tables.flatMap fun table => table.2.names)).map fun name =>
            (name, concatColumn floatText tables fun _ df => df.column? name)) := by
  cases tables with
  | nil => cases concatenated
  | cons first rest =>
      refine ⟨first, List.mem_cons_self _ _, ?_⟩
      dsimp only [concat] at concatenated
      split_ifs at concatenated with same nodups
      · cases concatenated
        refine .inl ⟨fun table member => ?_, rfl⟩
        simp only [List.all_eq_true, decide_eq_true_eq] at same
        rcases List.mem_cons.mp member with rfl | member
        · rfl
        · exact same table member
      · cases concatenated
        simp only [List.all_eq_true, decide_eq_true_eq] at nodups
        exact .inr ⟨nodups, rfl⟩

theorem names_concat {floatText : Num → String} {tables : List Table}
    {frame : Frame (tables.map Sigma.fst).sum}
    (concatenated : concat floatText tables = .ok ⟨_, frame⟩) :
    ∃ first ∈ tables, ((∀ table ∈ tables, table.2.names = first.2.names) ∧
        frame.names = first.2.names) ∨
      ((∀ table ∈ tables, table.2.names.Nodup) ∧
        frame.names = uniqueNames (tables.flatMap fun table => table.2.names)) := by
  obtain ⟨first, member, ⟨same, rfl⟩ | ⟨nodups, rfl⟩⟩ := concat_eq_ok concatenated
  · exact ⟨first, member,
      .inl ⟨same, by simp [Frame.names, List.map_map, Function.comp_def]⟩⟩
  · exact ⟨first, member,
      .inr ⟨nodups, by simp [Frame.names, List.map_map, Function.comp_def]⟩⟩

/-- Each column of the concatenation is the concatenation of every table's column of that
label. -/
theorem column?_concat {floatText : Num → String} {tables : List Table}
    {frame : Frame (tables.map Sigma.fst).sum}
    (concatenated : concat floatText tables = .ok ⟨_, frame⟩) (name : String) :
    frame.column? name = if name ∈ frame.names then
      some (concatColumn floatText tables fun _ df => df.column? name) else none := by
  obtain ⟨first, _, ⟨same, rfl⟩ | ⟨_, rfl⟩⟩ := concat_eq_ok concatenated
  · have positions : concatColumn floatText tables (fun _ df => df[first.2.names.indexOf name]?.map
        Prod.snd) = concatColumn floatText tables fun _ df => df.column? name :=
      concatColumn_congr floatText fun table member => by
        rw [← same table member, getElem?_indexOf]
    have names : Frame.names (first.2.names.enum.map fun entry => (entry.2,
        concatColumn floatText tables fun _ df => df[entry.1]?.map Prod.snd)) = first.2.names := by
      simp [Frame.names, List.map_map, Function.comp_def]
    rw [names, Frame.column?, List.enum_eq_enumFrom, lookup_enumFrom (fun position =>
      concatColumn floatText tables fun _ df => df[position]?.map Prod.snd), Nat.zero_add,
      positions]
  · rw [Frame.column?, lookup_map_pair]
    simp [Frame.names, List.map_map, Function.comp_def]

theorem exists_frame_of_concat {floatText : Num → String} {tables : List Table}
    {combined : Table} (concatenated : concat floatText tables = .ok combined) :
    ∃ frame : Frame (tables.map Sigma.fst).sum, combined = ⟨_, frame⟩ := by
  obtain ⟨rows, frame⟩ := combined
  obtain rfl : rows = _ := concat_rows concatenated
  exact ⟨frame, rfl⟩

theorem mem_names_concat {floatText : Num → String} {tables : List Table}
    {frame : Frame (tables.map Sigma.fst).sum}
    (concatenated : concat floatText tables = .ok ⟨_, frame⟩) (name : String) :
    name ∈ frame.names ↔ ∃ table ∈ tables, name ∈ table.2.names := by
  obtain ⟨first, firstMember, ⟨same, header⟩ | ⟨_, header⟩⟩ := names_concat concatenated
  · rw [header]
    exact ⟨fun present => ⟨first, firstMember, present⟩,
      fun ⟨table, member, present⟩ => same table member ▸ present⟩
  · rw [header, mem_uniqueNames, List.mem_flatMap]

/-- A column that some table holds as strings is a column of strings in the concatenation. -/
theorem concatColumn_of_object (floatText : Num → String) {tables : List Table}
    {part : (rows : Nat) → Frame rows → Option (Column rows)}
    (someObject : ∃ table ∈ tables, (part _ table.2).any Column.isObject) :
    concatColumn floatText tables part =
      .object (appendRows (fun _ df => textPart floatText (part _ df)) tables) := by
  unfold concatColumn
  rw [if_pos (List.any_eq_true.mpr someObject)]

/-- A label every table carries as strings with some property is a column of strings with
that property in the concatenation. -/
theorem concat_object_column {floatText : Num → String} {tables : List Table}
    {frame : Frame (tables.map Sigma.fst).sum}
    (concatenated : concat floatText tables = .ok ⟨_, frame⟩) {name : String}
    {property : String → Prop}
    (carried : ∀ table ∈ tables, ∃ values, table.2.column? name = some (.object values) ∧
      ∀ j, property (values j)) :
    ∃ values, frame.column? name = some (.object values) ∧ ∀ row, property (values row) := by
  obtain ⟨first, firstMember, -⟩ := concat_eq_ok concatenated
  obtain ⟨firstValues, firstFound, -⟩ := carried first firstMember
  have present : name ∈ frame.names := (mem_names_concat concatenated name).mpr
    ⟨first, firstMember, List.mem_map_of_mem Prod.fst (mem_of_column? firstFound)⟩
  rw [column?_concat concatenated, if_pos present,
    concatColumn_of_object floatText
      ⟨first, firstMember, by simp [firstFound, Column.isObject]⟩]
  refine ⟨_, rfl, fun row => ?_⟩
  obtain ⟨table, member, j, cell⟩ := appendRows_mem _ tables row
  obtain ⟨values, found, holds⟩ := carried table member
  rw [cell, found]
  exact holds j

/-! ## What every loaded file holds -/

theorem balancedSample_cases {oracle : SampleOracle} {maxSamples : Nat}
    {labels : Fin rows → String} {df : Frame rows} {sampled : Table}
    (returned : balancedSample oracle maxSamples labels df = .ok sampled) :
    sampled = ⟨rows, df⟩ ∨
      ∃ positions : List (Fin rows), sampled = ⟨positions.length, df.select positions⟩ := by
  by_cases over : maxSamples < rows
  · rw [balancedSample_of_over oracle maxSamples labels df over, Except.ok.injEq] at returned
    exact .inr ⟨_, returned.symm⟩
  · simp only [balancedSample, if_neg over, pure, Except.pure, Except.ok.injEq] at returned
    exact .inl returned.symm

theorem standardizedLabels_normalized {t : CaseTable} {floatText : Num → String}
    {selection : Selection rows} {labels : Fin rows → String}
    (standardized : standardizedLabels t floatText selection = .ok labels) (i : Fin rows) :
    Labels.normalizeLabel t (labels i) = labels i := by
  cases selection with
  | series column =>
      cases standardized
      exact Labels.normalizeLabel_normalizeLabel t _
  | frame _ => cases standardized

section Loader

variable (t : CaseTable) (floatText : Num → String) (oracle : SampleOracle)
  (maxSamples : Nat) (target : String)

/-- A loaded file carries its label column as standardized strings and its `source_file`
column as the file's stem. -/
theorem loadTable_columns (different : target ≠ "source_file") {csvFile : String}
    {raw table : Table}
    (loaded : loadTable t floatText oracle maxSamples target csvFile raw = .ok (some table)) :
    (∃ labels, table.2.column? target = some (.object labels) ∧
        ∀ i, Labels.normalizeLabel t (labels i) = labels i) ∧
      table.2.column? "source_file" = some (.object fun _ => csvFile.replace ".csv" "") := by
  unfold loadTable at loaded
  split at loaded
  · cases loaded
  · rename_i df _
    obtain ⟨selection, -, loaded⟩ := bind_eq_ok.mp loaded
    obtain ⟨labels, standardized, loaded⟩ := bind_eq_ok.mp loaded
    obtain ⟨sampled, sampledOk, loaded⟩ := bind_eq_ok.mp loaded
    rw [pure_eq_ok, Option.some.injEq] at loaded
    subst loaded
    refine ⟨?_, by rw [column?_set, if_pos rfl]⟩
    rw [column?_set, if_neg different]
    rcases balancedSample_cases sampledOk with rfl | ⟨positions, rfl⟩
    · exact ⟨labels, by rw [column?_set, if_pos rfl],
        standardizedLabels_normalized standardized⟩
    · refine ⟨_, by rw [column?_select, column?_set, if_pos rfl]; rfl, fun i => ?_⟩
      exact standardizedLabels_normalized standardized _

theorem mem_loadedTables {read : String → Except PyError Table} {csvFiles : List String}
    {table : Table}
    (member : table ∈ loadedTables t floatText oracle maxSamples target read csvFiles) :
    ∃ csvFile ∈ csvFiles, ∃ raw, read csvFile = .ok raw ∧
      loadTable t floatText oracle maxSamples target csvFile raw = .ok (some table) := by
  obtain ⟨csvFile, listed, found⟩ := List.mem_filterMap.mp member
  split at found
  · rename_i loaded
    obtain ⟨raw, readOk, loaded⟩ := bind_eq_ok.mp loaded
    exact ⟨csvFile, listed, raw, readOk, found ▸ loaded⟩
  · cases found

/-- The unified dataset carries the label column of every loaded file, as strings that
`strip().upper()` leaves unchanged. -/
theorem labels_of_loadAllDatasets {read : String → Except PyError Table}
    {csvFiles : List String} (different : target ≠ "source_file") {combined : Table}
    (loaded : loadAllDatasets t floatText oracle maxSamples target read csvFiles =
      .ok (some combined)) :
    ∃ labels, combined.2.column? target = some (.object labels) ∧
      ∀ row, Labels.normalizeLabel t (labels row) = labels row := by
  have concatenated := concat_of_loadAllDatasets t floatText oracle maxSamples target loaded
  obtain ⟨frame, rfl⟩ := exists_frame_of_concat concatenated
  refine @concat_object_column floatText _ _ concatenated target
    (fun label => Labels.normalizeLabel t label = label) fun table member => ?_
  obtain ⟨csvFile, -, raw, -, tableOk⟩ :=
    mem_loadedTables t floatText oracle maxSamples target member
  exact (loadTable_columns t floatText oracle maxSamples target different tableOk).1

/-- Every label of the unified dataset is standardized, so `strip().upper()` leaves it
unchanged, and every row carries in `source_file` the stem of one of the CSV files. -/
theorem loadAllDatasets_columns (read : String → Except PyError Table) (csvFiles : List String)
    (different : target ≠ "source_file") {combined : Table}
    (loaded : loadAllDatasets t floatText oracle maxSamples target read csvFiles =
      .ok (some combined)) :
    (∃ labels, combined.2.column? target = some (.object labels) ∧
        ∀ row, Labels.normalizeLabel t (labels row) = labels row) ∧
      ∃ stems, combined.2.column? "source_file" = some (.object stems) ∧
        ∀ row, ∃ csvFile ∈ csvFiles, stems row = csvFile.replace ".csv" "" := by
  refine ⟨labels_of_loadAllDatasets t floatText oracle maxSamples target different loaded, ?_⟩
  have concatenated := concat_of_loadAllDatasets t floatText oracle maxSamples target loaded
  obtain ⟨frame, rfl⟩ := exists_frame_of_concat concatenated
  refine @concat_object_column floatText _ _ concatenated "source_file"
    (fun stem => ∃ csvFile ∈ csvFiles, stem = csvFile.replace ".csv" "") fun table member => ?_
  obtain ⟨csvFile, listed, raw, -, tableOk⟩ :=
    mem_loadedTables t floatText oracle maxSamples target member
  exact ⟨_, (loadTable_columns t floatText oracle maxSamples target different tableOk).2,
    fun _ => ⟨csvFile, listed, rfl⟩⟩

end Loader

theorem twoCaptures_columns :
    "label" ≠ "source_file" ∧ ∃ combined, loadAllDatasets asciiCase (fun _ => "nan") firstRows 2
        "label" twoCaptures ["monday.csv", "syn.csv"] = .ok (some combined) ∧
      (∃ labels, combined.2.column? "label" = some (.object labels) ∧
          ∀ row, Labels.normalizeLabel asciiCase (labels row) = labels row) ∧
        ∃ stems, combined.2.column? "source_file" = some (.object stems) ∧
          ∀ row, ∃ csvFile ∈ ["monday.csv", "syn.csv"], stems row = csvFile.replace ".csv" "" :=
  ⟨by decide, _, rfl, loadAllDatasets_columns asciiCase (fun _ => "nan") firstRows 2 "label"
    twoCaptures ["monday.csv", "syn.csv"] (by decide) rfl⟩

/-! ## The label search on a normalized header -/

/-- Every name of a normalized header is formatted, and matched by no renaming rule or
mapped to itself. -/
theorem normalized_name_fixed {t : CaseTable} {df : Frame rows} {name : String}
    (present : name ∈ (normalizeFrame t df).names) :
    Schema.formatColumnName t name = name ∧
      (Schema.mappingFor name = none ∨ Schema.mappingFor name = some name) := by
  rw [names_normalizeFrame, Schema.normalizeColumnNames_eq_map, List.mem_map] at present
  obtain ⟨col, _, rfl⟩ := present
  exact Schema.renameColumn_fixed t col

theorem formatColumnName_of_ascii (t : CaseTable) {col : String}
    (ascii : ∀ c ∈ replaceSpace (stripChars col.data), c.toNat < 128) :
    Schema.formatColumnName t col =
      ⟨(replaceSpace (stripChars col.data)).map Char.toLower⟩ := by
  simp only [Schema.formatColumnName, pyLower, t.lower.apply_of_ascii ascii]

/-- The capitalized alternatives are not formatted, and `class` and `attack` are renamed to
`label`: none of them is ever a normalized name. -/
theorem alternative_not_mem_normalized {t : CaseTable} {df : Frame rows} {alt : String}
    (listed : alt ∈ ["Label", "LABEL", "Target", "Class", "Attack", "class", "attack"]) :
    alt ∉ (normalizeFrame t df).names := by
  intro present
  obtain ⟨formatted, fixed⟩ := normalized_name_fixed present
  simp only [List.mem_cons, List.mem_singleton, List.not_mem_nil, or_false] at listed
  rcases listed with rfl | rfl | rfl | rfl | rfl | rfl | rfl <;>
    rw [formatColumnName_of_ascii t (by decide)] at formatted <;> revert formatted fixed <;>
    decide

/-- On a normalized header the search for the label column can only fall back to a column
named `target`: the other eight alternatives never match. -/
theorem findLabelColumn_normalizeFrame (t : CaseTable) (df : Frame rows) :
    findLabelColumn "label" (normalizeFrame t df) =
      if "label" ∈ (normalizeFrame t df).names then some (normalizeFrame t df)
      else if "target" ∈ (normalizeFrame t df).names then
        some (renameLabel (normalizeFrame t df) "target" "label")
      else none := by
  have absent : ∀ alt ∈ ["Label", "LABEL", "Target", "Class", "Attack", "class", "attack"],
      alt ∉ (normalizeFrame t df).names := fun _ listed => alternative_not_mem_normalized listed
  unfold findLabelColumn
  split_ifs with labelPresent targetPresent
  · rfl
  all_goals simp [alternativeLabels, List.find?_cons, labelPresent, targetPresent, absent]

end DdosAnalysis.Loading
