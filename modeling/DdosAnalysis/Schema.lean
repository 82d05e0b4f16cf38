import DdosAnalysis.Text

/-!
# The column normalizer

`normalize_column_names` formats every raw header with `strip`, `replace(' ', '_')` and
`lower`, then renames it by the static `column_mappings` table or, failing that, by the
ordered substring rules of the `elif` chain. Columns no rule matches keep their formatted
name.

The main result is that the normalizer is idempotent: every name it returns is already
formatted and is either matched by no rule or mapped to itself. The keys of
`column_mappings` that carry capitals or spaces can never match a formatted name; the proof
does not need that, only that every value a rule can produce is a fixed point.
-/

namespace DdosAnalysis.Schema

open DdosAnalysis.Text

/-- `self.column_mappings`, in the order of the dictionary literal in `__init__`. -/
def columnMappings : List (String × String) :=
  [("Flow Packets/s", "flow_pkts_s"), ("Packet Length Mean", "pkt_len_mean"),
    ("Flow IAT Mean", "flow_iat_mean"), ("SYN Flag Count", "syn_flag_cnt"),
    ("ACK Flag Count", "ack_flag_cnt"), ("RST Flag Count", "rst_flag_cnt"),
    ("FIN Flag Count", "fin_flag_cnt"), ("Flow Duration", "flow_duration"),
    ("Flow Bytes/s", "flow_byts_s"), ("Down/Up Ratio", "down_up_ratio"),
    ("Fwd Packets/s", "fwd_pkts_s"), ("Bwd Packets/s", "bwd_pkts_s"),
    ("Flow IAT Std", "flow_iat_std"), ("Source IP", "src_ip"), ("Protocol", "protocol"),
    ("Label", "label"), ("Timestamp", "timestamp"),
    ("Total Fwd Packets", "tot_fwd_pkts"), ("Total Backward Packets", "tot_bwd_pkts"),
    ("Total Length of Fwd Packets", "totlen_fwd_pkts"),
    ("Total Length of Bwd Packets", "totlen_bwd_pkts"),
    ("Fwd Packet Length Max", "fwd_pkt_len_max"), ("Fwd Packet Length Min", "fwd_pkt_len_min"),
    ("Fwd Packet Length Mean", "fwd_pkt_len_mean"),
    ("Fwd Packet Length Std", "fwd_pkt_len_std"), ("Bwd Packet Length Max", "bwd_pkt_len_max"),
    ("Bwd Packet Length Min", "bwd_pkt_len_min"),
    ("Bwd Packet Length Mean", "bwd_pkt_len_mean"),
    ("Bwd Packet Length Std", "bwd_pkt_len_std"), ("Packet Length Max", "pkt_len_max"),
    ("Packet Length Min", "pkt_len_min"), ("Packet Length Std", "pkt_len_std"),
    ("Packet Length Variance", "pkt_len_var"), ("FIN Flag Count", "fin_flag_cnt"),
    ("SYN Flag Count", "syn_flag_cnt"), ("RST Flag Count", "rst_flag_cnt"),
    ("PSH Flag Count", "psh_flag_cnt"), ("ACK Flag Count", "ack_flag_cnt"),
    ("URG Flag Count", "urg_flag_cnt"), ("CWE Flag Count", "cwr_flag_count"),
    ("ECE Flag Count", "ece_flag_cnt"), ("Init_Win_bytes_forward", "init_fwd_win_byts"),
    ("Init_Win_bytes_backward", "init_bwd_win_byts"), ("act_data_pkt_fwd", "fwd_act_data_pkts"),
    ("min_seg_size_forward", "fwd_seg_size_min"), ("Active Mean", "active_mean"),
    ("Active Std", "active_std"), ("Active Max", "active_max"), ("Active Min", "active_min"),
    ("Idle Mean", "idle_mean"), ("Idle Std", "idle_std"), ("Idle Max", "idle_max"),
    ("Idle Min", "idle_min"),
    ("src_ip", "src_ip"), ("dst_ip", "dst_ip"),
    ("src_port", "src_port"), ("dst_port", "dst_port"),
    ("protocol", "protocol"), ("timestamp", "timestamp"),
    ("flow_duration", "flow_duration"), ("flow_byts_s", "flow_byts_s"),
    ("flow_pkts_s", "flow_pkts_s"), ("fwd_pkts_s", "fwd_pkts_s"),
    ("bwd_pkts_s", "bwd_pkts_s"), ("pkt_len_mean", "pkt_len_mean"),
    ("flow_iat_mean", "flow_iat_mean"), ("flow_iat_std", "flow_iat_std"),
    ("fin_flag_cnt", "fin_flag_cnt"), ("syn_flag_cnt", "syn_flag_cnt"),
    ("rst_flag_cnt", "rst_flag_cnt"), ("ack_flag_cnt", "ack_flag_cnt"),
    ("down_up_ratio", "down_up_ratio"), ("label", "label")]

/-- `col.strip().replace(' ', '_').lower()`, the first line of `normalize_column_names`. -/
def formatColumnName (t : CaseTable) (col : String) : String :=
  pyLower t ⟨replaceSpace (stripChars col.data)⟩

/-- The entry the loop of `normalize_column_names` puts into `current_mapping` for one
formatted column: a direct lookup, then the substring rules in order. -/
def mappingFor (col : String) : Option String :=
  match dictGet columnMappings col with
  | some canonical => some canonical
  | none =>
      if pyContains "source" col && pyContains "ip" col then some "src_ip"
      else if pyContains "destination" col && pyContains "ip" col then some "dst_ip"
      else if pyContains "source" col && pyContains "port" col then some "src_port"
      else if pyContains "destination" col && pyContains "port" col then some "dst_port"
      else if col ∈ ["class", "attack", "type"] then some "label"
      else none

/-- `current_mapping` as the loop builds it over the formatted columns. -/
def currentMapping (columns : List String) : List (String × String) :=
  columns.filterMap fun col => (mappingFor col).map (col, ·)

/-- `normalize_column_names` on the header of a frame: format every name, build
`current_mapping`, and `rename(columns=current_mapping)`. -/
def normalizeColumnNames (t : CaseTable) (columns : List String) : List String :=
  let formatted := columns.map (formatColumnName t)
  let mapping := currentMapping formatted
  formatted.map fun col => (dictGet mapping col).getD col

/-- What `rename` does to one formatted name. -/
def renameColumn (col : String) : String :=
  (mappingFor col).getD col

/-! ## Renaming is one function of the name -/

theorem dictGet_currentMapping {columns : List String} {col : String}
    (member : col ∈ columns) : dictGet (currentMapping columns) col = mappingFor col := by
  have entryValue : ∀ {value}, dictGet (currentMapping columns) col = some value →
      mappingFor col = some value := by
    intro value found
    have entry := mem_of_dictGet found
    simp only [currentMapping, List.mem_filterMap, Option.map_eq_some', Prod.mk.injEq] at entry
    obtain ⟨name, _, canonical, direct, rfl, rfl⟩ := entry
    exact direct
  cases result : mappingFor col with
  | none =>
      cases lookup : dictGet (currentMapping columns) col with
      | none => rfl
      | some value => exact absurd (entryValue lookup) (by simp [result])
  | some canonical =>
      have present : (col, canonical) ∈ currentMapping columns :=
        List.mem_filterMap.mpr ⟨col, member, by simp [result]⟩
      obtain ⟨value, lookup⟩ := Option.isSome_iff_exists.mp (dictGet_isSome_of_mem present)
      rw [lookup, ← result, entryValue lookup]

theorem normalizeColumnNames_eq_map (t : CaseTable) (columns : List String) :
    normalizeColumnNames t columns =
      columns.map fun col => renameColumn (formatColumnName t col) := by
  simp only [normalizeColumnNames, List.map_map]
  refine List.map_congr_left fun col member => ?_
  simp only [Function.comp, renameColumn]
  rw [dictGet_currentMapping (List.mem_map_of_mem _ member)]

/-! ## Formatting is idempotent -/

theorem formatColumnName_formatColumnName (t : CaseTable) (col : String) :
    formatColumnName t (formatColumnName t col) = formatColumnName t col := by
  have ends : EndsNonSpace (t.lower.apply (replaceSpace (stripChars col.data))) :=
    t.lower.endsNonSpace_apply (endsNonSpace_replaceSpace (endsNonSpace_stripChars _))
  have noSpace : ' ' ∉ t.lower.apply (replaceSpace (stripChars col.data)) :=
    t.lower.space_not_mem_apply (space_not_mem_replaceSpace _)
  simp only [formatColumnName, pyLower]
  rw [stripChars_of_endsNonSpace ends, replaceSpace_of_not_mem noSpace, CaseMap.apply_apply]

/-- A name that is ASCII, already stripped, without spaces and without capitals is
formatted to itself, whatever the Unicode tables. -/
theorem formatColumnName_of_plain (t : CaseTable) {col : String}
    (stripped : stripChars col.data = col.data) (noSpace : replaceSpace col.data = col.data)
    (ascii : ∀ c ∈ col.data, c.toNat < 128) (lower : col.data.map Char.toLower = col.data) :
    formatColumnName t col = col := by
  simp only [formatColumnName, pyLower, stripped, noSpace, t.lower.apply_of_ascii ascii, lower]

/-! ## Every canonical name is a fixed point -/

/-- Every name a rule of `mappingFor` can produce. -/
def canonicalNames : List String :=
  columnMappings.map Prod.snd ++ ["src_ip", "dst_ip", "src_port", "dst_port", "label"]

theorem mappingFor_mem_canonicalNames {col canonical : String}
    (found : mappingFor col = some canonical) : canonical ∈ canonicalNames := by
  unfold mappingFor at found
  split at found
  · rename_i direct
    rw [Option.some.injEq] at found
    subst found
    exact List.mem_append_left _ (List.mem_map_of_mem Prod.snd (mem_of_dictGet direct))
  · split_ifs at found <;> rw [Option.some.injEq] at found <;> subst found <;>
      simp [canonicalNames]

/-- The characters canonical names are made of: lowercase ASCII letters and `_`. -/
def isPlainChar (c : Char) : Bool :=
  (97 ≤ c.toNat && c.toNat ≤ 122) || c.toNat == 95

theorem toNat_of_plain {c : Char} (plain : isPlainChar c = true) :
    95 ≤ c.toNat ∧ c.toNat ≤ 122 ∧ c.toNat ≠ 96 := by
  simp only [isPlainChar, Bool.or_eq_true, Bool.and_eq_true, decide_eq_true_eq,
    beq_iff_eq] at plain
  omega

theorem isPySpace_of_plain {c : Char} (plain : isPlainChar c = true) : isPySpace c = false := by
  have bounds := toNat_of_plain plain
  simp only [isPySpace, Bool.or_eq_false_iff, Bool.and_eq_false_iff, decide_eq_false_iff_not,
    beq_eq_false_iff_ne, ne_eq]
  omega

theorem toLower_of_plain {c : Char} (plain : isPlainChar c = true) : c.toLower = c := by
  have bounds := toNat_of_plain plain
  simp only [Char.toLower]
  rw [if_neg (by omega)]

theorem canonicalNames_plainChars :
    ∀ name ∈ canonicalNames, ∀ c ∈ name.data, isPlainChar c = true := by
  decide

/-- A name made of plain characters is formatted to itself, whatever the Unicode tables. -/
theorem formatColumnName_of_plainChars (t : CaseTable) {col : String}
    (plain : ∀ c ∈ col.data, isPlainChar c = true) : formatColumnName t col = col := by
  refine formatColumnName_of_plain t
    (stripChars_of_endsNonSpace ⟨fun c first => ?_, fun c last => ?_⟩)
    (replaceSpace_of_not_mem fun space => ?_)
    (fun c listed => by have := toNat_of_plain (plain c listed); omega) ?_
  · exact isPySpace_of_plain (plain c (List.mem_of_mem_head? first))
  · exact isPySpace_of_plain (plain c (List.mem_of_mem_getLast? last))
  · exact absurd (toNat_of_plain (plain ' ' space)).1 (by decide)
  · rw [List.map_congr_left fun c listed => toLower_of_plain (plain c listed), List.map_id']

theorem canonicalNames_fixed :
    ∀ name ∈ canonicalNames, mappingFor name = some name ∨ mappingFor name = none := by
  decide

/-- The output of the normalizer, name by name: already formatted, and matched by no rule
or mapped to itself. -/
theorem renameColumn_fixed (t : CaseTable) (col : String) :
    formatColumnName t (renameColumn (formatColumnName t col)) =
        renameColumn (formatColumnName t col) ∧
      (mappingFor (renameColumn (formatColumnName t col)) = none ∨
        mappingFor (renameColumn (formatColumnName t col)) =
          some (renameColumn (formatColumnName t col))) := by
  unfold renameColumn
  cases found : mappingFor (formatColumnName t col) with
  | none =>
      simp only [Option.getD_none, formatColumnName_formatColumnName, found, true_or,
        and_self]
  | some canonical =>
      have member := mappingFor_mem_canonicalNames found
      simp only [Option.getD_some,
        formatColumnName_of_plainChars t (canonicalNames_plainChars canonical member), true_and]
      exact (canonicalNames_fixed canonical member).symm

/-- `normalize_column_names` is idempotent: applied to its own output it renames nothing,
because every output name is already formatted and either matches no rule or is mapped to
itself. -/
theorem normalizeColumnNames_idempotent (t : CaseTable) (columns : List String) :
    normalizeColumnNames t (normalizeColumnNames t columns) = normalizeColumnNames t columns ∧
      ∀ name ∈ normalizeColumnNames t columns, formatColumnName t name = name ∧
        (mappingFor name = none ∨ mappingFor name = some name) := by
  have pointwise : ∀ name ∈ normalizeColumnNames t columns, formatColumnName t name = name ∧
      (mappingFor name = none ∨ mappingFor name = some name) := by
    intro name member
    rw [normalizeColumnNames_eq_map, List.mem_map] at member
    obtain ⟨col, _, rfl⟩ := member
    exact renameColumn_fixed t col
  refine ⟨?_, pointwise⟩
  rw [normalizeColumnNames_eq_map t (normalizeColumnNames t columns)]
  conv => rhs; rw [← List.map_id (normalizeColumnNames t columns)]
  refine List.map_congr_left fun name member => ?_
  obtain ⟨formatted, fixed⟩ := pointwise name member
  rw [formatted, renameColumn]
  rcases fixed with unmatched | self
  · rw [unmatched, Option.getD_none, id]
  · rw [self, Option.getD_some, id]

example : normalizeColumnNames asciiCase [" Source IP", "Flow Packets/s", "Class"] =
    ["src_ip", "flow_packets/s", "label"] := by
  decide

end DdosAnalysis.Schema
