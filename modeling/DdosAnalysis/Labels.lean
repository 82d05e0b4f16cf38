import DdosAnalysis.Text

/-!
# The label standardizer

Labels are standardized in two places. `load_all_datasets` normalizes every raw label with
`astype(str).str.strip().str.upper()`; `preprocess_unified_data` then applies
`map(label_mapping).fillna(...)`, which is `label_mapping.get(label, label)`: mapped tokens
collapse onto the closed vocabulary and unmapped tokens pass through.

Standardization is idempotent. Three of the vocabulary's members, `NetBIOS`, `Portmap` and
`UDPLag`, are not upper case; the normalization turns each back into the key that maps to
it, which is what makes them fixed points.
-/

namespace DdosAnalysis.Labels

open DdosAnalysis.Text

/-- `label_mapping` of `preprocess_unified_data`. -/
def labelMapping : List (String × String) :=
  [("BENIGN", "BENIGN"), ("NORMAL", "BENIGN"), ("DNS", "DNS"), ("NTP", "NTP"),
    ("HTTP", "HTTP"), ("LDAP", "LDAP"), ("MSSQL", "MSSQL"), ("NETBIOS", "NetBIOS"),
    ("NETBIOS_NAME_SERVICE", "NetBIOS"), ("PORTMAP", "Portmap"),
    ("RECURSIVE_GET", "RECURSIVE_GET"), ("SLOWLORIS", "SLOWLORIS"), ("SLOW_POST", "SLOW_POST"),
    ("SYN", "SYN"), ("UDP", "UDP"), ("UDPLAG", "UDPLag"), ("DDOS", "UDP"), ("ATTACK", "UDP"),
    ("FLOOD", "UDP")]

/-- `label.strip().upper()`, as `load_all_datasets` normalizes each label. -/
def normalizeLabel (t : CaseTable) (label : String) : String :=
  pyUpper t (pyStrip label)

/-- `map(label_mapping).fillna(label)` on one label: mapped tokens are replaced, the others
pass through. -/
def mapLabel (label : String) : String :=
  (dictGet labelMapping label).getD label

/-- The standardization of one raw label, normalization then mapping. -/
def standardizeLabel (t : CaseTable) (label : String) : String :=
  mapLabel (normalizeLabel t label)

theorem normalizeLabel_normalizeLabel (t : CaseTable) (label : String) :
    normalizeLabel t (normalizeLabel t label) = normalizeLabel t label := by
  have ends : EndsNonSpace (t.upper.apply (stripChars label.data)) :=
    t.upper.endsNonSpace_apply (endsNonSpace_stripChars _)
  simp only [normalizeLabel, pyUpper, pyStrip]
  rw [stripChars_of_endsNonSpace ends, CaseMap.apply_apply]

/-- Every vocabulary member is ASCII and stripped, and its upper-case form is a key that
maps back to it. -/
theorem labelMapping_values_plain :
    ∀ entry ∈ labelMapping, stripChars entry.2.data = entry.2.data ∧
      (∀ c ∈ entry.2.data, c.toNat < 128) ∧
      mapLabel ⟨entry.2.data.map Char.toUpper⟩ = entry.2 := by
  decide

theorem standardizeLabel_of_vocabulary (t : CaseTable) {label : String}
    (member : label ∈ labelMapping.map Prod.snd) : standardizeLabel t label = label := by
  obtain ⟨entry, inTable, rfl⟩ := List.mem_map.mp member
  obtain ⟨stripped, ascii, mapsBack⟩ := labelMapping_values_plain entry inTable
  simp only [standardizeLabel, normalizeLabel, pyUpper, pyStrip, stripped,
    t.upper.apply_of_ascii ascii, mapsBack]

/-- Label standardization is idempotent: `std(std(s)) = std(s)` for every string. -/
theorem standardizeLabel_idempotent (t : CaseTable) (label : String) :
    standardizeLabel t (standardizeLabel t label) = standardizeLabel t label := by
  cases found : dictGet labelMapping (normalizeLabel t label) with
  | none =>
      have passThrough : standardizeLabel t label = normalizeLabel t label := by
        rw [standardizeLabel, mapLabel, found, Option.getD_none]
      rw [passThrough, standardizeLabel, normalizeLabel_normalizeLabel, mapLabel, found,
        Option.getD_none]
  | some canonical =>
      have mapped : standardizeLabel t label = canonical := by
        rw [standardizeLabel, mapLabel, found, Option.getD_some]
      rw [mapped]
      exact standardizeLabel_of_vocabulary t
        (List.mem_map.mpr ⟨_, mem_of_dictGet found, rfl⟩)

example : ["normal", "DDoS", "ddos"].map (standardizeLabel asciiCase) =
    ["BENIGN", "UDP", "UDP"] := by
  decide

end DdosAnalysis.Labels
