import DdosAnalysis.Value
import DdosAnalysis.Text

/-!
# Frames

A `DataFrame` with `rows` rows is a list of labelled columns. A column is numeric, a
float per row, or of `object` dtype, holding the `str` form of each entry (every use of an
object column in the pipeline goes through `astype(str)`, an encoding, or a type error).
Columns are functions of the row index, so every column of a frame has the same length by
construction.

A `UnifiedData` is what `load_all_datasets` hands to `preprocess_unified_data`: a frame
whose labels are pairwise distinct. Lookup by label returns the first column of that label,
which is pandas' lookup for distinct labels.
-/

namespace DdosAnalysis

/-- The exceptions the pipeline can raise, by Python class. -/
inductive PyError where
  | typeError
  | valueError
  | keyError (key : String)
  | attributeError (name : String)
  | fileNotFound (path : String)
  | unpicklingError (path : String)
  | indexError
  | zeroDivisionError
  | invalidIndexError
  deriving DecidableEq, Repr

theorem bind_eq_ok {ε α β : Type} {x : Except ε α} {f : α → Except ε β} {b : β} :
    x >>= f = .ok b ↔ ∃ a, x = .ok a ∧ f a = .ok b := by
  cases x <;> simp [bind, Except.bind]

theorem pure_eq_ok {ε α : Type} {a b : α} : (pure a : Except ε α) = .ok b ↔ a = b := by
  simp [pure, Except.pure]

/-- A property kept by every step of a fallible left fold holds of the fold's result. -/
theorem foldlM_invariant {ε σ α : Type} {f : σ → α → Except ε σ} (keeps : σ → Prop) :
    ∀ (items : List α) (state result : σ),
      (∀ item ∈ items, ∀ before after, keeps before → f before item = .ok after → keeps after) →
      keeps state → items.foldlM f state = .ok result → keeps result
  | [], state, result, _, kept, ran => by
      rw [List.foldlM_nil, pure_eq_ok] at ran
      exact ran ▸ kept
  | item :: rest, state, result, step, kept, ran => by
      rw [List.foldlM_cons] at ran
      obtain ⟨next, first, ran⟩ := bind_eq_ok.mp ran
      exact foldlM_invariant keeps rest next result
        (fun other member => step other (List.mem_cons_of_mem _ member))
        (step item (List.mem_cons_self _ _) _ _ kept first) ran

/-- A fallible left fold whose every step, from a state with some property, returns a state
with it, returns. -/
theorem foldlM_ok {ε σ α : Type} {f : σ → α → Except ε σ} (keeps : σ → Prop) :
    ∀ (items : List α) (state : σ),
      (∀ item ∈ items, ∀ before, keeps before → ∃ after, f before item = .ok after ∧ keeps after) →
      keeps state → ∃ result, items.foldlM f state = .ok result ∧ keeps result
  | [], state, _, kept => ⟨state, rfl, kept⟩
  | item :: rest, state, step, kept => by
      obtain ⟨next, first, keptNext⟩ := step item (List.mem_cons_self _ _) state kept
      rw [List.foldlM_cons, first]
      exact foldlM_ok keeps rest next
        (fun other member => step other (List.mem_cons_of_mem _ member)) keptNext

/-- One column of a frame with `rows` rows. -/
inductive Column (rows : Nat) where
  | numeric (values : Fin rows → Num)
  | object (values : Fin rows → String)

/-- A `DataFrame`: its labelled columns, in order. -/
abbrev Frame (rows : Nat) :=
  List (String × Column rows)

namespace Column

variable {rows : Nat}

/-- `dtype == object`. -/
def isObject : Column rows → Bool
  | numeric _ => false
  | object _ => true

/-- The rows at the given positions, in that order: `iloc[positions]`. -/
def select (positions : List (Fin rows)) : Column rows → Column positions.length
  | numeric values => numeric fun j => values (positions.get j)
  | object values => object fun j => values (positions.get j)

/-- The floats of a numeric column; arithmetic on an object column of strings raises. -/
def floats : Column rows → Except PyError (Fin rows → Num)
  | numeric values => .ok values
  | object _ => .error .typeError

@[simp]
theorem select_numeric (positions : List (Fin rows)) (values : Fin rows → Num) :
    (numeric values).select positions = numeric fun j => values (positions.get j) := rfl

@[simp]
theorem select_object (positions : List (Fin rows)) (values : Fin rows → String) :
    (object values).select positions = object fun j => values (positions.get j) := rfl

theorem floats_select (positions : List (Fin rows)) (column : Column rows) :
    (column.select positions).floats =
      (fun values j => values (positions.get j)) <$> column.floats := by
  cases column <;> rfl

end Column

namespace Frame

variable {rows : Nat}

/-- `df.columns`. -/
def names (df : Frame rows) : List String :=
  df.map Prod.fst

/-- `df[name]`, when `name in df.columns`. -/
def column? (df : Frame rows) (name : String) : Option (Column rows) :=
  df.lookup name

theorem mem_of_column? {df : Frame rows} {name : String} {column : Column rows}
    (found : df.column? name = some column) : (name, column) ∈ df :=
  Text.mem_of_lookup found

theorem column?_of_mem_names {df : Frame rows} {name : String} (present : name ∈ df.names) :
    ∃ column, df.column? name = some column := by
  obtain ⟨⟨label, column⟩, member, rfl⟩ := List.mem_map.mp present
  exact Option.isSome_iff_exists.mp (Text.lookup_isSome_of_mem member)

/-- `df[name] = column`: replaces the column of that label in place, or appends it. -/
def set (df : Frame rows) (name : String) (column : Column rows) : Frame rows :=
  if name ∈ df.names then df.map fun entry => if entry.1 = name then (name, column) else entry
  else df ++ [(name, column)]

/-- `df.drop(labels, axis=1)`: removes every column whose label is listed. -/
def drop (df : Frame rows) (labels : List String) : Frame rows :=
  df.filter fun entry => entry.1 ∉ labels

/-- `iloc[positions]` on every column. -/
def select (df : Frame rows) (positions : List (Fin rows)) : Frame positions.length :=
  df.map fun entry => (entry.1, entry.2.select positions)

@[simp]
theorem names_select (df : Frame rows) (positions : List (Fin rows)) :
    (df.select positions).names = df.names := by
  simp [select, names, Function.comp_def]

theorem mem_names_set (df : Frame rows) (name label : String) (column : Column rows) :
    label ∈ (df.set name column).names ↔ label ∈ df.names ∨ label = name := by
  unfold set
  split
  · rename_i present
    simp only [names, List.map_map, List.mem_map, Function.comp_def]
    constructor
    · rintro ⟨entry, member, rfl⟩
      split
      · exact Or.inr rfl
      · exact Or.inl ⟨entry, member, rfl⟩
    · rintro (⟨entry, member, rfl⟩ | rfl)
      · refine ⟨entry, member, ?_⟩
        split <;> simp_all
      · obtain ⟨entry, member, same⟩ := List.mem_map.mp present
        exact ⟨entry, member, by simp [same]⟩
  · simp [names, or_comm]

theorem mem_set {df : Frame rows} {name : String} {column : Column rows}
    {entry : String × Column rows} (member : entry ∈ df.set name column) :
    entry ∈ df ∨ entry = (name, column) := by
  unfold set at member
  split at member
  · obtain ⟨original, originalMember, rfl⟩ := List.mem_map.mp member
    split
    · exact Or.inr rfl
    · exact Or.inl originalMember
  · rcases List.mem_append.mp member with inFrame | added
    · exact Or.inl inFrame
    · exact Or.inr (List.mem_singleton.mp added)

theorem mem_set_of_ne {df : Frame rows} {entry : String × Column rows} (member : entry ∈ df)
    {name : String} (different : entry.1 ≠ name) (column : Column rows) :
    entry ∈ df.set name column := by
  unfold set
  split
  · exact List.mem_map.mpr ⟨entry, member, if_neg different⟩
  · exact List.mem_append_left _ member

theorem names_set_of_mem {df : Frame rows} {name : String} (present : name ∈ df.names)
    (column : Column rows) : (df.set name column).names = df.names := by
  unfold set
  rw [if_pos present]
  simp only [names, List.map_map]
  refine List.map_congr_left fun entry _ => ?_
  simp only [Function.comp]
  split <;> simp_all

theorem nodup_names_set {df : Frame rows} (unique : df.names.Nodup) (name : String)
    (column : Column rows) : (df.set name column).names.Nodup := by
  by_cases present : name ∈ df.names
  · rwa [names_set_of_mem present]
  · unfold set
    rw [if_neg present]
    simpa [names] using unique.concat present

theorem lookup_replace_of_ne {name label : String} (different : label ≠ name)
    (column : Column rows) : ∀ df : Frame rows,
      (df.map fun entry => if entry.1 = name then (name, column) else entry).lookup label =
        df.lookup label
  | [] => rfl
  | ⟨key, value⟩ :: rest => by
      have restLookup := lookup_replace_of_ne different column rest
      by_cases same : key = name
      · subst same
        simp [List.lookup_cons, beq_false_of_ne different, restLookup]
      · simp [same, List.lookup_cons, restLookup]

theorem lookup_replace_self {name : String} (column : Column rows) : ∀ {df : Frame rows},
    name ∈ df.names →
      (df.map fun entry => if entry.1 = name then (name, column) else entry).lookup name =
        some column
  | ⟨key, value⟩ :: rest, present => by
      by_cases same : key = name
      · subst same
        simp [List.lookup_cons]
      · have later : name ∈ names rest := by
          simpa [names, Ne.symm same] using present
        simp [same, List.lookup_cons, beq_false_of_ne (Ne.symm same),
          lookup_replace_self column later]

theorem column?_set (df : Frame rows) (name label : String) (column : Column rows) :
    (df.set name column).column? label =
      if label = name then some column else df.column? label := by
  unfold set column?
  by_cases asked : label = name
  · subst asked
    split
    · rename_i present
      simp [lookup_replace_self column present]
    · rename_i absent
      have missing : df.lookup label = none := by
        cases found : df.lookup label with
        | none => rfl
        | some value =>
            exact absurd (List.mem_map_of_mem Prod.fst (Text.mem_of_lookup found)) absent
      simp [List.lookup_append, missing, List.lookup_cons]
  · split
    · simp [asked, lookup_replace_of_ne asked]
    · simp [asked, List.lookup_append, List.lookup_cons, beq_false_of_ne asked]

theorem mem_drop {df : Frame rows} {labels : List String} {entry : String × Column rows} :
    entry ∈ df.drop labels ↔ entry ∈ df ∧ entry.1 ∉ labels := by
  simp [drop]

theorem mem_names_drop (df : Frame rows) (labels : List String) (label : String) :
    label ∈ (df.drop labels).names ↔ label ∈ df.names ∧ label ∉ labels := by
  simp only [drop, names, List.mem_map, List.mem_filter, decide_eq_true_eq]
  constructor
  · rintro ⟨entry, ⟨member, kept⟩, rfl⟩
    exact ⟨⟨entry, member, rfl⟩, kept⟩
  · rintro ⟨⟨entry, member, rfl⟩, kept⟩
    exact ⟨entry, ⟨member, kept⟩, rfl⟩

theorem column?_select (positions : List (Fin rows)) (df : Frame rows) (name : String) :
    (df.select positions).column? name = (df.column? name).map (Column.select positions) := by
  induction df with
  | nil => rfl
  | cons entry rest inductionHypothesis =>
      obtain ⟨label, column⟩ := entry
      simp only [select, column?, List.map_cons, List.lookup_cons] at inductionHypothesis ⊢
      split <;> simp_all

theorem set_select (positions : List (Fin rows)) (df : Frame rows) (name : String)
    (column : Column rows) :
    (df.set name column).select positions =
      (df.select positions).set name (column.select positions) := by
  unfold set
  rw [names_select]
  split
  · simp only [select, List.map_map]
    refine List.map_congr_left fun entry _ => ?_
    simp only [Function.comp]
    split <;> rfl
  · simp [select]

end Frame

/-- The unified dataset `load_all_datasets` returns: a frame with distinct labels. -/
structure UnifiedData (rows : Nat) where
  frame : Frame rows
  names_nodup : frame.names.Nodup

end DdosAnalysis
