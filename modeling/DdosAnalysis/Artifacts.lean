import DdosAnalysis.Analyzer
import DdosAnalysis.Schema

/-! # Saved models

`save_model_and_scaler` writes the model, the scaler and a metadata dictionary with three
`joblib.dump` calls straight to their final paths, and `load_model_and_scaler` reads them
back with three `joblib.load` calls and five key lookups, assigning each attribute as soon
as its value is read, inside one `try` block.

The files are a map from paths to what `joblib.load` finds there; a save is a list of
writes and a save stopped early is a prefix of it, as for the page writes of a commit. A
`try` body is a list of statements over its locals, and a raise hands the `except` branch
the state the statements before it left (`runTry`). The load is then the assignments of
`loads` made in order until one raises (`loadModelAndScaler_eq_assignAll`).

A save stopped between its first and its last dump leaves files of two saves, and the load
accepts them: it restores the bundle of a single save only when the stopped save wrote none
of its files or all of them (`loadModelAndScaler_one_bundle_iff`).
-/

namespace DdosAnalysis.Artifacts

/-! ## Files -/

/-- What `joblib.load` finds at a path. -/
inductive Artifact where
  | missing
  | unreadable
  | pickled (object : PyObject)

/-- The files, by path. -/
abbrev Disk := String → Artifact

/-- `joblib.dump(object, path)` for each write in turn. -/
def Disk.patch (disk : Disk) (writes : List (String × PyObject)) : Disk :=
  writes.foldl (fun disk write path => if path = write.1 then .pickled write.2 else disk path)
    disk

/-- `joblib.load(path)`. -/
def load (disk : Disk) (path : String) : Except PyError PyObject :=
  match disk path with
  | .pickled object => .ok object
  | .missing => .error (.fileNotFound path)
  | .unreadable => .error (.unpicklingError path)

/-- `f"{model_name}.pkl"` -/
def modelPath (modelName : String) : String :=
  modelName ++ ".pkl"

/-- `f"{model_name}_scaler.pkl"` -/
def scalerPath (modelName : String) : String :=
  modelName ++ "_scaler.pkl"

/-- `f"{model_name}_metadata.pkl"` -/
def metadataPath (modelName : String) : String :=
  modelName ++ "_metadata.pkl"

theorem append_ne_append_of_ne {stem first second : String} (different : first ≠ second) :
    stem ++ first ≠ stem ++ second := fun same =>
  different (String.ext (by simpa using congrArg String.data same))

theorem modelPath_ne_scalerPath (modelName : String) :
    modelPath modelName ≠ scalerPath modelName :=
  append_ne_append_of_ne (by decide)

theorem modelPath_ne_metadataPath (modelName : String) :
    modelPath modelName ≠ metadataPath modelName :=
  append_ne_append_of_ne (by decide)

theorem scalerPath_ne_metadataPath (modelName : String) :
    scalerPath modelName ≠ metadataPath modelName :=
  append_ne_append_of_ne (by decide)

/-- The `metadata` dictionary of `save_model_and_scaler`; `hasattr(self, 'pca')` holds,
since `__init__` sets it. -/
def metadata (self : Analyzer) : PyObject :=
  .dict [("feature_columns", self.featureColumns), ("label_encoders", self.labelEncoders),
    ("original_network_data", self.originalNetworkData),
    ("column_mappings", .dict (Schema.columnMappings.map fun entry => (entry.1, .str entry.2))),
    ("feature_selector", self.featureSelector), ("pca", self.pca)]

/-- The three `joblib.dump` calls, in order. -/
def bundleWrites (modelName : String) (self : Analyzer) : List (String × PyObject) :=
  [(modelPath modelName, self.bestModel), (scalerPath modelName, self.scaler),
    (metadataPath modelName, metadata self)]

/-- `if self.best_model and self.scaler:` -/
def shouldSave (self : Analyzer) : Except PyError Bool := do
  if ← self.bestModel.truth then self.scaler.truth else pure false

/-- `save_model_and_scaler(model_name)`: the files afterwards and the three returned paths,
or `None, None, None` when nothing is saved. -/
def saveModelAndScaler (disk : Disk) (modelName : String) (self : Analyzer) :
    Except PyError (Disk × Option (String × String × String)) := do
  if ← shouldSave self then
    pure (disk.patch (bundleWrites modelName self),
      some (modelPath modelName, scalerPath modelName, metadataPath modelName))
  else pure (disk, none)

/-- A save that returns either wrote all three files and returns their paths, or wrote
nothing and returns `None`s. -/
theorem saveModelAndScaler_eq_ok {disk saved : Disk} {modelName : String} {self : Analyzer}
    {paths : Option (String × String × String)}
    (saving : saveModelAndScaler disk modelName self = .ok (saved, paths)) :
    (saved = disk.patch (bundleWrites modelName self) ∧
        paths = some (modelPath modelName, scalerPath modelName, metadataPath modelName)) ∨
      (saved = disk ∧ paths = none) := by
  unfold saveModelAndScaler at saving
  obtain ⟨save, -, saving⟩ := bind_eq_ok.mp saving
  cases save <;> cases saving
  · exact Or.inr ⟨rfl, rfl⟩
  · exact Or.inl ⟨rfl, rfl⟩

/-- After a save, the three files hold what it wrote. -/
theorem patch_bundleWrites (disk : Disk) (modelName : String) (self : Analyzer) :
    ∀ write ∈ bundleWrites modelName self,
      disk.patch (bundleWrites modelName self) write.1 = .pickled write.2 := by
  have modelScaler := modelPath_ne_scalerPath modelName
  have modelMetadata := modelPath_ne_metadataPath modelName
  have scalerMetadata := scalerPath_ne_metadataPath modelName
  simp [bundleWrites, Disk.patch, modelScaler, modelMetadata, scalerMetadata,
    modelScaler.symm, modelMetadata.symm, scalerMetadata.symm]

/-- What the files hold after the first `written` dumps of a save of `self` over a bundle
saved from `previous`. -/
theorem patch_take_bundleWrites {disk : Disk} {modelName : String} {previous : Analyzer}
    (complete : ∀ write ∈ bundleWrites modelName previous, disk write.1 = .pickled write.2)
    (self : Analyzer) (written : Nat) :
    let patched := disk.patch ((bundleWrites modelName self).take written)
    patched (modelPath modelName) =
        .pickled (if 1 ≤ written then self else previous).bestModel ∧
      patched (scalerPath modelName) =
        .pickled (if 2 ≤ written then self else previous).scaler ∧
      patched (metadataPath modelName) =
        .pickled (metadata (if 3 ≤ written then self else previous)) := by
  have modelScaler := modelPath_ne_scalerPath modelName
  have modelMetadata := modelPath_ne_metadataPath modelName
  have scalerMetadata := scalerPath_ne_metadataPath modelName
  simp only [bundleWrites, List.mem_cons, List.mem_singleton, List.not_mem_nil, or_false,
    forall_eq_or_imp, forall_eq] at complete
  obtain ⟨oldModel, oldScaler, oldMetadata⟩ := complete
  rcases written with _ | _ | _ | written <;>
    simp [bundleWrites, Disk.patch, modelScaler, modelMetadata, scalerMetadata,
      modelScaler.symm, modelMetadata.symm, scalerMetadata.symm, oldModel, oldScaler,
      oldMetadata]

/-! ## Loading -/

/-- The attributes `load_model_and_scaler` assigns, in the order it assigns them. -/
inductive Attribute where
  | bestModel
  | scaler
  | featureColumns
  | labelEncoders
  | originalNetworkData
  | featureSelector
  | pca
  deriving DecidableEq, Repr

/-- `self.<attribute>` -/
def Attribute.read : Attribute → Analyzer → PyObject
  | .bestModel, self => self.bestModel
  | .scaler, self => self.scaler
  | .featureColumns, self => self.featureColumns
  | .labelEncoders, self => self.labelEncoders
  | .originalNetworkData, self => self.originalNetworkData
  | .featureSelector, self => self.featureSelector
  | .pca, self => self.pca

/-- `self.<attribute> = value` -/
def Attribute.write : Attribute → PyObject → Analyzer → Analyzer
  | .bestModel, value, self => { self with bestModel := value }
  | .scaler, value, self => { self with scaler := value }
  | .featureColumns, value, self => { self with featureColumns := value }
  | .labelEncoders, value, self => { self with labelEncoders := value }
  | .originalNetworkData, value, self => { self with originalNetworkData := value }
  | .featureSelector, value, self => { self with featureSelector := value }
  | .pca, value, self => { self with pca := value }

@[simp]
theorem read_write_self (field : Attribute) (value : PyObject) (self : Analyzer) :
    field.read (field.write value self) = value := by
  cases field <;> rfl

theorem read_write_of_ne {field other : Attribute} (different : field ≠ other)
    (value : PyObject) (self : Analyzer) :
    field.read (other.write value self) = field.read self := by
  cases field <;> cases other <;> first | rfl | exact absurd rfl different

/-- The locals of the `try` body: the analyzer, and `metadata` once the third statement has
bound it. -/
structure LoadState where
  self : Analyzer
  metadata : PyObject

/-- A statement of a `try` body: it updates the locals or raises. -/
abbrev Statement (σ : Type) := σ → Except PyError σ

/-- Runs a `try` body. A raise hands the `except` branch the locals as the statements before
it left them. -/
def runTry {σ : Type} : List (Statement σ) → σ → Except (PyError × σ) σ
  | [], state => .ok state
  | statement :: rest, state => match statement state with
      | .ok next => runTry rest next
      | .error error => .error (error, state)

/-- `self.<attribute> = <expression>`, where the expression may read `metadata`. -/
def assign (field : Attribute) (expression : PyObject → Except PyError PyObject) :
    Statement LoadState := fun state =>
  (fun value => { state with self := field.write value state.self }) <$>
    expression state.metadata

/-- The last five statements, which read `metadata`. -/
def metadataReads : List (Attribute × (PyObject → Except PyError PyObject)) :=
  [(.featureColumns, fun metadata => metadata.getItem "feature_columns"),
    (.labelEncoders, fun metadata => metadata.getItem "label_encoders"),
    (.originalNetworkData, fun metadata => metadata.getOr "original_network_data" (.dict [])),
    (.featureSelector, fun metadata => metadata.getOr "feature_selector" .none),
    (.pca, fun metadata => metadata.getOr "pca" .none)]

/-- The `try` body of `load_model_and_scaler`. -/
def loadStatements (disk : Disk) (modelName : String) : List (Statement LoadState) :=
  [assign .bestModel fun _ => load disk (modelPath modelName),
    assign .scaler fun _ => load disk (scalerPath modelName),
    fun state => (fun metadata => { state with metadata }) <$>
      load disk (metadataPath modelName)] ++
  metadataReads.map fun read => assign read.1 read.2

/-- `return True` after the body, `return False` from the `except` branch. -/
def loadResult : Except (PyError × LoadState) LoadState → Bool × Analyzer
  | .ok state => (true, state.self)
  | .error (_, state) => (false, state.self)

/-- `load_model_and_scaler(model_name)`: whether it returns `True`, and the analyzer
afterwards. -/
def loadModelAndScaler (disk : Disk) (modelName : String) (self : Analyzer) : Bool × Analyzer :=
  loadResult (runTry (loadStatements disk modelName) ⟨self, .none⟩)

/-! ## The load as assignments -/

/-- Assigning values to attributes in order until one of them raises: whether none raised,
and the analyzer. -/
def assignAll (self : Analyzer) : List (Attribute × Except PyError PyObject) → Bool × Analyzer
  | [] => (true, self)
  | (field, .ok value) :: rest => assignAll (field.write value self) rest
  | (_, .error _) :: _ => (false, self)

/-- The value each attribute of `load_model_and_scaler` is assigned, in order. -/
def loads (disk : Disk) (modelName : String) : List (Attribute × Except PyError PyObject) :=
  [(.bestModel, load disk (modelPath modelName)), (.scaler, load disk (scalerPath modelName))] ++
    metadataReads.map fun read => (read.1, load disk (metadataPath modelName) >>= read.2)

theorem runTry_assigns (metadata : PyObject) :
    ∀ (reads : List (Attribute × (PyObject → Except PyError PyObject))) (self : Analyzer),
      loadResult (runTry (reads.map fun read => assign read.1 read.2) ⟨self, metadata⟩) =
        assignAll self (reads.map fun read => (read.1, read.2 metadata))
  | [], _ => rfl
  | read :: rest, self => by
      simp only [List.map_cons, runTry, assign]
      cases read.2 metadata with
      | error error => rfl
      | ok value => exact runTry_assigns metadata rest _

theorem assignAll_error (self : Analyzer) (error : PyError)
    (rest : List (Attribute × Except PyError PyObject)) :
    ∀ reads : List (Attribute × (PyObject → Except PyError PyObject)), reads ≠ [] →
      assignAll self ((reads.map fun read => (read.1, Except.error error >>= read.2)) ++ rest) =
        (false, self)
  | [], empty => absurd rfl empty
  | _ :: _, _ => rfl

/-- The `try` body assigns the values of `loads` one after another and stops at the first
that raises; a missing or unreadable metadata file raises for each key it holds. -/
theorem loadModelAndScaler_eq_assignAll (disk : Disk) (modelName : String) (self : Analyzer) :
    loadModelAndScaler disk modelName self = assignAll self (loads disk modelName) := by
  unfold loadModelAndScaler loads loadStatements
  simp only [List.cons_append, List.singleton_append, runTry, assign]
  cases load disk (modelPath modelName) with
  | error error => rfl
  | ok model =>
      cases load disk (scalerPath modelName) with
      | error error => rfl
      | ok scaler =>
          cases load disk (metadataPath modelName) with
          | error error =>
              exact (assignAll_error _ error [] metadataReads (List.cons_ne_nil _ _)).symm
          | ok metadata => exact runTry_assigns metadata metadataReads _

theorem assignAll_read_of_not_mem {field : Attribute} :
    ∀ {updates : List (Attribute × Except PyError PyObject)} (self : Analyzer),
      field ∉ updates.map Prod.fst → field.read (assignAll self updates).2 = field.read self
  | [], _, _ => rfl
  | (other, .error _) :: _, _, _ => rfl
  | (other, .ok value) :: rest, self, absent => by
      rw [List.map_cons, List.mem_cons, not_or] at absent
      show field.read (assignAll (other.write value self) rest).2 = _
      rw [assignAll_read_of_not_mem _ absent.2, read_write_of_ne absent.1]

/-- Assigning distinct attributes in order: the first `assigned` values are read and held,
the attributes after them keep their values, and the next value, if any, is the one that
raised. -/
theorem assignAll_prefix :
    ∀ (updates : List (Attribute × Except PyError PyObject)) (self : Analyzer),
      (updates.map Prod.fst).Nodup →
      ∃ assigned ≤ updates.length,
        (assignAll self updates).1 = decide (assigned = updates.length) ∧
        (∀ update ∈ updates.take assigned,
          update.2 = .ok (update.1.read (assignAll self updates).2)) ∧
        (∀ update ∈ updates.drop assigned,
          update.1.read (assignAll self updates).2 = update.1.read self) ∧
        ∀ update ∈ (updates.drop assigned).head?, ∃ error, update.2 = .error error
  | [], _, _ => ⟨0, le_rfl, rfl, by simp, by simp, by simp⟩
  | (field, .error error) :: rest, self, _ =>
      ⟨0, Nat.zero_le _, by simp [assignAll], by simp, fun _ _ => rfl,
        by simp [assignAll]⟩
  | (field, .ok value) :: rest, self, unique => by
      rw [List.map_cons, List.nodup_cons] at unique
      obtain ⟨assigned, atMost, result, taken, kept, next⟩ :=
        assignAll_prefix rest (field.write value self) unique.2
      have final : assignAll self ((field, .ok value) :: rest) =
          assignAll (field.write value self) rest := rfl
      have held : field.read (assignAll (field.write value self) rest).2 = value := by
        rw [assignAll_read_of_not_mem _ unique.1, read_write_self]
      refine ⟨assigned + 1, Nat.succ_le_succ atMost, by simp [final, result], ?_, ?_, ?_⟩
      · intro update member
        rw [List.take_succ_cons, List.mem_cons] at member
        rcases member with rfl | member
        · rw [final, held]
        · rw [final]
          exact taken update member
      · intro update member
        rw [List.drop_succ_cons] at member
        have listed : update.1 ∈ rest.map Prod.fst :=
          List.mem_map_of_mem Prod.fst (List.mem_of_mem_drop member)
        have different : update.1 ≠ field := fun same => unique.1 (same ▸ listed)
        rw [final, kept update member, read_write_of_ne different]
      · rw [List.drop_succ_cons]
        exact next

/-- `load_model_and_scaler` assigns `best_model`, `scaler`, `feature_columns`,
`label_encoders`, `original_network_data`, `feature_selector` and `pca` in this order, each
from its file or metadata key, and returns `True` exactly when all seven are read. On
`False` the attributes before the first read that raised hold their new values and the
others are as before the call. -/
theorem loadModelAndScaler_assigns_prefix (disk : Disk) (modelName : String) (self : Analyzer) :
    ∃ assigned ≤ 7,
      (loadModelAndScaler disk modelName self).1 = decide (assigned = 7) ∧
      (∀ update ∈ (loads disk modelName).take assigned,
        update.2 = .ok (update.1.read (loadModelAndScaler disk modelName self).2)) ∧
      (∀ update ∈ (loads disk modelName).drop assigned,
        update.1.read (loadModelAndScaler disk modelName self).2 = update.1.read self) ∧
      ∀ update ∈ ((loads disk modelName).drop assigned).head?,
        ∃ error, update.2 = .error error := by
  rw [loadModelAndScaler_eq_assignAll]
  have names : (loads disk modelName).map Prod.fst =
      [.bestModel, .scaler, .featureColumns, .labelEncoders, .originalNetworkData,
        .featureSelector, .pca] := rfl
  exact assignAll_prefix (loads disk modelName) self (names ▸ by decide)

/-- A model file next to a missing scaler. -/
def scalerMissing : Disk := fun path =>
  if path = "unified_ddos_best_model.pkl" then
    .pickled (.estimator (.classifier "Optimized Random Forest" true 2))
  else .missing

/-- The load returns `False` with `best_model` already replaced. -/
theorem scalerMissing_replaces_bestModel :
    loadModelAndScaler scalerMissing "unified_ddos_best_model" Analyzer.init =
      (false, { Analyzer.init with
        bestModel := .estimator (.classifier "Optimized Random Forest" true 2) }) :=
  rfl

/-! ## Saving, then loading -/

/-- The analyzer a load restores from a model file saved from `model`, a scaler file saved
from `scaler` and a metadata file saved from `metadata`. -/
def restored (model scaler metadata : Analyzer) : Analyzer :=
  { metadata with bestModel := model.bestModel, scaler := scaler.scaler }

theorem restored_self (self : Analyzer) : restored self self self = self :=
  rfl

/-- Loading files that hold a model, a scaler and a metadata dictionary as the saves of
three analyzers wrote them. -/
theorem loadModelAndScaler_of_files {disk : Disk} {modelName : String}
    {model scaler metadataOf : Analyzer}
    (modelFile : disk (modelPath modelName) = .pickled model.bestModel)
    (scalerFile : disk (scalerPath modelName) = .pickled scaler.scaler)
    (metadataFile : disk (metadataPath modelName) = .pickled (metadata metadataOf))
    (self : Analyzer) :
    loadModelAndScaler disk modelName self = (true, restored model scaler metadataOf) := by
  rw [loadModelAndScaler_eq_assignAll]
  simp only [loads, load, modelFile, scalerFile, metadataFile]
  rfl

/-- A complete save is loaded back as it was saved. -/
theorem loadModelAndScaler_of_saved {disk saved : Disk} {modelName : String}
    {self : Analyzer} {paths : String × String × String}
    (saving : saveModelAndScaler disk modelName self = .ok (saved, some paths))
    (other : Analyzer) :
    loadModelAndScaler saved modelName other = (true, self) := by
  rcases saveModelAndScaler_eq_ok saving with ⟨rfl, -⟩ | ⟨-, noPaths⟩
  · have files := patch_bundleWrites disk modelName self
    simp only [bundleWrites, List.mem_cons, List.mem_singleton, List.not_mem_nil, or_false,
      forall_eq_or_imp, forall_eq] at files
    exact loadModelAndScaler_of_files files.1 files.2.1 files.2.2 other
  · cases noPaths

/-- The save writes straight to the final paths, so a save stopped after `written` of its
dumps over a complete bundle leaves the first `written` files new and the others old, and
the load accepts the mix. -/
theorem loadModelAndScaler_after_interrupted_save {disk : Disk} {modelName : String}
    {previous : Analyzer}
    (complete : ∀ write ∈ bundleWrites modelName previous, disk write.1 = .pickled write.2)
    (self other : Analyzer) (written : Nat) :
    loadModelAndScaler (disk.patch ((bundleWrites modelName self).take written)) modelName
        other =
      (true, restored (if 1 ≤ written then self else previous)
        (if 2 ≤ written then self else previous) (if 3 ≤ written then self else previous)) :=
  have files := patch_take_bundleWrites complete self written
  loadModelAndScaler_of_files files.1 files.2.1 files.2.2 other

/-- An analyzer trained on the given feature columns. -/
def trainedOn (columns : List String) : Analyzer :=
  { Analyzer.init with
    scaler := .estimator (.scaler .robust columns)
    bestModel := .estimator (.classifier "Optimized Random Forest" true columns.length)
    featureColumns := .strList columns }

/-- The files after a save of a model trained on one column. -/
def oneColumnBundle : Disk :=
  Disk.patch (fun _ => .missing) (bundleWrites "unified_ddos_best_model"
    (trainedOn ["flow_duration"]))

theorem loadModelAndScaler_after_interrupted_save_oneColumnBundle :
    loadModelAndScaler (oneColumnBundle.patch ((bundleWrites "unified_ddos_best_model"
        (trainedOn ["flow_duration", "pkt_len_mean"])).take 1)) "unified_ddos_best_model"
        Analyzer.init =
      (true, restored (if 1 ≤ 1 then trainedOn ["flow_duration", "pkt_len_mean"]
          else trainedOn ["flow_duration"])
        (if 2 ≤ 1 then trainedOn ["flow_duration", "pkt_len_mean"]
          else trainedOn ["flow_duration"])
        (if 3 ≤ 1 then trainedOn ["flow_duration", "pkt_len_mean"]
          else trainedOn ["flow_duration"])) :=
  loadModelAndScaler_after_interrupted_save
    (patch_bundleWrites (fun _ => .missing) _ _) _ _ 1

/-- The files after a save of a two-column model over `oneColumnBundle` stopped after its
first dump. -/
def crashedAfterModel : Disk :=
  oneColumnBundle.patch ((bundleWrites "unified_ddos_best_model"
    (trainedOn ["flow_duration", "pkt_len_mean"])).take 1)

/-- The load returns `True` with the new model, which expects two features, and the old
scaler and feature columns, which have one. -/
theorem interruptedSave_mixes_bundles :
    (loadModelAndScaler crashedAfterModel "unified_ddos_best_model" Analyzer.init).1 = true ∧
      (loadModelAndScaler crashedAfterModel "unified_ddos_best_model"
        Analyzer.init).2.bestModel = .estimator (.classifier "Optimized Random Forest" true 2) ∧
      (loadModelAndScaler crashedAfterModel "unified_ddos_best_model" Analyzer.init).2.scaler =
        .estimator (.scaler .robust ["flow_duration"]) ∧
      (loadModelAndScaler crashedAfterModel "unified_ddos_best_model"
        Analyzer.init).2.featureColumns = .strList ["flow_duration"] :=
  ⟨rfl, rfl, rfl, rfl⟩

/-- Over a complete bundle of `previous`, a save of an analyzer that differs from it in each
of the three files and stops after `written` of its dumps leaves files that load, and the
load restores the bundle of a single save, the old one or the new one, exactly when the save
stopped before its first dump or after its last. -/
theorem loadModelAndScaler_one_bundle_iff {disk : Disk} {modelName : String}
    {previous self : Analyzer}
    (complete : ∀ write ∈ bundleWrites modelName previous, disk write.1 = .pickled write.2)
    (differ : self.bestModel ≠ previous.bestModel ∧ self.scaler ≠ previous.scaler ∧
      metadata self ≠ metadata previous)
    (other : Analyzer) (written : Nat) :
    (loadModelAndScaler (disk.patch ((bundleWrites modelName self).take written)) modelName
        other).1 = true ∧
      ((loadModelAndScaler (disk.patch ((bundleWrites modelName self).take written)) modelName
          other).2 ∈ [previous, self] ↔ written = 0 ∨ 3 ≤ written) := by
  have files := patch_take_bundleWrites complete self written
  rw [loadModelAndScaler_of_files files.1 files.2.1 files.2.2 other]
  obtain ⟨newModel, newScaler, newMetadata⟩ := differ
  have notPrevious : ∀ scaler metadataOf, restored self scaler metadataOf ≠ previous :=
    fun _ _ same => newModel (congrArg Analyzer.bestModel same :)
  refine ⟨rfl, ?_⟩
  match written with
  | 0 => simp [restored_self]
  | 1 =>
      have notSelf : restored self previous previous ≠ self := fun same =>
        newScaler (congrArg Analyzer.scaler same).symm
      simp [notPrevious, notSelf]
  | 2 =>
      have notSelf : restored self self previous ≠ self := fun same =>
        newMetadata (congrArg metadata same).symm
      simp [notPrevious, notSelf]
  | n + 3 =>
      rw [if_pos (by omega), if_pos (by omega), if_pos (by omega), restored_self]
      simp

theorem oneColumnBundle_interrupted_load :
    (∀ write ∈ bundleWrites "unified_ddos_best_model" (trainedOn ["flow_duration"]),
        oneColumnBundle write.1 = .pickled write.2) ∧
      ((trainedOn ["flow_duration", "pkt_len_mean"]).bestModel ≠
          (trainedOn ["flow_duration"]).bestModel ∧
        (trainedOn ["flow_duration", "pkt_len_mean"]).scaler ≠
          (trainedOn ["flow_duration"]).scaler ∧
        metadata (trainedOn ["flow_duration", "pkt_len_mean"]) ≠
          metadata (trainedOn ["flow_duration"])) ∧
      (loadModelAndScaler crashedAfterModel "unified_ddos_best_model" Analyzer.init).1 = true ∧
      ((loadModelAndScaler crashedAfterModel "unified_ddos_best_model" Analyzer.init).2 ∈
          [trainedOn ["flow_duration"], trainedOn ["flow_duration", "pkt_len_mean"]] ↔
        1 = 0 ∨ 3 ≤ 1) :=
  have complete := patch_bundleWrites (fun _ => .missing) "unified_ddos_best_model"
    (trainedOn ["flow_duration"])
  have differ : (trainedOn ["flow_duration", "pkt_len_mean"]).bestModel ≠
        (trainedOn ["flow_duration"]).bestModel ∧
      (trainedOn ["flow_duration", "pkt_len_mean"]).scaler ≠
        (trainedOn ["flow_duration"]).scaler ∧
      metadata (trainedOn ["flow_duration", "pkt_len_mean"]) ≠
        metadata (trainedOn ["flow_duration"]) :=
    ⟨(fun same => by cases same), (fun same => by cases same), fun same => by cases same⟩
  ⟨complete, differ, loadModelAndScaler_one_bundle_iff complete differ Analyzer.init 1⟩

end DdosAnalysis.Artifacts
