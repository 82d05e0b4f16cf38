import DdosAnalysis.Frame

/-!
# The analyzer object

`OptimizedDDoSAnalysis` keeps its pipeline state in instance attributes, which any method
may overwrite and `load_model_and_scaler` fills with whatever the pickled files hold. The
attributes are therefore modelled as Python objects of any kind: `None`, strings, lists of
column labels, a copied column, a fitted scikit-learn object, a dictionary, or some other
object known only by identity.

The fitted objects record what the pipeline's composition depends on: the labels a scaler
was fitted on, a selector's support mask, and the number of features a classifier was
trained on.
-/

namespace DdosAnalysis

/-- The scalers of `scale_features`. -/
inductive ScalerKind where
  | robust
  | minmax
  | standard
  deriving DecidableEq, Repr

/-- The selectors of `feature_selection`. -/
inductive SelectorKind where
  | mutualInfo
  | fClassif
  | rfe
  deriving DecidableEq, Repr

/-- A fitted scikit-learn object. -/
inductive Estimator where
  | labelEncoder (classes : List String)
  | scaler (kind : ScalerKind) (featureNamesIn : List String)
  | selector (kind : SelectorKind) (support : List Bool)
  | classifier (name : String) (hasPredictProba : Bool) (nFeaturesIn : Nat)
  | voting (members : List String) (nFeaturesIn : Nat)
  deriving DecidableEq, Repr

/-- `hasattr(estimator, 'predict_proba')` for the classifiers `train_best_model` builds; a
soft-voting ensemble has it. -/
def Estimator.hasPredictProba : Estimator → Bool
  | .classifier _ hasPredictProba _ => hasPredictProba
  | .voting _ _ => true
  | _ => false

/-- `n_features_in_`: the number of features a classifier or an ensemble was fitted on. -/
def Estimator.nFeaturesIn : Estimator → Option Nat
  | .classifier _ _ nFeaturesIn => some nFeaturesIn
  | .voting _ nFeaturesIn => some nFeaturesIn
  | _ => none

/-- `hasattr(estimator, 'feature_importances_')`: the tree ensembles and XGBoost have it;
the network, the SVM and the voting ensemble do not. -/
def Estimator.hasFeatureImportances : Estimator → Bool
  | .classifier name _ _ =>
      name ∈ ["Optimized Random Forest", "XGBoost", "Gradient Boosting", "Extra Trees"]
  | _ => false

/-- A Python object as an attribute or a pickle holds it. -/
inductive PyObject where
  | none
  | str (value : String)
  | strList (items : List String)
  | series (rows : Nat) (column : Column rows)
  | estimator (fitted : Estimator)
  | dict (entries : List (String × PyObject))
  | other (identity : Nat) (truthy : Bool)

namespace PyObject

/-- `bool(obj)`: `None`, empty strings, lists and dictionaries are false, fitted estimators
are true, and the truth value of a `Series` is ambiguous. -/
def truth : PyObject → Except PyError Bool
  | none => .ok false
  | str value => .ok (value ≠ "")
  | strList items => .ok !items.isEmpty
  | series _ _ => .error .valueError
  | estimator _ => .ok true
  | dict entries => .ok !entries.isEmpty
  | other _ truthy => .ok truthy

/-- `obj[key]` on a dictionary; any other object raises. -/
def getItem : PyObject → String → Except PyError PyObject
  | dict entries, key => match entries.lookup key with
      | some value => .ok value
      | Option.none => .error (.keyError key)
  | _, _ => .error .typeError

/-- `obj.get(key, default)` on a dictionary; other objects have no `get`. -/
def getOr : PyObject → String → PyObject → Except PyError PyObject
  | dict entries, key, default => .ok ((entries.lookup key).getD default)
  | _, _, _ => .error (.attributeError "get")

/-- `obj[key] = value` on a dictionary; any other object raises. -/
def setItem : PyObject → String → PyObject → Except PyError PyObject
  | dict entries, key, value => .ok (dict (Text.dictSet entries key value))
  | _, _, _ => .error .typeError

end PyObject

/-- The attributes of `OptimizedDDoSAnalysis` that the modelled methods read or write. -/
structure Analyzer where
  scaler : PyObject
  bestModel : PyObject
  featureColumns : PyObject
  labelEncoders : PyObject
  originalNetworkData : PyObject
  featureSelector : PyObject
  pca : PyObject

/-- The attributes as `__init__` sets them. -/
def Analyzer.init : Analyzer where
  scaler := .none
  bestModel := .none
  featureColumns := .none
  labelEncoders := .dict []
  originalNetworkData := .dict []
  featureSelector := .none
  pca := .none

end DdosAnalysis
