import DdosAnalysis.Analyzer

/-! # Model search

`train_best_model` runs a grid search for each entry of its `models` dictionary inside a
`try` block, keeps every result that returns, takes the best test F1 with a strict `>`
against a `best_score` that starts at 0, and above three results adds a soft-voting
ensemble of the top three, outside any `try`. The searches and fits are library code:
`Outcomes` takes, for each candidate, the test F1 its search reaches or `none` when it
raises. What the model keeps of each estimator is its name, whether it has
`predict_proba` and how many features it was fitted on.

The loop is `recordAll` over the successes (`foldl_searchStep`); its best-model variables
are described by `FirstMax`, the first entry of highest F1 (`best_recordAll`). The
ensemble block returns only when every member has `predict_proba` (`ensembleStep_cases`),
and the SVM below 50000 rows has none.
-/

namespace DdosAnalysis.Training

/-- An entry of the `models` dictionary: its name and whether the estimator it configures
has `predict_proba`. -/
structure Candidate where
  name : String
  hasPredictProba : Bool
  deriving DecidableEq, Repr

/-- The `models` dictionary for an `X_train` of `trainRows` rows, in insertion order: the
neural network above 10000 rows and, below 50000 rows, the SVM, whose `SVC` is built
without `probability=True`. -/
def candidates (trainRows : Nat) : List Candidate :=
  [⟨"Optimized Random Forest", true⟩, ⟨"XGBoost", true⟩, ⟨"Gradient Boosting", true⟩,
      ⟨"Extra Trees", true⟩] ++
    (if 10000 < trainRows then [⟨"Neural Network", true⟩] else []) ++
    (if trainRows < 50000 then [⟨"Optimized SVM", false⟩] else [])

/-- The library computations of `train_best_model`, taken as given: for each candidate, the
test F1 of the best estimator its grid search finds, or `none` when its `try` block raises;
and the test F1 of a fitted soft-voting ensemble of the given members. -/
structure Outcomes where
  search : String → Option ℚ
  ensembleF1 : List String → ℚ

/-- An entry of `results`: the fitted model and its `test_f1`; the other fields are reports
nothing reads back. -/
structure TrainResult where
  model : Estimator
  testF1 : ℚ
  deriving DecidableEq

/-- The variables of `train_best_model`: `best_model`, `best_score`, `best_model_name` and
`results`, which it returns. -/
structure SearchState where
  bestModel : Option Estimator
  bestScore : ℚ
  bestModelName : String
  results : List (String × TrainResult)
  deriving DecidableEq

/-- `best_model, best_score, best_model_name = None, 0, ""` and `results = {}`. -/
def SearchState.init : SearchState :=
  ⟨none, 0, "", []⟩

/-- `results[name] = result`, then `if f1 > best_score` take it as the best model. -/
def SearchState.record (state : SearchState) (name : String) (result : TrainResult) :
    SearchState :=
  if state.bestScore < result.testF1 then
    ⟨some result.model, result.testF1, name, Text.dictSet state.results name result⟩
  else { state with results := Text.dictSet state.results name result }

/-- One round of the loop over `models.items()`; a `try` block that raises changes nothing. -/
def searchStep (outcomes : Outcomes) (features : Nat) (state : SearchState)
    (candidate : Candidate) : SearchState :=
  match outcomes.search candidate.name with
  | some f1 => state.record candidate.name
      ⟨.classifier candidate.name candidate.hasPredictProba features, f1⟩
  | none => state

/-- `sorted(results.items(), key=lambda x: x[1]['test_f1'], reverse=True)[:3]`. Python's sort
is stable, reversed too, so ties keep the order of `results`, as in `List.mergeSort`. -/
def topThree (results : List (String × TrainResult)) : List (String × TrainResult) :=
  (results.mergeSort fun first second => decide (second.2.testF1 ≤ first.2.testF1)).take 3

/-- `VotingClassifier(estimators=voting_models, voting='soft')`, fitted, and its test F1;
`voting_models` names each member `name.replace(' ', '_')`. -/
def ensembleResult (outcomes : Outcomes) (features : Nat) (top : List (String × TrainResult)) :
    TrainResult :=
  let members := top.map fun entry => (⟨Text.replaceSpace entry.1.data⟩ : String)
  ⟨.voting members features, outcomes.ensembleF1 members⟩

/-- The block `if len(results) >= 3`. Soft voting calls `predict_proba` of every member when
the ensemble predicts, which raises `AttributeError` for a member that has none. -/
def ensembleStep (outcomes : Outcomes) (features : Nat) (state : SearchState) :
    Except PyError SearchState :=
  if 3 ≤ state.results.length then
    let top := topThree state.results
    if top.all fun entry => entry.2.model.hasPredictProba then
      .ok (state.record "Ensemble" (ensembleResult outcomes features top))
    else .error (.attributeError "predict_proba")
  else .ok state

/-- `self.best_model = best_model`. -/
def bestModelObject : Option Estimator → PyObject
  | some model => .estimator model
  | none => .none

/-- `train_best_model` on an `X_train` of `trainRows` rows and `features` columns: the
returned `results, best_model, best_model_name, best_score`, and the analyzer. -/
def trainBestModel (outcomes : Outcomes) (trainRows features : Nat) (self : Analyzer) :
    Except PyError (SearchState × Analyzer) := do
  let state ← ensembleStep outcomes features
    ((candidates trainRows).foldl (searchStep outcomes features) SearchState.init)
  pure (state, { self with bestModel := bestModelObject state.bestModel })

/-! ## The loop -/

/-- The candidates whose `try` block returns, with their results, in the loop's order. -/
def successes (outcomes : Outcomes) (features : Nat) (pending : List Candidate) :
    List (String × TrainResult) :=
  pending.filterMap fun candidate => (outcomes.search candidate.name).map fun f1 =>
    (candidate.name, ⟨.classifier candidate.name candidate.hasPredictProba features, f1⟩)

/-- Recording each entry of a list of results in turn. -/
def recordAll (state : SearchState) (entries : List (String × TrainResult)) : SearchState :=
  entries.foldl (fun state entry => state.record entry.1 entry.2) state

/-- The loop over `models.items()` records the successes and skips the rest. -/
theorem foldl_searchStep (outcomes : Outcomes) (features : Nat) :
    ∀ (pending : List Candidate) (state : SearchState),
      pending.foldl (searchStep outcomes features) state =
        recordAll state (successes outcomes features pending)
  | [], _ => rfl
  | candidate :: rest, state => by
      cases found : outcomes.search candidate.name with
      | none =>
          simp only [List.foldl_cons, searchStep, found, successes, List.filterMap_cons,
            Option.map_none']
          exact foldl_searchStep outcomes features rest state
      | some f1 =>
          simp only [List.foldl_cons, searchStep, found, successes, List.filterMap_cons,
            Option.map_some', recordAll]
          exact foldl_searchStep outcomes features rest _

theorem results_record (state : SearchState) (name : String) (result : TrainResult) :
    (state.record name result).results = Text.dictSet state.results name result := by
  unfold SearchState.record
  split <;> rfl

/-- Results under new, distinct names are appended in order. -/
theorem results_recordAll :
    ∀ (entries : List (String × TrainResult)) (state : SearchState),
      (entries.map Prod.fst).Nodup →
      (∀ entry ∈ entries, entry.1 ∉ state.results.map Prod.fst) →
      (recordAll state entries).results = state.results ++ entries
  | [], state, _, _ => by simp [recordAll]
  | entry :: rest, state, unique, fresh => by
      have appended : (state.record entry.1 entry.2).results = state.results ++ [entry] := by
        rw [results_record, Text.dictSet_of_not_mem (fresh entry (List.mem_cons_self _ _))]
      have restFresh : ∀ other ∈ rest,
          other.1 ∉ (state.record entry.1 entry.2).results.map Prod.fst := by
        intro other member
        rw [appended, List.map_append, List.mem_append, not_or]
        refine ⟨fresh other (List.mem_cons_of_mem _ member), fun same => ?_⟩
        rw [List.map_singleton, List.mem_singleton] at same
        exact (List.nodup_cons.mp unique).1 (same ▸ List.mem_map_of_mem Prod.fst member)
      show (recordAll (state.record entry.1 entry.2) rest).results = _
      rw [results_recordAll rest _ (List.nodup_cons.mp unique).2 restFresh, appended,
        List.append_assoc, List.singleton_append]

/-! ## The best model -/

/-- What `best_model, best_score, best_model_name` hold. -/
def SearchState.best (state : SearchState) : Option Estimator × ℚ × String :=
  (state.bestModel, state.bestScore, state.bestModelName)

/-- The best-model variables once `entry` is taken as the best one. -/
def bestOf (entry : String × TrainResult) : Option Estimator × ℚ × String :=
  (some entry.2.model, entry.2.testF1, entry.1)

/-- `winner` is the first entry with the highest F1: the entries before it score less, the
ones after it no more. -/
def FirstMax (entries : List (String × TrainResult)) (winner : String × TrainResult) : Prop :=
  ∃ before after, entries = before ++ winner :: after ∧
    (∀ entry ∈ before, entry.2.testF1 < winner.2.testF1) ∧
    ∀ entry ∈ after, entry.2.testF1 ≤ winner.2.testF1

namespace FirstMax

variable {entries : List (String × TrainResult)} {winner : String × TrainResult}

theorem mem (first : FirstMax entries winner) : winner ∈ entries := by
  obtain ⟨before, after, rfl, -, -⟩ := first
  exact List.mem_append_right _ (List.mem_cons_self _ _)

theorem le (first : FirstMax entries winner) {entry : String × TrainResult}
    (member : entry ∈ entries) : entry.2.testF1 ≤ winner.2.testF1 := by
  obtain ⟨before, after, rfl, earlier, later⟩ := first
  rcases List.mem_append.mp member with inBefore | inRest
  · exact le_of_lt (earlier entry inBefore)
  · rcases List.mem_cons.mp inRest with rfl | inAfter
    · exact le_rfl
    · exact later entry inAfter

theorem cons_lt (first : FirstMax entries winner) {entry : String × TrainResult}
    (below : entry.2.testF1 < winner.2.testF1) : FirstMax (entry :: entries) winner := by
  obtain ⟨before, after, rfl, earlier, later⟩ := first
  refine ⟨entry :: before, after, rfl, fun other member => ?_, later⟩
  rcases List.mem_cons.mp member with rfl | inBefore
  · exact below
  · exact earlier other inBefore

theorem head (atMost : ∀ entry ∈ entries, entry.2.testF1 ≤ winner.2.testF1) :
    FirstMax (winner :: entries) winner :=
  ⟨[], entries, rfl, fun _ member => absurd member (List.not_mem_nil _), atMost⟩

theorem append_le (first : FirstMax entries winner) {entry : String × TrainResult}
    (atMost : entry.2.testF1 ≤ winner.2.testF1) : FirstMax (entries ++ [entry]) winner := by
  obtain ⟨before, after, rfl, earlier, later⟩ := first
  refine ⟨before, after ++ [entry], by simp, earlier, fun other member => ?_⟩
  rcases List.mem_append.mp member with inAfter | last
  · exact later other inAfter
  · rw [List.mem_singleton.mp last]
    exact atMost

theorem append_lt (below : ∀ other ∈ entries, other.2.testF1 < winner.2.testF1) :
    FirstMax (entries ++ [winner]) winner :=
  ⟨entries, [], rfl, below, fun _ member => absurd member (List.not_mem_nil _)⟩

end FirstMax

theorem best_record_of_lt {state : SearchState} (name : String) {result : TrainResult}
    (better : state.bestScore < result.testF1) :
    (state.record name result).best = bestOf (name, result) := by
  simp [SearchState.record, better, SearchState.best, bestOf]

theorem best_record_of_le {state : SearchState} (name : String) {result : TrainResult}
    (notBetter : ¬ state.bestScore < result.testF1) :
    (state.record name result).best = state.best := by
  simp [SearchState.record, notBetter, SearchState.best]

/-- The strict `>` of the loop keeps the first entry with the highest F1, provided that F1
beats the starting `best_score`; otherwise nothing changes. -/
theorem best_recordAll :
    ∀ (entries : List (String × TrainResult)) (state : SearchState),
      ((recordAll state entries).best = state.best ∧
        ∀ entry ∈ entries, entry.2.testF1 ≤ state.bestScore) ∨
      ∃ winner, FirstMax entries winner ∧ state.bestScore < winner.2.testF1 ∧
        (recordAll state entries).best = bestOf winner
  | [], state => Or.inl ⟨rfl, fun _ member => absurd member (List.not_mem_nil _)⟩
  | entry :: rest, state => by
      show ((recordAll (state.record entry.1 entry.2) rest).best = state.best ∧ _) ∨ _
      by_cases better : state.bestScore < entry.2.testF1
      · have recorded := best_record_of_lt entry.1 better
        have score : (state.record entry.1 entry.2).bestScore = entry.2.testF1 :=
          congrArg (fun best => best.2.1) recorded
        right
        rcases best_recordAll rest (state.record entry.1 entry.2) with
          ⟨same, atMost⟩ | ⟨winner, first, beats, final⟩
        · rw [score] at atMost
          exact ⟨entry, FirstMax.head atMost, better, same.trans recorded⟩
        · rw [score] at beats
          exact ⟨winner, first.cons_lt beats, better.trans beats, final⟩
      · have recorded := best_record_of_le entry.1 better
        have score : (state.record entry.1 entry.2).bestScore = state.bestScore :=
          congrArg (fun best => best.2.1) recorded
        rcases best_recordAll rest (state.record entry.1 entry.2) with
          ⟨same, atMost⟩ | ⟨winner, first, beats, final⟩
        · rw [score] at atMost
          refine Or.inl ⟨same.trans recorded, fun other member => ?_⟩
          rcases List.mem_cons.mp member with rfl | inRest
          · exact le_of_not_lt better
          · exact atMost other inRest
        · rw [score] at beats
          exact Or.inr ⟨winner, first.cons_lt ((le_of_not_lt better).trans_lt beats), beats,
            final⟩

/-! ## The whole step -/

theorem names_successes_sublist (outcomes : Outcomes) (features : Nat) :
    ∀ pending : List Candidate,
      ((successes outcomes features pending).map Prod.fst).Sublist (pending.map Candidate.name)
  | [] => List.Sublist.slnil
  | candidate :: rest => by
      have earlier := names_successes_sublist outcomes features rest
      cases found : outcomes.search candidate.name <;>
        simp only [successes, List.filterMap_cons, found, Option.map_none', Option.map_some',
          List.map_cons] at earlier ⊢
      · exact earlier.cons _
      · exact earlier.cons₂ _

/-- The candidates carry distinct names, none of them `Ensemble`. -/
theorem names_candidates (trainRows : Nat) :
    ("Ensemble" :: (candidates trainRows).map Candidate.name).Nodup := by
  unfold candidates
  split <;> split <;> decide

/-- The loop records every success, in the order of `models`. -/
theorem results_searchLoop (outcomes : Outcomes) (trainRows features : Nat) :
    ((candidates trainRows).foldl (searchStep outcomes features) SearchState.init).results =
      successes outcomes features (candidates trainRows) := by
  rw [foldl_searchStep, results_recordAll _ _
    (((names_successes_sublist _ _ _).nodup (List.nodup_cons.mp (names_candidates _)).2))
    (fun _ _ => List.not_mem_nil _)]
  rfl

/-- The block `if len(results) >= 3` leaves the state alone below three results; otherwise it
returns only when every member of the top three has `predict_proba`, and records the
ensemble. -/
theorem ensembleStep_cases {outcomes : Outcomes} {features : Nat} {state next : SearchState}
    (ran : ensembleStep outcomes features state = .ok next) :
    (state.results.length < 3 ∧ next = state) ∨
      (3 ≤ state.results.length ∧
        (∀ entry ∈ topThree state.results, entry.2.model.hasPredictProba = true) ∧
        next = state.record "Ensemble"
          (ensembleResult outcomes features (topThree state.results))) := by
  unfold ensembleStep at ran
  split at ran
  · rename_i enough
    dsimp only at ran
    split at ran
    · rename_i allProba
      exact Or.inr ⟨enough, List.all_eq_true.mp allProba, (Except.ok.inj ran).symm⟩
    · cases ran
  · rename_i short
    exact Or.inl ⟨not_le.mp short, (Except.ok.inj ran).symm⟩

theorem recordAll_append (state : SearchState) (entries : List (String × TrainResult))
    (name : String) (result : TrainResult) :
    recordAll state (entries ++ [(name, result)]) =
      (recordAll state entries).record name result := by
  simp [recordAll, List.foldl_append]

/-- Everything `train_best_model` does when it returns: `results` holds the successes in
order and, after three or more, the ensemble of the top three; the best-model variables
hold the first result of highest F1 when that F1 is positive and their initial values
otherwise; and `self.best_model` is `best_model`. -/
theorem trainBestModel_eq_ok {outcomes : Outcomes} {trainRows features : Nat}
    {self self' : Analyzer} {state : SearchState}
    (returned : trainBestModel outcomes trainRows features self = .ok (state, self')) :
    state = recordAll SearchState.init state.results ∧
    state.results = (if 3 ≤ (successes outcomes features (candidates trainRows)).length then
      successes outcomes features (candidates trainRows) ++
        [("Ensemble", ensembleResult outcomes features
          (topThree (successes outcomes features (candidates trainRows))))]
      else successes outcomes features (candidates trainRows)) ∧
    self' = { self with bestModel := bestModelObject state.bestModel } := by
  have loop := results_searchLoop outcomes trainRows features
  have fresh : "Ensemble" ∉ (successes outcomes features (candidates trainRows)).map Prod.fst :=
    fun named => (List.nodup_cons.mp (names_candidates trainRows)).1
      ((names_successes_sublist _ _ _).subset named)
  rw [foldl_searchStep] at loop
  unfold trainBestModel at returned
  rw [foldl_searchStep] at returned
  generalize successes outcomes features (candidates trainRows) = found at loop fresh returned ⊢
  obtain ⟨stepped, ran, returned⟩ := bind_eq_ok.mp returned
  simp only [pure_eq_ok, Prod.mk.injEq] at returned
  obtain ⟨rfl, rfl⟩ := returned
  rcases ensembleStep_cases ran with ⟨short, rfl⟩ | ⟨enough, -, rfl⟩
  · rw [loop] at short ⊢
    rw [if_neg (not_le.mpr short)]
    exact ⟨rfl, rfl, rfl⟩
  · rw [loop] at enough ⊢
    rw [results_record, loop, Text.dictSet_of_not_mem fresh, if_pos enough, recordAll_append]
    exact ⟨rfl, rfl, rfl⟩

/-- Whenever `train_best_model` returns, `results` holds the successes in the order of
`models` and, after three or more, the ensemble of the top three. If some result has a
positive F1, `best_model_name` is the first key of `results` with the highest `test_f1`,
`best_score` is that F1 and `best_model` its model, and `self.best_model` is set to it;
otherwise `best_model` is `None`, `best_score` 0 and `best_model_name` empty. -/
theorem trainBestModel_spec {outcomes : Outcomes} {trainRows features : Nat}
    {self self' : Analyzer} {state : SearchState}
    (returned : trainBestModel outcomes trainRows features self = .ok (state, self')) :
    state.results = (if 3 ≤ (successes outcomes features (candidates trainRows)).length then
      successes outcomes features (candidates trainRows) ++
        [("Ensemble", ensembleResult outcomes features
          (topThree (successes outcomes features (candidates trainRows))))]
      else successes outcomes features (candidates trainRows)) ∧
    ((state.best = (none, 0, "") ∧ ∀ entry ∈ state.results, entry.2.testF1 ≤ 0) ∨
      ∃ winner, FirstMax state.results winner ∧ 0 < winner.2.testF1 ∧
        state.best = bestOf winner) ∧
    self'.bestModel = bestModelObject state.bestModel := by
  obtain ⟨recorded, results, rfl⟩ := trainBestModel_eq_ok returned
  have best := best_recordAll state.results SearchState.init
  rw [← recorded] at best
  exact ⟨results, best, rfl⟩

/-- A search where only the random forest returns, with a test F1 of 1. -/
def forestOnly : Outcomes where
  search name := if name = "Optimized Random Forest" then some 1 else none
  ensembleF1 _ := 1

theorem forestOnly_spec :
    ∃ state self', trainBestModel forestOnly 1000 20 Analyzer.init = .ok (state, self') ∧
      state.results = [("Optimized Random Forest",
        ⟨.classifier "Optimized Random Forest" true 20, 1⟩)] ∧
      ((state.best = (none, 0, "") ∧ ∀ entry ∈ state.results, entry.2.testF1 ≤ 0) ∨
        ∃ winner, FirstMax state.results winner ∧ 0 < winner.2.testF1 ∧
          state.best = bestOf winner) ∧
      self'.bestModel = bestModelObject state.bestModel :=
  have spec := trainBestModel_spec (rfl : trainBestModel forestOnly 1000 20 Analyzer.init = _)
  ⟨_, _, rfl, rfl, spec.2⟩

/-- On any training set, the search where only the forest returns keeps the forest. -/
theorem trainBestModel_forestOnly (trainRows features : Nat) (self : Analyzer) :
    ∃ state, trainBestModel forestOnly trainRows features self =
      .ok (state, { self with
        bestModel := .estimator (.classifier "Optimized Random Forest" true features) }) := by
  unfold trainBestModel candidates
  split <;> split <;> exact ⟨_, rfl⟩

theorem ensembleStep_ok_iff (outcomes : Outcomes) (features : Nat) (state : SearchState) :
    (∃ next, ensembleStep outcomes features state = .ok next) ↔
      state.results.length < 3 ∨
        ∀ entry ∈ topThree state.results, entry.2.model.hasPredictProba = true := by
  constructor
  · rintro ⟨next, ran⟩
    rcases ensembleStep_cases ran with ⟨short, -⟩ | ⟨-, allProba, -⟩
    · exact Or.inl short
    · exact Or.inr allProba
  · intro allowed
    unfold ensembleStep
    by_cases enough : 3 ≤ state.results.length
    · have allProba := allowed.resolve_left (not_lt.mpr enough)
      simp only [enough, if_true, List.all_eq_true.mpr allProba]
      exact ⟨_, rfl⟩
    · simp only [enough, if_false]
      exact ⟨_, rfl⟩

/-- Only the ensemble block can raise out of `train_best_model`. -/
theorem trainBestModel_ok_of_ensembleStep {outcomes : Outcomes} {trainRows features : Nat}
    {next : SearchState}
    (ran : ensembleStep outcomes features
      ((candidates trainRows).foldl (searchStep outcomes features) SearchState.init) = .ok next)
    (self : Analyzer) : ∃ result, trainBestModel outcomes trainRows features self = .ok result :=
  ⟨_, bind_eq_ok.mpr ⟨next, ran, rfl⟩⟩

/-- `train_best_model` returns exactly when fewer than three candidates succeed or every
member of the top three has `predict_proba`; a raising search never stops the loop. -/
theorem trainBestModel_ok_iff (outcomes : Outcomes) (trainRows features : Nat)
    (self : Analyzer) :
    (∃ result, trainBestModel outcomes trainRows features self = .ok result) ↔
      (successes outcomes features (candidates trainRows)).length < 3 ∨
        ∀ entry ∈ topThree (successes outcomes features (candidates trainRows)),
          entry.2.model.hasPredictProba = true := by
  rw [← results_searchLoop outcomes trainRows features, ← ensembleStep_ok_iff]
  constructor
  · rintro ⟨result, returned⟩
    obtain ⟨next, ran, -⟩ := bind_eq_ok.mp returned
    exact ⟨next, ran⟩
  · rintro ⟨next, ran⟩
    exact trainBestModel_ok_of_ensembleStep ran self

/-- With fewer than three successes there is no ensemble, and `train_best_model` returns. -/
theorem trainBestModel_of_short (outcomes : Outcomes) {trainRows : Nat} (features : Nat)
    (self : Analyzer) (short : (successes outcomes features (candidates trainRows)).length < 3) :
    ∃ result, trainBestModel outcomes trainRows features self = .ok result := by
  rw [← results_searchLoop outcomes trainRows features] at short
  obtain ⟨next, ran⟩ := (ensembleStep_ok_iff outcomes features _).mpr (Or.inl short)
  exact trainBestModel_ok_of_ensembleStep ran self

theorem hasPredictProba_of_mem_successes {outcomes : Outcomes} {features : Nat}
    {pending : List Candidate}
    (allProba : ∀ candidate ∈ pending, candidate.hasPredictProba = true)
    {entry : String × TrainResult} (member : entry ∈ successes outcomes features pending) :
    entry.2.model.hasPredictProba = true := by
  obtain ⟨candidate, listed, found⟩ := List.mem_filterMap.mp member
  obtain ⟨f1, -, rfl⟩ := Option.map_eq_some'.mp found
  exact allProba candidate listed

/-- From 50000 training rows on there is no SVM, and `train_best_model` always returns. -/
theorem trainBestModel_returns_of_large (outcomes : Outcomes) {trainRows : Nat}
    (large : 50000 ≤ trainRows) (features : Nat) (self : Analyzer) :
    ∃ result, trainBestModel outcomes trainRows features self = .ok result := by
  have allProba : ∀ candidate ∈ candidates trainRows, candidate.hasPredictProba = true := by
    unfold candidates
    rw [if_neg (not_lt.mpr large)]
    split <;> decide
  have allowed : ∀ entry ∈ topThree
      ((candidates trainRows).foldl (searchStep outcomes features) SearchState.init).results,
      entry.2.model.hasPredictProba = true := fun entry member => by
    rw [results_searchLoop] at member
    exact hasPredictProba_of_mem_successes allProba
      ((List.mem_mergeSort).mp (List.mem_of_mem_take member))
  obtain ⟨next, ran⟩ := (ensembleStep_ok_iff outcomes features _).mpr (Or.inr allowed)
  exact trainBestModel_ok_of_ensembleStep ran self

/-! ## The fitted models -/

theorem nFeaturesIn_of_mem_successes {outcomes : Outcomes} {features : Nat}
    {pending : List Candidate} {entry : String × TrainResult}
    (member : entry ∈ successes outcomes features pending) :
    entry.2.model.nFeaturesIn = some features := by
  obtain ⟨candidate, -, found⟩ := List.mem_filterMap.mp member
  obtain ⟨f1, -, rfl⟩ := Option.map_eq_some'.mp found
  rfl

/-- Every model `train_best_model` keeps, and so the best one, was fitted on the columns of
`X_train`. -/
theorem nFeaturesIn_of_trainBestModel {outcomes : Outcomes} {trainRows features : Nat}
    {self self' : Analyzer} {state : SearchState}
    (returned : trainBestModel outcomes trainRows features self = .ok (state, self'))
    {model : Estimator} (best : state.bestModel = some model) :
    model.nFeaturesIn = some features := by
  obtain ⟨recorded, results, -⟩ := trainBestModel_eq_ok returned
  have fitted : ∀ entry ∈ state.results, entry.2.model.nFeaturesIn = some features := by
    intro entry member
    rw [results] at member
    split at member
    · rcases List.mem_append.mp member with found | ensemble
      · exact nFeaturesIn_of_mem_successes found
      · rw [List.mem_singleton.mp ensemble]
        rfl
    · exact nFeaturesIn_of_mem_successes member
  have bestOfAll := best_recordAll state.results SearchState.init
  rw [← recorded] at bestOfAll
  rcases bestOfAll with ⟨initial, -⟩ | ⟨winner, first, -, chosen⟩
  · rw [SearchState.best, best] at initial
    cases initial
  · rw [SearchState.best, best, bestOf, Prod.mk.injEq, Option.some.injEq] at chosen
    rw [chosen.1]
    exact fitted winner first.mem

/-- A run below 50000 training rows where the random forest, the extra trees and the SVM
each reach a test F1 of 1, and the other searches raise. -/
def svmScores : Outcomes where
  search name := if name ∈ ["Optimized Random Forest", "Extra Trees", "Optimized SVM"] then
    some 1 else none
  ensembleF1 _ := 1

/-- With the SVM among the top three, soft voting raises out of `train_best_model`. -/
theorem svmScores_raises :
    trainBestModel svmScores 1000 20 Analyzer.init = .error (.attributeError "predict_proba") := by
  have found : successes svmScores 20 (candidates 1000) =
      [("Optimized Random Forest", ⟨.classifier "Optimized Random Forest" true 20, 1⟩),
        ("Extra Trees", ⟨.classifier "Extra Trees" true 20, 1⟩),
        ("Optimized SVM", ⟨.classifier "Optimized SVM" false 20, 1⟩)] := by
    decide
  have top : topThree (successes svmScores 20 (candidates 1000)) =
      successes svmScores 20 (candidates 1000) := by
    rw [found, topThree, List.mergeSort_of_sorted (by decide)]
    rfl
  have loop := results_searchLoop svmScores 1000 20
  unfold trainBestModel ensembleStep
  rw [loop, top, found]
  rfl

/-- A run where only the random forest returns, with a test F1 of 0. -/
def zeroScores : Outcomes where
  search name := if name = "Optimized Random Forest" then some 0 else none
  ensembleF1 _ := 0

/-- With every F1 at 0 the strict `>` never fires: `best_model_name` stays empty, which is
no key of `results`, and `best_model` stays `None`. -/
theorem zeroScores_lose_bestModelName :
    ∃ state self', trainBestModel zeroScores 1000 20 Analyzer.init = .ok (state, self') ∧
      state.results.map Prod.fst = ["Optimized Random Forest"] ∧ state.bestModel = none ∧
      state.bestModelName = "" ∧ state.bestModelName ∉ state.results.map Prod.fst :=
  ⟨_, _, rfl, rfl, rfl, rfl, by decide⟩

end DdosAnalysis.Training
