import CanSentinel.Lib.Metrics
import CanSentinel.Lib.Quantile
import CanSentinel.Ml.Features

/-!
# The detection model (`ml/train_isolation_forest.py`)

`CANIsolationForestModel` wraps a scaler and an isolation forest. `fit` sets the decision
threshold to a percentile of the scores of the training rows, and `predict` flags the rows
whose score is below it. scikit-learn and numpy are parameters.

- `SkLearn`: what the model calls of the two packages, and `SkLearn.Lawful`, what their
  documentation promises of it.
- `fit`, `predict`, `predictSingle`, `evaluate`: the methods; `fit_eq_ok` and
  `predict_of_trained` are their inversion lemmas.
- `predictSingle_of_predict`: a row alone is judged as in the matrix.
- `baseline_false_alarms`: how many training rows a fitted model flags.
-/

namespace CanSentinel

variable {R : Type} [PyFloat R]

/-! ## scikit-learn and numpy -/

/-- `max_samples`. -/
inductive MaxSamples (R : Type) where
  | auto
  | count (n : ℤ)
  | fraction (x : R)
deriving DecidableEq

/-- The arguments of `IsolationForest`. -/
structure ForestConfig (R : Type) where
  nEstimators : ℤ
  contamination : R
  maxSamples : MaxSamples R
  randomState : ℤ
  nJobs : ℤ

/-- Scalers `S`, forests `F`, and the functions on them and on matrices; a matrix is a list
of raw rows `V` or of scaled rows. -/
structure SkLearn (R V S F : Type) where
  newScaler : S
  newForest : ForestConfig R → F
  fitTransform : S → List V → Except PyError (List (List R) × S)
  transform : S → List V → Except PyError (List (List R))
  fitForest : F → List (List R) → Except PyError F
  decisionFunction : F → List (List R) → Except PyError (List R)
  percentile : List R → R → Except PyError R
  scalerMean : S → Option (List R)
  scalerScale : S → Option (List R)

variable {V S F : Type}

/-- The documented behaviour that the threshold rests on. -/
structure SkLearn.Lawful (sk : SkLearn R V S F) : Prop where
  fitTransform_length : ∀ scaler X scaled scaler',
    sk.fitTransform scaler X = .ok (scaled, scaler') → scaled.length = X.length
  transform_fitted : ∀ scaler X scaled scaler',
    sk.fitTransform scaler X = .ok (scaled, scaler') → sk.transform scaler' X = .ok scaled
  decisionFunction_length : ∀ forest rows scores,
    sk.decisionFunction forest rows = .ok scores → scores.length = rows.length
  percentile_linear : ∀ xs q, xs ≠ [] → 0 ≤ q → q ≤ 100.0 →
    sk.percentile xs q = .ok (percentileLinear xs q)

/-- Rows are scaled and scored one by one: each gets what it would get as a matrix of its
own. -/
structure SkLearn.RowWise (sk : SkLearn R V S F) : Prop where
  transform_rows : ∀ scaler X scaled, sk.transform scaler X = .ok scaled →
    List.Forall₂ (fun x row => sk.transform scaler [x] = .ok [row]) X scaled
  decisionFunction_rows : ∀ forest rows scores, sk.decisionFunction forest rows = .ok scores →
    List.Forall₂ (fun row score => sk.decisionFunction forest [row] = .ok [score]) rows scores

/-! ## The model -/

/-- `CANIsolationForestModel`. -/
structure CANIsolationForestModel (R S F : Type) where
  nEstimators : ℤ
  contamination : R
  maxSamples : MaxSamples R
  randomState : ℤ
  scaler : S
  model : F
  isTrained : Bool
  threshold : R
  featureNames : List String
deriving DecidableEq

namespace CANIsolationForestModel

/-- `CANIsolationForestModel.__init__`. -/
def new (sk : SkLearn R V S F) (nEstimators : ℤ) (contamination : R) (maxSamples : MaxSamples R)
    (randomState : ℤ) : CANIsolationForestModel R S F where
  nEstimators := nEstimators
  contamination := contamination
  maxSamples := maxSamples
  randomState := randomState
  scaler := sk.newScaler
  model := sk.newForest ⟨nEstimators, contamination, maxSamples, randomState, -1⟩
  isTrained := false
  threshold := 0
  featureNames := featureColumns

/-- `CANIsolationForestModel()`. -/
def newDefault (sk : SkLearn R V S F) : CANIsolationForestModel R S F := new sk 150 0.03 .auto 42

/-- The percentile of the training scores that `fit` takes for the threshold. -/
def thresholdPercentile (self : CANIsolationForestModel R S F) : R := self.contamination * 100.0

/-- `CANIsolationForestModel.fit`; a call that raises leaves a model that is not used. -/
def fit (sk : SkLearn R V S F) (self : CANIsolationForestModel R S F) (X : List V) :
    Except PyError (CANIsolationForestModel R S F) :=
  if X = [] then .error (.valueError "Training dataset X cannot be empty.")
  else do
    let (scaled, scaler) ← sk.fitTransform self.scaler X
    let model ← sk.fitForest self.model scaled
    let scores ← sk.decisionFunction model scaled
    let threshold ← sk.percentile scores self.thresholdPercentile
    return { self with
      scaler := scaler
      model := model
      isTrained := true
      threshold := threshold }

/-- `1 if score >= threshold else -1`. -/
def label (self : CANIsolationForestModel R S F) (score : R) : ℤ :=
  if self.threshold ≤ score then 1 else -1

/-- `CANIsolationForestModel.predict`. -/
def predict (sk : SkLearn R V S F) (self : CANIsolationForestModel R S F) (X : List V) :
    Except PyError (List ℤ × List R) :=
  if self.isTrained = false then .error (.runtimeError "Model must be trained before inference.")
  else do
    let scaled ← sk.transform self.scaler X
    let scores ← sk.decisionFunction self.model scaled
    return (scores.map self.label, scores)

/-- `CANIsolationForestModel.predict_single`. -/
def predictSingle (sk : SkLearn R V S F) (self : CANIsolationForestModel R S F) (x : V) :
    Except PyError (ℤ × R) :=
  if self.isTrained = false then .error (.runtimeError "Model must be trained before inference.")
  else do
    let scaled ← sk.transform self.scaler [x]
    let scores ← sk.decisionFunction self.model scaled
    match scores with
    | score :: _ => return (self.label score, score)
    -- an `IndexError`: a row without a score
    | [] => .error (.valueError "index 0 is out of bounds for axis 0 with size 0")

/-! ## The methods, inverted -/

variable {sk : SkLearn R V S F} {self fitted : CANIsolationForestModel R S F} {X : List V}

/-- A call of `fit` that returns. -/
theorem fit_eq_ok (h : self.fit sk X = .ok fitted) :
    X ≠ [] ∧ ∃ scaled scaler model scores threshold,
      sk.fitTransform self.scaler X = .ok (scaled, scaler) ∧
      sk.fitForest self.model scaled = .ok model ∧
      sk.decisionFunction model scaled = .ok scores ∧
      sk.percentile scores self.thresholdPercentile = .ok threshold ∧
      fitted = { self with
        scaler := scaler
        model := model
        isTrained := true
        threshold := threshold } := by
  rw [fit] at h
  by_cases hempty : X = []
  · rw [if_pos hempty] at h
    cases h
  · rw [if_neg hempty] at h
    obtain ⟨⟨scaled, scaler⟩, hscale, h⟩ := bind_eq_ok_iff.mp h
    obtain ⟨model, hmodel, h⟩ := bind_eq_ok_iff.mp h
    obtain ⟨scores, hscores, h⟩ := bind_eq_ok_iff.mp h
    obtain ⟨threshold, hthreshold, h⟩ := bind_eq_ok_iff.mp h
    exact ⟨hempty, scaled, scaler, model, scores, threshold, hscale, hmodel, hscores, hthreshold,
      (Except.ok.inj h).symm⟩

/-- A trained model labels the scores of the scaled rows. -/
theorem predict_of_trained (htrained : self.isTrained = true) {scaled : List (List R)}
    {scores : List R} (hscaled : sk.transform self.scaler X = .ok scaled)
    (hscores : sk.decisionFunction self.model scaled = .ok scores) :
    self.predict sk X = .ok (scores.map self.label, scores) := by
  rw [predict, if_neg (by simp [htrained]), hscaled]
  show (sk.decisionFunction self.model scaled >>= _) = _
  rw [hscores]
  rfl

/-- A call of `predict` that returns. -/
theorem predict_eq_ok {preds : List ℤ} {scores : List R}
    (h : self.predict sk X = .ok (preds, scores)) :
    self.isTrained = true ∧ preds = scores.map self.label ∧ ∃ scaled,
      sk.transform self.scaler X = .ok scaled ∧
      sk.decisionFunction self.model scaled = .ok scores := by
  rw [predict] at h
  cases htrained : self.isTrained with
  | false =>
    rw [if_pos htrained] at h
    cases h
  | true =>
    rw [if_neg (by simp [htrained])] at h
    obtain ⟨scaled, hscaled, h⟩ := bind_eq_ok_iff.mp h
    obtain ⟨scores', hscores, h⟩ := bind_eq_ok_iff.mp h
    obtain ⟨rfl, rfl⟩ := Prod.mk.inj (Except.ok.inj h)
    exact ⟨rfl, rfl, scaled, hscaled, hscores⟩

/-- **One row at a time.** Where `predict` returns for a matrix, `predict_single` returns the
same label and the same score for each of its rows. -/
theorem predictSingle_of_predict (hsk : sk.RowWise) {preds : List ℤ} {scores : List R}
    (h : self.predict sk X = .ok (preds, scores)) :
    List.Forall₂ (fun x score => self.predictSingle sk x = .ok (self.label score, score)) X
      scores := by
  obtain ⟨htrained, -, scaled, hscaled, hscores⟩ := predict_eq_ok h
  have hrows := hsk.transform_rows _ _ _ hscaled
  have hforest := hsk.decisionFunction_rows _ _ _ hscores
  clear hscaled hscores h
  induction hrows generalizing scores with
  | nil =>
    cases hforest
    exact .nil
  | cons hrow _ ih =>
    obtain ⟨score, scores, hscore, hrest, rfl⟩ := List.forall₂_cons_left_iff.mp hforest
    refine .cons ?_ (ih hrest)
    rw [predictSingle, if_neg (by simp [htrained]), hrow]
    show (sk.decisionFunction self.model _ >>= _) = _
    rw [hscore]
    rfl

/-- The flagged rows are those whose score is below the threshold. -/
theorem count_label (self : CANIsolationForestModel R S F) (scores : List R) :
    (scores.map self.label).count (-1) = scores.countP fun x => x < self.threshold := by
  rw [List.count, List.countP_map]
  refine List.countP_congr ?_
  intro x _
  simp only [Function.comp_apply, label, beq_iff_eq, decide_eq_true_eq]
  by_cases hx : self.threshold ≤ x
  · simp [hx]
  · simp [hx, not_le.mp hx]

/-- A fitted model labels the training rows by the scores that its threshold is taken from. -/
theorem predict_of_fit (hsk : sk.Lawful) (hfit : self.fit sk X = .ok fitted) :
    ∃ scores, scores.length = X.length ∧ 0 < X.length ∧
      sk.percentile scores self.thresholdPercentile = .ok fitted.threshold ∧
      fitted.predict sk X = .ok (scores.map fitted.label, scores) := by
  obtain ⟨hne, scaled, scaler, model, scores, threshold, hscale, hmodel, hscores, hthreshold,
    rfl⟩ := fit_eq_ok hfit
  refine ⟨scores, ?_, List.length_pos_iff.mpr hne, hthreshold, ?_⟩
  · rw [hsk.decisionFunction_length _ _ _ hscores, hsk.fitTransform_length _ _ _ _ hscale]
  · exact predict_of_trained rfl (hsk.transform_fitted _ _ _ _ hscale) hscores

/-- The percentile is the value at position `c * (n - 1)` of the sorted scores. -/
theorem percentile_eq_quantileAt (hsk : sk.Lawful)
    (hc : 0 ≤ self.contamination ∧ self.contamination ≤ 0.5) {scores : List R}
    (hpos : 0 < scores.length) :
    sk.percentile scores self.thresholdPercentile =
      .ok (quantileAt scores (self.contamination * ((scores.length : R) - 1))) := by
  have hone : self.contamination ≤ 1 := hc.2.trans (by norm_num)
  have hhundred : (0 : R) ≤ 100.0 := by norm_num
  have hlinear : sk.percentile scores self.thresholdPercentile =
      .ok (percentileLinear scores (self.contamination * 100.0)) :=
    hsk.percentile_linear scores _ (List.length_pos_iff.mp hpos) (mul_nonneg hc.1 hhundred)
      (mul_le_of_le_one_left hhundred hone)
  rw [hlinear, percentileLinear_mul_hundred, Nat.cast_sub hpos, Nat.cast_one]

/-- That position is in the list. -/
theorem position_mem {c : R} (hc : 0 ≤ c ∧ c ≤ 0.5) {n : ℕ} (hn : 0 < n) :
    0 ≤ c * ((n : R) - 1) ∧ ⌈c * ((n : R) - 1)⌉₊ < n := by
  have hcast : ((n - 1 : ℕ) : R) = (n : R) - 1 := by rw [Nat.cast_sub hn, Nat.cast_one]
  have hlast : (0 : R) ≤ (n : R) - 1 := by
    rw [← hcast]
    exact Nat.cast_nonneg _
  have hle : ⌈c * ((n : R) - 1)⌉₊ ≤ n - 1 := by
    rw [Nat.ceil_le, hcast]
    exact mul_le_of_le_one_left hlast (hc.2.trans (by norm_num))
  exact ⟨mul_nonneg hc.1 hlast, by omega⟩

/-- **False alarms on the baseline.** After `fit` on `n` rows with a contamination `c`, at
most `⌈c * (n - 1)⌉` of them are flagged, and exactly so many if no two scores are equal; the
scores are those of `decision_function` on the scaled rows. -/
theorem baseline_false_alarms (hsk : sk.Lawful)
    (hc : 0 ≤ self.contamination ∧ self.contamination ≤ 0.5) (hfit : self.fit sk X = .ok fitted) :
    ∃ preds scores, fitted.predict sk X = .ok (preds, scores) ∧
      (∃ scaled, sk.transform fitted.scaler X = .ok scaled ∧
        sk.decisionFunction fitted.model scaled = .ok scores) ∧
      preds.count (-1) ≤ ⌈self.contamination * ((X.length : R) - 1)⌉₊ ∧
      (scores.Nodup → preds.count (-1) = ⌈self.contamination * ((X.length : R) - 1)⌉₊) := by
  obtain ⟨scores, hlength, hpos, hthreshold, hpredict⟩ := predict_of_fit hsk hfit
  rw [← hlength] at hpos ⊢
  rw [percentile_eq_quantileAt hsk hc hpos, Except.ok.injEq] at hthreshold
  obtain ⟨h0, hceil⟩ := position_mem hc hpos
  refine ⟨_, scores, hpredict, (predict_eq_ok hpredict).2.2, ?_, ?_⟩
  · rw [count_label, ← hthreshold]
    exact countP_quantileAt_le h0 hceil
  · intro hnodup
    rw [count_label, ← hthreshold]
    exact countP_quantileAt_of_nodup hnodup h0 hceil

/-! ## Evaluation -/

/-- The metrics `evaluate` returns. -/
structure EvaluateMetrics (R : Type) where
  totalSamples : ℕ
  truePositives : ℕ
  falsePositives : ℕ
  trueNegatives : ℕ
  falseNegatives : ℕ
  precision : R
  recallRate : R
  f1Score : R
  accuracy : R
  threshold : R

end CANIsolationForestModel

/-- `np.where(y_labels == "NORMAL", 1, -1)`. -/
def truthOf (labels : List String) : List ℤ := labels.map fun y => if y = "NORMAL" then 1 else -1

/-- `np.sum((y_true == t) & (preds == p))`. -/
def countBoth (yTrue preds : List ℤ) (t p : ℤ) : ℕ :=
  (yTrue.zip preds).countP fun e => e.1 = t ∧ e.2 = p

namespace CANIsolationForestModel

/-- `evaluate` after its call of `predict`. -/
def evaluatePredictions (self : CANIsolationForestModel R S F) (preds : List ℤ)
    (labels : List String) : Except PyError (EvaluateMetrics R) := do
  let yTrue := truthOf labels
  let tp := countBoth yTrue preds (-1) (-1)
  let fp := countBoth yTrue preds 1 (-1)
  let tn := countBoth yTrue preds 1 1
  let fn := countBoth yTrue preds (-1) 1
  let precision : R ← guardedDiv (tp : R) ((tp + fp : ℕ) : R)
  let recallRate : R ← guardedDiv (tp : R) ((tp + fn : ℕ) : R)
  let f1 ← guardedDiv (2.0 * precision * recallRate) (precision + recallRate)
  let accuracy : R ← guardedDiv ((tp + tn : ℕ) : R) (yTrue.length : R)
  return {
    totalSamples := yTrue.length
    truePositives := tp
    falsePositives := fp
    trueNegatives := tn
    falseNegatives := fn
    precision := pyRound precision 4
    recallRate := pyRound recallRate 4
    f1Score := pyRound f1 4
    accuracy := pyRound accuracy 4
    threshold := pyRound self.threshold 6 }

/-- `CANIsolationForestModel.evaluate`. -/
def evaluate (sk : SkLearn R V S F) (self : CANIsolationForestModel R S F) (X : List V)
    (labels : List String) : Except PyError (EvaluateMetrics R) := do
  let (preds, _) ← self.predict sk X
  self.evaluatePredictions preds labels

end CANIsolationForestModel

/-! ## A model to run -/

/-- A scaler that keeps the numbers of a row, and a forest that takes the first for the score. -/
def rowSkLearn (row : V → List ℚ) : SkLearn ℚ V Unit Unit where
  newScaler := ()
  newForest _ := ()
  fitTransform _ X := .ok (X.map row, ())
  transform _ X := .ok (X.map row)
  fitForest _ _ := .ok ()
  decisionFunction _ rows := .ok (rows.map fun row => row.headD 0)
  percentile xs q := .ok (percentileLinear xs q)
  scalerMean _ := none
  scalerScale _ := none

theorem lawful_rowSkLearn (row : V → List ℚ) : (rowSkLearn row).Lawful where
  fitTransform_length := by
    rintro _ X _ _ ⟨⟩
    exact List.length_map _
  transform_fitted := by
    rintro _ X _ _ ⟨⟩
    rfl
  decisionFunction_length := by
    rintro _ rows _ ⟨⟩
    exact List.length_map _
  percentile_linear _ _ _ _ _ := rfl

theorem rowWise_rowSkLearn (row : V → List ℚ) : (rowSkLearn row).RowWise where
  transform_rows := by
    rintro _ X _ ⟨⟩
    rw [List.forall₂_map_right_iff]
    exact List.forall₂_same.mpr fun _ _ => rfl
  decisionFunction_rows := by
    rintro _ rows _ ⟨⟩
    rw [List.forall₂_map_right_iff]
    exact List.forall₂_same.mpr fun _ _ => rfl

/-- Rows of one number. -/
def identitySkLearn : SkLearn ℚ ℚ Unit Unit := rowSkLearn fun x => [x]

theorem lawful_identitySkLearn : identitySkLearn.Lawful := lawful_rowSkLearn _

namespace CANIsolationForestModel

/-- Standardised rows `-1` and `1`: of two distinct scores one is flagged. -/
theorem baseline_false_alarms_two : ∃ fitted,
    (newDefault identitySkLearn).fit identitySkLearn [-1, 1] = .ok fitted ∧
      ∃ preds scores, fitted.predict identitySkLearn [-1, 1] = .ok (preds, scores) ∧
        (∃ scaled, identitySkLearn.transform fitted.scaler [-1, 1] = .ok scaled ∧
          identitySkLearn.decisionFunction fitted.model scaled = .ok scores) ∧
        preds.count (-1) ≤ ⌈(0.03 : ℚ) * ((([-1, 1] : List ℚ).length : ℚ) - 1)⌉₊ ∧
        (scores.Nodup →
          preds.count (-1) = ⌈(0.03 : ℚ) * ((([-1, 1] : List ℚ).length : ℚ) - 1)⌉₊) :=
  have hcontamination : 0 ≤ (newDefault identitySkLearn).contamination ∧
      (newDefault identitySkLearn).contamination ≤ 0.5 := by
    constructor <;> norm_num [newDefault, new]
  ⟨_, rfl, baseline_false_alarms lawful_identitySkLearn hcontamination rfl⟩

end CANIsolationForestModel

end CanSentinel
