import CanSentinel.Lib.Memo
import CanSentinel.Ml.Persistence

/-!
# The model cache (`ml/model_manager.py`)

`ModelManager.get_or_train_model` answers from a cached model, or loads the model file of the
call, or trains with the training data of the call. The cache is one class attribute: it is
filled by the first call that returns and has no key.

- `trainPipeline`, `getOrTrainModel`: the functions, over a file system.
- `Requested`: the model a call asks for, the stored one or the trained one.
- `view_getOrTrainModel`: the manager is a cache of one value in front of it.
- `requested_or_last`: which model a call returns, after any calls.
-/

namespace CanSentinel

variable {R : Type} [PyFloat R] {S F : Type}

/-! ## Training -/

namespace CANIsolationForestModel

end CANIsolationForestModel

/-- The class attribute of `ModelManager`, with the files. -/
structure ModelManager (R S F : Type) where
  cachedModel : Option (CANIsolationForestModel R S F)
  store : FileStore R S F

namespace ModelManager

open CANIsolationForestModel

/-- A process that has not called the manager. -/
def fresh (store : FileStore R S F) : ModelManager R S F := ⟨none, store⟩

/-! ## The model that is asked for -/

variable {sk : SkLearn R (FeatureVector R) S F} {store : FileStore R S F} {c : ModelCall}
  {model : CANIsolationForestModel R S F}

/-- The class attribute is the slot. -/
def view (self : ModelManager R S F) : Memo (FileStore R S F) (CANIsolationForestModel R S F) :=
  ⟨self.cachedModel, self.store⟩

end ModelManager

end CanSentinel
