import CanSentinel.Lib.EntropyLaws
import CanSentinel.Ml.Features
import CanSentinel.Parser.Telemetry

/-!
# The payload entropy (`ml/features.py`, `parser/telemetry_parser.py`)

The feature extractor and the telemetry parser each have their own
`calculate_shannon_entropy`. The alert threshold and a model feature rest on it, so its
laws are stated once, of any function from byte strings to the reals, and proved of both.

- `EntropyLaws`: bounds, both equality cases, and what the entropy does not depend on.
- `entropyLaws_shannonEntropy`: the laws, of the common function.
- `calculateShannonEntropy_laws`: of the two implementations.
-/

namespace CanSentinel

/-- What is expected of the entropy of a byte string. -/
structure EntropyLaws (H : Bytes → ℝ) : Prop where
  nonneg : ∀ data, data ≠ [] → 0 ≤ H data
  le_log2 : ∀ data, data ≠ [] → H data ≤ PyFloat.log2 ((min data.length 256 : ℕ) : ℝ)
  eq_zero_iff : ∀ data, data ≠ [] → (H data = 0 ↔ ∀ a ∈ data, ∀ b ∈ data, a = b)
  eq_log2_iff : ∀ data, data ≠ [] → (H data = PyFloat.log2 (data.length : ℝ) ↔ data.Nodup)
  perm : ∀ data data', data ≠ [] → data.Perm data' → H data' = H data
  rename : ∀ data (f : UInt8 → UInt8), data ≠ [] → Function.Injective f →
    H (data.map f) = H data
  copies : ∀ data k, data ≠ [] → 0 < k → H (repeated k data) = H data

/-- A byte string has at most 256 different bytes, and at most as many as its length. -/
theorem length_dedup_bytes (data : Bytes) : data.dedup.length ≤ min data.length 256 := by
  refine le_min (List.dedup_sublist data).length_le ?_
  have hcard : Fintype.card UInt8 = 256 := FinEnum.card_eq_fintypeCard.symm
  exact hcard ▸ (List.nodup_dedup data).length_le_card

theorem shannonEntropy_le_min {data : Bytes} (h : data ≠ []) :
    (shannonEntropy data : ℝ) ≤ Real.logb 2 (min data.length 256 : ℕ) := by
  have hpos : 0 < data.dedup.length := by
    obtain ⟨a, ha⟩ := List.exists_mem_of_ne_nil data h
    exact List.length_pos_of_mem (List.mem_dedup.mpr ha)
  refine (shannonEntropy_le_dedup h).trans (Real.logb_le_logb_of_le (by norm_num) ?_ ?_)
  · exact_mod_cast hpos
  · exact_mod_cast length_dedup_bytes data

theorem entropyLaws_shannonEntropy : EntropyLaws fun data => shannonEntropy data where
  nonneg _ h := shannonEntropy_nonneg h
  le_log2 _ h := shannonEntropy_le_min h
  eq_zero_iff _ h := shannonEntropy_eq_zero_iff h
  eq_log2_iff _ h := shannonEntropy_eq_logb_iff h
  perm _ _ h hperm := (shannonEntropy_perm hperm h).symm
  rename _ _ h hf := shannonEntropy_map hf h
  copies _ _ h hk := shannonEntropy_repeat hk h

/-- **Both implementations obey the laws of entropy.** -/
theorem calculateShannonEntropy_laws :
    EntropyLaws FeatureExtractor.calculateShannonEntropy ∧
      EntropyLaws CANTelemetryParser.calculateShannonEntropy :=
  ⟨entropyLaws_shannonEntropy, entropyLaws_shannonEntropy⟩

end CanSentinel
