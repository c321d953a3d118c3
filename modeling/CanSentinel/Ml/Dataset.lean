import CanSentinel.Lib.Csv
import CanSentinel.Lib.Machine
import CanSentinel.Lib.Text
import CanSentinel.Ml.FeatureHistory

/-!
# Training data (`extract_features_from_csv`)

The training path reads a CSV data set row by row and feeds a fresh extractor
with window size 50. A row that cannot be read raises and ends the load.

- `rowCall`: the extractor call and the label of a row.
- `npArray`: the labels in their array, which keeps no NUL at the end of a text.
- `extractFeaturesFromCsv_of_rows`: on readable rows the result is the run of the
  extractor on their calls.
- `extractFeatures_cut`: under a non-negative DLC the extractor looks at the
  payload only, not at data beyond it.
-/

namespace CanSentinel

variable {R : Type} [PyFloat R]

/-- `row[key]`. -/
def getItem (row : List (String × String)) (key : String) : Except PyError String :=
  match row.lookup key with
  | some value => .ok value
  | none => .error (.keyError key)

/-- `bytes.fromhex(hex_str) if hex_str else b""`. -/
def rawBytesOf (hexStr : String) : Except PyError Bytes :=
  if hexStr = "" then .ok [] else bytesFromHex hexStr

theorem rawBytesOf_hexOfBytes (data : Bytes) : rawBytesOf (hexOfBytes data) = .ok data := by
  rw [rawBytesOf]
  by_cases hempty : hexOfBytes data = ""
  · rw [if_pos hempty, (hexOfBytes_eq_empty_iff data).mp hempty]
  · rw [if_neg hempty]
    exact bytesFromHex_hexOfBytes data

/-- The extractor call and the label of a row. -/
def rowCall (row : List (String × String)) : Except PyError (ExtractCall R × String) := do
  let canId ← intOfString (← getItem row "can_id")
  let dlc ← intOfString (← getItem row "dlc")
  let ts ← floatOfString (← getItem row "timestamp")
  let label := (row.lookup "label").getD "NORMAL"
  let hexStr := (row.lookup "payload_hex").getD ""
  let rawBytes ← rawBytesOf hexStr
  return (⟨canId, dlc, rawBytes, ts⟩, label)

/-- One turn of the loading loop: the vectors, the labels and the extractor. -/
def loadRow (acc : List (FeatureVector R) × List String × StreamingFeatureExtractor R)
    (row : List (String × String)) :
    Except PyError (List (FeatureVector R) × List String × StreamingFeatureExtractor R) := do
  let (call, label) ← rowCall row
  let (featVec, extractor) := acc.2.2.extractFeatures call
  return (acc.1 ++ [featVec], acc.2.1 ++ [label], extractor)

/-- A text as an element of a NumPy array: the NULs at its end are padding. -/
def npStr (s : String) : String := String.ofList (s.toList.rdropWhile (· = Char.ofNat 0))

/-- `np.array(y_list)`. -/
def npArray (texts : List String) : List String := texts.map npStr

/-- The last character is a NUL. -/
def EndsInNul (s : String) : Prop := s.toList.getLast? = some (Char.ofNat 0)

instance (s : String) : Decidable (EndsInNul s) := inferInstanceAs (Decidable (_ = _))

/-- An array keeps a text unless it ends in a NUL. -/
theorem npStr_eq_self_iff (s : String) : npStr s = s ↔ ¬ EndsInNul s := by
  have hchars : npStr s = s ↔ s.toList.rdropWhile (· = Char.ofNat 0) = s.toList := by
    rw [← String.toList_inj, npStr, String.toList_ofList]
  rw [hchars, List.rdropWhile_eq_self_iff, EndsInNul]
  cases hlast : s.toList using List.reverseRecOn with
  | nil => simp
  | append_singleton l c => simp

theorem npArray_eq_self_iff (texts : List String) :
    npArray texts = texts ↔ ∀ s ∈ texts, ¬ EndsInNul s := by
  have hmap : npArray texts = texts ↔ texts.map npStr = texts.map id := by
    rw [List.map_id, npArray]
  rw [hmap, List.map_inj_left]
  exact forall₂_congr fun s _ => npStr_eq_self_iff s

@[simp] theorem length_npArray (texts : List String) : (npArray texts).length = texts.length :=
  List.length_map _

/-- `extract_features_from_csv`: the matrix, the labels and the column names. -/
def extractFeaturesFromCsv (file : CsvFile) :
    Except PyError (List (FeatureVector R) × List String × List String) := do
  let (x, y, _) ← (dictReader file).foldlM loadRow ([], [], StreamingFeatureExtractor.new 50)
  return (x, npArray y, featureColumns)

theorem loadRow_of_ok {row : List (String × String)} {entry : ExtractCall R × String}
    (h : rowCall row = .ok entry) (x : List (FeatureVector R)) (y : List String)
    (e : StreamingFeatureExtractor R) :
    loadRow (x, y, e) row = .ok (x ++ [(e.extractFeatures entry.1).1], y ++ [entry.2],
      (e.extractFeatures entry.1).2) := by
  rw [loadRow, h]
  rfl

/-- The loop on readable rows runs the extractor on their calls. -/
theorem foldlM_loadRow {rows : List (List (String × String))}
    {entries : List (ExtractCall R × String)}
    (h : List.Forall₂ (fun row entry => rowCall row = .ok entry) rows entries)
    (x : List (FeatureVector R)) (y : List String) (e : StreamingFeatureExtractor R) :
    rows.foldlM loadRow (x, y, e) = .ok
      (x ++ Machine.outputs StreamingFeatureExtractor.extractFeatures e (entries.map Prod.fst),
        y ++ entries.map Prod.snd,
        Machine.final StreamingFeatureExtractor.extractFeatures e (entries.map Prod.fst)) := by
  induction h generalizing x y e with
  | nil => simp [pure, Except.pure]
  | cons hrow _ ih =>
    rw [List.foldlM_cons, loadRow_of_ok hrow]
    show List.foldlM loadRow _ _ = _
    rw [ih]
    simp only [List.map_cons, Machine.outputs_cons, Machine.final_cons, List.append_assoc,
      List.singleton_append]

/-- **The data set of readable rows.** -/
theorem extractFeaturesFromCsv_of_rows {file : CsvFile} {entries : List (ExtractCall R × String)}
    (h : List.Forall₂ (fun row entry => rowCall row = .ok entry) (dictReader file) entries) :
    extractFeaturesFromCsv file = .ok
      (Machine.outputs StreamingFeatureExtractor.extractFeatures
        (StreamingFeatureExtractor.new 50) (entries.map Prod.fst),
        npArray (entries.map Prod.snd), featureColumns) := by
  rw [extractFeaturesFromCsv, foldlM_loadRow h]
  rfl

/-- A call on the payload alone. -/
def ExtractCall.cut (c : ExtractCall R) : ExtractCall R := { c with data := c.payload }

/-- The extractor looks at the payload only. -/
theorem extractFeatures_cut (e : StreamingFeatureExtractor R) {c : ExtractCall R}
    (h : 0 ≤ c.dlc) : e.extractFeatures c.cut = e.extractFeatures c := by
  have hpayload : c.cut.payload = c.payload := pySlice_pySlice c.data h
  have hcut : 0 ≤ c.cut.dlc := h
  have hstats : (FeatureExtractor.calculateByteStats c.cut.data c.cut.dlc : Option R × Option R) =
      FeatureExtractor.calculateByteStats c.data c.dlc := by
    rw [calculateByteStats_eq hcut, calculateByteStats_eq h, hpayload]
  unfold StreamingFeatureExtractor.extractFeatures
  rw [hpayload, hstats]
  rfl

end CanSentinel
