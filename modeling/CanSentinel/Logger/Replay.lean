import CanSentinel.Logger.CsvLogger
import CanSentinel.Ml.Dataset

/-!
# Training on what was logged

The live path extracts features from frame objects, the training path from the
text columns of the CSV log. Between them lie the cut to the DLC, the decimal and
hexadecimal texts, the buffer and the file.

- `rowCall_csvRow`: a logged row is read back as the call the live path makes,
  with the data cut to the payload.
- `extractFeaturesFromCsv_rows`: the data set of logged rows.
- `no_train_serve_skew`: over every log session the training matrix is the run of
  the live extractor. The labels come back but for the NULs at their ends.
-/

namespace CanSentinel

variable {R : Type} [PyFloat R]

open CSVTelemetryLogger

theorem getItem_csvRow {row : Row} {key : String} {cell : Cell} (hkey : key ∈ csvFieldnames)
    (hcell : row.lookup key = some cell) :
    getItem (csvFieldnames.zip (csvRow row)) key = .ok cell.text := by
  rw [getItem, lookup_csvRow hkey hcell]

/-- **Reading a logged row.** Its timestamp has at most six decimals, so the text
column keeps it exactly. -/
theorem rowCall_csvRow {frame : CANFrame R} {label : String} {row : Row}
    (hrow : IsRowOf frame label row) (hts : ∃ k : ℤ, frame.timestamp = (k : R) / 10 ^ 6) :
    rowCall (csvFieldnames.zip (csvRow row)) = .ok ((ExtractCall.ofFrame frame).cut, label) := by
  obtain ⟨deltaT, globalDeltaT, signals, rfl⟩ := hrow
  obtain ⟨k, hk⟩ := hts
  set parsed := CANTelemetryParser.telemetryOf frame deltaT globalDeltaT signals with hparsed
  have hid : (labelledRow parsed label).lookup "can_id" = some (.int frame.canId) := rfl
  have hdlc : (labelledRow parsed label).lookup "dlc" = some (.int frame.dlc) := rfl
  have htime : (labelledRow parsed label).lookup "timestamp" =
      some (.str (fmtFixed frame.timestamp 6)) := rfl
  have hlabel : (labelledRow parsed label).lookup "label" = some (.str label) := rfl
  have hhex : (labelledRow parsed label).lookup "payload_hex" =
      some (.str (hexOfBytes frame.payload)) := rfl
  have hread : (floatOfString (fmtFixed frame.timestamp 6) : Except PyError R) =
      .ok frame.timestamp := by
    rw [hk]
    exact floatOfString_fmtFixed k (by decide)
  rw [rowCall, getItem_csvRow (by decide) hid, getItem_csvRow (by decide) hdlc,
    getItem_csvRow (by decide) htime, lookup_csvRow (by decide) hlabel,
    lookup_csvRow (by decide) hhex]
  show (do
    let canId ← intOfString (toString frame.canId)
    let dlc ← intOfString (toString frame.dlc)
    let ts ← floatOfString (fmtFixed frame.timestamp 6)
    let rawBytes ← rawBytesOf (hexOfBytes frame.payload)
    return ((⟨canId, dlc, rawBytes, ts⟩ : ExtractCall R), label)) = _
  rw [intOfString_toString, intOfString_toString, hread, rawBytesOf_hexOfBytes]
  rfl

/-- **Training on rows.** -/
theorem extractFeaturesFromCsv_rows {calls : List (LogCall R)} {rows : List Row}
    (hrows : List.Forall₂ (fun call row => IsRowOf call.frame call.label row) calls rows)
    (hdlc : ∀ call ∈ calls, 0 ≤ call.frame.dlc)
    (hts : ∀ call ∈ calls, ∃ k : ℤ, call.frame.timestamp = (k : R) / 10 ^ 6) :
    extractFeaturesFromCsv (csvFieldnames :: rows.map csvRow) = .ok
      (Machine.outputs StreamingFeatureExtractor.extractFeatures (StreamingFeatureExtractor.new 50)
        (calls.map fun call => ExtractCall.ofFrame call.frame),
      npArray (calls.map LogCall.label), featureColumns) := by
  have hread : List.Forall₂ (fun row entry => rowCall row = .ok entry)
      (dictReader (csvFieldnames :: rows.map csvRow))
      (calls.map fun call => ((ExtractCall.ofFrame call.frame).cut, call.label)) := by
    have hdict : dictReader (csvFieldnames :: rows.map csvRow) =
        rows.map fun row => csvFieldnames.zip (csvRow row) :=
      dictReader_cons (by decide) Cell.text rows
    rw [hdict, List.forall₂_map_left_iff, List.forall₂_map_right_iff]
    refine List.Forall₂.imp ?_ (((List.forall₂_and_left _ _).mpr ⟨hts, hrows⟩).flip)
    rintro row call ⟨hcall, hrow⟩
    exact rowCall_csvRow hrow hcall
  have hcut : ∀ (e : StreamingFeatureExtractor R),
      ∀ call ∈ calls.map fun call => ExtractCall.ofFrame call.frame,
        e.extractFeatures call.cut = e.extractFeatures call := by
    intro e call hcall
    obtain ⟨c, hc, rfl⟩ := List.mem_map.mp hcall
    exact extractFeatures_cut e (hdlc c hc)
  have hlive := Machine.outputs_map_congr hcut (StreamingFeatureExtractor.new 50)
  rw [List.map_map] at hlive
  rw [extractFeaturesFromCsv_of_rows hread, List.map_map, List.map_map, ← hlive]
  rfl

/-- The file of a log session on a fresh path. -/
theorem extractFeaturesFromCsv_session {bufferSize : ℤ} {calls : List (LogCall R)}
    {io : WriteOutcome} (hdlc : ∀ call ∈ calls, 0 ≤ call.frame.dlc)
    (hts : ∀ call ∈ calls, ∃ k : ℤ, call.frame.timestamp = (k : R) / 10 ^ 6)
    (hok : ∀ r ∈ Machine.outputs logCall (new bufferSize []) calls, r.isOk)
    (hclose : (close io (Machine.final logCall (new bufferSize []) calls)).1.isOk) :
    extractFeaturesFromCsv (close io (Machine.final logCall (new bufferSize []) calls)).2.2 =
      .ok
        (Machine.outputs StreamingFeatureExtractor.extractFeatures
          (StreamingFeatureExtractor.new 50) (calls.map fun call => ExtractCall.ofFrame call.frame),
        npArray (calls.map LogCall.label), featureColumns) := by
  obtain ⟨rows, hrows, hfile⟩ := close_file hok hclose
  rw [hfile]
  exact extractFeaturesFromCsv_rows hrows hdlc hts

/-- **No train/serve skew.** For every log session on a fresh file in which every
`log_frame` call and `close` return, with frames of non-negative DLC and timestamps
in whole microseconds: loading the file gives, row by row, the vectors that a fresh
extractor produces live, and as many labels, namely the given ones without the NULs at
their ends. So they are the given labels if and only if none of these ends in a NUL. -/
theorem no_train_serve_skew (bufferSize : ℤ) (calls : List (LogCall R)) (io : WriteOutcome)
    (hdlc : ∀ call ∈ calls, 0 ≤ call.frame.dlc)
    (hts : ∀ call ∈ calls, ∃ k : ℤ, call.frame.timestamp = (k : R) / 10 ^ 6)
    (hok : ∀ r ∈ Machine.outputs logCall (new bufferSize []) calls, r.isOk)
    (hclose : (close io (Machine.final logCall (new bufferSize []) calls)).1.isOk) :
    extractFeaturesFromCsv (close io (Machine.final logCall (new bufferSize []) calls)).2.2 =
      .ok
        (Machine.outputs StreamingFeatureExtractor.extractFeatures
          (StreamingFeatureExtractor.new 50) (calls.map fun call => ExtractCall.ofFrame call.frame),
        npArray (calls.map LogCall.label), featureColumns) ∧
      (npArray (calls.map LogCall.label)).length = calls.length ∧
      (npArray (calls.map LogCall.label) = calls.map LogCall.label ↔
        ∀ call ∈ calls, ¬ EndsInNul call.label) := by
  refine ⟨extractFeaturesFromCsv_session hdlc hts hok hclose, ?_, ?_⟩
  · rw [length_npArray, List.length_map]
  · rw [npArray_eq_self_iff]
    exact List.forall_mem_map

/-- A door frame with a byte beyond its DLC, and an empty frame stamped earlier. -/
def doorSession : List (LogCall ℚ) :=
  [⟨CANFrame.new 0 canIdBodyDoors [255, 0, 1, 7] (some 3) false false false (some (3 / 10 ^ 6)),
      "NORMAL", .success⟩,
    ⟨CANFrame.new 0 canIdBodyDoors [] none false false false (some (2 / 10 ^ 6)), "SPOOF",
      .success⟩]

theorem no_train_serve_skew_doors :
    extractFeaturesFromCsv
        (close .success (Machine.final logCall (new 100 []) doorSession)).2.2 =
      .ok
        (Machine.outputs StreamingFeatureExtractor.extractFeatures
          (StreamingFeatureExtractor.new 50)
          (doorSession.map fun call => ExtractCall.ofFrame call.frame),
        npArray (doorSession.map LogCall.label), featureColumns) :=
  (no_train_serve_skew 100 doorSession .success (by decide)
    (by
      intro call hcall
      rcases List.mem_cons.mp hcall with rfl | hcall
      · exact ⟨3, rfl⟩
      · obtain rfl := List.mem_singleton.mp hcall
        exact ⟨2, rfl⟩)
    (by decide +kernel) (by decide +kernel)).1

/-- An empty frame whose label ends in a NUL. -/
def nulSession : List (LogCall ℚ) :=
  [⟨CANFrame.new 0 canIdBodyDoors [] none false false false (some (2 / 10 ^ 6)),
    String.ofList ['S', 'P', 'O', 'O', 'F', Char.ofNat 0], .success⟩]

/-- All calls return, and the label that is loaded is not the one that was given. -/
theorem nul_label_lost :
    (∀ call ∈ nulSession, 0 ≤ call.frame.dlc ∧ ∃ k : ℤ, call.frame.timestamp = (k : ℚ) / 10 ^ 6) ∧
      (∀ r ∈ Machine.outputs logCall (new 100 []) nulSession, r.isOk) ∧
      (close .success (Machine.final logCall (new 100 []) nulSession)).1.isOk ∧
      ∃ X : List (FeatureVector ℚ), extractFeaturesFromCsv
          (close .success (Machine.final logCall (new 100 []) nulSession)).2.2 =
        .ok (X, ["SPOOF"], featureColumns) ∧ nulSession.map LogCall.label ≠ ["SPOOF"] := by
  have hframes : ∀ call ∈ nulSession, 0 ≤ call.frame.dlc ∧
      ∃ k : ℤ, call.frame.timestamp = (k : ℚ) / 10 ^ 6 := by
    intro call hcall
    obtain rfl := List.mem_singleton.mp hcall
    exact ⟨by decide, 2, rfl⟩
  have hok : ∀ r ∈ Machine.outputs logCall (new 100 []) nulSession, r.isOk := by decide +kernel
  have hclose : (close .success (Machine.final logCall (new 100 []) nulSession)).1.isOk := by
    decide +kernel
  have hload := extractFeaturesFromCsv_session (fun call hcall => (hframes call hcall).1)
    (fun call hcall => (hframes call hcall).2) hok hclose
  have hlabels : npArray (nulSession.map LogCall.label) = ["SPOOF"] := by decide +kernel
  rw [hlabels] at hload
  exact ⟨hframes, hok, hclose, _, hload, by decide +kernel⟩

end CanSentinel
