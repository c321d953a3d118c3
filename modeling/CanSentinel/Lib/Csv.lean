import CanSentinel.Lib.Python

/-!
# CSV files by field name

Python's `csv.DictWriter` and `csv.DictReader` on files that are already split
into fields: the escaping of the `csv` module is taken to read back what it wrote.

- `dictRow`: the fields of a dict, one per field name.
- `dictReader`: the rows of a file as dicts keyed by the header.
- `lookup_zip_dictRow`: a field that was written is read back under its name.
-/

namespace CanSentinel

/-- The rows of a file; a missing file has none. -/
abbrev CsvFile := List (List String)

/-- The fields `csv.DictWriter` writes for a dict, a missing key being written as
the empty text. -/
def dictRow {α : Type} (fieldnames : List String) (text : α → String)
    (row : List (String × α)) : List String :=
  fieldnames.map fun key => ((row.lookup key).map text).getD ""

/-- The dicts `csv.DictReader` yields for rows as long as the header; empty rows
are skipped. -/
def dictReader : CsvFile → List (List (String × String))
  | [] => []
  | header :: rows => (rows.filter (· ≠ [])).map header.zip

/-- Reading a written field. -/
theorem lookup_zip_dictRow {α : Type} {fieldnames : List String} (text : α → String)
    (row : List (String × α)) {key : String} (h : key ∈ fieldnames) :
    (fieldnames.zip (dictRow fieldnames text row)).lookup key =
      some (((row.lookup key).map text).getD "") := by
  rw [dictRow]
  induction fieldnames with
  | nil => cases h
  | cons name names ih =>
    rw [List.map_cons, List.zip_cons_cons, List.lookup_cons]
    by_cases hname : key = name
    · subst hname
      rw [beq_self_eq_true]
    · rw [beq_eq_false_iff_ne.mpr hname]
      exact ih ((List.mem_cons.mp h).resolve_left hname)

/-- Reading a file that was written under a header with at least one field. -/
theorem dictReader_cons {α : Type} {fieldnames : List String} (h : fieldnames ≠ [])
    (text : α → String) (rows : List (List (String × α))) :
    dictReader (fieldnames :: rows.map (dictRow fieldnames text)) =
      rows.map fun row => fieldnames.zip (dictRow fieldnames text row) := by
  have hne : ∀ fields ∈ rows.map (dictRow fieldnames text), decide (fields ≠ []) = true := by
    intro fields hfields
    obtain ⟨row, _, rfl⟩ := List.mem_map.mp hfields
    simpa [dictRow] using h
  rw [dictReader, List.filter_eq_self.mpr hne, List.map_map]
  rfl

end CanSentinel
