import SubscriptionSaas.Report.Csv

/-!
# Exported tables are read back

A written cell is read back from any state of the reader in which a cell begins, whatever follows it
but a quotation mark. From this a row and a table are read back cell by cell and row by row.
-/

namespace Report

/-! ## One character -/

namespace CsvReader

variable {s : CsvReader} {char : Nat} {input : Text}

/-- One round of the loop. -/
theorem read_cons : read (char :: input) s =
    if s.inQuotes then
      if char = quotationMark then
        match input with
        | [] => { s with inQuotes := false }
        | next :: rest =>
          if next = quotationMark then read rest (s.push quotationMark)
          else read (next :: rest) { s with inQuotes := false }
      else read input (s.push char)
    else if char = quotationMark then read input { s with inQuotes := true }
    else if char = comma then read input s.endCell
    else if char = carriageReturn then
      match input with
      | [] => s.endRow
      | next :: rest => if next = lineFeed then read rest s.endRow else read (next :: rest) s.endRow
    else if char = lineFeed then read input s.endRow
    else read input (s.push char) := by
  rw [read.eq_def]
  rfl

theorem read_quoted (hs : s.inQuotes = true) (hchar : char ≠ quotationMark) :
    read (char :: input) s = read input (s.push char) := by
  rw [read_cons]
  simp [hs, hchar]

theorem read_doubled (hs : s.inQuotes = true) :
    read (quotationMark :: quotationMark :: input) s = read input (s.push quotationMark) := by
  rw [read_cons]
  simp [hs]

theorem read_close (hs : s.inQuotes = true) (hinput : input.head? ≠ some quotationMark) :
    read (quotationMark :: input) s = read input { s with inQuotes := false } := by
  rw [read_cons]
  cases input with
  | nil => simp [hs, read]
  | cons next rest =>
    have hnext : next ≠ quotationMark := fun h => hinput (congrArg some h)
    simp [hs, hnext]

theorem read_open (hs : s.inQuotes = false) :
    read (quotationMark :: input) s = read input { s with inQuotes := true } := by
  rw [read_cons]
  simp [hs]

theorem read_comma (hs : s.inQuotes = false) : read (comma :: input) s = read input s.endCell := by
  rw [read_cons]
  simp [hs, comma, quotationMark]

theorem read_lineBreak (hs : s.inQuotes = false) :
    read (carriageReturn :: lineFeed :: input) s = read input s.endRow := by
  rw [read_cons]
  simp [hs, carriageReturn, lineFeed, comma, quotationMark]

theorem read_plain (hs : s.inQuotes = false) (hquote : char ≠ quotationMark) (hcomma : char ≠ comma)
    (hreturn : char ≠ carriageReturn) (hfeed : char ≠ lineFeed) :
    read (char :: input) s = read input (s.push char) := by
  rw [read_cons]
  simp [hs, hquote, hcomma, hreturn, hfeed]

/-! ## One cell -/

theorem read_doubleQuotes (cell : Text) : ∀ s : CsvReader, s.inQuotes = true →
    read (doubleQuotes cell ++ input) s = read input { s with cell := s.cell ++ cell } := by
  induction cell with
  | nil =>
    intro s _
    simp [doubleQuotes]
  | cons u cell ih =>
    intro s hs
    have htail : read (doubleQuotes cell ++ input) (s.push u) =
        read input { s with cell := s.cell ++ u :: cell } := by
      rw [ih (s.push u) hs]
      simp [push]
    by_cases hu : u = quotationMark
    · subst hu
      rw [← htail]
      exact read_doubled hs
    · rw [← htail]
      have hcons : doubleQuotes (u :: cell) = u :: doubleQuotes cell := by simp [doubleQuotes, hu]
      rw [hcons]
      exact read_quoted hs hu

theorem read_unquoted (cell : Text) : ∀ s : CsvReader, s.inQuotes = false → needsQuotes cell = false →
    read (cell ++ input) s = read input { s with cell := s.cell ++ cell } := by
  induction cell with
  | nil =>
    intro s _ _
    simp
  | cons u cell ih =>
    intro s hs hcell
    simp only [needsQuotes, List.any_cons, Bool.or_eq_false_iff, decide_eq_false_iff_not,
      not_or] at hcell
    obtain ⟨⟨hquote, hcomma, hreturn, hfeed⟩, hrest⟩ := hcell
    rw [List.cons_append, read_plain hs hquote hcomma hreturn hfeed, ih (s.push u) hs hrest]
    simp [push]

theorem read_escapeCsvCell (value : CsvCell) (hs : s.inQuotes = false) (hcell : s.cell = [])
    (hinput : input.head? ≠ some quotationMark) :
    read (escapeCsvCell value ++ input) s = read input { s with cell := safeCell value } := by
  by_cases hquotes : needsQuotes (safeCell value) = true
  · have htext : escapeCsvCell value ++ input =
        quotationMark :: (doubleQuotes (safeCell value) ++ (quotationMark :: input)) := by
      simp [escapeCsvCell, hquotes]
    rw [htext, read_open hs, read_doubleQuotes _ _ rfl, read_close rfl hinput]
    simp [hcell, hs]
  · have htext : escapeCsvCell value = safeCell value := by simp [escapeCsvCell, hquotes]
    rw [htext, read_unquoted _ _ hs (by simpa using hquotes), hcell, List.nil_append]

/-! ## Rows and tables -/

/-- At the end of a row or of the text the row holds the given cells. -/
structure AtRowEnd (s : CsvReader) (rows : List (List Text)) (row : List Text) : Prop where
  inQuotes : s.inQuotes = false
  endRow : s.endRow = { rows := rows ++ [row] }

theorem read_csvRow (input : Text) (row : CsvRow) : ∀ s : CsvReader, row ≠ [] → s.inQuotes = false → s.cell = [] →
    input.head? ≠ some quotationMark →
    ∃ t, read (csvRow row ++ input) s = read input t ∧
      AtRowEnd t s.rows (s.row ++ row.map safeCell) := by
  induction row with
  | nil => exact fun s hne => absurd rfl hne
  | cons value row ih =>
    intro s _ hs hcell hinput
    cases row with
    | nil =>
      have htext : csvRow [value] = escapeCsvCell value := by simp [csvRow]
      refine ⟨{ s with cell := safeCell value }, ?_, hs, ?_⟩
      · rw [htext, read_escapeCsvCell value hs hcell hinput]
      · simp [endRow, hs]
    | cons next row =>
      have htext : csvRow (value :: next :: row) ++ input =
          escapeCsvCell value ++ (comma :: (csvRow (next :: row) ++ input)) := by
        simp [csvRow, List.intercalate]
      have hcomma : (comma :: (csvRow (next :: row) ++ input)).head? ≠ some quotationMark := by
        simp [comma, quotationMark]
      obtain ⟨t, hread, hend⟩ :=
        ih (endCell { s with cell := safeCell value }) (by simp) hs rfl hinput
      refine ⟨t, ?_, hend.inQuotes, ?_⟩
      · rw [htext, read_escapeCsvCell value hs hcell hcomma, ← hread]
        exact read_comma hs
      · simpa [endCell] using hend.endRow

theorem read_toCsv (rows : List CsvRow) : ∀ s : CsvReader, rows ≠ [] → (∀ row ∈ rows, row ≠ []) →
    s.inQuotes = false → s.cell = [] → s.row = [] →
    (read (toCsv rows) s).inQuotes = false ∧
      (read (toCsv rows) s).endRow.rows = s.rows ++ rows.map (List.map safeCell) := by
  induction rows with
  | nil => exact fun s hne => absurd rfl hne
  | cons row rows ih =>
    intro s _ hrows hs hcell hrow
    have hne := hrows row List.mem_cons_self
    cases rows with
    | nil =>
      obtain ⟨t, hread, hend⟩ := read_csvRow [] row s hne hs hcell (by simp)
      have htext : toCsv [row] = csvRow row ++ [] := by simp [toCsv]
      rw [htext, hread, read, hend.endRow]
      exact ⟨hend.inQuotes, by simp [hrow]⟩
    | cons next rows =>
      have htext : toCsv (row :: next :: rows) =
          csvRow row ++ (carriageReturn :: lineFeed :: toCsv (next :: rows)) := by
        simp [toCsv, List.intercalate]
      obtain ⟨t, hread, hend⟩ := read_csvRow
        (carriageReturn :: lineFeed :: toCsv (next :: rows)) row s hne hs hcell
        (by simp [carriageReturn, quotationMark])
      have hnext := ih t.endRow (by simp) (fun r hr => hrows r (List.mem_cons_of_mem _ hr))
        (by rw [hend.endRow]) (by rw [hend.endRow]) (by rw [hend.endRow])
      rw [htext, hread, read_lineBreak hend.inQuotes]
      refine ⟨hnext.1, ?_⟩
      rw [hnext.2, hend.endRow]
      simp [hrow]

end CsvReader

/-! ## Cells -/

theorem numeral_text_ne (x : Numeral) : x.text ≠ [] := by
  by_cases hdigits : x.digits = []
  · simp [Numeral.text, hdigits, Text.ofString]
  · obtain ⟨d, ds, hds⟩ := List.exists_cons_of_ne_nil hdigits
    simp only [Numeral.text, hds, reduceCtorEq, if_false]
    split_ifs <;> simp [Text.ofString]

theorem formatDate_ne (time : Option Int) (accessor : Bool) : formatDate (.date time accessor) ≠ [] := by
  cases time with
  | none => simp [formatDate, Text.ofString]
  | some t => simp [formatDate, Text.ofString]

/-- No cell is empty: where nothing is left of a text there stands a dash. -/
theorem safeCell_ne (value : CsvCell) : safeCell value ≠ [] := by
  have hdash : Text.ofString "-" ≠ [] := by decide
  cases value with
  | number x =>
    cases x with
    | finite x => exact numeral_text_ne x
    | _ => exact hdash
  | bigint n => simp [safeCell, Text.ofInt, Text.ofNat]
  | boolean b => cases b <;> decide
  | date time accessor => exact formatDate_ne time accessor
  | string value =>
    simp only [safeCell]
    split_ifs with h
    · exact h
    · exact hdash
  | _ => exact hdash

theorem escapeCsvCell_ne (value : CsvCell) : escapeCsvCell value ≠ [] := by
  simp only [escapeCsvCell]
  split_ifs
  · simp
  · exact safeCell_ne value

theorem toCsv_ne {rows : List CsvRow} (hne : rows ≠ []) (hrows : ∀ row ∈ rows, row ≠ []) :
    toCsv rows ≠ [] := by
  obtain ⟨row, rows, rfl⟩ := List.exists_cons_of_ne_nil hne
  obtain ⟨value, row, rfl⟩ := List.exists_cons_of_ne_nil (hrows row List.mem_cons_self)
  have hcell := escapeCsvCell_ne value
  have hcsvRow : csvRow (value :: row) ≠ [] := by
    cases row <;> simp [csvRow, List.intercalate, hcell]
  cases rows <;> simp [toCsv, List.intercalate, hcsvRow]

/-! ## The round trip -/

/-- A table read back from its export has in each cell the text that the export has made of it. -/
theorem parseCsv_toCsv {rows : List CsvRow} (hne : rows ≠ []) (hrows : ∀ row ∈ rows, row ≠ []) :
    parseCsv (withUtf8Bom (toCsv rows)) = .ok (rows.map (List.map safeCell)) := by
  obtain ⟨hquotes, hread⟩ := CsvReader.read_toCsv rows {} hne hrows rfl rfl rfl
  simp [parseCsv, withUtf8Bom, toCsv_ne hne hrows, hquotes, hread]

/-- Exported texts are read back without the white space around them, and a dash in place of those that
are blank. -/
theorem parseCsv_export (rows : List (List Text)) (hne : rows ≠ []) (hrows : ∀ row ∈ rows, row ≠ []) :
    parseCsv (withUtf8Bom (toCsv (rows.map (List.map .string)))) =
      .ok (rows.map (List.map fun cell => if cell.trim = [] then Text.ofString "-" else cell.trim)) := by
  have hcell (cell : Text) : safeCell (.string cell) =
      if cell.trim = [] then Text.ofString "-" else cell.trim := by
    by_cases hblank : cell.trim = []
    · simp [safeCell, hblank]
    · simp [safeCell, hblank]
  rw [parseCsv_toCsv (by simpa using hne) (by simpa using hrows)]
  simp [Function.comp_def, hcell]

theorem parseCsv_export_sample :
    parseCsv (withUtf8Bom (toCsv
      [[.string (Text.ofString "a\"b,c\r\n"), .string (Text.ofString " ")], [.string (Text.ofString "=1+1")]])) =
      .ok [[Text.ofString "a\"b,c", Text.ofString "-"], [Text.ofString "=1+1"]] :=
  (parseCsv_export [[Text.ofString "a\"b,c\r\n", Text.ofString " "], [Text.ofString "=1+1"]]
    (by decide) (by decide)).trans (by decide +kernel)

/-- A spreadsheet takes a cell that begins so for a formula. -/
def startsFormula (cell : Text) : Bool :=
  cell.head?.any [61, 43, 45, 64, 9, 13].contains

/-- A leading formula character is exported and read back as it is, not in a form free of formulas. -/
theorem parseCsv_formula :
    ¬∃ safe : Text → Text, (∀ cell, startsFormula (safe cell) = false) ∧
      parseCsv (withUtf8Bom (toCsv [[.string (Text.ofString "=1+1")]])) =
        .ok [[safe (Text.ofString "=1+1")]] := by
  rintro ⟨safe, hsafe, hread⟩
  have hkept : parseCsv (withUtf8Bom (toCsv [[.string (Text.ofString "=1+1")]])) =
      .ok [[Text.ofString "=1+1"]] := by decide +kernel
  rw [hkept] at hread
  have hcell : Text.ofString "=1+1" = safe (Text.ofString "=1+1") := by simpa using hread
  have hstarts := hsafe (Text.ofString "=1+1")
  rw [← hcell] at hstarts
  exact absurd hstarts (by decide)

end Report
