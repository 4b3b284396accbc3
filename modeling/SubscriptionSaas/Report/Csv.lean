import SubscriptionSaas.Lib.JsValue

/-!
# Exported and imported tables

The CSV that reports write (`report-csv.ts`) and the reader of imported tables (`csv-parser.ts`).
-/

namespace Report

/-! ## Writing -/

abbrev CsvCell := Leaf

abbrev CsvRow := List CsvCell

/-- A date by its UTC fields, or a text that already is one. -/
def formatDate : Leaf → Text
  | .string text =>
    match text with
    | [a, b, c, d, 45, e, f, 45, g, h] =>
      if [a, b, c, d, e, f, g, h].all fun u => 48 ≤ u ∧ u ≤ 57 then text else Text.ofString "-"
    | _ => Text.ofString "-"
  | .date (some time) _ =>
    let day := Calendar.dayOf time
    Text.ofInt (Calendar.getUTCFullYear day) ++ Text.ofString "-" ++
      padStart 2 (Text.ofInt (Calendar.getUTCMonth day + 1)) ++ Text.ofString "-" ++
      padStart 2 (Text.ofInt (Calendar.getUTCDate day))
  | _ => Text.ofString "-"

def safeCell : CsvCell → Text
  | .undefined | .null => Text.ofString "-"
  | .number (.finite x) => x.text
  | .number _ => Text.ofString "-"
  | .bigint n => Text.ofInt n
  | .boolean b => Text.ofString (toString b)
  | .date time accessor => formatDate (.date time accessor)
  | .string value =>
    let text := value.trim
    if text ≠ [] then text else Text.ofString "-"
  | .other => Text.ofString "-"

def quotationMark : Nat := 34
def comma : Nat := 44
def carriageReturn : Nat := 13
def lineFeed : Nat := 10

/-- `cell.replace(/"/g, '""')`. -/
def doubleQuotes (cell : Text) : Text :=
  cell.flatMap fun u => if u = quotationMark then [quotationMark, quotationMark] else [u]

def needsQuotes (cell : Text) : Bool :=
  cell.any fun u => u = quotationMark ∨ u = comma ∨ u = carriageReturn ∨ u = lineFeed

def escapeCsvCell (value : CsvCell) : Text :=
  let cell := safeCell value
  if needsQuotes cell then [quotationMark] ++ doubleQuotes cell ++ [quotationMark] else cell

def csvRow (row : CsvRow) : Text := List.intercalate [comma] (row.map escapeCsvCell)

def toCsv (rows : List CsvRow) : Text :=
  List.intercalate [carriageReturn, lineFeed] (rows.map csvRow)

def utf8Bom : Nat := 0xFEFF

def withUtf8Bom (csv : Text) : Text := utf8Bom :: csv

/-! ## Reading -/

/-- The variables of the loop over the characters. -/
structure CsvReader where
  rows : List (List Text) := []
  row : List Text := []
  cell : Text := []
  inQuotes : Bool := false
deriving DecidableEq

namespace CsvReader

/-- `row.push(cell); cell = ""`. -/
def endCell (s : CsvReader) : CsvReader := { s with row := s.row ++ [s.cell], cell := [] }

/-- `row.push(cell); rows.push(row); row = []; cell = ""`. -/
def endRow (s : CsvReader) : CsvReader :=
  { s with rows := s.rows ++ [s.row ++ [s.cell]], row := [], cell := [] }

def push (s : CsvReader) (char : Nat) : CsvReader := { s with cell := s.cell ++ [char] }

/-- The loop over the characters, with `input[index + 1]` as the head of what follows. -/
def read : Text → CsvReader → CsvReader
  | [], s => s
  | char :: input, s =>
    if s.inQuotes then
      if char = quotationMark then
        match input with
        | [] => { s with inQuotes := false }
        | next :: rest =>
          if next = quotationMark then read rest (s.push quotationMark)
          else read (next :: rest) { s with inQuotes := false }
      else read input (s.push char)
    else if char = quotationMark then read input { s with inQuotes := true }
    else if char = comma then read input s.endCell
    else if char = carriageReturn then
      match input with
      | [] => s.endRow
      | next :: rest => if next = lineFeed then read rest s.endRow else read (next :: rest) s.endRow
    else if char = lineFeed then read input s.endRow
    else read input (s.push char)
termination_by structural input => input

end CsvReader

def parseCsv (text : Text) : Except String (List (List Text)) :=
  let input := if text.head? = some utf8Bom then text.tail else text
  if input = [] then .ok []
  else
    let s := CsvReader.read input {}
    if s.inQuotes then .error "CSV contains an unclosed quoted field."
    else .ok s.endRow.rows

end Report
