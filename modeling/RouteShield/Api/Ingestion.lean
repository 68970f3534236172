import RouteShield.Api.Access

/-!
Imports from outside: CSV text, read as the excel dialect, and signed booking webhooks.
-/

namespace RouteShield

/-! ### CSV -/

inductive CsvMode where
  | startRecord | startField | inField | inQuotedField | quoteInQuotedField | eatCrnl
  deriving DecidableEq

/-- The reader between two characters: the field and the fields of the record so far. -/
structure CsvReader where
  mode : CsvMode := .startRecord
  field : List Char := []
  fields : List String := []
  records : List (List String) := []

namespace CsvReader

def fieldSizeLimit : ℕ := 131072

def addChar (r : CsvReader) (c : Char) (mode : CsvMode) : Except Fault CsvReader :=
  if r.field.length = fieldSizeLimit then .error (.csv "field larger than field limit (131072)")
  else .ok { r with field := r.field ++ [c], mode }

def saveField (r : CsvReader) (mode : CsvMode) : CsvReader :=
  { r with fields := r.fields ++ [String.ofList r.field], field := [], mode }

/-- The record is complete at the end of a line. -/
def endRecord (r : CsvReader) : CsvReader :=
  { r with mode := .startRecord, fields := [], records := r.records ++ [r.fields] }

/-- One character, or the end of a line of the input. -/
def step (r : CsvReader) : Option Char → Except Fault CsvReader
  | none => match r.mode with
    | .inQuotedField => .ok r
    | .startRecord | .eatCrnl => .ok r.endRecord
    | .startField | .inField | .quoteInQuotedField => .ok (r.saveField .startRecord).endRecord
  | some c =>
    let newline := c = '\n' ∨ c = '\r'
    match r.mode with
    | .startRecord | .startField =>
      if newline then
        if r.mode = .startRecord then .ok { r with mode := .eatCrnl } else .ok (r.saveField .eatCrnl)
      else if c = '"' then .ok { r with mode := .inQuotedField }
      else if c = ',' then .ok (r.saveField .startField)
      else r.addChar c .inField
    | .inField =>
      if newline then .ok (r.saveField .eatCrnl)
      else if c = ',' then .ok (r.saveField .startField)
      else r.addChar c .inField
    | .inQuotedField =>
      if c = '"' then .ok { r with mode := .quoteInQuotedField } else r.addChar c .inQuotedField
    | .quoteInQuotedField =>
      if c = '"' then r.addChar c .inQuotedField
      else if c = ',' then .ok (r.saveField .startField)
      else if newline then .ok (r.saveField .eatCrnl)
      else r.addChar c .inField
    | .eatCrnl =>
      if newline then .ok r else .error (.csv "new-line character seen in unquoted field")

end CsvReader

/-- The characters of a text with the ends of its lines, the last one included if it has any. -/
def csvInput : List Char → List (Option Char)
  | [] => []
  | ['\n'] => [some '\n', none]
  | [c] => [some c, none]
  | '\n' :: cs => some '\n' :: none :: csvInput cs
  | c :: cs => some c :: csvInput cs

/-- The records of a text; an open quote at its end closes the last one. -/
def csvRecords (content : String) : Except Fault (List (List String)) := do
  let r ← (csvInput content.toList).foldlM CsvReader.step {}
  if r.mode = .inQuotedField then return (r.saveField .startRecord).endRecord.records
  else return r.records

/-- A value of a `DictReader` row: a text, nothing where the row is short, and the rest of a
long row under no name. -/
inductive CsvValue where
  | text (value : String)
  | missing
  | rest (values : List String)
  deriving DecidableEq

abbrev CsvRow := List (Option String × CsvValue)

def CsvRow.set (row : CsvRow) (key : Option String) (value : CsvValue) : CsvRow :=
  if row.any (fun item => item.1 = key) then
    row.map (fun item => if item.1 = key then (key, value) else item)
  else row ++ [(key, value)]

def csvRow (fieldnames values : List String) : CsvRow :=
  let paired := (fieldnames.zip values).foldl
    (fun row item => CsvRow.set row (some item.1) (.text item.2)) []
  if fieldnames.length < values.length then
    CsvRow.set paired none (.rest (values.drop fieldnames.length))
  else
    (fieldnames.drop values.length).foldl (fun row name => CsvRow.set row (some name) .missing) paired

/-- `list(csv.DictReader(...))`: blank records after the header are skipped. -/
def dictRows (content : String) : Except Fault (List CsvRow) := do
  match ← csvRecords content with
  | [] => return []
  | fieldnames :: records => return (records.filter (fun r => r ≠ [])).map (csvRow fieldnames)

def requiredCsvColumns : List String :=
  ["tenant_id", "traveler_id", "segment_id", "carrier_code", "flight_number"]

/-- `value.startswith(("=", "+", "-", "@"))` on a true value; a list has no such method. -/
def formulaLike : CsvValue → Except Fault Bool
  | .missing => .ok false
  | .text value => .ok (value.toList.head?.any (fun c => c ∈ ['=', '+', '-', '@']))
  | .rest values =>
    if values = [] then .ok false
    else .error (.attribute "'list' object has no attribute 'startswith'")

/-- `any` over the values in order: it stops at the first one that holds. -/
def anyFormula : List CsvValue → Except Fault Bool
  | [] => .ok false
  | value :: values => do
    if ← formulaLike value then return true else anyFormula values

def parseCsvRows (content : String) : Except Fault (List CsvRow) := do
  let rows ← dictRows content
  match rows with
  | [] => .error (.value "CSV is missing required itinerary columns")
  | first :: _ =>
    if ¬∀ name ∈ requiredCsvColumns, ∃ item ∈ first, item.1 = some name then
      .error (.value "CSV is missing required itinerary columns")
    else if 1000 < rows.length then .error (.value "CSV exceeds row limit")
    else if ← anyFormula (rows.flatMap (fun row => row.map Prod.snd)) then
      .error (.value "CSV formula-like values are not accepted")
    else return rows

namespace Api

variable (svc : Service)

/-- The row belongs to the tenant by its `tenant_id` column. -/
def ofTenant (tenantId : String) (row : CsvRow) : Bool :=
  (some "tenant_id", CsvValue.text tenantId) ∈ row

def validateTripCsv (caller : Caller) (content : String) : Api (ℕ × Uuid) := do
  requireRole caller.actorRole [.travelManager, .tenantAdmin]
  let tenantId ← requireTenant caller.tenantId
  mutation svc tenantId caller.idempotencyKey "POST:/v1/trips/import/csv"
    (.contentSha256 (svc.sha256 content)) 200 Response.ofCsvImport do
      let uploadId ← uuid4
      let (objectKey, storedSha256) ← match ← .attempt (.putUpload tenantId uploadId content) with
        | .ok stored => pure stored
        | .error _ => http 503 "original upload storage is unavailable"
      let createdAt ← now
      validate "OriginalUploadRecord" (named tenantId && lengthWithin objectKey 1 512 &&
        IsSha256 storedSha256 && 1 ≤ content.utf8ByteSize && content.utf8ByteSize ≤ 10000000)
      let upload : OriginalUploadRecord :=
        { originalUploadId := uploadId
          tenantId
          source := "csv"
          objectKey
          contentSha256 := storedSha256
          contentSizeBytes := content.utf8ByteSize
          contentType := "text/csv"
          createdAt }
      repo (.saveOriginalUpload upload)
      match parseCsvRows content with
      | .error (.value message) => do
        repo (.saveOriginalUpload
          { upload with status := .rejected, validationErrors := [message] })
        http 422 message
      | .error fault => .throw fault
      | .ok rows =>
        if ∃ row ∈ rows, ¬ofTenant tenantId row then do
          repo (.saveOriginalUpload
            { upload with status := .rejected, validationErrors := ["tenant mismatch"] })
          http 403 "tenant mismatch"
        else do
          let validatedAt ← now
          repo (.saveOriginalUpload
            { upload with status := .validated, validatedAt := some validatedAt })
          return (rows.length, uploadId)

end Api

end RouteShield
