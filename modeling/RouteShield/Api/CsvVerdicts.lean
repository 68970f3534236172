import RouteShield.Api.HandlerFootprints
import RouteShield.Api.Claims

/-!
Which CSV imports reach a verdict. The scan for formula-like values takes each value of a row for
a text, and the fields that a row has beyond the header are one list: the scan raises there,
unless a formula-like text comes first. Such an import, and one that the reader itself gives up,
leaves its upload in quarantine.
-/

namespace RouteShield

/-! ### The rows of the reader -/

namespace CsvRow

/-- Every value of the row stands under a name of the header. -/
def Named (row : CsvRow) : Prop :=
  ∀ item ∈ row, item.1 ≠ none ∧ ∀ values, item.2 ≠ .rest values

def keys (row : CsvRow) : List (Option String) := row.map Prod.fst

/-- A value of the row is a text that begins like a formula. -/
def HasFormula (row : CsvRow) : Prop := ∃ item ∈ row, formulaLike item.2 = .ok true

variable {row : CsvRow}

theorem Named.set (h : row.Named) (name : String) {value : CsvValue}
    (hvalue : ∀ values, value ≠ .rest values) : (row.set (some name) value).Named := by
  have hnew : ((some name : Option String), value).1 ≠ none ∧ ∀ values, value ≠ .rest values :=
    ⟨Option.some_ne_none name, hvalue⟩
  intro item hitem
  unfold CsvRow.set at hitem
  split_ifs at hitem
  · obtain ⟨old, hold, rfl⟩ := List.mem_map.mp hitem
    split_ifs
    · exact hnew
    · exact h old hold
  · rcases List.mem_append.mp hitem with hold | hlast
    · exact h item hold
    · rw [List.mem_singleton.mp hlast]
      exact hnew

theorem mem_keys_set (key k : Option String) (value : CsvValue) :
    k ∈ (row.set key value).keys ↔ k ∈ row.keys ∨ k = key := by
  unfold CsvRow.set keys
  split_ifs with hany
  · obtain ⟨item, hitem, hkey⟩ := List.any_eq_true.mp hany
    have hmem : key ∈ row.map Prod.fst := by
      rw [← of_decide_eq_true hkey]
      exact List.mem_map_of_mem hitem
    have hsame : (row.map fun item => if item.1 = key then (key, value) else item).map Prod.fst =
        row.map Prod.fst := by
      rw [List.map_map]
      refine List.map_congr_left fun item _ => ?_
      by_cases h : item.1 = key <;> simp [h]
    rw [hsame]
    constructor
    · exact .inl
    · rintro (h | rfl)
      · exact h
      · exact hmem
  · simp

/-- Values stored one by one under names. -/
theorem foldl_set {β : Type} (name : β → String) (value : β → CsvValue)
    (hvalue : ∀ x values, value x ≠ .rest values) (items : List β) (h : row.Named) :
    (items.foldl (fun row x => row.set (some (name x)) (value x)) row).Named ∧
      ∀ k, k ∈ (items.foldl (fun row x => row.set (some (name x)) (value x)) row).keys ↔
        k ∈ row.keys ∨ ∃ x ∈ items, k = some (name x) := by
  induction items generalizing row with
  | nil => exact ⟨h, fun k => by simp⟩
  | cons x items ih =>
    obtain ⟨hnamed, hkeys⟩ := ih (h.set (name x) (hvalue x))
    refine ⟨hnamed, fun k => ?_⟩
    rw [List.foldl_cons, hkeys, mem_keys_set, or_assoc]
    simp

end CsvRow

open CsvRow

variable {header values : List String} {rows : List (List String)}

theorem csvRow_paired (header values : List String) :
    let paired : CsvRow := (header.zip values).foldl
      (fun row item => CsvRow.set row (some item.1) (.text item.2)) []
    paired.Named ∧ ∀ k, k ∈ paired.keys ↔ ∃ item ∈ header.zip values, k = some item.1 := by
  have hnil : CsvRow.Named [] := fun _ h => absurd h List.not_mem_nil
  obtain ⟨hnamed, hkeys⟩ := foldl_set (fun item : String × String => item.1)
    (fun item => .text item.2) (fun _ _ h => CsvValue.noConfusion h) (header.zip values) hnil
  exact ⟨hnamed, fun k => (hkeys k).trans (or_iff_right List.not_mem_nil)⟩

/-- A row within the header has a value for each name and nothing else. -/
theorem csvRow_within (h : ¬header.length < values.length) :
    (csvRow header values).Named ∧
      ∀ name, some name ∈ (csvRow header values).keys ↔ name ∈ header := by
  obtain ⟨hnamed, hkeys⟩ := csvRow_paired header values
  obtain ⟨hnamed', hkeys'⟩ := foldl_set (fun name : String => name) (fun _ => .missing)
    (fun _ _ h => CsvValue.noConfusion h) (header.drop values.length) hnamed
  unfold csvRow
  rw [if_neg h]
  refine ⟨hnamed', fun name => (hkeys' _).trans ?_⟩
  have hsplit : name ∈ header ↔
      name ∈ header.take values.length ∨ name ∈ header.drop values.length := by
    rw [← List.mem_append, List.take_append_drop]
  have hfirst : (header.zip values).map Prod.fst = header.take values.length := by
    rw [List.zip_eq_zip_take_min, min_eq_right (not_lt.mp h), List.take_length]
    exact List.map_fst_zip (by rw [List.length_take]; exact min_le_left _ _)
  rw [hkeys, hsplit, ← hfirst]
  simp [eq_comm]

/-- A row beyond the header ends in the list of its surplus fields. -/
theorem csvRow_beyond (h : header.length < values.length) :
    (∀ name, some name ∈ (csvRow header values).keys ↔ name ∈ header) ∧
      ∃ row : CsvRow, row.Named ∧
        csvRow header values = row ++ [(none, .rest (values.drop header.length))] := by
  obtain ⟨hnamed, hkeys⟩ := csvRow_paired header values
  unfold csvRow
  rw [if_pos h]
  constructor
  · intro name
    rw [mem_keys_set, hkeys]
    have hfirst : (header.zip values).map Prod.fst = header := List.map_fst_zip h.le
    conv_rhs => rw [← hfirst]
    simp [eq_comm]
  · refine ⟨_, hnamed, ?_⟩
    have hnone : List.any ((header.zip values).foldl
        (fun row item => CsvRow.set row (some item.1) (.text item.2)) [])
        (fun item => decide (item.1 = none)) = false := by
      rw [List.any_eq_false]
      intro item hitem
      simpa using (hnamed item hitem).1
    rw [CsvRow.set, if_neg (by rw [hnone]; exact Bool.false_ne_true)]

theorem mem_keys_csvRow (header values : List String) (name : String) :
    some name ∈ (csvRow header values).keys ↔ name ∈ header := by
  by_cases h : header.length < values.length
  · exact (csvRow_beyond h).1 name
  · exact (csvRow_within h).2 name

/-! ### The scan for formulas -/

theorem anyFormula_append (vs ws : List CsvValue) :
    anyFormula (vs ++ ws) =
      (anyFormula vs >>= fun found => if found then pure true else anyFormula ws) := by
  induction vs with
  | nil => rfl
  | cons v vs ih =>
    rw [List.cons_append, anyFormula, anyFormula, ih]
    cases formulaLike v with
    | error fault => rfl
    | ok found => cases found <;> rfl

theorem anyFormula_eq_false {vs : List CsvValue} (h : anyFormula vs = .ok false) :
    ∀ v ∈ vs, formulaLike v = .ok false := by
  induction vs with
  | nil => exact fun v hv => absurd hv List.not_mem_nil
  | cons v vs ih =>
    rw [anyFormula] at h
    obtain ⟨found, hfound, hrest⟩ := except_bind_eq_ok.mp h
    cases found with
    | true => cases hrest
    | false =>
      intro u hu
      rcases List.mem_cons.mp hu with rfl | hu
      · exact hfound
      · exact ih hrest u hu

/-- The scan of a row without a list tells whether a formula is in it. -/
theorem anyFormula_named {row : CsvRow} (h : row.Named) :
    (HasFormula row → anyFormula (row.map Prod.snd) = .ok true) ∧
      (¬HasFormula row → anyFormula (row.map Prod.snd) = .ok false) := by
  induction row with
  | nil =>
    refine ⟨fun h => ?_, fun _ => rfl⟩
    obtain ⟨_, hitem, -⟩ := h
    exact absurd hitem List.not_mem_nil
  | cons item row ih =>
    obtain ⟨hformula, hplain⟩ := ih fun other hother => h other (List.mem_cons_of_mem _ hother)
    have hsome : ∃ found, formulaLike item.2 = .ok found := by
      cases hvalue : item.2 with
      | text value => exact ⟨_, rfl⟩
      | missing => exact ⟨false, rfl⟩
      | rest values => exact absurd hvalue ((h item List.mem_cons_self).2 values)
    obtain ⟨found, hfound⟩ := hsome
    have hcons : HasFormula (item :: row) ↔ found = true ∨ HasFormula row := by
      unfold HasFormula
      rw [List.exists_mem_cons_iff, hfound, Except.ok.injEq]
    rw [hcons, List.map_cons, anyFormula, hfound]
    cases found with
    | true => exact ⟨fun _ => rfl, fun hnot => absurd (.inl rfl) hnot⟩
    | false =>
      exact ⟨fun hrow => hformula (hrow.resolve_left Bool.false_ne_true),
        fun hnot => hplain fun hrow => hnot (.inr hrow)⟩

/-- A row is scanned up to a formula in it, or to its surplus fields. -/
theorem anyFormula_csvRow (header values : List String) :
    ((csvRow header values).HasFormula →
      anyFormula ((csvRow header values).map Prod.snd) = .ok true) ∧
    (¬(csvRow header values).HasFormula → header.length < values.length →
      ∃ message, anyFormula ((csvRow header values).map Prod.snd) = .error (.attribute message)) ∧
    (¬(csvRow header values).HasFormula → ¬header.length < values.length →
      anyFormula ((csvRow header values).map Prod.snd) = .ok false) := by
  by_cases hlen : header.length < values.length
  · obtain ⟨-, row, hnamed, hrow⟩ := csvRow_beyond hlen
    obtain ⟨hformula, hplain⟩ := anyFormula_named hnamed
    have hrest : formulaLike (.rest (values.drop header.length)) =
        .error (.attribute "'list' object has no attribute 'startswith'") := by
      have hne : values.drop header.length ≠ [] := fun h => by
        have hle := List.drop_eq_nil_iff.mp h
        omega
      rw [formulaLike, if_neg hne]
    have hiff : (csvRow header values).HasFormula ↔ row.HasFormula := by
      rw [hrow]
      constructor
      · rintro ⟨item, hitem, h⟩
        rcases List.mem_append.mp hitem with hitem | hitem
        · exact ⟨item, hitem, h⟩
        · rw [List.mem_singleton.mp hitem, hrest] at h
          cases h
      · rintro ⟨item, hitem, h⟩
        exact ⟨item, List.mem_append_left _ hitem, h⟩
    have hscan : anyFormula ((csvRow header values).map Prod.snd) =
        (anyFormula (row.map Prod.snd) >>= fun found => if found then pure true else
          .error (.attribute "'list' object has no attribute 'startswith'")) := by
      rw [hrow, List.map_append, anyFormula_append]
      have hlast : anyFormula [.rest (values.drop header.length)] =
          .error (.attribute "'list' object has no attribute 'startswith'") := by
        rw [anyFormula, hrest]
        rfl
      rw [← hlast]
      rfl
    rw [hiff, hscan]
    refine ⟨fun h => ?_, fun h _ => ?_, fun _ hnot => absurd hlen hnot⟩
    · rw [hformula h]
      rfl
    · rw [hplain h]
      exact ⟨_, rfl⟩
  · obtain ⟨hformula, hplain⟩ := anyFormula_named (csvRow_within hlen).1
    exact ⟨hformula, fun _ h => absurd h hlen, fun h _ => hplain h⟩

/-- Some row has surplus fields, and no formula-like text comes before them. -/
def SurplusFirst (header : List String) (rows : List (List String)) : Prop :=
  ∃ earlier row later, rows = earlier ++ row :: later ∧ header.length < row.length ∧
    ∀ r ∈ earlier ++ [row], ¬(csvRow header r).HasFormula

theorem surplusFirst_cons (row : List String) :
    SurplusFirst header (row :: rows) ↔
      ¬(csvRow header row).HasFormula ∧ (header.length < row.length ∨ SurplusFirst header rows) := by
  constructor
  · rintro ⟨earlier, surplus, later, hrows, hlen, hplain⟩
    cases earlier with
    | nil =>
      cases hrows
      exact ⟨hplain _ List.mem_cons_self, .inl hlen⟩
    | cons first earlier =>
      cases hrows
      exact ⟨hplain _ List.mem_cons_self,
        .inr ⟨earlier, surplus, later, rfl, hlen, fun r hr => hplain r (List.mem_cons_of_mem _ hr)⟩⟩
  · rintro ⟨hrow, hlen | ⟨earlier, surplus, later, rfl, hlen, hplain⟩⟩
    · refine ⟨[], row, rows, rfl, hlen, fun r hr => ?_⟩
      rwa [List.mem_singleton.mp hr]
    · exact ⟨row :: earlier, surplus, later, rfl, hlen, List.forall_mem_cons.mpr ⟨hrow, hplain⟩⟩

/-- The scan of all rows raises exactly where surplus fields come first. -/
theorem anyFormula_rows (header : List String) (rows : List (List String)) :
    (SurplusFirst header rows → ∃ message, anyFormula
      ((rows.map (csvRow header)).flatMap (fun row => row.map Prod.snd)) =
        .error (.attribute message)) ∧
    (¬SurplusFirst header rows → ∃ found, anyFormula
      ((rows.map (csvRow header)).flatMap (fun row => row.map Prod.snd)) = .ok found) := by
  induction rows with
  | nil =>
    refine ⟨fun h => ?_, fun _ => ⟨false, rfl⟩⟩
    obtain ⟨earlier, row, later, hrows, -⟩ := h
    cases earlier <;> cases hrows
  | cons row rows ih =>
    obtain ⟨hformula, hbeyond, hwithin⟩ := anyFormula_csvRow header row
    rw [surplusFirst_cons, List.map_cons, List.flatMap_cons, anyFormula_append]
    by_cases hrow : (csvRow header row).HasFormula
    · rw [hformula hrow]
      exact ⟨fun h => absurd hrow h.1, fun _ => ⟨true, rfl⟩⟩
    · by_cases hlen : header.length < row.length
      · obtain ⟨message, hscan⟩ := hbeyond hrow hlen
        rw [hscan]
        exact ⟨fun _ => ⟨message, rfl⟩, fun h => absurd ⟨hrow, .inl hlen⟩ h⟩
      · rw [hwithin hrow hlen]
        exact ⟨fun h => ih.1 (h.2.resolve_left hlen), fun h => ih.2 fun hrest => h ⟨hrow, .inr hrest⟩⟩

/-! ### Verdicts of the parser -/

theorem CsvReader.step_error {r : CsvReader} {c : Option Char} {fault : Fault}
    (h : r.step c = .error fault) : ∃ message, fault = .csv message := by
  have hadd : ∀ c mode, r.addChar c mode = .error fault → ∃ message, fault = .csv message := by
    intro c mode hadd
    unfold CsvReader.addChar at hadd
    split_ifs at hadd
    cases hadd
    exact ⟨_, rfl⟩
  cases c with
  | none =>
    unfold CsvReader.step at h
    cases hmode : r.mode <;> rw [hmode] at h <;> cases h
  | some c =>
    unfold CsvReader.step at h
    cases hmode : r.mode <;> simp only [hmode] at h <;> split_ifs at h <;>
      first
      | exact hadd _ _ h
      | (cases h; exact ⟨_, rfl⟩)

theorem foldlM_step_error {input : List (Option Char)} {r : CsvReader} {fault : Fault}
    (h : input.foldlM CsvReader.step r = .error fault) : ∃ message, fault = .csv message := by
  induction input generalizing r with
  | nil => cases h
  | cons c input ih =>
    rw [List.foldlM_cons] at h
    cases hstep : r.step c with
    | error other =>
      rw [hstep] at h
      cases h
      exact CsvReader.step_error hstep
    | ok r' =>
      rw [hstep] at h
      exact ih h

/-- The reader raises nothing but its own errors. -/
theorem csvRecords_error {content : String} {fault : Fault}
    (h : csvRecords content = .error fault) : ∃ message, fault = .csv message := by
  unfold csvRecords at h
  cases hread : (csvInput content.toList).foldlM CsvReader.step {} with
  | error other =>
    rw [hread] at h
    cases h
    exact foldlM_step_error hread
  | ok r =>
    rw [hread] at h
    change (if r.mode = .inQuotedField then pure _ else pure _) = _ at h
    split_ifs at h <;> cases h

/-- Rows none of whose values begins like a formula, or a `ValueError`. -/
def IsVerdict : Except Fault (List CsvRow) → Prop
  | .ok rows => ∀ row ∈ rows, ∀ item ∈ row, formulaLike item.2 = .ok false
  | .error (.value _) => True
  | .error _ => False

/-- The reader gets through the text; and where the header is complete and the rows are not too
many, no row has surplus fields before a formula-like text. -/
def ReachesVerdict (content : String) : Prop :=
  ∃ records, csvRecords content = .ok records ∧ ∀ header rows, records = header :: rows →
    (∀ name ∈ requiredCsvColumns, name ∈ header) →
    (rows.filter (fun r => r ≠ [])).length ≤ 1000 →
    ¬SurplusFirst header (rows.filter (fun r => r ≠ []))

theorem parseCsvRows_eq {content : String} {header : List String} {rows : List (List String)}
    (h : csvRecords content = .ok (header :: rows)) :
    let kept := rows.filter (fun r => r ≠ [])
    parseCsvRows content =
      if kept = [] ∨ ¬∀ name ∈ requiredCsvColumns, name ∈ header then
        .error (.value "CSV is missing required itinerary columns")
      else if 1000 < kept.length then .error (.value "CSV exceeds row limit")
      else anyFormula ((kept.map (csvRow header)).flatMap (fun row => row.map Prod.snd)) >>=
        fun found => if found then .error (.value "CSV formula-like values are not accepted")
          else .ok (kept.map (csvRow header)) := by
  intro kept
  have hrows : dictRows content = .ok (kept.map (csvRow header)) := by
    unfold dictRows
    rw [h]
    rfl
  unfold parseCsvRows
  rw [hrows]
  cases hkept : kept with
  | nil => rfl
  | cons first rest =>
    have hcolumns : (∀ name ∈ requiredCsvColumns, ∃ item ∈ csvRow header first,
        item.1 = some name) ↔ ∀ name ∈ requiredCsvColumns, name ∈ header := by
      refine forall₂_congr fun name _ => ?_
      rw [← mem_keys_csvRow header first name]
      exact List.mem_map.symm
    rw [List.map_cons]
    change (if ¬∀ name ∈ requiredCsvColumns, ∃ item ∈ csvRow header first, item.1 = some name
      then _ else if 1000 < (csvRow header first :: rest.map (csvRow header)).length then _
      else _) = _
    by_cases hcomplete : ∀ name ∈ requiredCsvColumns, name ∈ header
    · have hsome : ¬(first :: rest = [] ∨ ¬∀ name ∈ requiredCsvColumns, name ∈ header) := by
        rintro (h | h)
        · cases h
        · exact h hcomplete
      rw [if_neg (not_not.mpr (hcolumns.mpr hcomplete)), if_neg hsome, List.length_cons,
        List.length_map, List.length_cons]
      rfl
    · rw [if_pos fun h => hcomplete (hcolumns.mp h), if_pos (Or.inr hcomplete)]

/-- Rows that are returned have been scanned to their end. -/
theorem parseCsvRows_ok {content : String} {rows : List CsvRow}
    (h : parseCsvRows content = .ok rows) :
    ∀ row ∈ rows, ∀ item ∈ row, formulaLike item.2 = .ok false := by
  unfold parseCsvRows at h
  obtain ⟨kept, -, h⟩ := except_bind_eq_ok.mp h
  cases kept with
  | nil => cases h
  | cons first rest =>
    dsimp only at h
    split_ifs at h
    obtain ⟨found, hscan, h⟩ := except_bind_eq_ok.mp h
    cases found with
    | true => cases h
    | false =>
      cases h
      intro row hrow item hitem
      exact anyFormula_eq_false hscan item.2
        (List.mem_flatMap.mpr ⟨row, hrow, List.mem_map_of_mem hitem⟩)

theorem isVerdict_iff (content : String) :
    IsVerdict (parseCsvRows content) ↔ ReachesVerdict content := by
  unfold ReachesVerdict
  cases hread : csvRecords content with
  | error fault =>
    obtain ⟨message, rfl⟩ := csvRecords_error hread
    have hparse : parseCsvRows content = .error (.csv message) := by
      unfold parseCsvRows dictRows
      rw [hread]
      rfl
    rw [hparse]
    refine iff_of_false id fun h => ?_
    obtain ⟨_, h, -⟩ := h
    cases h
  | ok records =>
    cases records with
    | nil =>
      have hparse : parseCsvRows content =
          .error (.value "CSV is missing required itinerary columns") := by
        unfold parseCsvRows dictRows
        rw [hread]
        rfl
      rw [hparse]
      refine iff_of_true trivial ⟨[], rfl, fun header rows h => ?_⟩
      cases h
    | cons header rows =>
      rw [parseCsvRows_eq hread]
      have hcondition : (∃ records, (Except.ok (header :: rows) : Except Fault _) = .ok records ∧
          ∀ header' rows', records = header' :: rows' →
            (∀ name ∈ requiredCsvColumns, name ∈ header') →
            (rows'.filter (fun r => r ≠ [])).length ≤ 1000 →
            ¬SurplusFirst header' (rows'.filter (fun r => r ≠ []))) ↔
          ((∀ name ∈ requiredCsvColumns, name ∈ header) →
            (rows.filter (fun r => r ≠ [])).length ≤ 1000 →
            ¬SurplusFirst header (rows.filter (fun r => r ≠ []))) := by
        constructor
        · rintro ⟨records, h, hrows⟩
          cases h
          exact hrows header rows rfl
        · intro h
          refine ⟨_, rfl, fun header' rows' hrows => ?_⟩
          cases hrows
          exact h
      rw [hcondition]
      generalize rows.filter (fun r => r ≠ []) = kept
      split_ifs with hmissing hmany
      · refine iff_of_true trivial fun hcolumns _ hfirst => ?_
        obtain ⟨earlier, row, later, hkept, -⟩ := hfirst
        rcases hmissing with hnil | hmissing
        · rw [hnil] at hkept
          cases earlier <;> cases hkept
        · exact hmissing hcolumns
      · exact iff_of_true trivial fun _ hfew => absurd hmany (not_lt.mpr hfew)
      · push Not at hmissing hmany
        obtain ⟨hraises, hscans⟩ := anyFormula_rows header kept
        by_cases hfirst : SurplusFirst header kept
        · obtain ⟨message, hscan⟩ := hraises hfirst
          rw [hscan]
          exact iff_of_false id fun h => h hmissing.2 hmany hfirst
        · obtain ⟨found, hscan⟩ := hscans hfirst
          rw [hscan]
          refine iff_of_true ?_ fun _ _ => hfirst
          cases found with
          | true => trivial
          | false =>
            intro row hrow item hitem
            exact anyFormula_eq_false hscan item.2
              (List.mem_flatMap.mpr ⟨row, hrow, List.mem_map_of_mem hitem⟩)

/-! ### The upload of an import -/

/-- A backend with its upload records by identifier. -/
class UploadStore (b : Backend) [Framed b] where
  upload : b.State → Uuid → Option OriginalUploadRecord
  upload_congr : ∀ {s s' : b.State},
    Framed.only s' .uploads = Framed.only s .uploads → upload s' = upload s
  saveOriginalUpload : ∀ (record : OriginalUploadRecord) (now : Time) (fresh : ℕ → Uuid)
    (s : b.State), (b.exec (.saveOriginalUpload record) now fresh s).1 = .ok () ∧
      upload (b.exec (.saveOriginalUpload record) now fresh s).2 =
        Function.update (upload s) record.originalUploadId (some record)

instance : UploadStore .memory where
  upload s := s.originalUploads.find?
  upload_congr h := by
    have h' := congrArg (fun s : InMemoryRepository Response => s.originalUploads.find?) h
    exact h'
  saveOriginalUpload record _ _ s := by
    refine ⟨rfl, ?_⟩
    funext id
    rw [Function.update_apply]
    exact s.originalUploads.find?_put record id

instance : UploadStore .postgres where
  upload s id := (s.originalUploads.find? id).map TenantRow.payload
  upload_congr h := by
    have h' := congrArg (fun (s : PostgresRepository Response) (id : Uuid) =>
      (s.originalUploads.find? id).map TenantRow.payload) h
    exact h'
  saveOriginalUpload record _ _ s := by
    refine ⟨rfl, ?_⟩
    funext id
    rw [Function.update_apply]
    exact s.originalUploads.payload_upsertPayload record.tenantId record id

variable {b : Backend} [Framed b] [UploadStore b] {env : Env} {w w' : World b}

def World.upload (w : World b) : Uuid → Option OriginalUploadRecord := UploadStore.upload w.store

theorem World.upload_congr (h : w'.only .uploads = w.only .uploads) : w'.upload = w.upload :=
  UploadStore.upload_congr h

theorem run_saveOriginalUpload (env : Env) (record : OriginalUploadRecord) (w : World b) :
    ∃ w', (Api.repo (.saveOriginalUpload record)).run env.exec w = (.ok (), w') ∧
      w'.upload = Function.update w.upload record.originalUploadId (some record) := by
  obtain ⟨hanswer, hupload⟩ := UploadStore.saveOriginalUpload record (env.clock w.tick)
    (drawn w.tick) w.store
  refine ⟨env.after w (.repo (.saveOriginalUpload record)), ?_, hupload⟩
  rw [Api.repo, Prog.run_perform]
  exact Prod.ext hanswer rfl

namespace Api

open Prog hiding pure

variable {svc : Service} {caller : Caller} {content : String} {id : Uuid}
  {stored : OriginalUploadRecord}

/-- An upload that the run newly stored is out of quarantine exactly on a verdict. -/
theorem validateTripCsv_upload (hnew : w.upload id = none)
    (hstored : ((validateTripCsv svc caller content).run env.exec w).2.upload id = some stored) :
    stored.status ≠ .quarantined ↔ IsVerdict (parseCsvRows content) := by
  let Q : World b → Prop := fun w' =>
    w'.upload id = some stored → (stored.status ≠ .quarantined ↔ IsVerdict (parseCsvRows content))
  -- nothing is stored where the run stops before its first saving
  have hnone : ∀ w₁ : World b, w₁.upload = w.upload → Q w₁ := by
    intro w₁ hsame h
    rw [hsame, hnew] at h
    cases h
  have hsaved : ∀ (w₁ : World b) (record : OriginalUploadRecord),
      w₁.upload = Function.update w.upload record.originalUploadId (some record) →
      (record.status ≠ .quarantined ↔ IsVerdict (parseCsvRows content)) → Q w₁ := by
    intro w₁ record hupload hrecord h
    rw [hupload, Function.update_apply] at h
    split_ifs at h
    · cases h
      exact hrecord
    · rw [hnew] at h
      cases h
  suffices h : Q ((validateTripCsv svc caller content).run env.exec w).2 from h hstored
  unfold validateTripCsv
  refine (callFree_requireRole _ _).run_bind (hnone w rfl) fun _ _ => ?_
  refine (callFree_requireTenant _).run_bind (hnone w rfl) fun tenantId _ => ?_
  have hclaimed : Writes [.idempotency] (claimOptionalMutation svc tenantId caller.idempotencyKey
      "POST:/v1/trips/import/csv" (.contentSha256 (svc.sha256 content))) :=
    writes_claimOptionalMutation List.mem_cons_self _ _ _ _
  rcases mutation_run_cases env w with ⟨r, w₁, hclaim, hrun⟩ | ⟨hash, w₁, hclaim, hrun⟩
  · rw [hrun]
    have hsame := hclaimed.only_run env (c := .uploads) (by decide) w
    rw [hclaim] at hsame
    exact hnone w₁ (World.upload_congr hsame)
  have hcompleted : ∀ a : ℕ × Uuid, Writes [.idempotency]
      (completeOptionalMutation tenantId caller.idempotencyKey hash 200
        (Response.ofCsvImport.encode a) >>= fun _ => (pure a : Api (ℕ × Uuid))) :=
    fun a => writes_bind (writes_completeOptionalMutation List.mem_cons_self _ _ _ _ _)
      fun _ => writes_pure _
  have hsame := hclaimed.only_run env (c := .uploads) (by decide) w
  rw [hclaim] at hsame
  have hw₁ : w₁.upload = w.upload := World.upload_congr hsame
  rw [hrun]
  intro h
  rw [World.upload_congr (only_run_bind hcompleted (by decide) env w₁)] at h
  revert h
  change Q _
  -- up to the saving of the record in quarantine
  have hdrawn : Writes [] uuid4 := writes_uuid4
  refine hdrawn.run_bind (c := .uploads) List.not_mem_nil (fun w₂ h => hnone w₂ ?_)
    fun uploadId w₂ _ h₂ => ?_
  · rw [World.upload_congr h, hw₁]
  have hput : Writes [] (attempt (.putUpload tenantId uploadId content)) := writes_putUpload _ _ _
  refine hput.run_bind (c := .uploads) List.not_mem_nil (fun w₃ h => hnone w₃ ?_)
    fun answer w₃ _ h₃ => ?_
  · rw [World.upload_congr h, World.upload_congr h₂, hw₁]
  have hw₃ : w₃.upload = w.upload := by rw [World.upload_congr h₃, World.upload_congr h₂, hw₁]
  cases answer with
  | error fault => exact hnone w₃ hw₃
  | ok answer =>
    obtain ⟨objectKey, storedSha256⟩ := answer
    have hclock : Writes [] now := writes_now
    refine hclock.run_bind (c := .uploads) List.not_mem_nil (fun w₄ h => hnone w₄ ?_)
      fun createdAt w₄ _ h₄ => ?_
    · rw [World.upload_congr h, hw₃]
    have hw₄ : w₄.upload = w.upload := by rw [World.upload_congr h₄, hw₃]
    refine (callFree_validate _ _).run_bind (hnone w₄ hw₄) fun _ _ => ?_
    -- the record in quarantine is stored, and replaced by what the parser says
    set upload : OriginalUploadRecord :=
      { originalUploadId := uploadId
        tenantId
        source := "csv"
        objectKey
        contentSha256 := storedSha256
        contentSizeBytes := content.utf8ByteSize
        contentType := "text/csv"
        createdAt } with hupload
    obtain ⟨w₅, hquarantined, hw₅⟩ := run_saveOriginalUpload env upload w₄
    rw [hw₄] at hw₅
    rw [run_bind_ok hquarantined]
    have hreplaced : ∀ (record : OriginalUploadRecord) (w₆ w₇ : World b),
        record.originalUploadId = uploadId → w₆.upload = w₅.upload →
        w₇.upload = Function.update w₆.upload record.originalUploadId (some record) →
        w₇.upload = Function.update w.upload record.originalUploadId (some record) := by
      intro record w₆ w₇ hid hw₆ hw₇
      rw [hw₇, hw₆, hw₅, hid]
      exact Function.update_idem _ _ _
    cases hparse : parseCsvRows content with
    | error fault =>
      cases fault with
      | value message =>
        obtain ⟨w₆, hrejected, hw₆⟩ := run_saveOriginalUpload env
          { upload with status := .rejected, validationErrors := [message] } w₅
        dsimp only
        rw [run_bind_ok hrejected]
        refine hsaved w₆ _ (hreplaced _ w₅ w₆ rfl rfl hw₆) (iff_of_true ?_ ?_)
        · exact OriginalUploadStatus.noConfusion
        · rw [hparse]
          trivial
      | _ =>
        refine hsaved w₅ upload hw₅ (iff_of_false (fun h => h rfl) ?_)
        rw [hparse]
        exact fun h => h
    | ok rows =>
      have hverdict : IsVerdict (parseCsvRows content) := by
        rw [hparse]
        exact parseCsvRows_ok hparse
      dsimp only
      split_ifs
      · obtain ⟨w₆, hrejected, hw₆⟩ := run_saveOriginalUpload env
          { upload with status := .rejected, validationErrors := ["tenant mismatch"] } w₅
        rw [run_bind_ok hrejected]
        refine hsaved w₆ _ (hreplaced _ w₅ w₆ rfl rfl hw₆) (iff_of_true ?_ hverdict)
        exact OriginalUploadStatus.noConfusion
      · have hnow : now.run env.exec w₅ = (.ok (env.clock w₅.tick), env.after w₅ .now) := rfl
        rw [run_bind_ok hnow]
        obtain ⟨w₇, hvalidated, hw₇⟩ := run_saveOriginalUpload env
          { upload with status := .validated, validatedAt := some (env.clock w₅.tick) }
          (env.after w₅ .now)
        rw [run_bind_ok hvalidated]
        refine hsaved w₇ _ (hreplaced _ (env.after w₅ .now) w₇ rfl rfl hw₇)
          (iff_of_true ?_ hverdict)
        exact OriginalUploadStatus.noConfusion

end Api

/-- The parser reaches a verdict, and an upload that a run newly stores is out of quarantine at
its end, exactly where the text is one that the scan gets through. -/
theorem csv_import_reaches_verdict_iff (b : Backend) [Framed b] [UploadStore b]
    (content : String) :
    (IsVerdict (parseCsvRows content) ↔ ReachesVerdict content) ∧
      ∀ (svc : Service) (caller : Caller) (env : Env) (w : World b) (id : Uuid)
        (stored : OriginalUploadRecord), w.upload id = none →
        ((Api.validateTripCsv svc caller content).run env.exec w).2.upload id = some stored →
        (stored.status ≠ .quarantined ↔ ReachesVerdict content) := by
  refine ⟨isVerdict_iff content, fun svc caller env w id stored hnew hstored => ?_⟩
  exact (Api.validateTripCsv_upload hnew hstored).trans (isVerdict_iff content)

/-- One row with a field more than the header. -/
def surplusCsv : String :=
  "tenant_id,traveler_id,segment_id,carrier_code,flight_number\nacme,t-1,s-1,UA,100,extra\n"

/-- The object store takes every upload. -/
def Env.storing : Env :=
  { Env.still with
    putUpload := fun _ _ _ _ => .ok ("uploads/1", .ofList (List.replicate 64 '0')) }

theorem surplusCsv_stays_quarantined :
    (¬IsVerdict (parseCsvRows surplusCsv)) ∧
      ((((Api.validateTripCsv Service.plain
          { actorRole := some .travelManager, tenantId := some "acme" } surplusCsv).run
          Env.storing.exec (⟨{}, 0, [], []⟩ : World .memory)).2.upload (drawn 0 0)).map
        OriginalUploadRecord.status = some .quarantined) ∧
      ((((Api.validateTripCsv Service.plain
          { actorRole := some .travelManager, tenantId := some "acme" } surplusCsv).run
          Env.storing.exec (⟨{}, 0, [], []⟩ : World .postgres)).2.upload (drawn 0 0)).map
        OriginalUploadRecord.status = some .quarantined) := by
  have hparse : parseCsvRows surplusCsv =
      .error (.attribute "'list' object has no attribute 'startswith'") := by decide +kernel
  refine ⟨?_, by decide +kernel, by decide +kernel⟩
  rw [hparse]
  exact fun h => h

end RouteShield
