import SupplyChainHub.Imports.Isolation
import SupplyChainHub.Library.Csv

/-!
The lines of a Supplier B file and the row numbers of what the adapter makes of it. `csv.DictReader` passes over
lines with nothing on them, and the adapter counts the rows it gets.
-/

namespace SupplyChainHub

/-! ### The file -/

/-- `.decode("utf-8-sig")` -/
def decodeUtf8Sig (content : ByteArray) : Option (List Char) :=
  (String.fromUTF8? content).map fun decoded =>
    match decoded.toList with
    | '\uFEFF' :: text => text
    | text => text

/-- Assignment to a key of a `dict`. -/
def setItem (row : RawRow) (key value : Option String) : RawRow :=
  if row.any (fun cell => cell.1 = key) then row.map fun cell => if cell.1 = key then (key, value) else cell
  else row ++ [(key, value)]

/-- The `dict` of a row: missing cells are `None`, surplus cells come under `None`. -/
def dictRow (fieldnames fields : List String) : RawRow :=
  let named := (fieldnames.zip fields).foldl (fun row cell => setItem row (some cell.1) (some cell.2)) []
  if fieldnames.length < fields.length then
    named ++ (fields.drop fieldnames.length).map fun cell => (none, some cell)
  else (fieldnames.drop fields.length).foldl (fun row name => setItem row (some name) none) named

/-- The `fieldnames` of a `DictReader`: the first row, if there is one. -/
def fieldnames (text : List Char) : List String :=
  match (Csv.read {} text).rows with
  | [] => []
  | header :: _ => header.fields

/-- The rows of a `DictReader`, each with the number of its line. -/
def dictRows (text : List Char) : List (Nat × RawRow) :=
  ((Csv.read {} text).rows.tail.filter fun row => row.fields ≠ []).map fun row =>
    (row.lineNum, dictRow (fieldnames text) row.fields)

def csvError (e : Csv.Error) : Raised :=
  ⟨[], match e with
    | .fieldSizeLimit => "field larger than field limit (131072)"
    | .newLineInUnquotedField => "new-line character seen in unquoted field"⟩

/-- `SupplierBInventoryAdapter.adapt`, from the bytes of the file. -/
def adaptContent (modelValidate : ModelValidate) (content : ByteArray) : Except Raised InventoryAdapterResult :=
  match decodeUtf8Sig content with
  | none => SupplierBFile.undecodable.adapt modelValidate
  | some text =>
    let file : SupplierBFile := .decoded (fieldnames text) ((dictRows text).map Prod.snd)
    match (Csv.read {} text).failed with
    | none => file.adapt modelValidate
    | some e =>
      -- the reader fails behind its last row, and the header is checked before any row
      if (Csv.read {} text).rows = [] ∨ missingHeaders (fieldnames text) = [] then
        match file.adapt modelValidate with
        | .error earlier => .error earlier
        | .ok _ => .error (csvError e)
      else file.adapt modelValidate

/-! ### Where it came from -/

/-- The records and errors of a result, each with the line of the file it came from. -/
structure Traced where
  records : List (Nat × CanonicalInventoryRecord) := []
  errors : List (Nat × AdapterError) := []

def Traced.result (t : Traced) : InventoryAdapterResult where
  records := t.records.map Prod.snd
  errors := t.errors.map Prod.snd

/-- Every record and every error carries the number of the line it came from. -/
structure Traced.PointsAtFile (t : Traced) : Prop where
  records : ∀ entry ∈ t.records, entry.2.sourceRow = entry.1
  errors : ∀ entry ∈ t.errors, entry.2.sourceRow = some entry.1

/-- The loop of `adaptRows` over rows that know their line. -/
def traceRows (modelValidate : ModelValidate) : Nat → List (Nat × RawRow) → Except Raised Traced
  | _, [] => .ok {}
  | sourceRow, (line, raw) :: rest =>
    match modelValidate (cleanRow raw) with
    | .error details =>
      match traceRows modelValidate (sourceRow + 1) rest with
      | .error e => .error e
      | .ok t => .ok { t with errors := details.1.map (fun detail => (line, detail.fieldError sourceRow)) ++ t.errors }
    | .ok row =>
      match row.asOf.astimezone with
      | .error e => .error e
      | .ok observedAt =>
        match traceRows modelValidate (sourceRow + 1) rest with
        | .error e => .error e
        | .ok t => .ok { t with records := (line, row.record observedAt sourceRow) :: t.records }

section
variable {modelValidate : ModelValidate} {n : Nat} {rows : List (Nat × RawRow)} {t : Traced}
    {result : InventoryAdapterResult} {text : List Char} {content : ByteArray}

theorem traceRows_result :
    (traceRows modelValidate n rows).map Traced.result = adaptRows modelValidate n (rows.map Prod.snd) := by
  induction rows generalizing n with
  | nil => rfl
  | cons entry rest ih =>
    obtain ⟨line, raw⟩ := entry
    rw [List.map_cons, adaptRows, traceRows, ← ih (n := n + 1)]
    dsimp only
    cases modelValidate (cleanRow raw) with
    | error details =>
      cases traceRows modelValidate (n + 1) rest with
      | error e => rfl
      | ok t => simp [Except.map, Traced.result, Function.comp_def]
    | ok row =>
      dsimp only
      cases row.asOf.astimezone with
      | error e => rfl
      | ok observedAt => cases traceRows modelValidate (n + 1) rest <;> rfl

theorem points_errors {line : Nat} {details : List ErrorDetail} (some_ : details ≠ []) :
    ({ t with errors := details.map (fun detail => (line, detail.fieldError n)) ++ t.errors } : Traced).PointsAtFile ↔
      line = n ∧ t.PointsAtFile := by
  constructor
  · intro points
    obtain ⟨detail, present⟩ := List.exists_mem_of_ne_nil _ some_
    have mine := points.errors _ (List.mem_append_left _ (List.mem_map_of_mem present))
    exact ⟨(Option.some.inj mine).symm, points.records, fun entry member =>
      points.errors entry (List.mem_append_right _ member)⟩
  · rintro ⟨rfl, points⟩
    refine ⟨points.records, fun entry member => ?_⟩
    rcases List.mem_append.mp member with mine | later
    · obtain ⟨detail, -, rfl⟩ := List.mem_map.mp mine
      rfl
    · exact points.errors entry later

theorem points_record {line : Nat} {record : CanonicalInventoryRecord} :
    ({ t with records := (line, record) :: t.records } : Traced).PointsAtFile ↔
      line = record.sourceRow ∧ t.PointsAtFile := by
  constructor
  · intro points
    exact ⟨(points.records _ List.mem_cons_self).symm, fun entry member =>
      points.records entry (List.mem_cons_of_mem _ member), points.errors⟩
  · rintro ⟨same, points⟩
    refine ⟨fun entry member => ?_, points.errors⟩
    rcases List.mem_cons.mp member with rfl | later
    · exact same.symm
    · exact points.records entry later

theorem traceRows_points (h : traceRows modelValidate n rows = .ok t) :
    t.PointsAtFile ↔ rows.map Prod.fst = List.range' n rows.length := by
  induction rows generalizing n t with
  | nil =>
    cases h
    exact iff_of_true ⟨by simp, by simp⟩ rfl
  | cons entry rest ih =>
    obtain ⟨line, raw⟩ := entry
    rw [List.map_cons, List.length_cons, List.range'_succ, List.cons.injEq]
    rw [traceRows] at h
    split at h
    · rename_i details _
      split at h
      · contradiction
      · rename_i later traced
        cases h
        rw [← ih traced]
        exact points_errors details.2
    · rename_i row _
      split at h
      · contradiction
      · split at h
        · contradiction
        · rename_i later traced
          cases h
          rw [← ih traced]
          exact points_record

/-! ### Lines and rows -/

/-- The lines of a file behind its header with something on them are numbered without a gap just when no blank line
stands before one of them. -/
theorem consecutive_iff {lines : List Csv.Line} :
    ((lines.zipIdx n).filter fun line => ¬ Csv.Blank line.1).map Prod.snd =
        List.range' n (lines.filter fun line => ¬ Csv.Blank line).length ↔
      lines.Pairwise fun line later => Csv.Blank line → Csv.Blank later := by
  induction lines generalizing n with
  | nil => simp
  | cons line rest ih =>
    rw [List.pairwise_cons, List.zipIdx_cons]
    by_cases blank : Csv.Blank line
    · rw [List.filter_cons_of_neg (by simpa using blank), List.filter_cons_of_neg (by simpa using blank)]
      constructor
      · intro numbers
        have none_ : rest.filter (fun later => ¬ Csv.Blank later) = [] := by
          by_contra filled
          obtain ⟨later, more, same⟩ := List.exists_cons_of_ne_nil filled
          rw [same, List.length_cons, List.range'_succ] at numbers
          obtain ⟨entry, member, number⟩ := List.mem_map.mp (numbers ▸ List.mem_cons_self : n ∈ List.map _ _)
          have after := List.le_snd_of_mem_zipIdx (List.mem_filter.mp member).1
          omega
        have all : ∀ later ∈ rest, Csv.Blank later := by
          intro later member
          simpa using List.filter_eq_nil_iff.mp none_ later member
        exact ⟨fun later member _ => all later member, List.pairwise_of_forall_mem_list fun _ _ later member _ =>
          all later member⟩
      · rintro ⟨all, -⟩
        have none_ : rest.filter (fun later => ¬ Csv.Blank later) = [] := by
          rw [List.filter_eq_nil_iff]
          intro later member
          simpa using all later member blank
        have unnumbered : (rest.zipIdx (n + 1)).filter (fun later => ¬ Csv.Blank later.1) = [] := by
          rw [List.filter_eq_nil_iff]
          intro entry member
          simpa using all entry.1 (List.fst_mem_of_mem_zipIdx member) blank
        rw [none_, unnumbered]
        rfl
    · rw [List.filter_cons_of_pos (by simpa using blank), List.filter_cons_of_pos (by simpa using blank),
        List.map_cons, List.length_cons, List.range'_succ, List.cons.injEq, ih]
      simp [blank]

theorem filled_numbers {numbered : List (Csv.Line × Nat)} {found : List Csv.Row}
    (read : List.Forall₂ (fun line row => row.lineNum = line.2 ∧ (row.fields = [] ↔ Csv.Blank line.1)) numbered found) :
    (found.filter fun row => row.fields ≠ []).map (·.lineNum) =
      (numbered.filter fun line => ¬ Csv.Blank line.1).map Prod.snd := by
  induction read with
  | nil => rfl
  | @cons line row lines rows here _ ih =>
    by_cases blank : Csv.Blank line.1
    · rw [List.filter_cons_of_neg (by simpa using here.2.mpr blank), List.filter_cons_of_neg (by simpa using blank), ih]
    · rw [List.filter_cons_of_pos (by simpa using mt here.2.mp blank), List.filter_cons_of_pos (by simpa using blank),
        List.map_cons, List.map_cons, here.1, ih]

theorem filled_length (lines : List Csv.Line) : ((lines.zipIdx n).filter fun line => ¬ Csv.Blank line.1).length =
    (lines.filter fun line => ¬ Csv.Blank line).length := by
  have only : lines = (lines.zipIdx n).map Prod.fst := (List.zipIdx_map_fst n lines).symm
  conv_rhs => rw [only, List.filter_map, List.length_map]
  rfl

/-- The rows of the reader are the filled lines behind the header. -/
theorem dictRows_numbers (complete : missingHeaders (fieldnames text) = []) (read : (Csv.read {} text).failed = none)
    (unbroken : Csv.Unbroken {} (Csv.lines text)) : (dictRows text).map Prod.fst =
      (((Csv.lines text).tail.zipIdx 2).filter fun line => ¬ Csv.Blank line.1).map Prod.snd := by
  have rows := Csv.rows_unbroken unbroken read
  unfold dictRows
  unfold fieldnames at complete
  rw [List.map_map]
  show List.map Csv.Row.lineNum _ = _
  change List.Forall₂ _ _ (Csv.read {} text).rows at rows
  cases found : (Csv.read {} text).rows with
  | nil =>
    rw [found] at complete
    exact absurd complete (by decide)
  | cons header more =>
    rw [found] at rows
    cases split : Csv.lines text with
    | nil =>
      rw [split] at rows
      cases rows
    | cons first rest =>
      rw [split, List.zipIdx_cons, List.forall₂_cons] at rows
      exact filled_numbers rows.2

theorem complete_adapt (complete : missingHeaders (fieldnames text) = []) :
    (SupplierBFile.decoded (fieldnames text) ((dictRows text).map Prod.snd)).adapt modelValidate =
      (traceRows modelValidate 2 (dictRows text)).map Traced.result := by
  rw [traceRows_result]
  exact if_neg (not_not.mpr complete)

/-- A file that is read to its end comes out as its trace. -/
theorem adaptContent_traced (decoded : decodeUtf8Sig content = some text)
    (complete : missingHeaders (fieldnames text) = []) (read : (Csv.read {} text).failed = none) :
    adaptContent modelValidate content = (traceRows modelValidate 2 (dictRows text)).map Traced.result := by
  rw [← complete_adapt complete]
  simp only [adaptContent, decoded, read]

/-- A file that cannot be read to its end comes out as an error. -/
theorem adaptContent_failed {e : Csv.Error} (decoded : decodeUtf8Sig content = some text)
    (complete : missingHeaders (fieldnames text) = []) (read : (Csv.read {} text).failed = some e) :
    adaptContent modelValidate content ≠ .ok result := by
  intro returned
  simp only [adaptContent, decoded, read, complete, or_true, if_true] at returned
  split at returned <;> contradiction

end

/-- Over a file whose header is complete, the records and errors of the adapter carry the numbers of their lines just
when behind the header no blank line stands before another that is not. -/
theorem source_rows_point_at_file_iff {modelValidate : ModelValidate} {content : ByteArray} {text : List Char}
    {result : InventoryAdapterResult} (decoded : decodeUtf8Sig content = some text)
    (complete : missingHeaders (fieldnames text) = []) (unbroken : Csv.Unbroken {} (Csv.lines text))
    (returned : adaptContent modelValidate content = .ok result) :
    ∃ t, traceRows modelValidate 2 (dictRows text) = .ok t ∧ t.result = result ∧
      (t.PointsAtFile ↔ (Csv.lines text).tail.Pairwise fun line later => Csv.Blank line → Csv.Blank later) := by
  cases read : (Csv.read {} text).failed with
  | some e => exact absurd returned (adaptContent_failed decoded complete read)
  | none =>
    rw [adaptContent_traced decoded complete read] at returned
    cases traced : traceRows modelValidate 2 (dictRows text) with
    | error e =>
      rw [traced] at returned
      contradiction
    | ok t =>
      rw [traced] at returned
      refine ⟨t, rfl, Except.ok.inj returned, ?_⟩
      have numbers := dictRows_numbers complete read unbroken
      have count : (dictRows text).length = ((Csv.lines text).tail.filter fun line => ¬ Csv.Blank line).length := by
        rw [← List.length_map (f := Prod.fst), numbers, List.length_map, filled_length]
      rw [traceRows_points traced, numbers, count]
      exact consecutive_iff

theorem decode_plain (s : String) (plain : s.toList.head? ≠ some '\uFEFF') :
    decodeUtf8Sig s.toUTF8 = some s.toList := by
  have decoded : String.fromUTF8? s.toUTF8 = some s := dif_pos s.isValidUTF8
  rw [decodeUtf8Sig, decoded, Option.map_some]
  cases chars : s.toList with
  | nil => rfl
  | cons c rest =>
    rw [chars] at plain
    split
    · rename_i rest same
      exact absurd (congrArg List.head? same) plain
    · rfl

namespace Small

def plainFile : String :=
  "snapshot_ref,as_of,partner_sku,depot,case_count,units_per_case\n" ++
    "SNAP-1,2026-07-29T15:00:00Z,B-1,EAST,3,12\n\"SNAP-2\",2026-07-29T16:00:00Z,B-1,EAST,-1,12\r\n\r\n"

/-- The second line of data has a blank line before it, and is the fourth of the file. -/
def spacedFile : String :=
  "snapshot_ref,as_of,partner_sku,depot,case_count,units_per_case\n" ++
    "SNAP-1,2026-07-29T15:00:00Z,B-1,EAST,3,12\n\nSNAP-2,2026-07-29T16:00:00Z,B-1,EAST,-1,12\n"

end Small

/-- A file that ends with a blank line. -/
theorem source_rows_point_at_file_plain : ∃ result t,
    adaptContent Small.modelValidate Small.plainFile.toUTF8 = .ok result ∧
      traceRows Small.modelValidate 2 (dictRows Small.plainFile.toList) = .ok t ∧ t.result = result ∧
      result.records.map (·.sourceRow) = [2] ∧ result.errors.map (·.sourceRow) = [some 3] ∧ t.PointsAtFile := by
  have decoded := decode_plain Small.plainFile (by decide +kernel)
  have shown : (missingHeaders (fieldnames Small.plainFile.toList) = [] ∧
      (Csv.read {} Small.plainFile.toList).failed = none ∧ Csv.Unbroken {} (Csv.lines Small.plainFile.toList) ∧
      (Csv.lines Small.plainFile.toList).tail.Pairwise fun line later => Csv.Blank line → Csv.Blank later) ∧
      (traceRows Small.modelValidate 2 (dictRows Small.plainFile.toList)).toOption.any (fun t =>
        t.result.records.map (·.sourceRow) = [2] ∧ t.result.errors.map (·.sourceRow) = [some 3]) = true := by
    decide +kernel
  simp only [Option.any_eq_true, decide_eq_true_eq] at shown
  obtain ⟨⟨complete, read, unbroken, blanks⟩, t, traced, records, errors⟩ := shown
  replace traced := Small.toOption_ok traced
  have returned : adaptContent Small.modelValidate Small.plainFile.toUTF8 = .ok t.result := by
    rw [adaptContent_traced decoded complete read, traced]
    rfl
  obtain ⟨same, again, result, points⟩ := source_rows_point_at_file_iff decoded complete unbroken returned
  obtain rfl := Except.ok.inj (again.symm.trans traced)
  exact ⟨_, same, returned, traced, result, records, errors, points.mpr blanks⟩

/-- The error of the fourth line carries row 3, which is blank. -/
theorem blank_line_shifts_rows :
    ∃ (content : ByteArray) (text : List Char) (result : InventoryAdapterResult) (t : Traced),
      decodeUtf8Sig content = some text ∧ missingHeaders (fieldnames text) = [] ∧ Csv.Unbroken {} (Csv.lines text) ∧
      adaptContent Small.modelValidate content = .ok result ∧
      traceRows Small.modelValidate 2 (dictRows text) = .ok t ∧ t.result = result ∧
      t.errors.map (fun entry => (entry.1, entry.2.sourceRow)) = [(4, some 3)] ∧ ¬ t.PointsAtFile := by
  have decoded := decode_plain Small.spacedFile (by decide +kernel)
  have shown : (missingHeaders (fieldnames Small.spacedFile.toList) = [] ∧
      (Csv.read {} Small.spacedFile.toList).failed = none ∧ Csv.Unbroken {} (Csv.lines Small.spacedFile.toList)) ∧
      (traceRows Small.modelValidate 2 (dictRows Small.spacedFile.toList)).toOption.any (fun t =>
        t.errors.map (fun entry => (entry.1, entry.2.sourceRow)) = [(4, some 3)]) = true := by
    decide +kernel
  simp only [Option.any_eq_true, decide_eq_true_eq] at shown
  obtain ⟨⟨complete, read, unbroken⟩, t, traced, errors⟩ := shown
  replace traced := Small.toOption_ok traced
  have returned : adaptContent Small.modelValidate Small.spacedFile.toUTF8 = .ok t.result := by
    rw [adaptContent_traced decoded complete read, traced]
    rfl
  refine ⟨Small.spacedFile.toUTF8, Small.spacedFile.toList, t.result, t, decoded, complete, unbroken, returned, traced,
    rfl, errors, fun points => ?_⟩
  obtain ⟨entry, rest, same, numbers, -⟩ := List.map_eq_cons_iff.mp errors
  obtain ⟨line, row⟩ := Prod.mk.inj numbers
  have mine := points.errors entry (same ▸ List.mem_cons_self)
  rw [line, row] at mine
  exact absurd (Option.some.inj mine) (by decide)

end SupplyChainHub
