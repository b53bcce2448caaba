import SupplyChainHub.Imports.Alone

/-!
`_apply_inventory_result` with nobody else writing: its loop over the records, each with all its
statements, and what it says of every record.
-/

namespace SupplyChainHub

def Locks.free : Locks := ⟨fun _ => false, fun _ => false⟩

/-- `_validate_and_apply_record` with all its statements, at most `n`. -/
def Applying.applyRecord (db : Database) (record : CanonicalInventoryRecord)
    (rest : List CanonicalInventoryRecord) : Nat → Applying → Outcome Applying
  | 0, a => .next a
  | n + 1, a =>
    match a.validateAndApplyRecord db .free record rest with
    | .blocked => .blocked
    | .raised e => .raised e
    | .next b => if b.records.length < a.records.length then .next b else applyRecord db record rest n b

/-- A record and the error it was rejected with, if it was. -/
structure RecordVerdict where
  record : CanonicalInventoryRecord
  error : Option ImportJobError

/-- The loop of `_apply_inventory_result`. A record takes five statements at most. -/
def applyRecords (db : Database) : List CanonicalInventoryRecord → Applying →
    Outcome (Applying × List RecordVerdict)
  | [], a => .next (a, [])
  | record :: rest, a =>
    match a.applyRecord db record rest 5 with
    | .blocked => .blocked
    | .raised e => .raised e
    | .next b =>
      match applyRecords db rest b with
      | .blocked => .blocked
      | .raised e => .raised e
      | .next (final, verdicts) =>
        .next (final, ⟨record, (b.newErrors.drop a.newErrors.length).head?⟩ :: verdicts)

def applyInventoryResult (db : Database) (session : WorkerSession) (result : InventoryAdapterResult)
    (events : List OperationEvent) : Outcome (Applying × List RecordVerdict) :=
  applyRecords db result.records (.start db session result events)

/-- What the transaction has flushed, over what is committed. -/
def Applying.database (db : Database) (a : Applying) : Database :=
  { db with
    positions := a.positions db
    snapshots := db.snapshots ++ a.snapshots
    errors := db.errors ++ a.newErrors }

/-- Imported before, or among the records that came before. -/
def Known (db : Database) (supplierId : Id) (done : List CanonicalInventoryRecord)
    (record : CanonicalInventoryRecord) : Prop :=
  db.imported (recordKey supplierId record) = true ∨ ∃ r ∈ done, r.seenKey = record.seenKey

/-- What became of a record that came after the records `done`. -/
inductive RecordOutcome (db : Database) (done : List CanonicalInventoryRecord) (a : Applying)
    (record : CanonicalInventoryRecord) (b : Applying) : Option ImportJobError → Prop where
  | accepted {m : SupplierProductMapping} {w : SupplierWarehouseMapping} {storedOnHand storedReserved : Numeric183}
      (mappings : mappingsFor db a.job.supplierId record = some (m, w))
      (unknown : ¬ Known db a.job.supplierId done record)
      (onHand : Numeric183.store? (record.onHandQuantity * m.unitsPerSourceUnit.value) = some storedOnHand)
      (reserved : Numeric183.store? (record.reservedQuantity * m.unitsPerSourceUnit.value) = some storedReserved)
      (nonnegative : 0 ≤ storedOnHand.thousandths ∧ 0 ≤ storedReserved.thousandths)
      (positive : 0 < m.unitsPerSourceUnit.thousandths)
      (snapshots : b.snapshots = a.snapshots ++
        [recordSnapshot a.job.id a.job.supplierId record m w storedOnHand storedReserved])
      (errors : b.newErrors = a.newErrors) : RecordOutcome db done a record b none
  | rejected {e : ImportJobError} (snapshots : b.snapshots = a.snapshots) (errors : b.newErrors = a.newErrors ++ [e])
      (row : e.sourceRow = some record.sourceRow)
      (code : e.errorCode = "duplicate_source_record" ↔ Known db a.job.supplierId done record)
      (left : Known db a.job.supplierId done record ∨ mappingsFor db a.job.supplierId record = none) :
      RecordOutcome db done a record b (some e)

/-- The record was taken up, and no verdict reached yet. -/
structure StillAt (a b : Applying) : Prop where
  job : b.job = a.job
  records : b.records = a.records
  snapshots : b.snapshots = a.snapshots
  newErrors : b.newErrors = a.newErrors
  nearer : b.phase.left < a.phase.left

/-- The record is done with. -/
structure Past (db : Database) (done : List CanonicalInventoryRecord) (a : Applying)
    (record : CanonicalInventoryRecord) (rest : List CanonicalInventoryRecord) (b : Applying)
    (verdict : Option ImportJobError) : Prop where
  job : b.job = a.job
  records : b.records = rest
  phase : b.phase = .duplicateCheck
  outcome : RecordOutcome db done a record b verdict

/-- The verdicts on the records that come after `done`, one after the other. -/
inductive Verdicts (db : Database) : List CanonicalInventoryRecord → Applying → List RecordVerdict → Applying →
    Prop where
  | nil {done : List CanonicalInventoryRecord} {a : Applying} : Verdicts db done a [] a
  | cons {done rest : List CanonicalInventoryRecord} {a b final : Applying} {record : CanonicalInventoryRecord}
      {error : Option ImportJobError} {verdicts : List RecordVerdict} (past : Past db done a record rest b error)
      (tail : Verdicts db (done ++ [record]) b verdicts final) :
      Verdicts db done a (⟨record, error⟩ :: verdicts) final

section
variable {db : Database} {locks : Locks} {a b c final : Applying} {record : CanonicalInventoryRecord}
    {rest done : List CanonicalInventoryRecord} {result : InventoryAdapterResult} {error : AdapterError}
    {e : ImportJobError} {verdict : Option ImportJobError} {verdicts : List RecordVerdict} {n : Nat}

/-! ### One statement -/

@[simp] theorem recordError_code (code message : String) (fieldName : Option String) :
    (recordError record code message fieldName).code = code := rfl

theorem reject_code (added : (a.reject db rest error).newErrors = a.newErrors ++ [e]) : e.errorCode = error.code := by
  have same : [_] = [e] := List.append_cancel_left added
  obtain rfl := (List.cons.inj same).1
  rfl

theorem none_added {α : Type} {xs : List α} {x : α} : xs ≠ xs ++ [x] := by
  intro same
  have length := congrArg List.length same
  rw [List.length_append, List.length_singleton] at length
  omega

theorem statement_code (h : a.validateAndApplyRecord db locks record rest = .next b)
    (added : b.newErrors = a.newErrors ++ [e]) :
    e.errorCode = "duplicate_source_record" ↔ a.phase = .duplicateCheck := by
  unfold Applying.validateAndApplyRecord at h
  cases phase : a.phase with
  | duplicateCheck =>
    refine iff_of_true ?_ rfl
    simp only [phase] at h
    split at h
    · cases h
      exact reject_code added
    · split at h
      · contradiction
      · split at h
        · cases h
          exact reject_code added
        · cases h
          exact absurd added none_added
  | productLookup =>
    refine iff_of_false ?_ (by simp)
    simp only [phase] at h
    split at h
    · cases h
      rw [reject_code added, recordError_code]
      decide
    · cases h
      exact absurd added none_added
  | warehouseLookup m =>
    refine iff_of_false ?_ (by simp)
    simp only [phase] at h
    split at h
    · cases h
      rw [reject_code added, recordError_code]
      decide
    · split at h
      · cases h
        rw [reject_code added, recordError_code]
        decide
      · split at h
        · cases h
          exact absurd added none_added
        · split at h
          · cases h
            rw [reject_code added, recordError_code]
            decide
          · cases h
            exact absurd added none_added
  | positionLookup m w =>
    simp only [phase] at h
    cases h
    exact absurd added none_added
  | flush m w position =>
    simp only [phase] at h
    have same : b.newErrors = a.newErrors := by
      cases flushRecord_progress phase h with
      | rejected error row reason =>
        cases reason with
        | duplicate other | unmapped other | mismatched other =>
          exact absurd (phase.symm.trans other) (by simp)
      | flushed _ _ _ _ _ _ newErrors => exact newErrors
      | unseen other | product other | warehouse other | position other =>
        exact absurd (phase.symm.trans other) (by simp)
    exact absurd (same.symm.trans added) none_added

theorem Progress.still (progress : Progress db result done a) (next : ∃ done, Progress db result done b)
    (records : b.records = a.records) : Progress db result done b := by
  obtain ⟨done', after⟩ := next
  have same : done' ++ a.records = done ++ a.records := by
    rw [← progress.split, after.split, records]
  exact List.append_cancel_right same ▸ after

theorem Progress.past (progress : Progress db result done a) (next : ∃ done, Progress db result done b)
    (head : a.records = record :: rest) (records : b.records = rest) : Progress db result (done ++ [record]) b := by
  obtain ⟨done', after⟩ := next
  have same : done' ++ rest = (done ++ [record]) ++ rest := by
    rw [List.append_assoc, List.singleton_append, ← head, ← progress.split, after.split, records]
  exact List.append_cancel_right same ▸ after

/-- A record that the duplicate check let pass is not known. -/
theorem opened_unknown (opened : a.Opened db done record) (current : a.Current db) (going : a.phase ≠ .duplicateCheck) :
    ¬ Known db a.job.supplierId done record := by
  rintro (imported | ⟨r, member, same⟩)
  · rw [current.fresh.resolve_left going record opened.head] at imported
    contradiction
  · exact opened.fresh r member same

theorem Progress.duplicate_known (progress : Progress db result done a) (phase : a.phase = .duplicateCheck)
    (known : record.seenKey ∈ a.seen ∨
      record.sendable = true ∧ a.imported db (recordKey a.job.supplierId record) = true) :
    Known db a.job.supplierId done record := by
  have found := progress.found
  unfold Applying.Found at found
  rw [phase] at found
  rcases known with seen | ⟨-, imported⟩
  · exact .inr (found.2 _ seen)
  · exact progress.owns.known imported

/-- The record in hand, past its duplicate check. -/
theorem Progress.opened (progress : Progress db result done a) (records : a.records = record :: rest)
    (going : a.phase ≠ .duplicateCheck) : a.Opened db done record := by
  have found := progress.found
  unfold Applying.Found at found
  cases phase : a.phase with
  | duplicateCheck => contradiction
  | productLookup =>
    rw [phase] at found
    obtain ⟨_, opened⟩ := found
    exact opened.of_cons records
  | warehouseLookup | positionLookup | flush =>
    rw [phase] at found
    obtain ⟨_, opened, -⟩ := found
    exact opened.of_cons records

theorem statement_verdict (progress : Progress db result done a) (current : a.Current db)
    (records : a.records = record :: rest) (h : a.validateAndApplyRecord db .free record rest = .next b) :
    StillAt a b ∨ ∃ verdict, Past db done a record rest b verdict := by
  have found := progress.found
  unfold Applying.Found at found
  cases record_progress h with
  | rejected error row reason =>
    refine .inr ⟨_, rfl, rfl, rfl, .rejected rfl rfl row ?_ ?_⟩
    · rw [statement_code h rfl]
      cases reason with
      | duplicate phase known => exact iff_of_true phase (progress.duplicate_known phase known)
      | unmapped phase | mismatched phase =>
        have going : a.phase ≠ .duplicateCheck := by simp [phase]
        exact iff_of_false going (opened_unknown (progress.opened records going) current going)
    · cases reason with
      | duplicate phase known => exact .inl (progress.duplicate_known phase known)
      | unmapped phase absent => exact .inr (mappingsFor_unmapped absent)
      | mismatched phase differs =>
        rw [phase] at found
        obtain ⟨head, opened, product⟩ := found
        obtain rfl : head = record := by simpa [records] using opened.head.symm
        exact .inr (mappingsFor_mismatched product differs)
  | unseen phase | product phase | warehouse phase | position phase =>
    exact .inl ⟨rfl, rfl, rfl, rfl, by simp [phase, RecordPhase.left]⟩
  | flushed phase session records' after seen loadedErrors newErrors write writes snapshots place onHand reserved origin
      loaded nonnegative positive =>
    have going : a.phase ≠ .duplicateCheck := by simp [phase]
    rw [phase] at found
    obtain ⟨head, opened, mappings⟩ := found
    obtain rfl : head = record := by simpa [records] using opened.head.symm
    have job : b.job = a.job := congrArg WorkerSession.job session
    exact .inr ⟨none, job, records', after, .accepted mappings (opened_unknown opened current going)
      (onHand ▸ write.storesOnHand) (reserved ▸ write.storesReserved) nonnegative positive snapshots newErrors⟩

/-! ### One record -/

theorem RecordOutcome.of_still (still : StillAt a c) (outcome : RecordOutcome db done c record b verdict) :
    RecordOutcome db done a record b verdict := by
  obtain ⟨job, -, snapshots, newErrors, -⟩ := still
  cases outcome with
  | accepted mappings unknown onHand reserved nonnegative positive snapshots' errors =>
    rw [job] at mappings unknown snapshots'
    rw [snapshots] at snapshots'
    exact .accepted mappings unknown onHand reserved nonnegative positive snapshots' (errors.trans newErrors)
  | rejected snapshots' errors row code left =>
    rw [job] at code left
    rw [newErrors] at errors
    exact .rejected (snapshots'.trans snapshots) errors row code left

theorem RecordOutcome.verdict_eq (outcome : RecordOutcome db done a record b verdict) :
    verdict = (b.newErrors.drop a.newErrors.length).head? := by
  cases outcome with
  | accepted _ _ _ _ _ _ _ errors => simp [errors]
  | rejected _ errors => simp [errors]

theorem statement_current (records : a.records = record :: rest) (current : a.Current db)
    (h : a.validateAndApplyRecord db .free record rest = .next b) : b.Current db :=
  (record_progress h).current records current

/-- With as many statements as its phase may need, a record is brought to its end. -/
theorem applyRecord_past (enough : a.phase.left ≤ n) (progress : Progress db result done a) (current : a.Current db)
    (records : a.records = record :: rest) (h : a.applyRecord db record rest n = .next b) :
    Progress db result (done ++ [record]) b ∧ b.Current db ∧ ∃ verdict, Past db done a record rest b verdict := by
  induction n generalizing a with
  | zero =>
    have positive := a.phase.left_pos
    omega
  | succ n ih =>
    unfold Applying.applyRecord at h
    cases statement : a.validateAndApplyRecord db .free record rest with
    | blocked | raised =>
      rw [statement] at h
      contradiction
    | next c =>
      simp only [statement] at h
      have current' := statement_current records current statement
      have next := progress.step records current.flush (record_progress statement)
      rcases statement_verdict progress current records statement with still | ⟨verdict, past⟩
      · rw [if_neg (by rw [still.records]; omega)] at h
        have nearer := still.nearer
        obtain ⟨after, currentAfter, verdict, past⟩ := ih (by omega) (progress.still next still.records) current'
          (still.records.trans records) h
        exact ⟨after, currentAfter, verdict, past.job.trans still.job, past.records, past.phase,
          past.outcome.of_still still⟩
      · have shorter : c.records.length < a.records.length := by
          rw [past.records, records, List.length_cons]
          omega
        rw [if_pos shorter] at h
        cases h
        exact ⟨progress.past next records past.records, current', verdict, past⟩

/-! ### All records -/

/-- A pass that completes is a completed record and a completed pass over the rest. -/
theorem applyRecords_cons {record : CanonicalInventoryRecord} {rest : List CanonicalInventoryRecord}
    (h : applyRecords db (record :: rest) a = .next (final, verdicts)) :
    ∃ b tail, a.applyRecord db record rest 5 = .next b ∧ applyRecords db rest b = .next (final, tail) ∧
      verdicts = ⟨record, (b.newErrors.drop a.newErrors.length).head?⟩ :: tail := by
  unfold applyRecords at h
  cases applied : a.applyRecord db record rest 5 with
  | blocked | raised =>
    rw [applied] at h
    contradiction
  | next b =>
    simp only [applied] at h
    cases later : applyRecords db rest b with
    | blocked | raised =>
      rw [later] at h
      contradiction
    | next both =>
      obtain ⟨last, tail⟩ := both
      simp only [later] at h
      cases h
      exact ⟨b, tail, rfl, later, rfl⟩

theorem applyRecords_verdicts {records : List CanonicalInventoryRecord} (progress : Progress db result done a)
    (phase : a.phase = .duplicateCheck) (current : a.Current db) (left : a.records = records)
    (h : applyRecords db records a = .next (final, verdicts)) :
    Progress db result result.records final ∧ Verdicts db done a verdicts final := by
  induction records generalizing a done verdicts with
  | nil =>
    cases h
    exact ⟨progress.through left ▸ progress, .nil⟩
  | cons record rest ih =>
    obtain ⟨b, tail, applied, later, rfl⟩ := applyRecords_cons h
    have enough : a.phase.left ≤ 5 := by rw [phase, RecordPhase.left]
    obtain ⟨progress', current', verdict, past⟩ := applyRecord_past enough progress current left applied
    obtain ⟨through, tail⟩ := ih progress' past.phase current' past.records later
    rw [← past.outcome.verdict_eq]
    exact ⟨through, .cons past tail⟩

theorem applyInventoryResult_verdicts {session : WorkerSession} {events : List OperationEvent}
    (h : applyInventoryResult db session result events = .next (final, verdicts)) :
    Progress db result result.records final ∧
      Verdicts db [] (Applying.start db session result events) verdicts final := by
  obtain ⟨records, phase, -⟩ := start_begun db session result events
  exact applyRecords_verdicts (start_progress db session result events) phase (current_check phase) records h

theorem applyRecords_records {records : List CanonicalInventoryRecord}
    (h : applyRecords db records a = .next (final, verdicts)) : verdicts.map (·.record) = records := by
  induction records generalizing a verdicts with
  | nil =>
    cases h
    rfl
  | cons record rest ih =>
    obtain ⟨b, tail, -, later, rfl⟩ := applyRecords_cons h
    rw [List.map_cons, ih later]

end

end SupplyChainHub
