import SupplyChainHub.Imports.Verdicts

/-!
Which records of a file are rejected as duplicates: those of a source record that was imported before, and those
whose key came before in the file, whatever became of the record that brought it.
-/

namespace SupplyChainHub

/-- Rejected with `duplicate_source_record`. -/
def RecordVerdict.Duplicate (v : RecordVerdict) : Prop :=
  ∃ e, v.error = some e ∧ e.errorCode = "duplicate_source_record"

/-- The key came before, with a record that was accepted. -/
def AcceptedBefore (verdicts : List RecordVerdict) (i : Nat) (record : CanonicalInventoryRecord) : Prop :=
  ∃ j < i, ∃ u, verdicts[j]? = some u ∧ u.error = none ∧ u.record.seenKey = record.seenKey

/-- The first record of a key that comes again passes the mapping and unit checks, unless the key was imported. -/
def FirstsPass (db : Database) (supplierId : Id) (records : List CanonicalInventoryRecord) : Prop :=
  ∀ (i j : Nat) (r q : CanonicalInventoryRecord), i < j → records[i]? = some r → records[j]? = some q →
    q.seenKey = r.seenKey → db.imported (recordKey supplierId r) = false →
      (∀ h < i, ∀ p : CanonicalInventoryRecord, records[h]? = some p → p.seenKey ≠ r.seenKey) →
      (mappingsFor db supplierId r).isSome = true

section
variable {db : Database} {a b final : Applying} {done records : List CanonicalInventoryRecord}
    {record r q : CanonicalInventoryRecord} {verdicts : List RecordVerdict} {v : RecordVerdict} {i j : Nat}
    {verdict : Option ImportJobError} {supplierId : Id}

theorem RecordOutcome.duplicate (outcome : RecordOutcome db done a record b verdict) :
    RecordVerdict.Duplicate ⟨record, verdict⟩ ↔ Known db a.job.supplierId done record := by
  cases outcome with
  | accepted mappings unknown =>
    refine iff_of_false ?_ unknown
    rintro ⟨e, some, -⟩
    contradiction
  | rejected snapshots errors row code =>
    rw [← code]
    constructor
    · rintro ⟨e, same, duplicate⟩
      exact Option.some.inj same ▸ duplicate
    · exact fun duplicate => ⟨_, rfl, duplicate⟩

theorem RecordOutcome.taken (outcome : RecordOutcome db done a record b verdict) :
    verdict = none ↔ ¬ Known db a.job.supplierId done record ∧
      (mappingsFor db a.job.supplierId record).isSome = true := by
  cases outcome with
  | accepted mappings unknown =>
    exact iff_of_true rfl ⟨unknown, by rw [mappings]; rfl⟩
  | rejected snapshots errors row code left =>
    refine iff_of_false (by simp) ?_
    rintro ⟨unknown, some⟩
    rw [left.resolve_left unknown] at some
    contradiction

/-- Every verdict is about the records before it. -/
theorem Verdicts.at (all : Verdicts db done a verdicts final) (found : verdicts[i]? = some v) :
    (v.Duplicate ↔ Known db a.job.supplierId (done ++ (verdicts.take i).map (·.record)) v.record) ∧
      (v.error = none ↔ ¬ Known db a.job.supplierId (done ++ (verdicts.take i).map (·.record)) v.record ∧
        (mappingsFor db a.job.supplierId v.record).isSome = true) := by
  induction all generalizing i with
  | nil => simp at found
  | @cons done rest a b final record error verdicts past tail ih =>
    cases i with
    | zero =>
      obtain rfl := Option.some.inj found
      simp only [List.take_zero, List.map_nil, List.append_nil]
      exact ⟨past.outcome.duplicate, past.outcome.taken⟩
    | succ i =>
      rw [List.getElem?_cons_succ] at found
      have later := ih found
      rw [past.job] at later
      simpa only [List.take_succ_cons, List.map_cons, List.append_assoc, List.singleton_append] using later

/-- Known, by places in the file. -/
theorem known_at : Known db supplierId ((verdicts.take i).map (·.record)) record ↔
    db.imported (recordKey supplierId record) = true ∨
      ∃ j < i, ∃ u, verdicts[j]? = some u ∧ u.record.seenKey = record.seenKey := by
  unfold Known
  refine or_congr_right ?_
  constructor
  · rintro ⟨r, member, same⟩
    obtain ⟨u, taken, rfl⟩ := List.mem_map.mp member
    obtain ⟨j, early, found⟩ := List.mem_take_iff_getElem.mp taken
    exact ⟨j, by omega, u, found ▸ List.getElem?_eq_getElem _, same⟩
  · rintro ⟨j, early, u, found, same⟩
    refine ⟨u.record, List.mem_map_of_mem (List.mem_of_getElem? (i := j) ?_), same⟩
    rw [List.getElem?_take_of_lt early, found]

theorem imported_congr (same : q.seenKey = r.seenKey) :
    db.imported (recordKey supplierId q) = db.imported (recordKey supplierId r) := by
  rw [recordKey_eq.mpr same]

/-- The first record of a key takes it, when it passes the other checks. -/
theorem firstsPass_accepted (passes : FirstsPass db supplierId (verdicts.map (·.record)))
    (taken : ∀ i v, verdicts[i]? = some v → (v.error = none ↔
      ¬ Known db supplierId ((verdicts.take i).map (·.record)) v.record ∧
        (mappingsFor db supplierId v.record).isSome = true))
    (found : verdicts[i]? = some v) (fresh : db.imported (recordKey supplierId v.record) = false)
    (j : Nat) (early : j < i) (u : RecordVerdict) (earlier : verdicts[j]? = some u)
    (same : u.record.seenKey = v.record.seenKey) : AcceptedBefore verdicts i v.record := by
  induction j using Nat.strong_induction_on generalizing u with
  | _ j ih =>
    by_cases first : ∃ h < j, ∃ p, verdicts[h]? = some p ∧ p.record.seenKey = v.record.seenKey
    · obtain ⟨h, before, p, there, key⟩ := first
      exact ih h before (by omega) p there key
    · have unimported : db.imported (recordKey supplierId u.record) = false := (imported_congr same).trans fresh
      refine ⟨j, early, u, earlier, (taken j u earlier).mpr ⟨?_, ?_⟩, same⟩
      · rw [known_at]
        rintro (imported | ⟨h, before, p, there, key⟩)
        · rw [unimported] at imported
          contradiction
        · exact first ⟨h, before, p, there, key.trans same⟩
      · apply passes j i u.record v.record early
        · rw [List.getElem?_map, earlier]
          rfl
        · rw [List.getElem?_map, found]
          rfl
        · exact same.symm
        · exact unimported
        · intro h before p there key
          rw [List.getElem?_map, Option.map_eq_some_iff] at there
          obtain ⟨w, there, rfl⟩ := there
          exact first ⟨h, before, w, there, key.trans same⟩

end

/-- A record is a duplicate exactly when it was imported before or accepted earlier in the file, when the first
record of a repeated key passes the other checks. -/
theorem duplicates_were_imported_iff {db : Database} {session : WorkerSession} {result : InventoryAdapterResult}
    {events : List OperationEvent} {a : Applying} {verdicts : List RecordVerdict}
    (applied : applyInventoryResult db session result events = .next (a, verdicts)) :
    (∀ (i : Nat) (v : RecordVerdict), verdicts[i]? = some v → (v.Duplicate ↔
      db.imported (recordKey session.job.supplierId v.record) = true ∨ AcceptedBefore verdicts i v.record)) ↔
      FirstsPass db session.job.supplierId result.records := by
  have records := applyRecords_records applied
  have job : (Applying.start db session result events).job = session.job :=
    congrArg WorkerSession.job (start_work db session result events).1
  have verdict {i : Nat} {v : RecordVerdict} (found : verdicts[i]? = some v) :=
    (applyInventoryResult_verdicts applied).2.at found
  simp only [job, List.nil_append] at verdict
  rw [← records]
  constructor
  · intro duplicates i j r q later here there same fresh first
    rw [List.getElem?_map, Option.map_eq_some_iff] at here there
    obtain ⟨v, here, rfl⟩ := here
    obtain ⟨w, there, rfl⟩ := there
    -- the later record is turned away because of the first
    have duplicate : w.Duplicate := (verdict there).1.mpr (known_at.mpr (.inr ⟨i, later, v, here, same.symm⟩))
    rcases (duplicates j w there).mp duplicate with imported | ⟨k, early, u, found, accepted, key⟩
    · rw [imported_congr same, fresh] at imported
      contradiction
    · obtain ⟨unknown, passes⟩ := (verdict found).2.mp accepted
      rcases Nat.lt_trichotomy k i with before | rfl | after
      · exact absurd (key.trans same) (first k before u.record (by rw [List.getElem?_map, found]; rfl))
      · rw [here] at found
        exact Option.some.inj found ▸ passes
      · exact absurd (known_at.mpr (.inr ⟨i, after, v, here, (key.trans same).symm⟩)) unknown
  · intro passes i v found
    rw [(verdict found).1, known_at]
    constructor
    · rintro (imported | ⟨j, early, u, earlier, same⟩)
      · exact .inl imported
      · by_cases imported : db.imported (recordKey session.job.supplierId v.record) = true
        · exact .inl imported
        · exact .inr (firstsPass_accepted passes (fun _ _ there => (verdict there).2) found
            ((Bool.not_eq_true _).mp imported) j early u earlier same)
    · rintro (imported | ⟨j, early, u, earlier, -, same⟩)
      · exact .inl imported
      · exact .inr ⟨j, early, u, earlier, same⟩

/-! ### A repeated row, and a corrected one -/

def Outcome.result? {α : Type} : Outcome α → Option α
  | .next a => some a
  | _ => none

theorem Outcome.result?_eq {α : Type} {outcome : Outcome α} {a : α} (h : outcome.result? = some a) :
    outcome = .next a := by
  cases outcome with
  | next b => exact congrArg Outcome.next (Option.some.inj h)
  | blocked | raised => cases h

namespace Small

def processing : ImportJob where
  id := 1
  supplierId := 1
  sourceType := .supplierBCsv
  adapterVersion := "supplier-b.inventory-csv.v1"
  contentSha256 := digest
  status := .processing
  attemptCount := 1
  leaseExpiresAt := some (moment 300)
  workerId := some "worker"
  createdAt := moment 0

def session : WorkerSession where
  job := processing
  attempt := { importJobId := 1, attemptNumber := 1, celeryTaskId := none, workerId := "worker" }
  processing := rfl
  leased := rfl
  held := rfl
  unfinished := rfl
  current := rfl
  running := rfl
  unclosed := rfl

def secondLine : CanonicalInventoryRecord := { line with sourceRow := 3 }

/-- With another conversion factor than the mapping's. -/
def wrongLine : CanonicalInventoryRecord := { line with unitsPerSourceUnit := some ⟨10, "10"⟩ }

end Small

theorem duplicates_were_imported_iff_repeated : ∃ a verdicts,
    applyInventoryResult Small.hub.db Small.session { records := [Small.line, Small.secondLine] } [] =
        .next (a, verdicts) ∧
      ∀ (i : Nat) (v : RecordVerdict), verdicts[i]? = some v → (v.Duplicate ↔
        Small.hub.db.imported (recordKey 1 v.record) = true ∨ AcceptedBefore verdicts i v.record) := by
  have shown : (applyInventoryResult Small.hub.db Small.session { records := [Small.line, Small.secondLine] }
      []).result?.isSome = true := by decide +kernel
  obtain ⟨⟨a, verdicts⟩, applied⟩ := Option.isSome_iff_exists.mp shown
  have completes := Outcome.result?_eq applied
  refine ⟨a, verdicts, completes, (duplicates_were_imported_iff completes).mpr ?_⟩
  have passes : ∀ r ∈ [Small.line, Small.secondLine], (mappingsFor Small.hub.db 1 r).isSome = true := by
    decide +kernel
  intro i j r q _ here _ _ _ _
  exact passes r (List.mem_of_getElem? here)

/-- The second row corrects the factor of the first, and is rejected as imported already. -/
theorem corrected_row_is_duplicate : ∃ a verdicts v,
    applyInventoryResult Small.hub.db Small.session { records := [Small.wrongLine, Small.secondLine] } [] =
        .next (a, verdicts) ∧
      verdicts[1]? = some v ∧ v.Duplicate ∧ Small.hub.db.imported (recordKey 1 v.record) = false ∧
        ¬ AcceptedBefore verdicts 1 v.record := by
  have shown : (applyInventoryResult Small.hub.db Small.session { records := [Small.wrongLine, Small.secondLine] }
      []).result?.any (fun p => p.2.map (fun v => (v.record, v.error.map ImportJobError.errorCode)) =
        [(Small.wrongLine, some "unit_conversion_mismatch"), (Small.secondLine, some "duplicate_source_record")]) =
          true := by decide +kernel
  obtain ⟨⟨a, verdicts⟩, applied, shown⟩ := (Option.any_eq_true _ _).mp shown
  have codes := of_decide_eq_true shown
  cases verdicts with
  | nil => contradiction
  | cons u rest =>
    cases rest with
    | nil => simp at codes
    | cons v rest =>
      simp only [List.map_cons, List.cons.injEq, Prod.mk.injEq] at codes
      obtain ⟨⟨first, wrong⟩, ⟨second, duplicate⟩, -⟩ := codes
      obtain ⟨e, rejected, -⟩ := Option.map_eq_some_iff.mp wrong
      refine ⟨a, u :: v :: rest, v, Outcome.result?_eq applied, rfl, Option.map_eq_some_iff.mp duplicate, ?_, ?_⟩
      · rw [second]
        decide +kernel
      · rintro ⟨j, early, w, found, accepted, -⟩
        obtain rfl : j = 0 := by omega
        obtain rfl := Option.some.inj found
        rw [rejected] at accepted
        contradiction

end SupplyChainHub
