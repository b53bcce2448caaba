import Mathlib.Data.Finset.Card
import Mathlib.Data.Finset.Image
import SupplyChainHub.Imports.Fencing

/-!
A finished job's counters against its rows. The counters come from one execution, the rows add up over
all of them; the two agree as long as no execution completes over another's rows.
-/

namespace SupplyChainHub

/-! ### Rejected rows -/

section
variable {es more : List ImportJobError}

def rowsOf (es : List ImportJobError) : Finset (Option Nat) := (es.map (·.sourceRow)).toFinset

theorem mem_rowsOf {row : Option Nat} : row ∈ rowsOf es ↔ ∃ e ∈ es, e.sourceRow = row := by
  simp [rowsOf]

theorem rowsOf_subset : rowsOf es ⊆ rowsOf more ↔ ∀ e ∈ es, ∃ known ∈ more, known.sourceRow = e.sourceRow := by
  constructor
  · intro fewer e present
    exact mem_rowsOf.mp (fewer (mem_rowsOf.mpr ⟨e, present, rfl⟩))
  · intro all row member
    obtain ⟨e, present, rfl⟩ := mem_rowsOf.mp member
    exact mem_rowsOf.mpr (all e present)

theorem rowsOf_mono (fewer : es ⊆ more) : rowsOf es ⊆ rowsOf more :=
  rowsOf_subset.mpr fun e present => ⟨e, fewer present, rfl⟩

theorem rowsOf_append : rowsOf (es ++ more) = rowsOf es ∪ rowsOf more := by
  rw [rowsOf, List.map_append, List.toFinset_append]
  rfl

theorem rejectedRecords_card (es : List ImportJobError) : rejectedRecords es = (rowsOf es).card := by
  have parts : rowsOf es = (es.filterMap (·.sourceRow)).toFinset.map Function.Embedding.some ∪
      if es.any (·.sourceRow.isNone) then {none} else ∅ := by
    ext row
    rw [mem_rowsOf, Finset.mem_union]
    cases row with
    | none =>
      simp only [Finset.mem_map, Function.Embedding.some_apply, reduceCtorEq, and_false, exists_false, false_or]
      split
      · rename_i some_
        obtain ⟨e, present, none⟩ := List.any_eq_true.mp some_
        exact iff_of_true ⟨e, present, Option.isNone_iff_eq_none.mp none⟩ (Finset.mem_singleton_self _)
      · rename_i all
        refine iff_of_false ?_ (Finset.notMem_empty _)
        rintro ⟨e, present, none⟩
        exact all (List.any_eq_true.mpr ⟨e, present, Option.isNone_iff_eq_none.mpr none⟩)
    | some n =>
      have named : some n ∈ (if es.any (·.sourceRow.isNone) then {none} else ∅ : Finset (Option Nat)) ↔ False := by
        split <;> simp
      rw [named, or_false]
      simp
  have apart : Disjoint ((es.filterMap (·.sourceRow)).toFinset.map Function.Embedding.some)
      (if es.any (·.sourceRow.isNone) then {none} else ∅) := by
    split <;> simp
  rw [parts, Finset.card_union_of_disjoint apart, Finset.card_map, List.card_toFinset, rejectedRecords]
  split <;> rfl

theorem rejectedRecords_mono (fewer : rowsOf es ⊆ rowsOf more) : rejectedRecords es ≤ rejectedRecords more := by
  rw [rejectedRecords_card, rejectedRecords_card]
  exact Finset.card_le_card fewer

theorem rejectedRecords_eq (fewer : rowsOf es ⊆ rowsOf more) :
    rejectedRecords es = rejectedRecords more ↔ rowsOf more ⊆ rowsOf es := by
  rw [rejectedRecords_card, rejectedRecords_card]
  constructor
  · intro same
    exact (Finset.eq_of_subset_of_card_le fewer same.ge).ge
  · intro covered
    rw [fewer.antisymm covered]

theorem rejectedRecords_append {others : List ImportJobError} (fewer : rowsOf es ⊆ rowsOf (more ++ others)) :
    rejectedRecords es = rejectedRecords (more ++ others) ↔
      (∀ e ∈ more, ∃ known ∈ es, known.sourceRow = e.sourceRow) ∧
      ∀ e ∈ others, ∃ known ∈ es, known.sourceRow = e.sourceRow := by
  rw [rejectedRecords_eq fewer, rowsOf_append, Finset.union_subset_iff, rowsOf_subset, rowsOf_subset]

theorem rejectedRecords_zero : rejectedRecords es = 0 ↔ es = [] := by
  rw [rejectedRecords_card, Finset.card_eq_zero, rowsOf, List.toFinset_eq_empty_iff, List.map_eq_nil_iff]

end

/-! ### Counters -/

structure Counted (db : Database) (job : ImportJob) : Prop where
  accepted : job.acceptedRecords = (db.snapshotsOf job.id).length
  rejected : job.rejectedRecords = rejectedRecords (db.errorsOf job.id)
  total : job.totalRecords = job.acceptedRecords + job.rejectedRecords

/-- What a session remembers of its job's counters, which only grow. -/
structure Remembered (db : Database) (w : WorkerSession) : Prop where
  accepted : w.job.acceptedRecords ≤ (db.snapshotsOf w.job.id).length
  rejected : w.job.rejectedRecords ≤ rejectedRecords (db.errorsOf w.job.id)
  total : w.job.totalRecords = w.job.acceptedRecords + w.job.rejectedRecords

def ImportJob.finished (job : ImportJob) : Prop :=
  job.status = .completed ∨ job.status = .completedWithErrors

structure Hub.Lineage (hub : Hub) : Prop where
  jobs : ∀ id job, hub.db.job id = some job → Counted hub.db job
  orphans : ∀ id, hub.db.job id = none → hub.db.snapshotsOf id = [] ∧ hub.db.errorsOf id = []
  status : ∀ id job, hub.db.job id = some job → job.finished →
    (job.status = .completed ↔ job.rejectedRecords = 0)
  sessions : ∀ (d : Nat) x w, hub.deliveries[d]? = some x → x.session? = some w → Remembered hub.db w
  loaded : ∀ (d : Nat) x a, hub.deliveries[d]? = some x → x.transaction? = some a →
    ∀ e ∈ a.loadedErrors.getD [], e ∈ hub.db.errorsOf a.job.id
  closing : ∀ (d : Nat) a rejected, hub.deliveries[d]? = some (.closing a rejected) →
    rejected = rejectedRecords a.jobErrors

/-- A completing commit finds no snapshot of its job and knows every rejected row; or it has nothing to
add to what the job's row said when it was claimed and the error rows say now. -/
def Covers (hub : Hub) : Label → Prop
  | .complete d _ => ∀ a rejected, hub.deliveries[d]? = some (.closing a rejected) →
    (hub.db.snapshotsOf a.job.id = [] ∧
      ∀ e ∈ hub.db.errorsOf a.job.id, ∃ known ∈ a.jobErrors, known.sourceRow = e.sourceRow) ∨
    (a.snapshots = [] ∧ a.job.acceptedRecords = 0 ∧
      rejectedRecords a.jobErrors = a.job.rejectedRecords ∧
      (∀ e ∈ a.newErrors, ∃ known ∈ hub.db.errorsOf a.job.id, known.sourceRow = e.sourceRow) ∧
      (a.jobErrors = [] ↔ hub.db.errorsOf a.job.id = []))
  | _ => True

section
variable {env : Env} {hub next : Hub} {l : Label} {db after : Database} {id : Id} {d : Nat}
    {job row : ImportJob} {a : Applying}

theorem snapshotsOf_owned (same : after.snapshots = db.snapshots ++ a.snapshots) :
    after.snapshotsOf id = db.snapshotsOf id ++ if a.job.id = id then a.snapshots else [] := by
  rw [Database.snapshotsOf, Database.snapshotsOf, same, List.filter_append]
  congr 1
  split
  · rename_i mine
    exact List.filter_eq_self.mpr fun s member => decide_eq_true ((a.owned s member).trans mine)
  · rename_i other
    exact List.filter_eq_nil_iff.mpr fun s member => by simpa [a.owned s member] using other

theorem errorsOf_owned (same : after.errors = db.errors ++ a.newErrors) :
    after.errorsOf id = db.errorsOf id ++ if a.job.id = id then a.newErrors else [] := by
  rw [Database.errorsOf, Database.errorsOf, same, List.filter_append]
  congr 1
  split
  · rename_i mine
    exact List.filter_eq_self.mpr fun e member => decide_eq_true ((a.errorsOwned e member).trans mine)
  · rename_i other
    exact List.filter_eq_nil_iff.mpr fun e member => by simpa [a.errorsOwned e member] using other

theorem effect_grows (ledger : Ledger hub.db) (effect : Effect env hub next l) (id : Id) :
    hub.db.snapshotsOf id <+: next.db.snapshotsOf id ∧ hub.db.errorsOf id <+: next.db.errorsOf id := by
  cases effect_lineage ledger effect with
  | kept errors snapshots =>
    rw [Database.snapshotsOf, Database.snapshotsOf, Database.errorsOf, Database.errorsOf, errors, snapshots]
    exact ⟨List.prefix_rfl, List.prefix_rfl⟩
  | completed _ _ errors snapshots =>
    rw [snapshotsOf_owned snapshots, errorsOf_owned errors]
    exact ⟨List.prefix_append _ _, List.prefix_append _ _⟩

theorem rejectedRecords_grown {es more : List ImportJobError} (grown : es <+: more) :
    rejectedRecords es ≤ rejectedRecords more := by
  exact rejectedRecords_mono (rowsOf_mono grown.subset)

/-! ### Completing -/

/-- The completed row agrees with the tables exactly when the commit covers them. -/
theorem complete_counted_iff {rejected : Nat} (now : Timestamp) (counted : Counted db job)
    (owner : a.job.id = job.id) (remembered : Remembered db a.toWorkerSession)
    (loaded : ∀ e ∈ a.loadedErrors.getD [], e ∈ db.errorsOf a.job.id)
    (known : rejected = rejectedRecords a.jobErrors)
    (snapshots : after.snapshotsOf job.id = db.snapshotsOf job.id ++ a.snapshots)
    (errors : after.errorsOf job.id = db.errorsOf job.id ++ a.newErrors) :
    (Counted after (a.job.writeBack (completedJob a rejected now) job) ∧
      (rejected = 0 ↔ (a.job.writeBack (completedJob a rejected now) job).rejectedRecords = 0)) ↔
    ((db.snapshotsOf a.job.id = [] ∧
        ∀ e ∈ db.errorsOf a.job.id, ∃ known ∈ a.jobErrors, known.sourceRow = e.sourceRow) ∨
      (a.snapshots = [] ∧ a.job.acceptedRecords = 0 ∧
        rejectedRecords a.jobErrors = a.job.rejectedRecords ∧
        (∀ e ∈ a.newErrors, ∃ known ∈ db.errorsOf a.job.id, known.sourceRow = e.sourceRow) ∧
        (a.jobErrors = [] ↔ db.errorsOf a.job.id = []))) := by
  have mine := counted.accepted
  have spoiled := counted.rejected
  have sum := counted.total
  have accepted := remembered.accepted
  have rejectedThen := remembered.rejected
  have sumThen := remembered.total
  rw [owner] at accepted rejectedThen
  have number := a.counted
  -- The session's errors are among those the table will hold, and so are the table's own.
  have inside : rowsOf a.jobErrors ⊆ rowsOf (db.errorsOf job.id ++ a.newErrors) := by
    refine rowsOf_mono (List.append_subset.mpr ⟨?_, List.subset_append_right _ _⟩)
    rw [owner] at loaded
    exact fun e old => List.mem_append_left _ (loaded e old)
  have below : rowsOf (db.errorsOf job.id) ⊆ rowsOf (db.errorsOf job.id ++ a.newErrors) :=
    rowsOf_mono (List.subset_append_left _ _)
  have least := rejectedRecords_mono inside
  have most := rejectedRecords_mono below
  have covered : (∀ e ∈ db.errorsOf job.id, ∃ known ∈ a.jobErrors, known.sourceRow = e.sourceRow) ↔
      rejectedRecords a.jobErrors = rejectedRecords (db.errorsOf job.id ++ a.newErrors) := by
    rw [rejectedRecords_append inside]
    exact (and_iff_left fun e new => ⟨e, List.mem_append_right _ new, rfl⟩).symm
  have repeated : (∀ e ∈ a.newErrors, ∃ known ∈ db.errorsOf job.id, known.sourceRow = e.sourceRow) ↔
      rejectedRecords (db.errorsOf job.id) = rejectedRecords (db.errorsOf job.id ++ a.newErrors) := by
    rw [rejectedRecords_append below]
    exact (and_iff_right fun e old => ⟨e, old, rfl⟩).symm
  have counters (row : ImportJob) (same : row.id = job.id) : Counted after row ↔
      row.acceptedRecords = (db.snapshotsOf job.id).length + a.snapshots.length ∧
        row.rejectedRecords = rejectedRecords (db.errorsOf job.id ++ a.newErrors) ∧
        row.totalRecords = row.acceptedRecords + row.rejectedRecords := by
    rw [← errors, ← List.length_append, ← snapshots, ← same]
    exact ⟨fun h => ⟨h.accepted, h.rejected, h.total⟩, fun h => ⟨h.1, h.2.1, h.2.2⟩⟩
  have acceptedRow : (a.job.writeBack (completedJob a rejected now) job).acceptedRecords =
    Columns.writeBack a.job.acceptedRecords a.accepted job.acceptedRecords := rfl
  have rejectedRow : (a.job.writeBack (completedJob a rejected now) job).rejectedRecords =
    Columns.writeBack a.job.rejectedRecords rejected job.rejectedRecords := rfl
  have totalRow : (a.job.writeBack (completedJob a rejected now) job).totalRecords =
    Columns.writeBack a.job.totalRecords (a.accepted + rejected) job.totalRecords := rfl
  rw [← known] at least
  rw [counters (a.job.writeBack (completedJob a rejected now) job) rfl, acceptedRow, rejectedRow, totalRow,
    owner, covered, repeated, ← rejectedRecords_zero, ← rejectedRecords_zero, ← List.length_eq_zero_iff,
    ← List.length_eq_zero_iff, ← known, ← number]
  simp only [Columns.writeBack, sumThen, sum, mine, spoiled]
  split <;> split <;> split <;> omega

/-! ### One step -/

def Hub.Commits (hub : Hub) (l : Label) (a : Applying) (rejected : Nat) (now : Timestamp) : Prop :=
  ∃ d, l = .complete d now ∧ hub.deliveries[d]? = some (.closing a rejected)

theorem JobChange.counters (change : JobChange env hub job l row) (idle : ∀ a r t, ¬hub.Commits l a r t) :
    (row.id = job.id ∧ row.acceptedRecords = job.acceptedRecords ∧
      row.rejectedRecords = job.rejectedRecords ∧ row.totalRecords = job.totalRecords) ∧
    (row.finished → row.status = job.status) := by
  cases change with
  | kept => exact ⟨⟨rfl, rfl, rfl, rfl⟩, fun _ => rfl⟩
  | dispatched => exact ⟨⟨rfl, rfl, rfl, rfl⟩, fun _ => rfl⟩
  | claimed =>
    refine ⟨⟨rfl, rfl, rfl, rfl⟩, ?_⟩
    rintro (done | done) <;> contradiction
  | completed closing => exact absurd ⟨_, rfl, closing⟩ (idle _ _ _)
  | @reported d now r attemptCount =>
    have status := (failedJob_row env.settings { job with attemptCount } r.error now).2.2.2.2.2
    refine ⟨?_, ?_⟩
    · unfold failedJob
      dsimp only
      split <;> exact ⟨rfl, rfl, rfl, rfl⟩
    · unfold ImportJob.finished
      rw [status]
      split <;> simp
  | @recovered locked now =>
    have status := (recoveredJob_row now job).2.2.2.2.2
    refine ⟨?_, ?_⟩
    · unfold recoveredJob
      dsimp only
      split <;> exact ⟨rfl, rfl, rfl, rfl⟩
    · unfold ImportJob.finished
      rw [status]
      split <;> simp

theorem Counted.congr (counted : Counted db job)
    (same : row.id = job.id ∧ row.acceptedRecords = job.acceptedRecords ∧
      row.rejectedRecords = job.rejectedRecords ∧ row.totalRecords = job.totalRecords)
    (snapshots : after.snapshotsOf job.id = db.snapshotsOf job.id)
    (errors : after.errorsOf job.id = db.errorsOf job.id) : Counted after row := by
  obtain ⟨owner, accepted, rejected, total⟩ := same
  refine ⟨?_, ?_, ?_⟩
  · rw [owner, accepted, snapshots]
    exact counted.accepted
  · rw [owner, rejected, errors]
    exact counted.rejected
  · rw [accepted, rejected, total]
    exact counted.total

theorem idle_rows (ledger : Ledger hub.db) (effect : Effect env hub next l)
    (idle : ∀ a r t, ¬hub.Commits l a r t) (id : Id) :
    next.db.snapshotsOf id = hub.db.snapshotsOf id ∧ next.db.errorsOf id = hub.db.errorsOf id := by
  cases effect_lineage ledger effect with
  | kept errors snapshots =>
    rw [Database.snapshotsOf, Database.snapshotsOf, Database.errorsOf, Database.errorsOf, errors, snapshots]
    exact ⟨rfl, rfl⟩
  | completed closing => exact absurd ⟨_, rfl, closing⟩ (idle _ _ _)

theorem loadErrors_known (known : ∀ e ∈ a.loadedErrors.getD [], e ∈ db.errorsOf a.job.id) :
    ∀ e ∈ a.loadedErrors.getD (db.errorsOf a.job.id), e ∈ db.errorsOf a.job.id := by
  cases loaded : a.loadedErrors with
  | none => exact fun e member => member
  | some es =>
    rw [loaded] at known
    exact known

theorem start_loaded {w : WorkerSession} {result : InventoryAdapterResult} {events : List OperationEvent} :
    ∀ e ∈ (Applying.start db w result events).loadedErrors.getD [], e ∈ db.errorsOf w.job.id := by
  have opened : (Applying.start db w result events).job = w.job ∧
      ∀ e ∈ (Applying.start db w result events).loadedErrors.getD [],
        e ∈ db.errorsOf (Applying.start db w result events).job.id := by
    apply Applying.start_invariant (P := fun a => a.job = w.job ∧
      ∀ e ∈ a.loadedErrors.getD [], e ∈ db.errorsOf a.job.id)
    · rintro a error ⟨owner, known⟩
      exact ⟨owner, loadErrors_known known⟩
    · exact ⟨rfl, by simp⟩
  rw [← opened.1]
  exact opened.2

theorem loaded_step (before : ∀ (d : Nat) x a, hub.deliveries[d]? = some x → x.transaction? = some a →
      ∀ e ∈ a.loadedErrors.getD [], e ∈ hub.db.errorsOf a.job.id)
    (ledger : Ledger hub.db) (effect : Effect env hub next l)
    {y : Delivery} (found : next.deliveries[d]? = some y) (opened : y.transaction? = some a) :
    ∀ e ∈ a.loadedErrors.getD [], e ∈ next.db.errorsOf a.job.id := by
  have grown := fun id => (effect_grows ledger effect id).2.subset
  cases effect_transaction effect found opened with
  | kept present open_ =>
    intro e member
    exact grown _ (before d _ a present open_ e member)
  | @started w result events =>
    intro e member
    have session := (start_work hub.db w result events).1
    rw [congrArg (fun w : WorkerSession => w.job.id) session]
    exact grown _ (start_loaded e member)
  | @recorded b _ record rest applying statement =>
    have known := before d _ b applying rfl
    have same : a.job.id = b.job.id := congrArg (fun w : WorkerSession => w.job.id) statement.session
    cases statement with
    | searched work =>
      intro e member
      rw [same]
      rw [work.loadedErrors] at member
      exact grown _ (known e member)
    | rejected => exact fun e member => grown _ (loadErrors_known known e member)
    | flushed _ _ _ loaded =>
      intro e member
      rw [same]
      rw [loaded] at member
      exact grown _ (known e member)
  | @summarised b applying =>
    have known := before d _ b applying rfl
    exact fun e member => grown _ (loadErrors_known known e member)

theorem remembered_step (lineage : hub.Lineage) (ledger : Ledger hub.db) (effect : Effect env hub next l)
    {y : Delivery} {w : WorkerSession} (found : next.deliveries[d]? = some y) (holds : y.session? = some w) :
    Remembered next.db w := by
  obtain ⟨snapshots, errors⟩ := effect_grows ledger effect w.job.id
  have grown (old : Remembered hub.db w) : Remembered next.db w :=
    ⟨old.accepted.trans snapshots.length_le, old.rejected.trans (rejectedRecords_grown errors), old.total⟩
  rcases effect_session effect found holds with ⟨x, present, before⟩ | ⟨jobId, workerId, task, now, claim⟩
  · exact grown (lineage.sessions d x w present before)
  · obtain ⟨job, known, -, -, -, rfl, -⟩ := claim_ok claim
    have counted := lineage.jobs jobId job known
    exact grown ⟨counted.accepted.le, counted.rejected.le, counted.total⟩

/-- What the summary makes of a transaction, it has until its commit. -/
theorem closing_step {Q : Applying → Nat → Prop}
    (summarised : ∀ db a, Q (Applying.loadErrors db a) (rejectedRecords (Applying.loadErrors db a).jobErrors))
    (before : ∀ (d : Nat) a rejected, hub.deliveries[d]? = some (.closing a rejected) → Q a rejected)
    (effect : Effect env hub next l) {rejected : Nat} (found : next.deliveries[d]? = some (.closing a rejected)) :
    Q a rejected := by
  generalize closing : Delivery.closing a rejected = y at found
  cases effect_delivery effect found with
  | kept present =>
    subst closing
    exact before d a rejected present
  | advanced present advance =>
    cases advance with
    | summarised =>
      cases closing
      exact summarised _ _
    | _ => contradiction
  | _ => contradiction

theorem commit_rows {rejected : Nat} {now : Timestamp} (reached : Hub.Reachable env hub)
    (closing : hub.deliveries[d]? = some (.closing a rejected))
    (h : Hub.step env hub (.complete d now) = some next) (present : hub.db.job id = some job) :
    next.db.job id =
        some (if id = a.job.id then a.job.writeBack (completedJob a rejected now) job else job) ∧
      next.db.snapshotsOf id = hub.db.snapshotsOf id ++ (if a.job.id = id then a.snapshots else []) ∧
      next.db.errorsOf id = hub.db.errorsOf id ++ if a.job.id = id then a.newErrors else [] := by
  have db := complete_commits reached closing h
  refine ⟨job_modify present (congrArg Database.jobs db) fun _ same => same, ?_, ?_⟩
  · exact snapshotsOf_owned (congrArg Database.snapshots db)
  · exact errorsOf_owned (congrArg Database.errors db)

theorem completed_status {rejected : Nat} {now : Timestamp} :
    (a.job.writeBack (completedJob a rejected now) job).status = .completed ↔ rejected = 0 := by
  rw [complete_row]
  dsimp only
  split <;> simp_all

theorem row_inserted (ledger : Ledger hub.db) (lineage : hub.Lineage) (effect : Effect env hub next l)
    (absent : hub.db.job id = none) (found : next.db.job id = some row) :
    Counted next.db row ∧ (row.finished → (row.status = .completed ↔ row.rejectedRecords = 0)) := by
  obtain ⟨call, now, request, supplierId, objectKey, rfl, rfl⟩ := effect_job_new ledger effect absent found
  have idle : ∀ a r t, ¬hub.Commits (.insert call id now) a r t := fun _ _ _ ⟨_, same, _⟩ => nomatch same
  obtain ⟨snapshots, errors⟩ := idle_rows ledger effect idle id
  obtain ⟨noSnapshots, noErrors⟩ := lineage.orphans id absent
  rw [noSnapshots] at snapshots
  rw [noErrors] at errors
  refine ⟨⟨?_, ?_, rfl⟩, fun done => ?_⟩
  · show 0 = (next.db.snapshotsOf id).length
    rw [snapshots]
    rfl
  · show 0 = rejectedRecords (next.db.errorsOf id)
    rw [errors]
    rfl
  · rcases done with done | done <;> contradiction

/-- Where neither the counters nor the rows they count change, the report still agrees. -/
theorem row_kept (lineage : hub.Lineage) (present : hub.db.job id = some job)
    (same : row.id = job.id ∧ row.acceptedRecords = job.acceptedRecords ∧
      row.rejectedRecords = job.rejectedRecords ∧ row.totalRecords = job.totalRecords)
    (status : row.finished → row.status = job.status)
    (snapshots : next.db.snapshotsOf id = hub.db.snapshotsOf id)
    (errors : next.db.errorsOf id = hub.db.errorsOf id) :
    Counted next.db row ∧ (row.finished → (row.status = .completed ↔ row.rejectedRecords = 0)) := by
  rw [← job_id present] at snapshots errors
  refine ⟨(lineage.jobs id job present).congr same snapshots errors, fun done => ?_⟩
  have kept := status done
  rw [kept, same.2.2.1]
  apply lineage.status id job present
  unfold ImportJob.finished at done ⊢
  rwa [← kept]

theorem row_step (reached : Hub.Reachable env hub) (lineage : hub.Lineage) (met : Covers hub l)
    (h : Hub.step env hub l = some next) (found : next.db.job id = some row) :
    Counted next.db row ∧ (row.finished → (row.status = .completed ↔ row.rejectedRecords = 0)) := by
  have ledger := reachable_ledger reached
  have effect := step_effect h
  cases present : hub.db.job id with
  | none => exact row_inserted ledger lineage effect present found
  | some job =>
    by_cases commit : ∃ a r t, hub.Commits l a r t
    · obtain ⟨a, rejected, now, d, rfl, closing⟩ := commit
      obtain ⟨updated, snapshots, errors⟩ := commit_rows reached closing h present
      rw [found] at updated
      by_cases mine : id = a.job.id
      · rw [if_pos mine] at updated
        rw [if_pos mine.symm] at snapshots errors
        obtain rfl := Option.some.inj updated
        have owner : job.id = id := job_id present
        have session := lineage.sessions d _ _ closing rfl
        have loaded := lineage.loaded d _ a closing rfl
        have known := lineage.closing d a rejected closing
        rw [← owner] at snapshots errors
        obtain ⟨counted, zero⟩ := (complete_counted_iff now (lineage.jobs id job present)
          (mine.symm.trans owner.symm) session loaded known snapshots errors).mpr (met a rejected closing)
        exact ⟨counted, fun _ => completed_status.trans zero⟩
      · rw [if_neg mine] at updated
        rw [if_neg (Ne.symm mine), List.append_nil] at snapshots errors
        obtain rfl := Option.some.inj updated
        exact row_kept lineage present ⟨rfl, rfl, rfl, rfl⟩ (fun _ => rfl) snapshots errors
    · have idle : ∀ a r t, ¬hub.Commits l a r t := fun a r t c => commit ⟨a, r, t, c⟩
      obtain ⟨row', updated, change⟩ := effect_job ledger effect present
      obtain rfl := Option.some.inj (updated.symm.trans found)
      obtain ⟨same, status⟩ := change.counters idle
      obtain ⟨snapshots, errors⟩ := idle_rows ledger effect idle id
      exact row_kept lineage present same status snapshots errors

theorem orphans_step (reached : Hub.Reachable env hub) (lineage : hub.Lineage)
    (h : Hub.step env hub l = some next) (absent : next.db.job id = none) :
    next.db.snapshotsOf id = [] ∧ next.db.errorsOf id = [] := by
  have ledger := reachable_ledger reached
  have effect := step_effect h
  have before : hub.db.job id = none := by
    by_contra present
    obtain ⟨job, known⟩ := Option.ne_none_iff_exists'.mp present
    obtain ⟨row, updated, -⟩ := effect_job ledger effect known
    rw [absent] at updated
    contradiction
  obtain ⟨noSnapshots, noErrors⟩ := lineage.orphans id before
  cases effect_lineage ledger effect with
  | kept errors snapshots =>
    rw [Database.snapshotsOf, Database.errorsOf, errors, snapshots]
    exact ⟨noSnapshots, noErrors⟩
  | @completed d now a rejected closing _ errors snapshots =>
    have other : a.job.id ≠ id := by
      rintro rfl
      obtain ⟨job, known, -⟩ := held_numbered reached d _ _ _ closing rfl
      rw [before] at known
      contradiction
    rw [snapshotsOf_owned snapshots, errorsOf_owned errors, if_neg other, if_neg other, noSnapshots, noErrors]
    exact ⟨rfl, rfl⟩

theorem lineage_step (reached : Hub.Reachable env hub) (lineage : hub.Lineage) (met : Covers hub l)
    (h : Hub.step env hub l = some next) : next.Lineage := by
  have ledger := reachable_ledger reached
  have effect := step_effect h
  exact {
    jobs := fun id row found => (row_step reached lineage met h found).1
    orphans := fun id absent => orphans_step reached lineage h absent
    status := fun id row found => (row_step reached lineage met h found).2
    sessions := fun d y w found holds => remembered_step lineage ledger effect found holds
    loaded := fun d y a found opened => loaded_step lineage.loaded ledger effect found opened
    closing := fun d a rejected found => closing_step (fun _ _ => rfl) lineage.closing effect found }

theorem initial_lineage (begins : Hub.Initial hub) : hub.Lineage := by
  have none (d : Nat) (x : Delivery) : hub.deliveries[d]? ≠ some x := by
    rw [begins.deliveries]
    exact nofun
  have absent (id : Id) : hub.db.job id = Option.none := by
    rw [Database.job, begins.jobs]
    rfl
  refine ⟨?_, ?_, ?_, ?_, ?_, ?_⟩
  · intro id job present
    rw [absent] at present
    contradiction
  · intro id _
    rw [Database.snapshotsOf, Database.errorsOf, begins.snapshots, begins.errors]
    exact ⟨rfl, rfl⟩
  · intro id job present
    rw [absent] at present
    contradiction
  · exact fun d x _ found => absurd found (none d x)
  · exact fun d x _ found => absurd found (none d x)
  · exact fun d _ _ found => absurd found (none d _)

/-! ### Whole runs -/

/-- Every finished job's counters and status agree with its rows. -/
def Hub.Consistent (hub : Hub) : Prop :=
  ∀ id job, hub.db.job id = some job → job.finished →
    job.acceptedRecords = (hub.db.snapshotsOf id).length ∧
      job.rejectedRecords = rejectedRecords (hub.db.errorsOf id) ∧
      job.totalRecords = job.acceptedRecords + job.rejectedRecords ∧
      (job.status = .completed ↔ job.rejectedRecords = 0)

theorem Hub.Lineage.consistent (lineage : hub.Lineage) : hub.Consistent := by
  intro id job present done
  have counted := lineage.jobs id job present
  have owner : job.id = id := job_id present
  refine ⟨?_, ?_, counted.total, lineage.status id job present done⟩
  · rw [← owner]
    exact counted.accepted
  · rw [← owner]
    exact counted.rejected

def StaysConsistent (env : Env) (hub : Hub) (l : Label) : Prop :=
  ∀ next, Hub.step env hub l = some next → next.Consistent

theorem covers_of_consistent (reached : Hub.Reachable env hub) (lineage : hub.Lineage)
    (h : Hub.step env hub l = some next) (consistent : next.Consistent) : Covers hub l := by
  cases l with
  | complete d now =>
    intro a rejected closing
    obtain ⟨job, present, -⟩ := held_numbered reached d _ _ _ closing rfl
    have owner : job.id = a.job.id := job_id present
    obtain ⟨updated, snapshots, errors⟩ := commit_rows reached closing h present
    rw [if_pos rfl] at updated snapshots errors
    have done : (a.job.writeBack (completedJob a rejected now) job).finished := by
      unfold ImportJob.finished
      rw [complete_row]
      dsimp only
      split <;> simp
    obtain ⟨accepted, spoiled, total, status⟩ := consistent _ _ updated done
    rw [← owner] at accepted spoiled snapshots errors
    refine (complete_counted_iff now (lineage.jobs _ job present) owner.symm (lineage.sessions d _ _ closing rfl)
      (lineage.loaded d _ a closing rfl) (lineage.closing d a rejected closing) snapshots errors).mp ?_
    exact ⟨⟨accepted, spoiled, total⟩, completed_status.symm.trans status⟩
  | _ => exact trivial

theorem covers_run {start : Hub} (begins : Hub.Initial start) (run : Hub.Run env Covers start hub) :
    hub.Lineage :=
  run.invariant_reachable (fun _ _ _ reached lineage met step => lineage_step reached lineage met step)
    (.start begins) (initial_lineage begins)

/-- Along a run whose completing commits cover their rows every finished job agrees with its lineage, and
a run along which every finished job does is such a run. -/
theorem finished_jobs_agree {start : Hub} (begins : Hub.Initial start) :
    (Hub.Run env Covers start hub → hub.Consistent) ∧
      (Hub.Run env (StaysConsistent env) start hub → Hub.Run env Covers start hub) := by
  constructor
  · intro run
    exact (covers_run begins run).consistent
  · intro run
    refine run.strengthen (fun _ covered => covers_run begins covered) ?_ (.start begins)
    intro s l t reached lineage stays step
    exact covers_of_consistent reached lineage step (stays t step)

end

namespace Small

def isCompletion : Label → Bool
  | .complete _ _ => true
  | _ => false

theorem covers_open {hub : Hub} {l : Label} (opens : (!isCompletion l) = true) : Covers hub l := by
  cases l <;> first | exact trivial | cases opens

/-- An overtaken execution goes on with its line in between the other one's steps. -/
def bothExecute : List Label :=
  overtaken ++ [.record 0, .adapt 1 true (moment 401), .start 1, .record 1, .record 0, .record 1, .record 0, .record 1,
    .record 0, .record 1, .record 1, .summarise 1]

end Small

/-- The completing commit of the second execution finds nothing of the job's; the first one fails on its line. -/
theorem finished_jobs_agree_once : ∃ hub job, Hub.Run Small.env Covers Small.hub hub ∧
    hub.db.job 1 = some job ∧ job.status = .completed ∧ job.attemptCount = 2 ∧
    job.acceptedRecords = (hub.db.snapshotsOf 1).length := by
  have shown : (Machine.exec (Machine.checked (Hub.step Small.env) fun _ l => !Small.isCompletion l) Small.hub
      Small.bothExecute).any (fun before =>
        before.deliveries[1]?.any (fun x => x.transaction?.any fun a => decide (a.job.id = 1)) &&
        (before.db.snapshotsOf 1).isEmpty && (before.db.errorsOf 1).isEmpty &&
        (Hub.step Small.env before (.complete 1 (Small.moment 402))).any fun after =>
          (Hub.step Small.env after (.record 0)).any fun hub =>
            (hub.db.job 1).any fun job => job.status = .completed && job.attemptCount = 2) = true := by
    decide +kernel
  obtain ⟨before, steps, shown⟩ := (Option.any_eq_true _ _).mp shown
  simp only [Bool.and_eq_true, Option.any_eq_true, decide_eq_true_eq, List.isEmpty_iff] at shown
  obtain ⟨⟨⟨⟨x, present, a, opened, mine⟩, noSnapshots⟩, noErrors⟩, after, step, hub, step', job, known, completed,
    second⟩ := shown
  have quiet : Hub.Run Small.env Covers Small.hub before :=
    Machine.exec_run_checked (fun _ _ => Small.covers_open) steps
  have covers : Covers before (.complete 1 (Small.moment 402)) := by
    intro b rejected closing
    obtain rfl := Option.some.inj (present.symm.trans closing)
    obtain rfl := Option.some.inj opened
    rw [mine, noSnapshots, noErrors]
    exact .inl ⟨rfl, by simp⟩
  have run := (quiet.tail covers step).tail (Small.covers_open rfl) step'
  have agrees := (finished_jobs_agree Small.initial).1 run 1 job known (.inl completed)
  exact ⟨hub, job, run, known, completed, second, agrees.1⟩

/-- The worker of a completed job loses its connection, the job is queued again, and its second execution
meets the first one's snapshot as a duplicate: no record accepted, one snapshot. -/
theorem second_execution_disagrees : ∃ hub job, Hub.Reachable Small.env hub ∧ hub.db.job 1 = some job ∧
    job.status = .completedWithErrors ∧ job.acceptedRecords = 0 ∧ (hub.db.snapshotsOf 1).length = 1 := by
  obtain ⟨hub, -, reached, shown⟩ := Small.reaches
    (Small.submitted ++ Small.claimed 0 (Small.moment 1) ++ Small.applied 0 (Small.moment 1) ++
      Small.completed 0 (Small.moment 2) ++ Small.failed 0 (Small.moment 3) ++
      Small.claimed 1 (Small.moment 60) ++ [.adapt 1 true (Small.moment 60), .start 1, .record 1] ++
      Small.completed 1 (Small.moment 61))
    (fun hub => (hub.db.snapshotsOf 1).length = 1 &&
      (hub.db.job 1).any fun job => job.status = .completedWithErrors && job.acceptedRecords = 0)
    (by decide +kernel)
  simp only [Bool.and_eq_true, Option.any_eq_true, decide_eq_true_eq] at shown
  obtain ⟨single, job, known, status, accepted⟩ := shown
  exact ⟨hub, job, reached, known, status, accepted, single⟩

end SupplyChainHub
