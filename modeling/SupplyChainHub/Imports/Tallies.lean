import SupplyChainHub.Imports.Isolation
import SupplyChainHub.Imports.Lineage

/-!
Every row of a file counted once. A transaction stores or rejects each record it is through with, under the number
of its row, whatever the other workers do meanwhile; so the first execution of a job to complete accounts for every
row.
-/

namespace SupplyChainHub

/-! ### A delivery followed -/

/-- The delivery has got from the adapter what `adapted` says, and its open transaction has `P`. -/
def Delivery.Follows (session : WorkerSession) (adapted : Except Raised InventoryAdapterResult)
    (P : Applying → Prop) : Delivery → Prop
  | .received _ _ _ | .claimed _ => False
  | .adapted w result _ => w = session ∧ adapted = .ok result
  | .applying a => a.toWorkerSession = session ∧ P a
  | .closing a _ => a.toWorkerSession = session ∧ a.records = [] ∧ P a
  | .raised _ | .committed _ | .done => True

/-- What the statements of a transaction keep, and the steps in between. -/
structure Carried (env : Env) (guard : Hub → Label → Prop) (session : WorkerSession)
    (adapted : Except Raised InventoryAdapterResult) (P : Database → Applying → Prop) : Prop where
  started : ∀ result, adapted = .ok result → ∀ db events, P db (Applying.start db session result events)
  recorded : ∀ db locks a b record rest, a.toWorkerSession = session → a.records = record :: rest →
    RecordProgress db locks a record rest b → P db a → P db b
  summarised : ∀ db a, P db a → P db (a.loadErrors db)
  moved : ∀ hub l next a, Hub.Reachable env hub → guard hub l → Hub.step env hub l = some next →
    P hub.db a → P next.db a

/-- Delivery `d` gets what is made of `source`, and after a run of its own and others' steps its completion
commits, which leads from `hub` to `next`. -/
inductive Hub.Finishes (env : Env) (guard : Hub → Label → Prop) (d : Nat) (modelValidate : ModelValidate)
    (source : InventorySource) (session : WorkerSession) (hub next : Hub) : Prop where
  | intro {start begun : Hub} {adaptedAt completedAt : Timestamp} (reached : Hub.Reachable env start)
      (claimed : start.deliveries[d]? = some (.claimed session))
      (retained : adaptRetainedPayload env start.objects true session.job = source.adapt modelValidate)
      (adapts : Hub.step env start (.adapt d true adaptedAt) = some begun) (run : Hub.Run env guard begun hub)
      (completes : Hub.step env hub (.complete d completedAt) = some next)

section
variable {env : Env} {guard : Hub → Label → Prop} {start hub next : Hub} {l : Label} {d : Nat}
    {session : WorkerSession} {adapted : Except Raised InventoryAdapterResult} {P : Database → Applying → Prop}
    {x : Delivery} {modelValidate : ModelValidate} {source : InventorySource}

theorem Delivery.Follows.moved {P Q : Applying → Prop} (follows : x.Follows session adapted P)
    (imp : ∀ a, P a → Q a) : x.Follows session adapted Q := by
  cases x with
  | received | claimed => exact follows.elim
  | adapted => exact follows
  | applying a => exact ⟨follows.1, imp a follows.2⟩
  | closing a rejected => exact ⟨follows.1, follows.2.1, imp a follows.2.2⟩
  | raised | committed | done => trivial

theorem Advance.follows {y : Delivery} (carried : Carried env guard session adapted P)
    (advance : Advance hub d x y) (follows : x.Follows session adapted (P hub.db)) :
    y.Follows session adapted (P hub.db) := by
  cases advance with
  | adapted => exact follows.elim
  | started w result events =>
    obtain ⟨rfl, same⟩ := follows
    exact ⟨(start_work hub.db _ result events).1, carried.started result same hub.db events⟩
  | @recorded a b record rest records applied =>
    obtain ⟨own, holds⟩ := follows
    exact ⟨(record_statement applied).session.trans own,
      carried.recorded _ _ a b record rest own records (record_progress applied) holds⟩
  | @summarised a records =>
    obtain ⟨own, holds⟩ := follows
    exact ⟨own, records, carried.summarised hub.db a holds⟩
  | raised | done => trivial

theorem Carried.step (carried : Carried env guard session adapted P) (reached : Hub.Reachable env hub)
    (met : guard hub l) (h : Hub.step env hub l = some next) (present : hub.deliveries[d]? = some x)
    (follows : x.Follows session adapted (P hub.db)) :
    ∃ y, next.deliveries[d]? = some y ∧ y.Follows session adapted (P next.db) := by
  obtain ⟨y, found, move⟩ := effect_move (step_effect h) present
  refine ⟨y, found, ?_⟩
  have after : y.Follows session adapted (P hub.db) := by
    cases move with
    | kept => exact follows
    | advanced advance => exact advance.follows carried follows
    | claimed => exact follows.elim
    | committed | reported => trivial
  exact after.moved fun a holds => carried.moved hub l next a reached met h holds

theorem Carried.run (carried : Carried env guard session adapted P) (reached : Hub.Reachable env start)
    (run : Hub.Run env guard start hub) (present : start.deliveries[d]? = some x)
    (follows : x.Follows session adapted (P start.db)) :
    ∃ y, hub.deliveries[d]? = some y ∧ y.Follows session adapted (P hub.db) := by
  refine run.invariant_reachable
    (P := fun hub => ∃ y, hub.deliveries[d]? = some y ∧ y.Follows session adapted (P hub.db)) ?_ reached
    ⟨x, present, follows⟩
  rintro s l t reached ⟨y, present, follows⟩ met h
  exact carried.step reached met h present follows

theorem adapt_follows {now : Timestamp} {P : Applying → Prop}
    (claimed : start.deliveries[d]? = some (.claimed session))
    (h : Hub.step env start (.adapt d true now) = some next) :
    ∃ y, next.deliveries[d]? = some y ∧
      y.Follows session (adaptRetainedPayload env start.objects true session.job) P := by
  have inside : d < start.deliveries.length := (List.getElem?_eq_some_iff.mp claimed).1
  simp only [Hub.step, Hub.adapt, claimed] at h
  split at h
  · rename_i refused
    obtain ⟨r, raising, same⟩ := Option.map_eq_some_iff.mp h
    subst same
    refine ⟨_, List.getElem?_set_self inside, ?_⟩
    split <;> trivial
  · rename_i result adapted
    cases h
    exact ⟨_, List.getElem?_set_self inside, rfl, adapted⟩

/-- What a transaction carries, it has when its completion commits. -/
theorem Hub.Finishes.closing (finishes : Hub.Finishes env guard d modelValidate source session hub next)
    (carried : Carried env guard session (source.adapt modelValidate) P) :
    Hub.Reachable env hub ∧ ∃ a rejected now, hub.deliveries[d]? = some (.closing a rejected) ∧
      Hub.step env hub (.complete d now) = some next ∧ a.toWorkerSession = session ∧ a.records = [] ∧ P hub.db a := by
  obtain ⟨reached, claimed, retained, adapts, run, completes⟩ := finishes
  obtain ⟨x, present, follows⟩ := adapt_follows (P := P _) claimed adapts
  rw [retained] at follows
  obtain ⟨y, found, follows⟩ := carried.run (reached.step adapts) run present follows
  refine ⟨(reached.step adapts).run run, ?_⟩
  have closes := completes
  simp only [Hub.step, Hub.complete, found] at closes
  split at closes
  · rename_i a rejected closing
    obtain rfl := Option.some.inj closing
    obtain ⟨own, records, holds⟩ := follows
    exact ⟨a, rejected, _, found, completes, own, records, holds⟩
  · contradiction

end

/-! ### Rows stored and rejected -/

/-- Of the records a transaction is through with, each is stored or rejected, and its errors are the adapter's and
those of the rejected. -/
structure Tallied (result : InventoryAdapterResult) (done : List CanonicalInventoryRecord) (rejected : List Nat)
    (a : Applying) : Prop where
  split : result.records = done ++ a.records
  each : (a.snapshots.map (·.sourceRow) ++ rejected).Perm (done.map (·.sourceRow))
  errors : a.newErrors.map (·.sourceRow) = result.errors.map (·.sourceRow) ++ rejected.map some

/-- The row numbers that stored and rejected rows come under: an unread file is one error of no row. -/
def InventorySource.places (source : InventorySource) : Finset (Option Nat) :=
  if source.Readable then (source.rows.map some).toFinset else {none}

def storedPlaces (a : Applying) : Finset (Option Nat) := (a.snapshots.map fun s => some s.sourceRow).toFinset

section
variable {env : Env} {guard : Hub → Label → Prop} {db : Database} {locks : Locks} {a b : Applying}
    {result : InventoryAdapterResult} {done rest : List CanonicalInventoryRecord} {rejected : List Nat}
    {record : CanonicalInventoryRecord} {source : InventorySource} {modelValidate : ModelValidate}
    {session : WorkerSession}

theorem start_tallied (db : Database) (session : WorkerSession) (result : InventoryAdapterResult)
    (events : List OperationEvent) : Tallied result [] [] (Applying.start db session result events) := by
  obtain ⟨records, -, -, rows⟩ := start_begun db session result events
  obtain ⟨-, -, snapshots, -⟩ := start_work db session result events
  refine ⟨records.symm, ?_, rows.trans (List.append_nil _).symm⟩
  rw [snapshots]
  exact .nil

theorem Tallied.step (tallied : Tallied result done rejected a) (records : a.records = record :: rest)
    (progress : RecordProgress db locks a record rest b) : ∃ done rejected, Tallied result done rejected b := by
  have split : result.records = (done ++ [record]) ++ rest := by
    rw [tallied.split, records, List.append_assoc]
    rfl
  cases progress with
  | rejected error row =>
    refine ⟨done ++ [record], rejected ++ [record.sourceRow], split, ?_, ?_⟩
    · rw [← List.append_assoc, List.map_append]
      exact tallied.each.append_right _
    · show (a.newErrors ++ [_]).map ImportJobError.sourceRow = _
      rw [List.map_append, tallied.errors, List.map_append, List.append_assoc]
      simp [row]
  | unseen | product | warehouse | position =>
    exact ⟨done, rejected, tallied.split, tallied.each, tallied.errors⟩
  | flushed _ _ records' _ _ _ newErrors write _ snapshots =>
    refine ⟨done ++ [record], rejected, records' ▸ split, ?_, newErrors ▸ tallied.errors⟩
    rw [snapshots, List.map_append, List.append_assoc, List.map_append]
    have last : (a.snapshots.map (·.sourceRow) ++ ([record.sourceRow] ++ rejected)).Perm
        (a.snapshots.map (·.sourceRow) ++ rejected ++ [record.sourceRow]) := by
      rw [List.append_assoc]
      exact List.perm_append_comm.append_left _
    exact last.trans (tallied.each.append_right _)

theorem tallied_carried : Carried env guard session (source.adapt modelValidate)
    (fun _ a => ∃ result done rejected, source.adapt modelValidate = .ok result ∧ Tallied result done rejected a) where
  started result adapted db events := ⟨result, [], [], adapted, start_tallied db session result events⟩
  recorded _ _ _ _ _ _ _ records progress := by
    rintro ⟨result, done, rejected, adapted, tallied⟩
    obtain ⟨done, rejected, after⟩ := tallied.step records progress
    exact ⟨result, done, rejected, adapted, after⟩
  summarised _ _ := fun ⟨result, done, rejected, adapted, tallied⟩ =>
    ⟨result, done, rejected, adapted, tallied.split, tallied.each, tallied.errors⟩
  moved _ _ _ _ _ _ _ tallied := tallied

theorem mem_places (readable : source.Readable) {row : Option Nat} :
    row ∈ source.places ↔ ∃ n ∈ source.rows, some n = row := by
  rw [InventorySource.places, if_pos readable, List.mem_toFinset, List.mem_map]

theorem places_card (readable : source.Readable) : source.places.card = source.size := by
  have distinct : (source.rows.map some).Nodup := rows_nodup.map (Option.some_injective Nat)
  rw [InventorySource.places, if_pos readable, List.toFinset_card_of_nodup distinct, List.length_map,
    rows_length readable]

theorem mem_storedPlaces {row : Option Nat} : row ∈ storedPlaces a ↔ ∃ s ∈ a.snapshots, some s.sourceRow = row := by
  rw [storedPlaces, List.mem_toFinset, List.mem_map]

/-- Between them records and errors name every row of the file. -/
theorem adapt_places (adapted : source.adapt modelValidate = .ok result) :
    (result.errors.map (·.sourceRow) ++ result.records.map fun r => some r.sourceRow).toFinset = source.places := by
  by_cases readable : source.Readable
  · have numbered := adapt_numbered adapted
    have apart := adapt_apart adapted readable
    ext row
    rw [mem_places readable, List.mem_toFinset, List.mem_append, List.mem_map, List.mem_map]
    constructor
    · rintro (⟨e, member, rfl⟩ | ⟨r, member, rfl⟩)
      · obtain ⟨n, inside, same⟩ := apart.inside e member
        exact ⟨n, inside, same.symm⟩
      · exact ⟨_, numbered.inside r member, rfl⟩
    · rintro ⟨n, inside, rfl⟩
      rcases numbered.covered n inside with ⟨r, member, rfl⟩ | error
      · exact .inr ⟨r, member, rfl⟩
      · exact .inl error
  · obtain ⟨none, e, only, rowless⟩ := adapt_unreadable adapted readable
    rw [none, only, InventorySource.places, if_neg readable, List.map_singleton, rowless]
    rfl

theorem adapt_separate (adapted : source.adapt modelValidate = .ok result) :
    ∀ e ∈ result.errors, ∀ r ∈ result.records, e.sourceRow ≠ some r.sourceRow := by
  by_cases readable : source.Readable
  · exact (adapt_apart adapted readable).apart
  · rw [(adapt_unreadable adapted readable).1]
    intro e _ r member
    contradiction

theorem Tallied.refused (tallied : Tallied result done rejected a) (adapted : source.adapt modelValidate = .ok result)
    (unreadable : ¬ source.Readable) : a.snapshots = [] ∧ ∃ e, a.newErrors = [e] ∧ e.sourceRow = none := by
  obtain ⟨none, e, only, rowless⟩ := adapt_unreadable adapted unreadable
  have split := tallied.split
  have each := tallied.each
  have errors := tallied.errors
  obtain ⟨rfl, -⟩ := List.append_eq_nil_iff.mp (none ▸ split).symm
  rw [List.map_nil, List.perm_nil, List.append_eq_nil_iff, List.map_eq_nil_iff] at each
  obtain ⟨unstored, rfl⟩ := each
  rw [only] at errors
  obtain ⟨error, same, row⟩ := List.map_eq_singleton_iff.mp errors
  exact ⟨unstored, error, same, row.trans rowless⟩

/-- Through with all records, a transaction has stored some rows, each once, and the others have its errors. -/
theorem Tallied.places (tallied : Tallied result done rejected a) (adapted : source.adapt modelValidate = .ok result)
    (records : a.records = []) : storedPlaces a ⊆ source.places ∧ (storedPlaces a).card = a.snapshots.length ∧
      rowsOf a.newErrors = source.places \ storedPlaces a := by
  have all : done = result.records := by
    rw [tallied.split, records, List.append_nil]
  have each := tallied.each
  rw [all] at each
  have distinct := each.nodup_iff.mpr (adapt_numbered adapted).distinct
  rw [List.nodup_append] at distinct
  obtain ⟨once, -, separate⟩ := distinct
  have rows : (result.records.map fun r => some r.sourceRow).toFinset =
      storedPlaces a ∪ (rejected.map some).toFinset := by
    have perm := (each.map some).symm
    rw [List.map_append, List.map_map, List.map_map] at perm
    rw [storedPlaces, ← List.toFinset_append]
    exact List.toFinset_eq_of_perm _ _ perm
  have whole : source.places = rowsOf a.newErrors ∪ storedPlaces a := by
    rw [← adapt_places adapted, rowsOf, tallied.errors, List.toFinset_append, List.toFinset_append, rows,
      Finset.union_comm (storedPlaces a), Finset.union_assoc]
  have disjoint : Disjoint (rowsOf a.newErrors) (storedPlaces a) := by
    rw [Finset.disjoint_left]
    intro row reported stored
    obtain ⟨s, own, rfl⟩ := mem_storedPlaces.mp stored
    rw [rowsOf, tallied.errors, List.mem_toFinset, List.mem_append, List.mem_map, List.mem_map] at reported
    rcases reported with ⟨e, member, same⟩ | ⟨n, member, same⟩
    · have present := each.mem_iff.mp (List.mem_append_left _ (List.mem_map_of_mem own))
      obtain ⟨r, present, row⟩ := List.mem_map.mp present
      exact adapt_separate adapted e member r present (same.trans (congrArg some row.symm))
    · exact separate _ (List.mem_map_of_mem own) n member (Option.some.inj same).symm
  refine ⟨?_, ?_, ?_⟩
  · rw [whole]
    exact Finset.subset_union_right
  · have distinct : (a.snapshots.map fun s => some s.sourceRow).Nodup := by
      have twice := once.map (Option.some_injective Nat)
      rwa [List.map_map] at twice
    rw [storedPlaces, List.toFinset_card_of_nodup distinct, List.length_map]
  · rw [whole, Finset.union_sdiff_cancel_right disjoint]

end

/-! ### Jobs nothing is recorded of -/

/-- No execution of the job has left a snapshot or an error. -/
def Database.Unrecorded (db : Database) (id : Id) : Prop := db.snapshotsOf id = [] ∧ db.errorsOf id = []

def ImportJob.Uncounted (job : ImportJob) : Prop :=
  job.totalRecords = 0 ∧ job.acceptedRecords = 0 ∧ job.rejectedRecords = 0

/-- The counters of the job are zero, and so are those its sessions remember. -/
structure Hub.Uncounted (hub : Hub) (id : Id) : Prop where
  row : ∀ job, hub.db.job id = some job → job.Uncounted
  sessions : ∀ (d : Nat) x w, hub.deliveries[d]? = some x → x.session? = some w → w.job.id = id → w.job.Uncounted

/-- What open transactions have loaded is in the tables, and the number of rejected rows is taken from it. -/
structure Hub.Summing (hub : Hub) : Prop where
  loaded : ∀ (d : Nat) x a, hub.deliveries[d]? = some x → x.transaction? = some a →
    ∀ e ∈ a.loadedErrors.getD [], e ∈ hub.db.errorsOf a.job.id
  closing : ∀ (d : Nat) a rejected, hub.deliveries[d]? = some (.closing a rejected) →
    rejected = rejectedRecords a.jobErrors

section
variable {env : Env} {hub next : Hub} {l : Label} {d : Nat} {id : Id} {job row : ImportJob} {a : Applying}

theorem reachable_summing (reached : Hub.Reachable env hub) : hub.Summing := by
  obtain ⟨start, begins, run⟩ := reached
  refine run.invariant_reachable ?_ (.start begins) ?_
  · intro s l t reached summing _ h
    have effect := step_effect h
    have ledger := reachable_ledger reached
    exact ⟨fun d y a found opened => loaded_step summing.loaded ledger effect found opened,
      fun d a rejected found => closing_step (fun _ _ => rfl) summing.closing effect found⟩
  · have lineage := initial_lineage begins
    exact ⟨lineage.loaded, lineage.closing⟩

theorem Summing.unloaded (summing : hub.Summing) {x : Delivery} (present : hub.deliveries[d]? = some x)
    (opened : x.transaction? = some a) (none : hub.db.errorsOf a.job.id = []) : a.jobErrors = a.newErrors := by
  have loaded := summing.loaded d x a present opened
  rw [none] at loaded
  rw [Applying.jobErrors, List.eq_nil_iff_forall_not_mem.mpr fun e member => List.not_mem_nil (loaded e member)]
  rfl

theorem Uncounted.completed {rejected : Nat} {now : Timestamp} (known : job.Uncounted) (held : a.job.Uncounted) :
    (a.job.writeBack (completedJob a rejected now) job).totalRecords = a.accepted + rejected ∧
      (a.job.writeBack (completedJob a rejected now) job).acceptedRecords = a.accepted ∧
      (a.job.writeBack (completedJob a rejected now) job).rejectedRecords = rejected := by
  obtain ⟨total, accepted, spoiled⟩ := known
  obtain ⟨totalThen, acceptedThen, spoiledThen⟩ := held
  rw [complete_row]
  dsimp only
  rw [total, accepted, spoiled, totalThen, acceptedThen, spoiledThen]
  exact ⟨Columns.writeBack_fresh _ _, Columns.writeBack_fresh _ _, Columns.writeBack_fresh _ _⟩

/-- A commit that records nothing of its job counts nothing. -/
theorem uncounted_commit {rejected : Nat} {now : Timestamp} (reached : Hub.Reachable env hub)
    (closing : hub.deliveries[d]? = some (.closing a rejected)) (known : job.Uncounted) (held : a.job.Uncounted)
    (none : hub.db.Unrecorded a.job.id) (unstored : a.snapshots = []) (faultless : a.newErrors = []) :
    (a.job.writeBack (completedJob a rejected now) job).Uncounted := by
  have summing := reachable_summing reached
  have rejects := summing.closing d a rejected closing
  rw [Summing.unloaded summing closing rfl none.2, rejectedRecords_zero.mpr faultless] at rejects
  subst rejects
  have accepted := a.counted
  rw [unstored, List.length_nil] at accepted
  obtain ⟨total, acceptedRow, rejectedRow⟩ := Uncounted.completed known held
  rw [accepted] at total acceptedRow
  exact ⟨total, acceptedRow, rejectedRow⟩

theorem uncounted_row (reached : Hub.Reachable env hub) (before : hub.Uncounted id) (none : hub.db.Unrecorded id)
    (h : Hub.step env hub l = some next) (fresh : next.db.Unrecorded id) (found : next.db.job id = some row) :
    row.Uncounted := by
  have ledger := reachable_ledger reached
  have effect := step_effect h
  cases present : hub.db.job id with
  | none =>
    obtain ⟨_, _, _, _, _, -, rfl⟩ := effect_job_new ledger effect present found
    exact ⟨rfl, rfl, rfl⟩
  | some job =>
    have known := before.row job present
    by_cases commit : ∃ a r t, hub.Commits l a r t
    · obtain ⟨a, rejected, now, d, rfl, closing⟩ := commit
      obtain ⟨updated, snapshots, errors⟩ := commit_rows reached closing h present
      obtain rfl := Option.some.inj (updated.symm.trans found)
      by_cases mine : id = a.job.id
      · subst mine
        rw [if_pos rfl, fresh.1] at snapshots
        rw [if_pos rfl, fresh.2] at errors
        rw [if_pos rfl]
        exact uncounted_commit reached closing known (before.sessions d _ _ closing rfl rfl) none
          (List.append_eq_nil_iff.mp snapshots.symm).2 (List.append_eq_nil_iff.mp errors.symm).2
      · rw [if_neg mine]
        exact known
    · obtain ⟨row', updated, change⟩ := effect_job ledger effect present
      obtain rfl := Option.some.inj (updated.symm.trans found)
      obtain ⟨⟨-, accepted, rejected, total⟩, -⟩ := change.counters fun a r t c => commit ⟨a, r, t, c⟩
      exact ⟨total.trans known.1, accepted.trans known.2.1, rejected.trans known.2.2⟩

/-- A step that leaves nothing recorded of the job leaves its counters at zero. -/
theorem uncounted_step (reached : Hub.Reachable env hub) (before : hub.db.Unrecorded id → hub.Uncounted id)
    (h : Hub.step env hub l = some next) (fresh : next.db.Unrecorded id) : next.Uncounted id := by
  have effect := step_effect h
  obtain ⟨snapshots, errors⟩ := effect_grows (reachable_ledger reached) effect id
  have none : hub.db.Unrecorded id :=
    ⟨List.prefix_nil.mp (fresh.1 ▸ snapshots), List.prefix_nil.mp (fresh.2 ▸ errors)⟩
  have zero := before none
  constructor
  · intro row found
    exact uncounted_row reached zero none h fresh found
  · intro d y w found holds mine
    rcases effect_session effect found holds with ⟨x, present, same⟩ | ⟨jobId, workerId, task, now, claim⟩
    · exact zero.sessions d x w present same mine
    · obtain ⟨job, known, -, -, -, rfl, -⟩ := claim_ok claim
      have owner : job.id = id := mine
      rw [job_id known] at owner
      exact zero.row job (owner ▸ known)

theorem reachable_uncounted (reached : Hub.Reachable env hub) (fresh : hub.db.Unrecorded id) : hub.Uncounted id := by
  obtain ⟨start, begins, run⟩ := reached
  refine run.invariant_reachable (P := fun hub => hub.db.Unrecorded id → hub.Uncounted id) ?_ (.start begins) ?_ fresh
  · intro s l t reached before _ h fresh
    exact uncounted_step reached before h fresh
  · intro _
    constructor
    · intro job found
      rw [Database.job, begins.jobs] at found
      contradiction
    · intro d x w found
      rw [begins.deliveries] at found
      contradiction

end

/-! ### Every row once -/

/-- Every row of the file is stored and has no error, or has an error and is not stored, and the job's counters
say how many there are of each. -/
structure CountedOnce (source : InventorySource) (job : ImportJob) (added : List InventorySnapshot)
    (errors : List ImportJobError) : Prop where
  total : job.totalRecords = source.size
  accepted : job.acceptedRecords = added.length
  rejected : job.acceptedRecords + job.rejectedRecords = source.size
  each : ∀ n ∈ source.rows,
    ((∃ s ∈ added, s.sourceRow = n) ∧ ∀ e ∈ errors, e.sourceRow ≠ some n) ∨
      ((∃ e ∈ errors, e.sourceRow = some n) ∧ ∀ s ∈ added, s.sourceRow ≠ n)
  status : job.status = .completed ↔ ∀ n ∈ source.rows, ∃ s ∈ added, s.sourceRow = n

/-- The file is turned away as a whole: one error of no row. -/
structure RefusedWhole (job : ImportJob) (added : List InventorySnapshot) (errors : List ImportJobError) : Prop where
  total : job.totalRecords = 1
  rejected : job.rejectedRecords = 1
  unstored : added = []
  single : ∃ e, errors = [e] ∧ e.sourceRow = none

section
variable {source : InventorySource} {job : ImportJob} {a : Applying}

theorem counted_once (readable : source.Readable) (inside : storedPlaces a ⊆ source.places)
    (once : (storedPlaces a).card = a.snapshots.length)
    (errors : rowsOf a.newErrors = source.places \ storedPlaces a)
    (accepted : job.acceptedRecords = a.snapshots.length) (rejected : job.rejectedRecords = (rowsOf a.newErrors).card)
    (total : job.totalRecords = job.acceptedRecords + job.rejectedRecords)
    (status : job.status = .completed ↔ job.rejectedRecords = 0) :
    CountedOnce source job a.snapshots a.newErrors := by
  have sum : a.snapshots.length + (rowsOf a.newErrors).card = source.size := by
    rw [errors, Finset.card_sdiff_of_subset inside, ← once, ← places_card readable]
    exact Nat.add_sub_cancel' (Finset.card_le_card inside)
  have place (n : Nat) : some n ∈ source.places ↔ n ∈ source.rows := by
    rw [mem_places readable]
    simp
  have stored (n : Nat) : some n ∈ storedPlaces a ↔ ∃ s ∈ a.snapshots, s.sourceRow = n := by
    rw [mem_storedPlaces]
    simp
  have spoiled (n : Nat) : (∃ e ∈ a.newErrors, e.sourceRow = some n) ↔
      n ∈ source.rows ∧ ¬ ∃ s ∈ a.snapshots, s.sourceRow = n := by
    rw [← mem_rowsOf, errors, Finset.mem_sdiff, place, stored]
  constructor
  · rw [total, accepted, rejected, sum]
  · exact accepted
  · rw [accepted, rejected, sum]
  · intro n row
    by_cases own : ∃ s ∈ a.snapshots, s.sourceRow = n
    · exact .inl ⟨own, fun e member same => ((spoiled n).mp ⟨e, member, same⟩).2 own⟩
    · exact .inr ⟨(spoiled n).mpr ⟨row, own⟩, fun s member same => own ⟨s, member, same⟩⟩
  · rw [status, rejected, Finset.card_eq_zero, errors, Finset.sdiff_eq_empty_iff_subset]
    constructor
    · intro all n row
      exact (stored n).mp (all ((place n).mpr row))
    · intro all row member
      obtain ⟨n, inside, rfl⟩ := (mem_places readable).mp member
      exact (stored n).mpr (all n inside)

end

/-- The first execution of a job to complete, with whatever else going on, counts every row of the file once. -/
theorem source_rows_counted_once {env : Env} {d : Nat} {modelValidate : ModelValidate} {source : InventorySource}
    {session : WorkerSession} {hub next : Hub}
    (finishes : Hub.Finishes env Machine.unguarded d modelValidate source session hub next)
    (fresh : hub.db.Unrecorded session.job.id) :
    ∃ job added, next.db.job session.job.id = some job ∧ next.db.snapshots = hub.db.snapshots ++ added ∧
      (source.Readable → CountedOnce source job added (next.db.errorsOf session.job.id)) ∧
      (¬ source.Readable → RefusedWhole job added (next.db.errorsOf session.job.id)) := by
  obtain ⟨reached, a, rejected, now, closing, completes, rfl, records, result, done, turned, adapted, tallied⟩ :=
    finishes.closing tallied_carried
  obtain ⟨job, present, -⟩ := held_numbered reached d _ _ _ closing rfl
  obtain ⟨updated, -, errors⟩ := commit_rows reached closing completes present
  rw [if_pos rfl] at updated errors
  rw [fresh.2, List.nil_append] at errors
  have zero := reachable_uncounted reached fresh
  have summing := reachable_summing reached
  have rejects := summing.closing d a rejected closing
  rw [Summing.unloaded summing closing rfl fresh.2, rejectedRecords_card] at rejects
  obtain ⟨total, acceptedRow, rejectedRow⟩ := Uncounted.completed (zero.row job present)
    (zero.sessions d _ _ closing rfl rfl)
  refine ⟨_, a.snapshots, updated, congrArg Database.snapshots (complete_commits reached closing completes), ?_, ?_⟩
  · intro readable
    obtain ⟨inside, once, rows⟩ := tallied.places adapted records
    rw [errors]
    refine counted_once readable inside once rows (acceptedRow.trans a.counted) (rejectedRow.trans rejects) ?_ ?_
    · rw [total, acceptedRow, rejectedRow]
    · rw [rejectedRow]
      exact completed_status
  · intro unreadable
    obtain ⟨unstored, e, only, rowless⟩ := tallied.refused adapted unreadable
    rw [only, rowsOf, List.map_singleton, rowless] at rejects
    have one : rejected = 1 := rejects
    have accepted := a.counted
    rw [unstored, List.length_nil] at accepted
    refine ⟨?_, rejectedRow.trans one, unstored, e, errors.trans only, rowless⟩
    rw [total, accepted, one]

namespace Small

def claimedSession : Delivery → Option WorkerSession
  | .claimed session => some session
  | _ => none

theorem claimedSession_some {x : Delivery} {session : WorkerSession} (h : claimedSession x = some session) :
    x = .claimed session := by
  cases x with
  | claimed w => exact congrArg _ (Option.some.inj h)
  | _ => contradiction

end Small

/-- A valid row and an invalid one. -/
theorem source_rows_counted_once_invalid : ∃ session hub next job added,
    Hub.Finishes (Small.sourceEnv Small.invalidSource) Machine.unguarded 0 Small.modelValidate Small.invalidSource
      session hub next ∧
    next.db.job session.job.id = some job ∧
    CountedOnce Small.invalidSource job added (next.db.errorsOf session.job.id) ∧ added.length = 1 := by
  have shown : (Machine.exec (Hub.step (Small.sourceEnv Small.invalidSource)) Small.hub
      (Small.received Small.invalidFile Small.invalidDigest ++ [.claim 0 (Small.moment 1)])).any (fun start =>
        ((start.deliveries[0]?).bind Small.claimedSession).any fun session =>
          (loadImportPayload (Small.sourceEnv Small.invalidSource) start.objects true session.job).toOption.isSome &&
          (Hub.step (Small.sourceEnv Small.invalidSource) start (.adapt 0 true (Small.moment 2))).any fun begun =>
            (Machine.exec (Hub.step (Small.sourceEnv Small.invalidSource)) begun
              [.start 0, .record 0, .record 0, .record 0, .record 0, .record 0, .summarise 0]).any fun hub =>
              (hub.db.snapshotsOf session.job.id).isEmpty && (hub.db.errorsOf session.job.id).isEmpty &&
              (Hub.step (Small.sourceEnv Small.invalidSource) hub (.complete 0 (Small.moment 3))).any fun next =>
                (next.db.job session.job.id).any fun job => job.acceptedRecords = 1) = true := by
    decide +kernel
  simp only [Option.any_eq_true, Option.bind_eq_some_iff, Bool.and_eq_true, decide_eq_true_eq,
    List.isEmpty_iff] at shown
  obtain ⟨start, steps, session, ⟨x, present, claimed⟩, loaded, begun, adapts, hub, run, ⟨noSnapshots, noErrors⟩,
    next, completes, job, known, one⟩ := shown
  obtain rfl := Small.claimedSession_some claimed
  obtain ⟨content, payload⟩ := Option.isSome_iff_exists.mp loaded
  have retained : adaptRetainedPayload (Small.sourceEnv Small.invalidSource) start.objects true session.job =
      Small.invalidSource.adapt Small.modelValidate := by
    rw [adaptRetainedPayload, Small.toOption_ok payload]
    rfl
  have finishes : Hub.Finishes (Small.sourceEnv Small.invalidSource) Machine.unguarded 0 Small.modelValidate
      Small.invalidSource session hub next :=
    .intro ⟨Small.hub, Small.initial, Machine.exec_run (fun _ _ _ => trivial) steps⟩ present retained adapts
      (Machine.exec_run (fun _ _ _ => trivial) run) completes
  obtain ⟨row, added, found, -, readable, -⟩ := source_rows_counted_once finishes ⟨noSnapshots, noErrors⟩
  obtain rfl := Option.some.inj (known.symm.trans found)
  have counted := readable (by decide)
  exact ⟨session, hub, next, job, added, finishes, known, counted, counted.accepted.symm.trans one⟩

end SupplyChainHub
