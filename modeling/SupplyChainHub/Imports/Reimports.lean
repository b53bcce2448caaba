import SupplyChainHub.Imports.Tallies
import SupplyChainHub.Inventory.Mappings

/-!
The same file imported again. Whatever the first execution came across, each record that was the first of its source
key is imported afterwards, or has no mapping that it passes; so with the mappings as they were there is nothing left
to import.
-/

namespace SupplyChainHub

structure SameMappings (before after : Database) : Prop where
  productMappings : after.productMappings = before.productMappings
  warehouseMappings : after.warehouseMappings = before.warehouseMappings

/-- The step leaves the mappings as they are. -/
def KeepsMappings (env : Env) (hub : Hub) (l : Label) : Prop :=
  ∀ next ∈ Hub.step env hub l, SameMappings hub.db next.db

instance (before after : Database) : Decidable (SameMappings before after) :=
  decidable_of_iff (after.productMappings = before.productMappings ∧
      after.warehouseMappings = before.warehouseMappings)
    ⟨fun same => ⟨same.1, same.2⟩, fun same => ⟨same.1, same.2⟩⟩

instance (env : Env) (hub : Hub) (l : Label) : Decidable (KeepsMappings env hub l) :=
  inferInstanceAs (Decidable (∀ next ∈ Hub.step env hub l, SameMappings hub.db next.db))

/-- The mappings are the same, and so are a job's total and its errors. -/
structure SameJob (id : Id) (before after : Database) : Prop extends SameMappings before after where
  total : (after.job id).map (·.totalRecords) = (before.job id).map (·.totalRecords)
  errors : after.errorsOf id = before.errorsOf id

/-- The step leaves the mappings as they are, and what is counted and recorded of the job. -/
def KeepsJob (env : Env) (id : Id) (hub : Hub) (l : Label) : Prop :=
  ∀ next ∈ Hub.step env hub l, SameJob id hub.db next.db

instance (id : Id) (before after : Database) : Decidable (SameJob id before after) :=
  decidable_of_iff (SameMappings before after ∧
      (after.job id).map (·.totalRecords) = (before.job id).map (·.totalRecords) ∧
      after.errorsOf id = before.errorsOf id)
    ⟨fun ⟨mappings, total, errors⟩ => ⟨mappings, total, errors⟩,
      fun same => ⟨same.toSameMappings, same.total, same.errors⟩⟩

instance (env : Env) (id : Id) (hub : Hub) (l : Label) : Decidable (KeepsJob env id hub l) :=
  inferInstanceAs (Decidable (∀ next ∈ Hub.step env hub l, SameJob id hub.db next.db))

/-- Whatever was imported still is, and the mappings are the same. -/
structure Grown (before after : Database) : Prop extends SameMappings before after where
  snapshots : before.snapshots <+: after.snapshots

/-- Imported already, or without mappings that it passes. -/
def Applying.Known (db : Database) (a : Applying) (record : CanonicalInventoryRecord) : Prop :=
  a.imported db (recordKey a.job.supplierId record) = true ∨ mappingsFor db a.job.supplierId record = none

/-- The transaction is through with the records `done`, knows those that were first of their keys, and has stored
some of them. -/
structure Settled (db : Database) (result : InventoryAdapterResult) (done : List CanonicalInventoryRecord)
    (a : Applying) : Prop where
  split : result.records = done ++ a.records
  known : Firsts.EachFirst (recordKey a.job.supplierId) (a.Known db) done
  stored : ∀ s ∈ a.snapshots, ∃ e ∈ Firsts.picks (recordKey a.job.supplierId) (mappingsFor db a.job.supplierId) [] done,
    recordKey a.job.supplierId e.1 = s.sourceKey ∧ e.1.sourceRow = s.sourceRow
  found : a.Found db done

section
variable {env : Env} {guard : Hub → Label → Prop} {db after : Database} {locks : Locks} {a b : Applying}
    {result : InventoryAdapterResult} {done rest : List CanonicalInventoryRecord} {supplierId : Id}
    {record : CanonicalInventoryRecord} {source : InventorySource} {modelValidate : ModelValidate}
    {session : WorkerSession} {hub next start : Hub} {l : Label} {key : SourceKey}

theorem Grown.refl (db : Database) : Grown db db := ⟨⟨rfl, rfl⟩, List.prefix_rfl⟩

theorem Grown.trans {last : Database} (first : Grown db after) (second : Grown after last) : Grown db last :=
  ⟨⟨second.productMappings.trans first.productMappings, second.warehouseMappings.trans first.warehouseMappings⟩,
    first.snapshots.trans second.snapshots⟩

theorem keeps_grown (reached : Hub.Reachable env hub) (met : KeepsMappings env hub l)
    (h : Hub.step env hub l = some next) : Grown hub.db next.db := by
  refine ⟨met next h, ?_⟩
  cases effect_lineage (reachable_ledger reached) (step_effect h) with
  | kept _ snapshots => rw [snapshots]
  | completed _ _ _ snapshots =>
    rw [snapshots]
    exact List.prefix_append _ _

theorem run_grown (reached : Hub.Reachable env hub) (run : Hub.Run env (KeepsMappings env) hub start) :
    Grown hub.db start.db := by
  refine run.invariant_reachable (P := fun next => Grown hub.db next.db) ?_ reached (.refl _)
  intro s l t reached grown met h
  exact grown.trans (keeps_grown reached met h)

theorem imported_grown {snapshots more : List InventorySnapshot} (grown : snapshots <+: more)
    (imported : snapshots.any (fun s => s.sourceKey = key) = true) : more.any (fun s => s.sourceKey = key) = true := by
  obtain ⟨added, rfl⟩ := grown
  rw [List.any_append]
  exact Bool.or_eq_true_iff.mpr (.inl imported)

/-! ### What one statement settles -/

theorem start_settled (db : Database) (session : WorkerSession) (result : InventoryAdapterResult)
    (events : List OperationEvent) : Settled db result [] (Applying.start db session result events) := by
  refine ⟨(start_begun db session result events).1.symm, .nil, ?_, start_found db session result events⟩
  rw [(start_work db session result events).2.2.1]
  intro s own
  contradiction

theorem Applying.Known.kept (known : a.Known db record) (job : b.job = a.job)
    (snapshots : a.snapshots <+: b.snapshots) : b.Known db record := by
  unfold Applying.Known at *
  rw [job]
  exact known.imp_left (imported_grown ((List.prefix_append_right_inj _).mpr snapshots))

theorem Settled.owns (settled : Settled db result done a) : a.Owns done := by
  intro s own
  obtain ⟨⟨r, mappings⟩, member, key, -⟩ := settled.stored s own
  exact ⟨r, (Firsts.mem_picks member).1, key⟩

/-- A record more does not unsettle what was stored. -/
theorem Settled.stored_more (settled : Settled db result done a) {s : InventorySnapshot} (own : s ∈ a.snapshots) :
    ∃ e ∈ Firsts.picks (recordKey a.job.supplierId) (mappingsFor db a.job.supplierId) [] (done ++ [record]),
      recordKey a.job.supplierId e.1 = s.sourceKey ∧ e.1.sourceRow = s.sourceRow := by
  obtain ⟨e, member, same⟩ := settled.stored s own
  refine ⟨e, ?_, same⟩
  rw [Firsts.picks_append]
  exact List.mem_append_left _ member

theorem Settled.step (settled : Settled db result done a) (records : a.records = record :: rest)
    (progress : RecordProgress db locks a record rest b) : ∃ done, Settled db result done b := by
  have found (searching : b.phase ≠ .duplicateCheck) : b.Found db done :=
    settled.found.searched records progress searching
  have split : result.records = (done ++ [record]) ++ rest := by
    rw [settled.split, records, List.append_assoc]
    rfl
  cases progress with
  | rejected error row reason =>
    obtain ⟨seen, decided⟩ := settled.found.rejected settled.owns records reason
    refine ⟨done ++ [record], split, settled.known.snoc ?_, fun s own => settled.stored_more own, seen⟩
    rcases decided with ⟨r, present, same⟩ | ⟨-, none⟩
    · left
      rw [← recordKey_eq.mpr same]
      exact List.mem_map_of_mem present
    · right
      unfold planned at none
      split at none
      · rename_i imported
        left
        rw [Applying.imported, List.any_append]
        exact Bool.or_eq_true_iff.mpr (.inl imported)
      · exact .inr none
  | unseen | product | warehouse | position =>
    refine ⟨done, settled.split, settled.known, settled.stored, found ?_⟩
    intro checking
    cases checking
  | flushed phase session records' after seen _ _ write _ snapshots =>
    have job : b.job = a.job := congrArg WorkerSession.job session
    have opened := settled.found
    unfold Applying.Found at opened
    rw [phase] at opened
    obtain ⟨head, opened, mappings⟩ := opened
    obtain rfl : head = record := by simpa [records] using opened.head.symm
    have grown : a.snapshots <+: b.snapshots := by
      rw [snapshots]
      exact List.prefix_append _ _
    refine ⟨done ++ [head], records' ▸ split, ?_, ?_, ?_⟩
    · rw [job]
      refine (settled.known.imp fun r known => known.kept job grown).snoc (.inr (.inl ?_))
      rw [Applying.imported, snapshots, job]
      exact List.any_eq_true.mpr ⟨_, List.mem_append_right _ (List.mem_append_right _ List.mem_cons_self),
        decide_eq_true rfl⟩
    · rw [job, snapshots]
      intro s own
      rcases List.mem_append.mp own with old | new
      · exact settled.stored_more old
      · rw [List.mem_singleton.mp new, Firsts.picks_take (fresh_keys opened.fresh) mappings]
        exact ⟨_, List.mem_append_right _ List.mem_cons_self, rfl, rfl⟩
    · unfold Applying.Found Applying.SeenOf
      rw [after, job, seen]
      exact opened.seen

/-- Other transactions' commits settle more, and unsettle nothing. -/
theorem Settled.moved (settled : Settled db result done a) (grown : Grown db after) :
    Settled after result done a := by
  have same : mappingsFor after a.job.supplierId = mappingsFor db a.job.supplierId := by
    funext r
    exact mappingsFor_congr grown.productMappings grown.warehouseMappings
  have kept (r : CanonicalInventoryRecord) (known : a.Known db r) : a.Known after r := by
    unfold Applying.Known at *
    rw [same]
    refine known.imp_left fun imported => ?_
    rw [Applying.imported, List.any_append, Bool.or_eq_true_iff] at *
    exact imported.imp_left (imported_grown grown.snapshots)
  refine ⟨settled.split, settled.known.imp kept, ?_, ?_⟩
  · rw [same]
    exact settled.stored
  · exact settled.found.moved grown.productMappings grown.warehouseMappings fun _ => imported_grown grown.snapshots

theorem settled_carried : Carried env (KeepsMappings env) session (source.adapt modelValidate)
    (fun db a => ∃ result done, source.adapt modelValidate = .ok result ∧ Settled db result done a) where
  started result adapted db events := ⟨result, [], adapted, start_settled db session result events⟩
  recorded _ _ _ _ _ _ _ records progress := by
    rintro ⟨result, done, adapted, settled⟩
    obtain ⟨done, after⟩ := settled.step records progress
    exact ⟨result, done, adapted, after⟩
  summarised _ _ := fun ⟨result, done, adapted, settled⟩ =>
    ⟨result, done, adapted, settled.split, settled.known, settled.stored, settled.found.loadErrors⟩
  moved _ _ _ _ reached met h := fun ⟨result, done, adapted, settled⟩ =>
    ⟨result, done, adapted, settled.moved (keeps_grown reached met h)⟩

end

/-! ### The first execution -/

/-- As `Finishes`, but from the claim on, which is made at `before`. -/
inductive Hub.FinishesFrom (env : Env) (guard : Hub → Label → Prop) (d : Nat) (modelValidate : ModelValidate)
    (source : InventorySource) (session : WorkerSession) (before hub next : Hub) : Prop where
  | intro {claimed waiting begun : Hub} {claimedAt adaptedAt completedAt : Timestamp}
      (reached : Hub.Reachable env before) (claims : Hub.step env before (.claim d claimedAt) = some claimed)
      (waits : Hub.Run env guard claimed waiting) (begins : claimed.deliveries[d]? = some (.claimed session))
      (holds : waiting.deliveries[d]? = some (.claimed session))
      (retained : adaptRetainedPayload env waiting.objects true session.job = source.adapt modelValidate)
      (adapts : Hub.step env waiting (.adapt d true adaptedAt) = some begun) (run : Hub.Run env guard begun hub)
      (completes : Hub.step env hub (.complete d completedAt) = some next)

/-- Rows that a job's loaded errors name and that its last execution did not reject. -/
def Applying.leftOver (a : Applying) : Finset (Option Nat) := rowsOf (a.loadedErrors.getD []) \ rowsOf a.newErrors

def plannedPlaces (db : Database) (supplierId : Id) (records : List CanonicalInventoryRecord) : Finset (Option Nat) :=
  ((plan db supplierId records).map fun e => some e.1.sourceRow).toFinset

/-- Rows that the job's errors name, and that importing its file would not reject: the file does not have them, or
they are on its plan. -/
def Database.leftOver (db : Database) (jobId supplierId : Id) (source : InventorySource)
    (records : List CanonicalInventoryRecord) : Finset (Option Nat) :=
  rowsOf (db.errorsOf jobId) \ (source.places \ plannedPlaces db supplierId records)

section
variable {env : Env} {guard : Hub → Label → Prop} {d : Nat} {modelValidate : ModelValidate}
    {source : InventorySource} {session : WorkerSession} {before claimed hub mid next start : Hub} {a : Applying}
    {rejected : Nat} {result : InventoryAdapterResult} {id supplierId : Id} {earlier first : ImportJob}
    {db after last : Database} {now : Timestamp} {adapted : Except Raised InventoryAdapterResult}

theorem Hub.FinishesFrom.finishes {guard' : Hub → Label → Prop}
    (finishes : Hub.FinishesFrom env guard d modelValidate source session before hub mid)
    (imp : ∀ s l, guard s l → guard' s l) : Hub.Finishes env guard' d modelValidate source session hub mid := by
  obtain ⟨reached, claims, waits, -, holds, retained, adapts, run, completes⟩ := finishes
  exact .intro ((reached.step claims).run waits) holds retained adapts (run.weaken imp) completes

theorem keeps_mappings (hub : Hub) (l : Label) (met : KeepsJob env id hub l) : KeepsMappings env hub l :=
  fun next h => (met next h).toSameMappings

theorem SameJob.trans (first : SameJob id db after) (second : SameJob id after last) : SameJob id db last :=
  ⟨⟨second.productMappings.trans first.productMappings, second.warehouseMappings.trans first.warehouseMappings⟩,
    second.total.trans first.total, second.errors.trans first.errors⟩

theorem run_same (run : Hub.Run env (KeepsJob env id) hub next) : SameJob id hub.db next.db := by
  refine run.invariant (P := fun next => SameJob id hub.db next.db) ?_ ⟨⟨rfl, rfl⟩, rfl, rfl⟩
  intro s l t same met h
  exact same.trans (met t h)

theorem claim_holds (claims : Hub.step env before (.claim d now) = some claimed)
    (begins : claimed.deliveries[d]? = some (.claimed session)) : ∃ jobId workerId celeryTaskId,
      executeImportJobClaim env.settings before.db jobId workerId celeryTaskId now =
        .ok (some (claimed.db, session)) := by
  simp only [Hub.step, Hub.claim] at claims
  split at claims
  · rename_i jobId workerId celeryTaskId received
    split at claims
    · obtain ⟨r, -, same⟩ := Option.map_eq_some_iff.mp claims
      subst same
      have set := begins
      rw [Hub.setDelivery, Pool.set_present received] at set
      split at set <;> cases set
    · cases claims
      rw [Hub.setDelivery, Pool.set_present received] at begins
      cases begins
    · rename_i claim
      cases claims
      rw [Hub.setDelivery, Pool.set_present received] at begins
      cases begins
      exact ⟨jobId, workerId, celeryTaskId, claim⟩
  · contradiction

theorem claim_row {settings : Settings} {jobId : Id} {workerId : String} {celeryTaskId : Option String}
    (claim : executeImportJobClaim settings db jobId workerId celeryTaskId now = .ok (some (after, session))) :
    after.job session.job.id = some session.job := by
  obtain ⟨job, found, -, -, -, same, jobs⟩ := claim_ok claim
  have owner : session.job.id = jobId := by
    have known : job.id = jobId := job_id found
    rw [same]
    exact known
  have updated := job_modify found (congrArg Database.jobs jobs) fun _ _ => owner
  rw [if_pos rfl] at updated
  rw [owner]
  exact updated

theorem adapt_db {available : Bool} (h : Hub.step env hub (.adapt d available now) = some next) : next.db = hub.db := by
  cases step_effect h with
  | reads _ _ _ _ _ worker => exact (worker rfl).1

/-- With nobody else writing to the job, its row counts what the session claimed it with, and its errors are those of
before. -/
theorem Hub.FinishesFrom.same
    (finishes : Hub.FinishesFrom env (KeepsJob env session.job.id) d modelValidate source session before hub mid) :
    SameMappings before.db hub.db ∧ hub.db.errorsOf session.job.id = before.db.errorsOf session.job.id ∧
      (hub.db.job session.job.id).map (·.totalRecords) = some session.job.totalRecords := by
  obtain ⟨-, claims, waits, begins, -, -, adapts, run, -⟩ := finishes
  obtain ⟨jobId, workerId, celeryTaskId, claim⟩ := claim_holds claims begins
  obtain ⟨elsewhere, stock⟩ := claim_elsewhere claim
  have ran := run_same run
  rw [adapt_db adapts] at ran
  have same := (run_same waits).trans ran
  refine ⟨⟨same.productMappings.trans elsewhere.productMappings,
    same.warehouseMappings.trans elsewhere.warehouseMappings⟩, same.errors.trans ?_, same.total.trans ?_⟩
  · rw [Database.errorsOf, stock.errors]
    rfl
  · rw [claim_row claim]
    rfl

theorem loaded_carried : Carried env (KeepsJob env session.job.id) session adapted
    (fun db a => a.job.id = session.job.id ∧ ∀ es ∈ a.loadedErrors, es = db.errorsOf session.job.id) where
  started result _ db events := by
    have own := (start_work db session result events).1
    exact ⟨congrArg (fun w : WorkerSession => w.job.id) own, start_known⟩
  recorded _ _ a _ _ _ _ _ progress := by
    rintro ⟨owner, known⟩
    rw [← owner] at known
    obtain ⟨session, loaded⟩ := progress.loaded known
    rw [owner] at loaded
    exact ⟨(congrArg (fun w : WorkerSession => w.job.id) session).trans owner, loaded⟩
  summarised db a := by
    rintro ⟨owner, known⟩
    refine ⟨owner, ?_⟩
    rintro es loaded
    obtain rfl := Option.some.inj loaded
    rw [← owner] at known ⊢
    cases before : a.loadedErrors with
    | none => rfl
    | some first => exact known first before
  moved hub l next a _ met h := by
    rintro ⟨owner, known⟩
    rw [(met next h).errors]
    exact ⟨owner, known⟩

theorem closing_loaded (reached : Hub.Reachable env hub) (closing : hub.deliveries[d]? = some (.closing a rejected)) :
    a.loadedErrors.isSome = true := by
  refine reached.invariant (P := fun hub => ∀ (d : Nat) a rejected,
    hub.deliveries[d]? = some (.closing a rejected) → a.loadedErrors.isSome = true) ?_ ?_ d a rejected closing
  · intro start begins d a rejected found
    rw [begins.deliveries] at found
    contradiction
  · intro s l t loaded h d a rejected found
    exact closing_step (fun _ _ => rfl) loaded (step_effect h) found

/-- What a transaction has stored when it commits is what the plan of its file takes then. -/
theorem settled_places (reached : Hub.Reachable env hub) (closing : hub.deliveries[d]? = some (.closing a rejected))
    (settled : Settled hub.db result result.records a) :
    storedPlaces a = plannedPlaces hub.db a.job.supplierId result.records := by
  have committed (s : InventorySnapshot) (own : s ∈ a.snapshots) : hub.db.imported s.sourceKey = false := by
    have apart := (reachable_exclusive reached).apart d _ closing _ (List.mem_map_of_mem own)
    rw [Database.imported, List.any_eq_false]
    intro other member same
    exact apart (List.mem_map.mpr ⟨other, member, of_decide_eq_true same⟩)
  ext row
  rw [mem_storedPlaces, plannedPlaces, List.mem_toFinset, List.mem_map]
  constructor
  · rintro ⟨s, own, rfl⟩
    obtain ⟨e, member, key, same⟩ := settled.stored s own
    refine ⟨e, Firsts.picks_judge ?_ member, congrArg some same⟩
    rw [planned_fresh (key ▸ committed s own)]
    exact (Firsts.mem_picks member).2.2
  · rintro ⟨e, member, rfl⟩
    obtain ⟨fresh, mappings⟩ := planned_some (Firsts.mem_picks member).2.2
    rcases settled.known.pick member with imported | unmapped
    · obtain ⟨s, found, same⟩ := List.any_eq_true.mp imported
      have key := of_decide_eq_true same
      rcases List.mem_append.mp found with old | own
      · have known : hub.db.imported (recordKey a.job.supplierId e.1) = true :=
          List.any_eq_true.mpr ⟨s, old, decide_eq_true key⟩
        rw [fresh] at known
        contradiction
      · obtain ⟨e', member', key', row⟩ := settled.stored s own
        have both : e'.1 = e.1 := Firsts.picks_once member' member (key'.trans key)
        exact ⟨s, own, by rw [← row, both]⟩
    · rw [unmapped] at mappings
      contradiction

/-- The rows left over, by the database that the import is committed on. -/
theorem closing_leftOver (finishes : Hub.FinishesFrom env (KeepsJob env session.job.id) d modelValidate source session
      before hub mid) (adapted : source.adapt modelValidate = .ok result) :
    ∃ a rejected, hub.deliveries[d]? = some (.closing a rejected) ∧
      a.leftOver = hub.db.leftOver session.job.id session.job.supplierId source result.records := by
  obtain ⟨reached, a, rejected, now, closing, -, rfl, records, _, done, same, settled⟩ :=
    (finishes.finishes keeps_mappings).closing settled_carried
  obtain ⟨-, _, _, _, closing', -, -, -, -, known⟩ := (finishes.finishes fun _ _ met => met).closing loaded_carried
  obtain ⟨-, _, _, _, closing'', -, -, -, _, _, _, same', tallied⟩ :=
    (finishes.finishes keeps_mappings).closing tallied_carried
  obtain ⟨rfl, -⟩ := Delivery.closing.inj (Option.some.inj (closing'.symm.trans closing))
  obtain ⟨rfl, -⟩ := Delivery.closing.inj (Option.some.inj (closing''.symm.trans closing))
  obtain rfl := Except.ok.inj (same.symm.trans adapted)
  obtain rfl := Except.ok.inj (same'.symm.trans adapted)
  have through := settled.split
  rw [records, List.append_nil] at through
  subst through
  obtain ⟨es, loaded⟩ := Option.isSome_iff_exists.mp (closing_loaded reached closing)
  refine ⟨_, rejected, closing, ?_⟩
  rw [Applying.leftOver, loaded, Option.getD_some, known es loaded, (tallied.places adapted records).2.2,
    settled_places reached closing settled]
  rfl

end

/-! ### The second execution -/

/-- Some time after `mid`, under the same mappings, job `id` of the supplier, with the file `source`, is executed from
`start` to `final` with nobody else writing. -/
structure ExecutedAgain (env : Env) (modelValidate : ModelValidate) (source : InventorySource) (supplierId : Id)
    (e : Nat) (id : Id) (mid start final : Hub) : Prop where
  between : Hub.Run env (KeepsMappings env) mid start
  ready : start.Ready [(e, id)]
  job : ∃ job, start.db.job id = some job ∧ job.supplierId = supplierId ∧
    adaptRetainedPayload env start.objects true job = source.adapt modelValidate
  executes : Hub.Executes env e start final

/-- The execution from `start` to `final` imported nothing, and its job reports as many rows as the first one. -/
structure Reimported (start final : Database) (first second : ImportJob) : Prop where
  positions : final.positions = start.positions
  snapshots : final.snapshots = start.snapshots
  accepted : second.acceptedRecords = 0
  total : second.totalRecords = first.totalRecords

section
variable {env : Env} {d e : Nat} {modelValidate : ModelValidate} {source : InventorySource} {session : WorkerSession}
    {before hub mid start final : Hub} {a : Applying} {rejected : Nat} {result : InventoryAdapterResult} {id : Id}
    {earlier first second row : ImportJob} {db : Database} {supplierId : Id}

/-- After the first execution nothing of the file is left to import. -/
theorem nothing_left (finishes : Hub.Finishes env (KeepsMappings env) d modelValidate source session hub mid)
    (between : Hub.Run env (KeepsMappings env) mid start) (adapted : source.adapt modelValidate = .ok result) :
    plan start.db session.job.supplierId result.records = [] ∧
      turnedAway start.db session.job.supplierId result.records = result.records := by
  obtain ⟨reached, a, rejected, now, closing, completes, rfl, records, _, done, same, settled⟩ :=
    finishes.closing settled_carried
  obtain rfl := Except.ok.inj (same.symm.trans adapted)
  have through := settled.split
  rw [records, List.append_nil] at through
  subst through
  have committed := complete_commits reached closing completes
  have grown := run_grown (reached.step completes) between
  rw [committed] at grown
  refine Firsts.none_taken (settled.known.imp ?_)
  rintro r (imported | unmapped)
  · exact planned_imported (imported_grown grown.snapshots imported)
  · exact planned_none ((mappingsFor_congr grown.productMappings grown.warehouseMappings).trans unmapped)

theorem union_card (s t : Finset (Option Nat)) : (s ∪ t).card = t.card + (s \ t).card := by
  rw [← Finset.card_sdiff_add_card, Nat.add_comm]

/-- The first job's total: the rows of the file, and those left over. -/
theorem finished_total (finishes : Hub.Finishes env (KeepsMappings env) d modelValidate source session hub mid)
    (closing : hub.deliveries[d]? = some (.closing a rejected))
    (before : hub.db.job session.job.id = some earlier) (reports : mid.db.job session.job.id = some first) :
    first.totalRecords = Columns.writeBack session.job.totalRecords (source.places.card + a.leftOver.card)
      earlier.totalRecords := by
  obtain ⟨reached, b, _, now, closing', completes, rfl, records, result, done, turned, adapted, tallied⟩ :=
    finishes.closing tallied_carried
  obtain ⟨rfl, -⟩ := Delivery.closing.inj (Option.some.inj (closing'.symm.trans closing))
  obtain ⟨inside, once, rows⟩ := tallied.places adapted records
  have stored : (rowsOf b.newErrors).card + b.snapshots.length = source.places.card := by
    rw [rows, ← once]
    exact Finset.card_sdiff_add_card_eq_card inside
  have rejects := (reachable_summing reached).closing d b rejected closing
  rw [rejectedRecords_card, Applying.jobErrors, rowsOf_append, union_card] at rejects
  have accepted := b.counted
  have sum : b.accepted + rejected = source.places.card + b.leftOver.card := by
    unfold Applying.leftOver
    omega
  obtain ⟨updated, -⟩ := commit_rows reached closing completes before
  rw [if_pos rfl, reports] at updated
  rw [Option.some.inj updated, complete_row, ← sum]

theorem outcome_counters {accepted : Nat} {errorRows : List (Option Nat)}
    (reported : db.outcome id = some (importOutcome accepted errorRows)) (found : db.job id = some row) :
    row.acceptedRecords = accepted ∧ row.totalRecords = accepted + errorRows.toFinset.card := by
  rw [Database.outcome, found] at reported
  have same := Option.some.inj reported
  exact ⟨congrArg ImportOutcome.acceptedRecords same, congrArg ImportOutcome.totalRecords same⟩

/-- With nothing left to import, an execution turns every row away. -/
theorem turned_away_rows (adapted : source.adapt modelValidate = .ok result)
    (left : turnedAway db supplierId result.records = result.records) :
    (importErrorRows db id supplierId result).toFinset.card =
      source.places.card + (rowsOf (db.errorsOf id) \ source.places).card := by
  rw [importErrorRows, left, List.toFinset_append, adapt_places adapted]
  exact union_card _ _

/-- The second execution imports nothing. -/
theorem imports_nothing (finishes : Hub.Finishes env (KeepsMappings env) d modelValidate source session hub mid)
    (again : ExecutedAgain env modelValidate source session.job.supplierId e id mid start final)
    (done : final.db.job id = some row) (finished : row.finished) :
    final.db.positions = start.db.positions ∧ final.db.snapshots = start.db.snapshots ∧ row.acceptedRecords = 0 ∧
      row.totalRecords = source.places.card + (rowsOf (start.db.errorsOf id) \ source.places).card := by
  obtain ⟨between, ready, ⟨job, found, supplier, retained⟩, executes⟩ := again
  obtain ⟨reached, _, _, _, -, completes, -⟩ := finishes.closing settled_carried
  have sound := reachable_sound ((reached.step completes).run between)
  obtain ⟨outcome, serial, reported⟩ := finished_serial ready sound executes done finished
  obtain ⟨job', result, added, writes, adapts, -, booked, snapshots, positions, rfl⟩ := serial.single
  obtain rfl := Option.some.inj (found.symm.trans adapts.found)
  have adapted := retained.symm.trans adapts.adapted
  obtain ⟨plans, left⟩ := nothing_left finishes between adapted
  rw [← supplier] at plans left
  rw [plans] at booked
  obtain ⟨rfl, rfl⟩ := booked.of_nil
  obtain ⟨accepted, total⟩ := outcome_counters reported done
  rw [turned_away_rows adapted left, List.length_nil, Nat.zero_add] at total
  exact ⟨positions, snapshots.trans (List.append_nil _), accepted, total⟩

/-- Jobs that nothing was recorded of before count just the rows of the file, whatever others write meanwhile. -/
theorem first_imports_agree (finishes : Hub.Finishes env (KeepsMappings env) d modelValidate source session hub mid)
    (again : ExecutedAgain env modelValidate source session.job.supplierId e id mid start final)
    (reports : mid.db.job session.job.id = some first) (done : final.db.job id = some second)
    (finished : second.finished) (fresh : hub.db.Unrecorded session.job.id) (unread : start.db.Unrecorded id) :
    Reimported start.db final.db first second := by
  obtain ⟨positions, snapshots, accepted, total⟩ := imports_nothing finishes again done finished
  refine ⟨positions, snapshots, accepted, total.trans ?_⟩
  obtain ⟨reached, a, rejected, now, closing, completes, rfl, -⟩ := finishes.closing settled_carried
  obtain ⟨earlier, present, -⟩ := held_numbered reached d _ _ _ closing rfl
  have zero := reachable_uncounted reached fresh
  have unloaded := Summing.unloaded (reachable_summing reached) closing rfl fresh.2
  rw [Applying.jobErrors, List.append_left_eq_self] at unloaded
  have none : rowsOf [] = ∅ := rfl
  rw [finished_total finishes closing present reports, (zero.row earlier present).1,
    (zero.sessions d _ _ closing rfl rfl).1, Columns.writeBack_fresh, Applying.leftOver, unloaded, unread.2, none,
    Finset.empty_sdiff, Finset.empty_sdiff]

/-- What is left over for the first job, its total counts. -/
theorem first_total (finishes : Hub.FinishesFrom env (KeepsJob env session.job.id) d modelValidate source session
      before hub mid) (adapted : source.adapt modelValidate = .ok result)
    (reports : mid.db.job session.job.id = some first) :
    first.totalRecords = source.places.card +
      (hub.db.leftOver session.job.id session.job.supplierId source result.records).card := by
  obtain ⟨a, rejected, closing, left⟩ := closing_leftOver finishes adapted
  obtain ⟨-, -, kept⟩ := finishes.same
  obtain ⟨earlier, present, same⟩ := Option.map_eq_some_iff.mp kept
  rw [finished_total (finishes.finishes keeps_mappings) closing present reports, left, same, Columns.writeBack_fresh]

/-- With nothing on its plan, only rows that the file does not have are left over for the second job. -/
theorem second_leftOver (finishes : Hub.Finishes env (KeepsMappings env) d modelValidate source session hub mid)
    (again : ExecutedAgain env modelValidate source session.job.supplierId e id mid start final)
    (adapted : source.adapt modelValidate = .ok result) :
    start.db.leftOver id session.job.supplierId source result.records =
      rowsOf (start.db.errorsOf id) \ source.places := by
  rw [Database.leftOver, plannedPlaces, (nothing_left finishes again.between adapted).1]
  rw [List.map_nil, List.toFinset_nil, Finset.sdiff_empty]

end

/-- A second job with the file of a first one imports nothing. The two report the same total exactly when as many rows
are left over for the first, on the database its import is committed on, as for the second. Unless others import in
the meantime, that database has left over for the first job what the one it was claimed on had. -/
theorem reimport_idempotent_iff {env : Env} {d e : Nat} {modelValidate : ModelValidate} {source : InventorySource}
    {session : WorkerSession} {before hub mid start final : Hub} {id : Id} {result : InventoryAdapterResult}
    {first second : ImportJob} (adapted : source.adapt modelValidate = .ok result)
    (finishes : Hub.FinishesFrom env (KeepsJob env session.job.id) d modelValidate source session before hub mid)
    (again : ExecutedAgain env modelValidate source session.job.supplierId e id mid start final)
    (reports : mid.db.job session.job.id = some first) (done : final.db.job id = some second)
    (finished : second.finished) :
    (Reimported start.db final.db first second ↔
      (hub.db.leftOver session.job.id session.job.supplierId source result.records).card =
        (start.db.leftOver id session.job.supplierId source result.records).card) ∧
    (hub.db.snapshots = before.db.snapshots →
      hub.db.leftOver session.job.id session.job.supplierId source result.records =
        before.db.leftOver session.job.id session.job.supplierId source result.records) := by
  have mappings := finishes.finishes keeps_mappings
  obtain ⟨positions, snapshots, accepted, total⟩ := imports_nothing mappings again done finished
  rw [← second_leftOver mappings again adapted] at total
  have counted := first_total finishes adapted reports
  refine ⟨⟨?_, ?_⟩, ?_⟩
  · intro same
    have totals := same.total
    omega
  · intro same
    exact ⟨positions, snapshots, accepted, by omega⟩
  · intro unimported
    obtain ⟨same, errors, -⟩ := finishes.same
    rw [Database.leftOver, Database.leftOver, plannedPlaces, plannedPlaces, errors,
      (plan_congr same.productMappings same.warehouseMappings unimported).1]

namespace Small

/-- The one valid row. -/
def singleSource : InventorySource :=
  .supplierB (.decoded header [cells ["SNAP-1", "2026-07-29T15:00:00Z", "B-1", "EAST", "3", "12"]])

def singleEnv : Env where
  settings := env.settings
  sha256 _ := digest
  adapter _ _ := singleSource.adapt modelValidate

/-- A second job for the file. -/
def resubmitted : List Label :=
  [.submit { request with idempotencyKey := "key-2" }, .lookup 1, .put 1 .stored (moment 70), .insert 1 2 (moment 70),
    .deliver 2 "worker" none]

def duplicated (d : Nat) : List Label :=
  [.claim d (moment 80), .adapt d true (moment 80), .start d, .record d, .summarise d, .complete d (moment 81)]

/-- Job 1 executed by delivery `d` once `labels` have delivered it, and then job 2. -/
def importsTwice (labels : List Label) (d : Nat)
    (shows : WorkerSession → Database → ImportJob → Database → ImportJob → Bool) : Bool :=
  (Machine.exec (Hub.step singleEnv) hub labels).any fun before =>
    (Hub.step singleEnv before (.claim d (moment 60))).any fun claimed =>
    ((claimed.deliveries[d]?).bind claimedSession).any fun session =>
    (loadImportPayload singleEnv claimed.objects true session.job).toOption.isSome &&
    (Hub.step singleEnv claimed (.adapt d true (moment 61))).any fun begun =>
    (Machine.exec (Machine.checked (Hub.step singleEnv)
      fun hub l => decide (KeepsJob singleEnv session.job.id hub l)) begun
      [.start d, .record d, .record d, .record d, .record d, .record d, .summarise d]).any fun hub =>
    (Hub.step singleEnv hub (.complete d (moment 62))).any fun mid =>
    (mid.db.job session.job.id).any fun first =>
    (Machine.exec (Machine.checked (Hub.step singleEnv) fun hub l => decide (KeepsMappings singleEnv hub l)) mid
      resubmitted).any fun start =>
    start.isReady [(d + 1, 2)] &&
    ((start.db.job 2).any fun job => job.supplierId = session.job.supplierId &&
      (loadImportPayload singleEnv start.objects true job).toOption.isSome) &&
    (Machine.exec (Machine.checked (Hub.step singleEnv) fun hub l => decide (Hub.Executing (d + 1) hub l)) start
      (duplicated (d + 1))).any fun final =>
    (final.deliveries[d + 1]?).any Delivery.ended &&
    (final.db.job 2).any fun second => second.status = .completedWithErrors &&
      shows session hub.db first start.db second

theorem single_retained {objects : ObjectStore} {job : ImportJob}
    (loads : (loadImportPayload singleEnv objects true job).toOption.isSome = true) :
    adaptRetainedPayload singleEnv objects true job = singleSource.adapt modelValidate := by
  obtain ⟨content, payload⟩ := Option.isSome_iff_exists.mp loads
  rw [adaptRetainedPayload, toOption_ok payload]
  rfl

theorem importsTwice_again {labels : List Label} {d : Nat}
    {shows : WorkerSession → Database → ImportJob → Database → ImportJob → Bool}
    (shown : importsTwice labels d shows = true) : ∃ session before hub mid start final first second,
      Hub.FinishesFrom singleEnv (KeepsJob singleEnv session.job.id) d modelValidate singleSource session before hub
          mid ∧
        ExecutedAgain singleEnv modelValidate singleSource session.job.supplierId (d + 1) 2 mid start final ∧
        mid.db.job session.job.id = some first ∧ final.db.job 2 = some second ∧ second.finished ∧
        shows session hub.db first start.db second = true := by
  simp only [importsTwice, Option.any_eq_true, Option.bind_eq_some_iff, Bool.and_eq_true, decide_eq_true_eq] at shown
  obtain ⟨before, steps, claimed, claims, session, ⟨x, present, holds⟩, loads, begun, adapts, hub, run, mid, completes,
    first, reports, start, between, ⟨ready, job, found, supplier, loads'⟩, final, executes, ⟨z, last, ended⟩, second,
    done, status, holds'⟩ := shown
  obtain rfl := claimedSession_some holds
  have finishes : Hub.FinishesFrom singleEnv (KeepsJob singleEnv session.job.id) d modelValidate singleSource session
      before hub mid :=
    .intro ⟨Small.hub, initial, Machine.exec_run (fun _ _ _ => trivial) steps⟩ claims (.refl _) present present
      (single_retained loads) adapts (Machine.exec_run_checked (fun _ _ => of_decide_eq_true) run) completes
  exact ⟨session, before, hub, mid, start, final, first, second, finishes,
    ⟨Machine.exec_run_checked (fun _ _ => of_decide_eq_true) between, isReady_ready ready,
      ⟨job, found, supplier, single_retained loads'⟩,
      ⟨Machine.exec_run_checked (fun _ _ => of_decide_eq_true) executes, z, last, ended⟩⟩,
    reports, done, .inr status, holds'⟩

end Small

theorem reimport_idempotent_iff_single : ∃ session before hub mid start final first second,
    Hub.FinishesFrom Small.singleEnv (KeepsJob Small.singleEnv session.job.id) 0 Small.modelValidate
        Small.singleSource session before hub mid ∧
      ExecutedAgain Small.singleEnv Small.modelValidate Small.singleSource session.job.supplierId 1 2 mid start final ∧
      mid.db.job session.job.id = some first ∧ final.db.job 2 = some second ∧
      Reimported start.db final.db first second := by
  have shown : Small.importsTwice (Small.submitted ++ [.deliver 1 "worker" none]) 0
      (fun session db _ after _ => (Small.singleSource.adapt Small.modelValidate).toOption.any fun result => decide
        ((db.leftOver session.job.id session.job.supplierId Small.singleSource result.records).card =
          (after.leftOver 2 session.job.supplierId Small.singleSource result.records).card)) = true := by
    decide +kernel
  obtain ⟨session, before, hub, mid, start, final, first, second, finishes, again, reports, done, finished, same⟩ :=
    Small.importsTwice_again shown
  obtain ⟨result, adapted, same⟩ := (Option.any_eq_true _ _).mp same
  exact ⟨session, before, hub, mid, start, final, first, second, finishes, again, reports, done,
    (reimport_idempotent_iff (Small.toOption_ok adapted) finishes again reports done finished).1.mpr
      (of_decide_eq_true same)⟩

/-- The first job is executed twice: its row is rejected for a mapping, the job is queued again after it has completed,
and with the mapping corrected the row is imported. The job reports two rows; the second job reports one. -/
theorem corrected_mapping_counts_twice : ∃ session before hub mid start final first second,
    Hub.FinishesFrom Small.singleEnv (KeepsJob Small.singleEnv session.job.id) 1 Small.modelValidate
        Small.singleSource session before hub mid ∧
      ExecutedAgain Small.singleEnv Small.modelValidate Small.singleSource session.job.supplierId 2 2 mid start final ∧
      mid.db.job session.job.id = some first ∧ final.db.job 2 = some second ∧ first.totalRecords = 2 ∧
      second.totalRecords = 1 ∧ ¬ Reimported start.db final.db first second := by
  have shown : Small.importsTwice ([.productMappingRead (Small.repack 24000), .mappingCommit 0] ++ Small.submitted ++
      Small.claimed 0 (Small.moment 1) ++ [.adapt 0 true (Small.moment 1), .start 0, .record 0, .record 0, .record 0] ++
      Small.completed 0 (Small.moment 2) ++ Small.failed 0 (Small.moment 3) ++
      [.productMappingRead (Small.repack 12000), .mappingCommit 1, .deliver 1 "worker" none]) 1
      (fun _ _ first _ second => first.totalRecords = 2 && second.totalRecords = 1) = true := by
    decide +kernel
  obtain ⟨session, before, hub, mid, start, final, first, second, finishes, again, reports, done, -, totals⟩ :=
    Small.importsTwice_again shown
  simp only [Bool.and_eq_true, decide_eq_true_eq] at totals
  refine ⟨session, before, hub, mid, start, final, first, second, finishes, again, reports, done, totals.1, totals.2,
    ?_⟩
  intro same
  have agrees := same.total
  rw [totals.1, totals.2] at agrees
  contradiction

end SupplyChainHub
