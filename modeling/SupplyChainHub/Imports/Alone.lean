import SupplyChainHub.Imports.Interleavings

/-!
What becomes of the tasks: none fails whose records the database takes, and one that runs alone gets to its
commit.
-/

namespace SupplyChainHub

def Delivery.fallen : Delivery → Bool
  | .raised _ | .done => true
  | _ => false

def Delivery.ended : Delivery → Bool
  | .committed _ | .done => true
  | _ => false

/-- Nothing in the retained file keeps the database from taking what is to be imported. -/
def Hub.Importable (env : Env) (start : Hub) (id : Id) : Prop :=
  ∃ job result, start.Adapts env id job result ∧ Storable start.db job.supplierId result

/-- An execution of the task of delivery `d` with no other session at work, to its end. -/
structure Hub.Executes (env : Env) (d : Nat) (start final : Hub) : Prop where
  run : Hub.Run env (Hub.Executing d) start final
  ended : ∃ x, final.deliveries[d]? = some x ∧ x.ended = true

section
variable {env : Env} {start hub next final : Hub} {l : Label} {d : Nat} {id : Id} {x y : Delivery}
    {tasks : List (Nat × Id)} {order : List (Id × ImportOutcome)} {snapshots : List InventorySnapshot}
    {positions : List InventoryPosition} {error : Raised}

/-! ### Runs -/

theorem working_start (ready : start.Ready tasks) (sound : start.Sound) : Working env start tasks [] start where
  sound := sound
  objects := rfl
  productMappings := rfl
  warehouseMappings := rfl
  serial := .nil
  distinct := List.nodup_nil
  stages d id task := by
    obtain ⟨workerId, celeryTaskId, received⟩ := ready.received d id task
    exact ⟨_, received, ⟨rfl, rfl⟩, by simp [Delivery.isCommitted]⟩
  others d x present opened := absurd (ready.idle d x present) opened
  errors _ _ := rfl
  outcomes := by simp
  members := by simp

theorem Working.run (ready : start.Ready tasks) (working : Working env start tasks order hub)
    (run : Hub.Run env (Hub.Unraced tasks) hub next) : ∃ more, Working env start tasks (order ++ more) next := by
  refine run.invariant (P := fun hub => ∃ more, Working env start tasks (order ++ more) hub) ?_
    ⟨[], by rwa [List.append_nil]⟩
  rintro s l t ⟨more, working⟩ met h
  obtain ⟨last, working⟩ := working.step ready met h
  exact ⟨more ++ last, by rwa [← List.append_assoc]⟩

theorem unraced_working (ready : start.Ready tasks) (sound : start.Sound)
    (run : Hub.Run env (Hub.Unraced tasks) start hub) : ∃ order, Working env start tasks order hub := by
  obtain ⟨order, working⟩ := (working_start ready sound).run ready run
  exact ⟨_, working⟩

/-- What other tasks imported since the start takes entries off the plan, and nothing else. -/
theorem Working.storable (working : Working env start tasks order hub) {job : ImportJob}
    {result : InventoryAdapterResult} (storable : Storable start.db job.supplierId result) :
    ∀ e ∈ plan hub.db job.supplierId result.records, e.Storable := by
  obtain ⟨added, grown⟩ := working.serial.grown
  intro e member
  exact storable.entries e (plan_shrinks working.productMappings working.warehouseMappings grown member)

theorem Working.no_failure (working : Working env start tasks order hub) (task : (d, id) ∈ tasks)
    (importable : start.Importable env id) (current : hub.FindsCurrent d) (room : hub.HasRoom d)
    (present : hub.deliveries[d]? = some x) : ¬ Fails env hub d x error := by
  intro fails
  obtain ⟨job, result, adapts, storable⟩ := importable
  obtain ⟨z, found, stage, -⟩ := working.stages d id task
  obtain rfl := Option.some.inj (present.symm.trans found)
  have entries := working.storable storable
  cases fails with
  | @claim jobId workerId celeryTaskId now _ refused =>
    obtain ⟨rfl, row⟩ := stage
    have claims : ∃ result, executeImportJobClaim env.settings hub.db jobId workerId celeryTaskId now = .ok result :=
      claim_succeeds working.sound.ledger (row.trans adapts.found) workerId celeryTaskId now
    obtain ⟨_, claims⟩ := claims
    rw [claims] at refused
    contradiction
  | adapt refused =>
    obtain ⟨before, known, payload⟩ := stage.payload working.objects
    obtain rfl := Option.some.inj (known.symm.trans adapts.found)
    rw [payload, adapts.adapted] at refused
    contradiction
  | @record a record rest _ records refused =>
    obtain ⟨held, -, before, result', done, adapts', progress⟩ := stage
    obtain ⟨rfl, rfl⟩ := adapts.unique adapts'
    rw [← held.supplier adapts] at entries
    have goes := progress.goes_on (hub.locks d) records (current a present) storable.sendable entries (room a present)
    rw [refused] at goes
    rcases goes with ⟨b, next⟩ | ⟨blocked, -⟩ <;> contradiction
  | complete missing =>
    obtain ⟨attempt, known⟩ := stage.1.current working.sound.ledger
    rw [known] at missing
    contradiction

theorem Working.stands (working : Working env start tasks order hub) (ready : start.Ready tasks)
    (task : (d, id) ∈ tasks) (importable : start.Importable env id) (current : hub.FindsCurrent d)
    (room : hub.HasRoom d) (moved : Hub.Moved env hub next d x y) (standing : x.fallen = false) :
    y.fallen = false := by
  have none {error : Raised} : ¬ Fails env hub d x error :=
    working.no_failure task importable current room moved.present
  have move := moved.move
  generalize next.db = after at move
  cases move with
  | passed found busy =>
    obtain ⟨z, present, stage, -⟩ := working.stages d id task
    obtain rfl := Option.some.inj (moved.present.symm.trans present)
    obtain ⟨rfl, row⟩ := stage
    obtain ⟨job, known, queued⟩ := ready.queued d _ task
    obtain rfl := Option.some.inj (found.symm.trans (row.trans known))
    exact absurd queued busy
  | raised fails => exact absurd fails none
  | ended fails => exact absurd fails none
  | reported | unreported => contradiction
  | claimed | adapted | started | recorded | summarised | completed => rfl

theorem Hub.Unhindered.unraced (met : Hub.Unhindered tasks hub l) : Hub.Unraced tasks hub l := by
  obtain ⟨task, member, executing, current, -⟩ := met
  exact ⟨task, member, executing, current⟩

/-- No task raises whose job is importable on its own, as long as no flush loses a race or finds the version of
its position at the end. -/
theorem unhindered_stands (ready : start.Ready tasks) (sound : start.Sound) (task : (d, id) ∈ tasks)
    (importable : start.Importable env id) (run : Hub.Run env (Hub.Unhindered tasks) start hub) :
    ∃ x, hub.deliveries[d]? = some x ∧ x.fallen = false := by
  have both : (∃ order, Working env start tasks order hub) ∧
      ∃ x, hub.deliveries[d]? = some x ∧ x.fallen = false := by
    refine run.invariant (P := fun hub => (∃ order, Working env start tasks order hub) ∧
      ∃ x, hub.deliveries[d]? = some x ∧ x.fallen = false) ?_ ⟨⟨[], working_start ready sound⟩, ?_⟩
    · rintro s l t ⟨⟨order, working⟩, x, present, standing⟩ met h
      obtain ⟨more, after⟩ := working.step ready met.unraced h
      refine ⟨⟨_, after⟩, ?_⟩
      obtain ⟨⟨e, other⟩, member, executing, current, room⟩ := met
      obtain ⟨z, y, moved⟩ := worker_move executing h
      by_cases mine : e = d
      · subst mine
        obtain rfl := Option.some.inj (present.symm.trans moved.present)
        refine ⟨y, ?_, working.stands ready task importable current room moved standing⟩
        rw [moved.deliveries]
        exact Pool.set_present moved.present
      · refine ⟨x, ?_, standing⟩
        rw [moved.deliveries, List.getElem?_set_ne mine]
        exact present
    · obtain ⟨workerId, celeryTaskId, received⟩ := ready.received d id task
      exact ⟨_, received, rfl⟩
  exact both.2

theorem Serial.finished (serial : Serial env start order snapshots positions) {entry : Id × ImportOutcome}
    (member : entry ∈ order) : entry.2.status = .completed ∨ entry.2.status = .completedWithErrors := by
  induction serial with
  | nil => contradiction
  | snoc _ _ _ _ ih =>
    rcases List.mem_append.mp member with old | new
    · exact ih old
    · rw [List.mem_singleton.mp new, importOutcome]
      dsimp only
      split
      · exact .inl rfl
      · exact .inr rfl

theorem Working.committed_row (working : Working env start tasks order hub) (member : id ∈ order.map Prod.fst) :
    ∃ job, hub.db.job id = some job ∧ job.finished := by
  obtain ⟨entry, inside, rfl⟩ := List.mem_map.mp member
  have outcome := working.outcomes entry inside
  obtain ⟨job, found, same⟩ := Option.map_eq_some_iff.mp outcome
  refine ⟨job, found, ?_⟩
  have status : job.status = entry.2.status := congrArg ImportOutcome.status same
  unfold ImportJob.finished
  rw [status]
  exact working.serial.finished inside

/-- A task that has not fallen leaves its job queued, in work or finished. -/
theorem Working.not_failed (working : Working env start tasks order hub) (ready : start.Ready tasks)
    (task : (d, id) ∈ tasks) (present : hub.deliveries[d]? = some x) (standing : x.fallen = false)
    {job : ImportJob} (found : hub.db.job id = some job) : job.status ≠ .failed := by
  obtain ⟨z, known, stage, committed⟩ := working.stages d id task
  obtain rfl := Option.some.inj (present.symm.trans known)
  have held {w : WorkerSession} (held : Held env start hub id w) : job.status ≠ .failed := by
    obtain rfl := Option.some.inj (found.symm.trans held.row)
    rw [w.processing]
    decide
  cases x with
  | received =>
    obtain ⟨before, row, queued⟩ := ready.queued d id task
    obtain rfl := Option.some.inj (found.symm.trans (stage.2.trans row))
    rw [queued]
    decide
  | claimed => exact held stage
  | adapted | applying | closing => exact held stage.1
  | committed =>
    obtain ⟨row, known, finished⟩ := working.committed_row (committed.mp rfl)
    obtain rfl := Option.some.inj (found.symm.trans known)
    rcases finished with status | status
    · rw [status]
      decide
    · rw [status]
      decide
  | raised | done => contradiction

end

/-! ### Alone -/

/-- What the statements for the record in hand have found is what there is. -/
structure Applying.Current (db : Database) (a : Applying) : Prop where
  fresh : a.phase = .duplicateCheck ∨ ∀ record, a.records.head? = some record →
    db.imported (recordKey a.job.supplierId record) = false
  row : ∀ m w position, a.phase = .flush m w position →
    position = positionAt (w.warehouseId, m.productId) (a.positions db)

def RecordPhase.left : RecordPhase → Nat
  | .duplicateCheck => 5
  | .productLookup => 4
  | .warehouseLookup _ => 3
  | .positionLookup _ _ => 2
  | .flush _ _ _ => 1

/-- A bound on the steps to the commit of a file of `n` records. -/
def Delivery.left (n : Nat) : Delivery → Nat
  | .received _ _ _ => 5 * n + 9
  | .claimed _ => 5 * n + 8
  | .adapted _ result _ => 5 * result.records.length + 7
  | .applying a => 5 * a.records.length + a.phase.left + 1
  | .closing _ _ => 1
  | .committed _ | .raised _ | .done => 0

section
variable {env : Env} {start hub next final : Hub} {l : Label} {d : Nat} {id : Id} {x y : Delivery}
    {tasks : List (Nat × Id)} {order : List (Id × ImportOutcome)} {db after : Database} {a b : Applying}
    {locks : Locks} {record : CanonicalInventoryRecord} {rest : List CanonicalInventoryRecord}

theorem Applying.Current.flush (current : a.Current db) : a.FlushCurrent db := by
  intro m w position phase
  refine ⟨current.row m w position phase, ?_⟩
  rcases current.fresh with check | fresh
  · rw [phase] at check
    contradiction
  · exact fresh

theorem current_check (phase : a.phase = .duplicateCheck) : a.Current db := by
  refine ⟨.inl phase, ?_⟩
  intro m w position flush
  rw [phase] at flush
  contradiction

theorem RecordProgress.current (progress : RecordProgress db locks a record rest b)
    (records : a.records = record :: rest) (current : a.Current db) : b.Current db := by
  have head {other : CanonicalInventoryRecord} (first : a.records.head? = some other) : other = record := by
    rw [records] at first
    exact (Option.some.inj first).symm
  have going (search : a.phase ≠ .duplicateCheck) : ∀ other, a.records.head? = some other →
      db.imported (recordKey a.job.supplierId other) = false := current.fresh.resolve_left search
  cases progress with
  | rejected => exact current_check rfl
  | unseen phase sendable unseen fresh =>
    refine ⟨.inr ?_, fun m w position flush => by contradiction⟩
    intro other first
    rw [head first]
    exact fresh_import fresh
  | product phase =>
    exact ⟨.inr (going (by simp [phase])), fun m w position flush => by contradiction⟩
  | warehouse phase =>
    exact ⟨.inr (going (by simp [phase])), fun m w position flush => by contradiction⟩
  | position phase =>
    refine ⟨.inr (going (by simp [phase])), ?_⟩
    intro m w position flush
    cases flush
    rfl
  | flushed _ _ _ after => exact current_check after

theorem WorkerMove.current (move : WorkerMove env hub d x y after)
    (current : ∀ a, x = .applying a → a.Current hub.db) : ∀ a, y = .applying a → a.Current after := by
  intro a same
  cases move with
  | @started w result events =>
    cases same
    exact current_check (start_begun hub.db w result events).2.1
  | recorded records progress =>
    cases same
    exact progress.current records (current _ rfl)
  | _ => contradiction

/-- Run alone, a task finds what it looked up still there. -/
theorem alone_unraced (ready : start.Ready tasks) (task : (d, id) ∈ tasks)
    (run : Hub.Run env (Hub.Executing d) start hub) :
    Hub.Run env (Hub.Unraced tasks) start hub ∧ hub.FindsCurrent d := by
  have both : Hub.Run env (Hub.Unraced tasks) start hub ∧
      ∀ x, hub.deliveries[d]? = some x → ∀ a, x = .applying a → a.Current hub.db := by
    refine run.invariant (P := fun hub => Hub.Run env (Hub.Unraced tasks) start hub ∧
      ∀ x, hub.deliveries[d]? = some x → ∀ a, x = .applying a → a.Current hub.db) ?_ ⟨.refl _, ?_⟩
    · rintro s l t ⟨run, current⟩ met h
      have finds : s.FindsCurrent d := fun a present => (current _ present a rfl).flush
      refine ⟨run.tail ⟨_, task, met, finds⟩ h, ?_⟩
      intro y found
      obtain ⟨x, z, moved⟩ := worker_move met h
      rw [moved.deliveries, Pool.set_present moved.present] at found
      cases found
      exact moved.move.current (current x moved.present)
    · obtain ⟨workerId, celeryTaskId, received⟩ := ready.received d id task
      intro x present a same
      rw [received, same] at present
      cases present
  exact ⟨both.1, fun a present => (both.2 _ present a rfl).flush⟩

/-- Until it commits, a task alone on the hub has the stock of the start. -/
theorem Working.alone_order_nil (working : Working env start [(d, id)] order hub)
    (uncommitted : id ∉ order.map Prod.fst) : order = [] := by
  cases order with
  | nil => rfl
  | cons entry more =>
    obtain ⟨e, task⟩ := working.members entry List.mem_cons_self
    rw [List.mem_singleton] at task
    exact absurd (List.mem_map.mpr ⟨entry, List.mem_cons_self, (Prod.mk.inj task).2⟩) uncommitted

/-- A job that is importable finds room for the versions when it is alone. -/
theorem Working.room (working : Working env start [(d, id)] order hub) (importable : start.Importable env id)
    (current : hub.FindsCurrent d) : hub.HasRoom d := by
  intro a present
  obtain ⟨job, result, adapts, storable⟩ := importable
  obtain ⟨z, found, stage, -⟩ := working.stages d id List.mem_cons_self
  obtain rfl := Option.some.inj (present.symm.trans found)
  obtain ⟨held, -, before, result', done, adapts', progress⟩ := stage
  obtain ⟨rfl, rfl⟩ := adapts.unique adapts'
  obtain rfl := working.alone_order_nil (working.uncommitted List.mem_cons_self present rfl)
  obtain ⟨-, snapshots, positions⟩ := Serial.nil.unique working.serial rfl
  apply progress.flush_fits (current a present)
  rw [held.supplier adapts, positions, (plan_congr working.productMappings working.warehouseMappings snapshots).1]
  exact storable.versions

theorem RecordPhase.left_pos (phase : RecordPhase) : 1 ≤ phase.left := by
  cases phase <;> simp [RecordPhase.left]

theorem RecordProgress.left (progress : RecordProgress db locks a record rest b)
    (records : a.records = record :: rest) (n : Nat) :
    (Delivery.applying b).left n < (Delivery.applying a).left n := by
  have counted : a.records.length = rest.length + 1 := congrArg List.length records
  have left := a.phase.left_pos
  cases progress with
  | rejected =>
    show 5 * rest.length + 5 + 1 < 5 * a.records.length + a.phase.left + 1
    omega
  | unseen phase | product phase | warehouse phase | position phase =>
    simp only [Delivery.left, phase, RecordPhase.left]
    omega
  | flushed _ _ records' after =>
    simp only [Delivery.left, records', after]
    show 5 * rest.length + 5 + 1 < _
    omega

theorem WorkerMove.left (move : WorkerMove env hub d x y after) (standing : y.fallen = false) {n : Nat}
    (adapted : ∀ w result events, y = .adapted w result events → result.records.length ≤ n) :
    y.left n < x.left n := by
  cases move with
  | passed | raised | ended | reported | unreported => contradiction
  | claimed => simp [Delivery.left]
  | adapted =>
    have short := adapted _ _ _ rfl
    simp only [Delivery.left]
    omega
  | @started w result events =>
    obtain ⟨records, phase, -⟩ := start_begun hub.db w result events
    simp only [Delivery.left, phase, records, RecordPhase.left]
    omega
  | recorded records progress => exact progress.left records n
  | @summarised a records =>
    have left := a.phase.left_pos
    simp only [Delivery.left]
    omega
  | completed => simp [Delivery.left]

theorem alone_unlocked (working : Working env start [(d, id)] order hub) :
    (∀ place, (hub.locks d).position place = false) ∧ ∀ key, (hub.locks d).sourceKey key = false := by
  have idle (j : Nat) (z : Delivery) (found : hub.deliveries[j]? = some z) (other : j ≠ d) :
      z.transaction? = none := by
    by_contra opened
    obtain ⟨other', member⟩ := working.others j z found opened
    rw [List.mem_singleton] at member
    exact other (Prod.mk.inj member).1
  constructor
  · intro place
    refine Pool.elsewhere_false.mpr fun j z found other => ?_
    simp [Delivery.holdsPosition, Delivery.writes, idle j z found other]
  · intro key
    refine Pool.elsewhere_false.mpr fun j z found other => ?_
    simp [Delivery.holdsSourceKey, Delivery.snapshots, idle j z found other]

theorem raiseAt_goes {error : Raised} {r : RaisedDelivery} (raising : x.raising error = some r) :
    ∃ next, hub.raiseAt d x error = some next := by
  unfold Hub.raiseAt
  rw [raising]
  exact ⟨_, rfl⟩

/-- A task alone on the hub that has not fallen has a next step until its commit. -/
theorem alone_advances (working : Working env start [(d, id)] order hub) (importable : start.Importable env id)
    (current : hub.FindsCurrent d) (room : hub.HasRoom d) (present : hub.deliveries[d]? = some x)
    (standing : x.fallen = false) (uncommitted : x.isCommitted = false) :
    ∃ l next, Hub.Executing d hub l ∧ Hub.step env hub l = some next := by
  obtain ⟨job, result, adapts, storable⟩ := importable
  obtain ⟨z, found, stage, -⟩ := working.stages d id List.mem_cons_self
  obtain rfl := Option.some.inj (present.symm.trans found)
  cases x with
  | received jobId workerId celeryTaskId =>
    obtain ⟨rfl, row⟩ := stage
    refine ⟨.claim d (job.nextRetryAt.getD 0), ?_⟩
    have due : Hub.Executing d hub (.claim d (job.nextRetryAt.getD 0)) := by
      refine ⟨rfl, ?_⟩
      unfold Hub.retryDue
      simp only [present, row.trans adapts.found, Option.all_some]
      cases job.nextRetryAt <;> simp
    simp only [Hub.step, Hub.claim, present]
    split
    · rename_i e _
      obtain ⟨next, goes⟩ := raiseAt_goes (rfl : Delivery.raising e (.received jobId workerId celeryTaskId) = _)
      exact ⟨next, due, goes⟩
    · exact ⟨_, due, rfl⟩
    · exact ⟨_, due, rfl⟩
  | claimed w =>
    refine ⟨.adapt d true 0, ?_⟩
    simp only [Hub.step, Hub.adapt, present]
    split
    · rename_i e _
      obtain ⟨next, goes⟩ := raiseAt_goes (rfl : Delivery.raising e (.claimed w) = _)
      exact ⟨next, ⟨rfl, rfl⟩, goes⟩
    · exact ⟨_, ⟨rfl, rfl⟩, rfl⟩
  | adapted w result events =>
    refine ⟨.start d, ?_⟩
    simp only [Hub.step, Hub.start, present]
    exact ⟨_, rfl, rfl⟩
  | applying a =>
    obtain ⟨held, -, before, result', done, adapts', progress⟩ := stage
    obtain ⟨rfl, rfl⟩ := adapts.unique adapts'
    have entries := working.storable storable
    rw [← held.supplier adapts] at entries
    cases records : a.records with
    | nil =>
      refine ⟨.summarise d, ?_⟩
      simp only [Hub.step, Hub.summarise, present, records]
      exact ⟨_, rfl, rfl⟩
    | cons record rest =>
      refine ⟨.record d, ?_⟩
      obtain ⟨places, keys⟩ := alone_unlocked working
      simp only [Hub.step, Hub.record, present, records]
      rcases progress.goes_on (hub.locks d) records (current a present) storable.sendable entries (room a present) with
        ⟨b, next⟩ | ⟨-, ⟨place, held⟩ | ⟨key, held⟩⟩
      · rw [next]
        exact ⟨_, rfl, rfl⟩
      · rw [places] at held
        contradiction
      · rw [keys] at held
        contradiction
  | closing a rejected =>
    obtain ⟨attempt, known⟩ := stage.1.current working.sound.ledger
    refine ⟨.complete d 0, ?_⟩
    simp only [Hub.step, Hub.complete, present, known]
    exact ⟨_, rfl, rfl⟩
  | committed | raised | done => contradiction

/-- A job that is importable, executed alone, is committed in the end. -/
theorem alone_commits (ready : start.Ready [(d, id)]) (sound : start.Sound) (importable : start.Importable env id) :
    ∃ final w, Hub.Run env (Hub.Executing d) start final ∧ final.deliveries[d]? = some (.committed w) := by
  obtain ⟨job, result, adapts, storable⟩ := importable
  have task : (d, id) ∈ [(d, id)] := List.mem_cons_self
  -- By the number of steps that are left at most.
  have finishes (n : Nat) : ∀ hub x, Hub.Run env (Hub.Executing d) start hub → hub.deliveries[d]? = some x →
      x.fallen = false → x.left result.records.length ≤ n →
      ∃ final w, Hub.Run env (Hub.Executing d) start final ∧ final.deliveries[d]? = some (.committed w) := by
    induction n with
    | zero =>
      intro hub x run present standing least
      cases x with
      | committed w => exact ⟨hub, w, run, present⟩
      | raised | done => contradiction
      | received | claimed | adapted | applying | closing => simp [Delivery.left] at least
    | succ n ih =>
      intro hub x run present standing least
      obtain ⟨unraced, current⟩ := alone_unraced ready task run
      obtain ⟨order, working⟩ := unraced_working ready sound unraced
      have room := working.room ⟨job, result, adapts, storable⟩ current
      cases uncommitted : x.isCommitted with
      | true =>
        cases x with
        | committed w => exact ⟨hub, w, run, present⟩
        | _ => contradiction
      | false =>
        obtain ⟨l, next, met, h⟩ := alone_advances working ⟨job, result, adapts, storable⟩ current room present
          standing uncommitted
        obtain ⟨z, y, moved⟩ := worker_move met h
        obtain rfl := Option.some.inj (present.symm.trans moved.present)
        have stands := working.stands ready task ⟨job, result, adapts, storable⟩ current room moved standing
        have known : next.deliveries[d]? = some y := by
          rw [moved.deliveries]
          exact Pool.set_present moved.present
        refine ih next y (run.tail met h) known stands (Nat.le_of_lt_succ (lt_of_lt_of_le ?_ least))
        apply moved.move.left stands
        rintro w result' events rfl
        obtain ⟨_, after⟩ := working.step ready ⟨_, task, met, current⟩ h
        obtain ⟨y, found, stage, -⟩ := after.stages d id task
        cases known.symm.trans found
        obtain ⟨-, _, adapts'⟩ := stage
        rw [(adapts.unique adapts').2]
  obtain ⟨workerId, celeryTaskId, received⟩ := ready.received d id task
  exact finishes _ start _ (.refl _) received rfl le_rfl

theorem Hub.Ready.sub {some : List (Nat × Id)} (ready : start.Ready tasks) (sub : some ⊆ tasks) :
    start.Ready some where
  received d id task := ready.received d id (sub task)
  queued d id task := ready.queued d id (sub task)
  apart d e id first second := ready.apart d e id (sub first) (sub second)
  idle := ready.idle

theorem Working.alone_order (working : Working env start [(d, id)] order hub)
    (committed : id ∈ order.map Prod.fst) : ∃ outcome, order = [(id, outcome)] := by
  have mine (entry : Id × ImportOutcome) (member : entry ∈ order) : entry.1 = id := by
    obtain ⟨e, task⟩ := working.members entry member
    rw [List.mem_singleton] at task
    exact (Prod.mk.inj task).2
  have distinct := working.distinct
  cases order with
  | nil => contradiction
  | cons entry more =>
    cases more with
    | nil =>
      have owner := mine entry List.mem_cons_self
      exact ⟨entry.2, by rw [← owner]⟩
    | cons second more =>
      have same : entry.1 = second.1 := by
        rw [mine entry List.mem_cons_self, mine second (List.mem_cons_of_mem _ List.mem_cons_self)]
      simp [same] at distinct

theorem committed_ended {x : Delivery} (ended : x.ended = true) (standing : x.fallen = false) :
    x.isCommitted = true := by
  cases x with
  | committed => rfl
  | _ => contradiction

/-- An execution alone imports the file, or leaves the job unfinished. -/
theorem alone_serial (ready : start.Ready [(d, id)]) (sound : start.Sound)
    (executes : Hub.Executes env d start final) :
    (∃ outcome, Serial env start [(id, outcome)] final.db.snapshots final.db.positions ∧
      final.db.outcome id = some outcome) ∨ Unfinished final.db id := by
  obtain ⟨unraced, -⟩ := alone_unraced ready List.mem_cons_self executes.run
  obtain ⟨order, working⟩ := unraced_working ready sound unraced
  obtain ⟨x, present, ended⟩ := executes.ended
  obtain ⟨z, found, stage, committed⟩ := working.stages d id List.mem_cons_self
  obtain rfl := Option.some.inj (present.symm.trans found)
  cases x with
  | committed w =>
    obtain ⟨outcome, same⟩ := working.alone_order (committed.mp rfl)
    have serial := working.serial
    have outcomes := working.outcomes
    rw [same] at serial outcomes
    exact .inl ⟨outcome, serial, outcomes _ List.mem_cons_self⟩
  | done => exact .inr stage
  | _ => contradiction

theorem finished_serial (ready : start.Ready [(d, id)]) (sound : start.Sound)
    (executes : Hub.Executes env d start final) {job : ImportJob} (found : final.db.job id = some job)
    (finished : job.finished) :
    ∃ outcome, Serial env start [(id, outcome)] final.db.snapshots final.db.positions ∧
      final.db.outcome id = some outcome := by
  rcases alone_serial ready sound executes with serial | unfinished
  · exact serial
  · exact absurd finished (unfinished job found)

theorem Serial.single {outcome : ImportOutcome} {snapshots : List InventorySnapshot}
    {positions : List InventoryPosition} (serial : Serial env start [(id, outcome)] snapshots positions) :
    ∃ job result added writes, start.Adapts env id job result ∧ Storable start.db job.supplierId result ∧
      Booked start.db id job.supplierId (plan start.db job.supplierId result.records) added writes ∧
      snapshots = start.db.snapshots ++ added ∧ positions = applyWrites start.db.positions writes ∧
      outcome = importOutcome added.length (importErrorRows start.db id job.supplierId result) := by
  have serial : Serial env start ([] ++ [(id, outcome)]) snapshots positions := serial
  obtain ⟨_, _, job, result, added, writes, before, adapts, storable, booked, grown, written, same⟩ := serial.of_snoc
  obtain ⟨-, rfl, rfl⟩ := Serial.nil.unique before rfl
  exact ⟨job, result, added, writes, adapts, storable, booked, grown, written, same⟩

/-- Alone, what finishes is what is importable. -/
theorem alone_importable (ready : start.Ready [(d, id)]) (sound : start.Sound)
    (executes : Hub.Executes env d start final) {job : ImportJob} (found : final.db.job id = some job)
    (finished : job.finished) : start.Importable env id := by
  obtain ⟨outcome, serial, -⟩ := finished_serial ready sound executes found finished
  obtain ⟨_, _, _, _, adapts, storable, -⟩ := serial.single
  exact ⟨_, _, adapts, storable⟩

end

end SupplyChainHub
