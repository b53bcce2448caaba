import SupplyChainHub.Library.Draining
import SupplyChainHub.Imports.Recovery

/-!
The tasks that Celery beat starts: `dispatch_queued_imports_task` every 15 seconds and `recover_stale_imports_task`
every 30. Both publish job references and mark the jobs that the broker took, each in a session of its own.
-/

namespace SupplyChainHub

/-- `publish_import_job`: the id of the published task, or nothing when the broker cannot be reached. -/
abbrev Broker := Id → Option String

/-- The loop of both tasks, and the job references it published. -/
def publishImportJobs (broker : Broker) (clock : Id → Timestamp) :
    List Id → Database → Except Raised (Database × List Id)
  | [], db => .ok (db, [])
  | jobId :: rest, db =>
    match broker jobId with
    | none => publishImportJobs broker clock rest db
    | some _ =>
      match db.job jobId with
      | none => .error (jobNotFound jobId)
      | some job =>
        match publishImportJobs broker clock rest (markJobDispatched db job (clock jobId)) with
        | .error e => .error e
        | .ok (db, published) => .ok (db, jobId :: published)

structure DispatchReport where
  eligible : Nat
  published : Nat

def dispatchQueuedImportsTask (settings : Settings) (db : Database) (now : Timestamp) (broker : Broker)
    (clock : Id → Timestamp) : Except Raised (Database × List Id × DispatchReport) :=
  let jobIds := (jobsDueForDispatch settings db now).map ImportJob.id
  match publishImportJobs broker clock jobIds db with
  | .error e => .error e
  | .ok (db, published) => .ok (db, published, ⟨jobIds.length, published.length⟩)

structure RecoveryReport where
  recovered : Nat
  published : Nat

def recoverStaleImportsTask (db : Database) (locked : List Id) (now : Timestamp) (broker : Broker)
    (clock : Id → Timestamp) : Except Raised (Database × List Id × RecoveryReport) :=
  match recoverStaleImports db locked now with
  | .error e => .error e
  | .ok (db, recoveredIds) =>
    match publishImportJobs broker clock recoveredIds db with
    | .error e => .error e
    | .ok (db, published) => .ok (db, published, ⟨recoveredIds.length, published.length⟩)

/-- One pass of the first task: when it reads the jobs, whom the broker takes, and when each is marked. -/
structure DispatchPass where
  now : Timestamp
  broker : Broker
  clock : Id → Timestamp

/-- Passes with nothing between them that writes a job. -/
def dispatchPasses (settings : Settings) : List DispatchPass → Database → Except Raised (Database × List Id)
  | [], db => .ok (db, [])
  | p :: rest, db =>
    match dispatchQueuedImportsTask settings db p.now p.broker p.clock with
    | .error e => .error e
    | .ok (db, published, _) =>
      match dispatchPasses settings rest db with
      | .error e => .error e
      | .ok (db, later) => .ok (db, published ++ later)

/-- The job is due as the pass reads the jobs. -/
def DispatchPass.due (settings : Settings) (p : DispatchPass) (job : ImportJob) : Bool :=
  dueForDispatch settings p.now job

def DispatchPass.accepts (p : DispatchPass) (job : ImportJob) : Bool := (p.broker job.id).isSome

/-- What passes publish when they empty the queue of the jobs as they are at first. -/
def drained (settings : Settings) (jobs : List ImportJob) : List DispatchPass → List Id → List Id :=
  Drain.passes ImportJob.id (DispatchPass.due settings) DispatchPass.accepts
    (fun a b => decide (a.createdAt ≤ b.createdAt)) 100 jobs

/-! ### Marked jobs -/

/-- The job with its receipt, if it was published. -/
def markedJob (taken : List Id) (clock : Id → Timestamp) (job : ImportJob) : ImportJob :=
  if job.id ∈ taken then { job with dispatchedAt := some (clock job.id) } else job

def markedJobs (taken : List Id) (clock : Id → Timestamp) (jobs : List ImportJob) : List ImportJob :=
  jobs.map (markedJob taken clock)

section
variable {settings : Settings} {db start after : Database} {id : Id} {job : ImportJob} {jobs : List ImportJob}
    {taken ids published : List Id} {clock later : Id → Timestamp} {broker : Broker} {opened now : Timestamp}
    {p : DispatchPass} {ps : List DispatchPass}

@[simp] theorem markedJob_id : (markedJob taken clock job).id = job.id := by
  unfold markedJob
  split <;> rfl

theorem markedJob_new (new : job.id ∉ taken) : markedJob taken clock job = job := if_neg new

/-- A job with a receipt is not due again before the redispatch interval is over. -/
theorem markedJob_due (marks : ∀ id ∈ taken, opened ≤ clock id)
    (window : now < opened + seconds settings.importRedispatchSeconds) :
    dueForDispatch settings now (markedJob taken clock job) =
      (dueForDispatch settings now job && decide (job.id ∉ taken)) := by
  by_cases old : job.id ∈ taken
  · have late : ¬ clock job.id + seconds settings.importRedispatchSeconds ≤ now :=
      Nat.not_le.mpr (window.trans_le (Nat.add_le_add_right (marks job.id old) _))
    have receipt : (markedJob taken clock job).dispatchedAt = some (clock job.id) := by rw [markedJob, if_pos old]
    rw [dueForDispatch, receipt, Option.all_some, decide_eq_false late, Bool.and_false,
      decide_eq_false (not_not.mpr old), Bool.and_false]
  · simp [markedJob_new old, old]

theorem markedJobs_nil (clock : Id → Timestamp) (jobs : List ImportJob) : markedJobs [] clock jobs = jobs :=
  (List.map_congr_left fun _ _ => markedJob_new List.not_mem_nil).trans (List.map_id _)

theorem markedJobs_ids : (markedJobs taken clock jobs).map ImportJob.id = jobs.map ImportJob.id := by
  simp [markedJobs]

theorem markedJobs_congr (same : ∀ id ∈ taken, later id = clock id) :
    markedJobs taken later jobs = markedJobs taken clock jobs := by
  refine List.map_congr_left fun job _ => ?_
  unfold markedJob
  split
  · rename_i mine
    rw [same _ mine]
  · rfl

/-- One receipt more. -/
theorem markedJobs_snoc (distinct : (jobs.map ImportJob.id).Nodup) (present : job ∈ jobs) (new : job.id ∉ taken)
    (queued : job.status = .queued) (current : db.jobs = markedJobs taken clock jobs) :
    (markJobDispatched db job (clock job.id)).jobs = markedJobs (taken ++ [job.id]) clock jobs := by
  have marked : (markJobDispatched db job (clock job.id)).jobs = Table.modify ImportJob.id job.id
      (job.writeBack { job with dispatchedAt := some (clock job.id) }) db.jobs := by
    rw [markJobDispatched, if_pos queued]
    rfl
  rw [marked, current, Table.modify, markedJobs, markedJobs, List.map_map]
  refine List.map_congr_left fun row member => ?_
  by_cases same : row.id = job.id
  · obtain rfl := List.inj_on_of_nodup_map distinct member present same
    simp [markedJob, new, ImportJob.writeBack]
  · by_cases old : row.id ∈ taken <;> simp [markedJob, old, same]

theorem markedJobs_due (marks : ∀ id ∈ taken, opened ≤ clock id)
    (window : p.now < opened + seconds settings.importRedispatchSeconds) :
    (markedJobs taken clock jobs).filter (dueForDispatch settings p.now) =
      Drain.waiting ImportJob.id (DispatchPass.due settings) jobs taken p := by
  have chosen : (dueForDispatch settings p.now ∘ markedJob taken clock) =
      fun job => dueForDispatch settings p.now job && decide (job.id ∉ taken) :=
    funext fun job => markedJob_due marks window
  rw [markedJobs, List.filter_map, chosen]
  refine (List.map_congr_left fun job member => markedJob_new ?_).trans (List.map_id _)
  exact (Drain.mem_waiting.mp member).2.2

theorem jobsDue_picks (marks : ∀ id ∈ taken, opened ≤ clock id)
    (window : p.now < opened + seconds settings.importRedispatchSeconds)
    (current : db.jobs = markedJobs taken clock jobs) :
    jobsDueForDispatch settings db p.now = Drain.picks ImportJob.id (DispatchPass.due settings)
      (fun a b => decide (a.createdAt ≤ b.createdAt)) 100 jobs taken p := by
  rw [jobsDueForDispatch, current, markedJobs_due marks window]
  rfl

theorem due_queued (due : dueForDispatch settings now job = true) : job.status = .queued := by
  simp only [dueForDispatch, Bool.and_eq_true, decide_eq_true_eq] at due
  exact due.1.1

/-- The loop publishes what the broker takes, and writes receipts for that and nothing else. -/
theorem publishImportJobs_marks (broker : Broker) (distinct : (jobs.map ImportJob.id).Nodup) (apart : ids.Nodup)
    (known : ∀ id ∈ ids, ∃ job ∈ jobs, job.id = id ∧ job.status = .queued) (new : ∀ id ∈ ids, id ∉ taken)
    (current : db.jobs = markedJobs taken clock jobs) (stamped : ∀ id ∈ ids, later id = clock id) :
    ∃ after, publishImportJobs broker later ids db = .ok (after, ids.filter fun id => (broker id).isSome) ∧
      after.jobs = markedJobs (taken ++ ids.filter fun id => (broker id).isSome) clock jobs := by
  induction ids generalizing db taken with
  | nil => exact ⟨db, rfl, by simpa using current⟩
  | cons id rest ih =>
    rw [List.nodup_cons] at apart
    have knownRest := fun id member => known id (List.mem_cons_of_mem _ member)
    have stampedRest := fun id member => stamped id (List.mem_cons_of_mem _ member)
    cases answer : broker id with
    | none =>
      obtain ⟨after, run, marks⟩ := ih apart.2 knownRest (fun id member => new id (List.mem_cons_of_mem _ member))
        current stampedRest
      refine ⟨after, ?_, ?_⟩
      · simpa [publishImportJobs, answer] using run
      · simpa [answer] using marks
    | some taskId =>
      obtain ⟨job, present, rfl, queued⟩ := known id List.mem_cons_self
      have free := new job.id List.mem_cons_self
      have found : db.job job.id = some job := by
        have member : job ∈ db.jobs := by
          rw [current]
          exact List.mem_map.mpr ⟨job, present, markedJob_new free⟩
        refine Table.lookup_of_mem ?_ member
        rw [current, markedJobs_ids]
        exact distinct
      have marked := markedJobs_snoc distinct present free queued current
      have newRest : ∀ id ∈ rest, id ∉ taken ++ [job.id] := by
        intro id member
        rw [List.mem_append, List.mem_singleton, not_or]
        exact ⟨new id (List.mem_cons_of_mem _ member), fun same => apart.1 (same ▸ member)⟩
      obtain ⟨after, run, marks⟩ := ih apart.2 knownRest newRest marked stampedRest
      refine ⟨after, ?_, ?_⟩
      · simp [publishImportJobs, answer, found, stamped job.id List.mem_cons_self, run]
      · simpa [answer] using marks

/-- One pass publishes the first hundred of the jobs that wait, as far as the broker takes them. -/
theorem dispatchTask_pass (clock : Id → Timestamp) (distinct : (jobs.map ImportJob.id).Nodup)
    (marks : ∀ id ∈ taken, opened ≤ clock id)
    (window : p.now < opened + seconds settings.importRedispatchSeconds)
    (current : db.jobs = markedJobs taken clock jobs) (stamped : ∀ id, id ∉ taken → p.clock id = clock id) :
    ∃ after published report,
      dispatchQueuedImportsTask settings db p.now p.broker p.clock = .ok (after, published, report) ∧
      published = Drain.pass ImportJob.id (DispatchPass.due settings) DispatchPass.accepts
        (fun a b => decide (a.createdAt ≤ b.createdAt)) 100 jobs taken p ∧
      after.jobs = markedJobs (taken ++ published) clock jobs := by
  have chosen := jobsDue_picks marks window current
  have waits (id : Id) (member : id ∈ (jobsDueForDispatch settings db p.now).map ImportJob.id) :
      ∃ job ∈ jobs, job.id = id ∧ job.status = .queued ∧ id ∉ taken := by
    rw [chosen] at member
    obtain ⟨job, picked, rfl⟩ := List.mem_map.mp member
    obtain ⟨present, due, new⟩ := Drain.mem_waiting.mp (Drain.picks_waiting picked)
    exact ⟨job, present, rfl, due_queued due, new⟩
  have apart : ((jobsDueForDispatch settings db p.now).map ImportJob.id).Nodup := by
    rw [chosen]
    exact Drain.picks_distinct distinct
  have known (id : Id) (member : id ∈ (jobsDueForDispatch settings db p.now).map ImportJob.id) :
      ∃ job ∈ jobs, job.id = id ∧ job.status = .queued := by
    obtain ⟨job, present, same, queued, -⟩ := waits id member
    exact ⟨job, present, same, queued⟩
  have new (id : Id) (member : id ∈ (jobsDueForDispatch settings db p.now).map ImportJob.id) : id ∉ taken := by
    obtain ⟨job, -, -, -, free⟩ := waits id member
    exact free
  obtain ⟨after, run, receipts⟩ := publishImportJobs_marks p.broker distinct apart known new current
    fun id member => stamped id (new id member)
  refine ⟨after, _, _, by simp only [dispatchQueuedImportsTask, run]; rfl, ?_, receipts⟩
  rw [chosen, Drain.pass, List.filter_map]
  rfl

/-- The passes empty the queue, and write nothing but receipts. -/
theorem dispatchPasses_drained (distinct : (jobs.map ImportJob.id).Nodup) (marks : ∀ id ∈ taken, opened ≤ clock id)
    (window : ∀ p ∈ ps, p.now < opened + seconds settings.importRedispatchSeconds ∧ ∀ id, opened ≤ p.clock id)
    (current : db.jobs = markedJobs taken clock jobs) :
    ∃ after published, dispatchPasses settings ps db = .ok (after, published) ∧
      taken ++ published = drained settings jobs ps taken ∧
      ∃ later, (∀ id ∈ taken ++ published, opened ≤ later id) ∧
        after.jobs = markedJobs (taken ++ published) later jobs := by
  induction ps generalizing db taken clock with
  | nil => exact ⟨db, [], rfl, List.append_nil taken, clock, by simpa using marks, by simpa using current⟩
  | cons p rest ih =>
    obtain ⟨inside, marked⟩ := window p List.mem_cons_self
    -- Receipts of earlier passes stay; the others are of this one.
    let later (id : Id) : Timestamp := if id ∈ taken then clock id else p.clock id
    have old : ∀ id ∈ taken, later id = clock id := fun id member => if_pos member
    have allMarks (id : Id) : opened ≤ later id := by
      by_cases member : id ∈ taken
      · exact (old id member).symm ▸ marks id member
      · have fresh : later id = p.clock id := if_neg member
        rw [fresh]
        exact marked id
    obtain ⟨middle, first, report, run, rfl, receipts⟩ := dispatchTask_pass later distinct
      (fun id _ => allMarks id) inside (current.trans (markedJobs_congr old).symm) fun id new => (if_neg new).symm
    obtain ⟨after, published, runs, emptied, final⟩ := ih (fun id _ => allMarks id)
      (fun p member => window p (List.mem_cons_of_mem _ member)) receipts
    refine ⟨after, _, by simp only [dispatchPasses, run, runs]; rfl, ?_, ?_⟩
    · rw [← List.append_assoc, emptied]
      rfl
    · rw [← List.append_assoc]
      exact final

theorem due_stays (due : dueForDispatch settings opened job = true) (later : opened ≤ now) :
    dueForDispatch settings now job = true := by
  simp only [dueForDispatch, Bool.and_eq_true, Option.all_eq_true, decide_eq_true_eq] at due ⊢
  exact ⟨⟨due.1.1, fun retry known => (due.1.2 retry known).trans later⟩,
    fun receipt known => (due.2 receipt known).trans later⟩

/-- A due job that a pass leaves for later was created no earlier than those it reads. -/
theorem jobsDue_oldest {other : ImportJob} (chosen : job ∈ jobsDueForDispatch settings db now)
    (present : other ∈ db.jobs) (due : dueForDispatch settings now other = true)
    (left : other ∉ jobsDueForDispatch settings db now) : job.createdAt ≤ other.createdAt := by
  have read : jobsDueForDispatch settings db now = Drain.picks ImportJob.id (dueForDispatch settings)
      (fun a b => decide (a.createdAt ≤ b.createdAt)) 100 db.jobs [] now := by
    simp [jobsDueForDispatch, Drain.picks, Drain.waiting]
  rw [read] at chosen left
  have waits : other ∈ Drain.waiting ImportJob.id (dueForDispatch settings) db.jobs [] now :=
    Drain.mem_waiting.mpr ⟨present, due, List.not_mem_nil⟩
  have ordered := Drain.picks_first (fun a b c first last => ?_) (fun a b => ?_) chosen waits left
  · exact of_decide_eq_true ordered
  · exact decide_eq_true ((of_decide_eq_true first).trans (of_decide_eq_true last))
  · simpa using Nat.le_total a.createdAt b.createdAt

/-- Within one redispatch interval the passes publish no job twice and none that is not due, whatever the broker
takes; if it takes all, enough passes publish every job that was due at the beginning. -/
theorem dispatched_once {env : Env} {hub : Hub} (reached : Hub.Reachable env hub)
    (window : ∀ p ∈ ps, p.now < opened + seconds env.settings.importRedispatchSeconds ∧ ∀ id, opened ≤ p.clock id) :
    ∃ after published, dispatchPasses env.settings ps hub.db = .ok (after, published) ∧ published.Nodup ∧
      (∀ id ∈ published, ∃ p ∈ ps, ∃ job, hub.db.job id = some job ∧
        dueForDispatch env.settings p.now job = true ∧ (p.broker id).isSome) ∧
      ((∀ p ∈ ps, opened ≤ p.now ∧ ∀ id, (p.broker id).isSome) → hub.db.jobs.length ≤ 100 * ps.length →
        ∀ job ∈ hub.db.jobs, dueForDispatch env.settings opened job = true → job.id ∈ published) ∧
      ∃ clock, after.jobs = markedJobs published clock hub.db.jobs := by
  have distinct := (reachable_ledger reached).ids
  have unmarked : hub.db.jobs = markedJobs [] (fun _ => opened) hub.db.jobs := (markedJobs_nil _ _).symm
  obtain ⟨after, published, run, emptied, clock, -, receipts⟩ :=
    dispatchPasses_drained distinct (by simp) window unmarked
  rw [List.nil_append] at emptied receipts
  refine ⟨after, published, run, ?_, ?_, ?_, clock, receipts⟩
  · rw [emptied]
    exact Drain.passes_nodup distinct List.nodup_nil
  · intro id member
    rw [emptied] at member
    rcases Drain.passes_due member with old | ⟨p, among, job, present, rfl, due, accepted⟩
    · exact absurd old List.not_mem_nil
    · exact ⟨p, among, job, Table.lookup_of_mem distinct present, due, accepted⟩
  · intro takes enough job present due
    rw [emptied]
    let first : DispatchPass := ⟨opened, fun _ => none, fun _ => opened⟩
    have stays (p : DispatchPass) (among : p ∈ ps) (job : ImportJob) (_ : job ∈ hub.db.jobs)
        (due : first.due env.settings job = true) : p.due env.settings job = true :=
      due_stays due (takes p among).1
    exact Drain.passes_drain distinct (fun p among job _ => (takes p among).2 job.id) stays enough present due

/-! ### After a sweep -/

theorem recoverJobs_ids {selected : List ImportJob} (h : recoverJobs now selected db = .ok (after, ids)) :
    ids = (selected.filter fun job => decide (job.attemptCount < job.maxAttempts)).map ImportJob.id := by
  induction selected generalizing db ids with
  | nil =>
    cases h
    rfl
  | cons job rest ih =>
    unfold recoverJobs at h
    split at h
    · contradiction
    · rename_i middle first recovered
      split at h
      · contradiction
      · rename_i last more swept
        cases h
        have own : first = if job.attemptCount < job.maxAttempts then [job.id] else [] := by
          unfold recoverJob at recovered
          split at recovered
          · contradiction
          · cases recovered
            rfl
        rw [ih swept, own, List.filter_cons]
        by_cases spare : job.attemptCount < job.maxAttempts <;> simp [spare]

/-- The sweep publishes the jobs it queues again, and no pass within the redispatch interval publishes one of them
once more. -/
theorem sweep_and_dispatch_once {env : Env} {hub : Hub} (now : Timestamp) (broker : Broker) (locked : List Id)
    (reached : Hub.Reachable env hub)
    (stamps : ∀ id, opened ≤ clock id)
    (window : ∀ p ∈ ps, p.now < opened + seconds env.settings.importRedispatchSeconds ∧ ∀ id, opened ≤ p.clock id) :
    ∃ swept first report after later,
      recoverStaleImportsTask hub.db locked now broker clock = .ok (swept, first, report) ∧
      dispatchPasses env.settings ps swept = .ok (after, later) ∧ (first ++ later).Nodup ∧
      (∀ id, id ∈ first ↔ (broker id).isSome ∧ id ∉ locked ∧ ∃ job, hub.db.job id = some job ∧
        leaseExpired now job = true ∧ job.attemptCount < job.maxAttempts) ∧
      report.published = first.length ∧ first.length ≤ report.recovered := by
  have ledger := reachable_ledger reached
  obtain ⟨apart, held⟩ := recover_selected now locked ledger
  obtain ⟨db, ids, sweep, chain, each, -⟩ := recoverJobs_spec ledger apart held
  have swept : recoverStaleImports hub.db locked now = .ok (db, ids) := sweep
  have distinct := (chain.ledger ledger).ids
  have queued (id : Id) : id ∈ ids ↔ id ∉ locked ∧ ∃ job, hub.db.job id = some job ∧
      leaseExpired now job = true ∧ job.attemptCount < job.maxAttempts := by
    rw [recoverJobs_ids sweep, List.mem_map]
    simp only [List.mem_filter, Bool.and_eq_true, Bool.not_eq_true', decide_eq_true_eq]
    constructor
    · rintro ⟨job, ⟨⟨present, expired, unlocked⟩, spare⟩, rfl⟩
      exact ⟨by simpa using unlocked, job, Table.lookup_of_mem ledger.ids present, expired, spare⟩
    · rintro ⟨unlocked, job, found, expired, spare⟩
      obtain rfl : job.id = id := job_id found
      exact ⟨job, ⟨⟨Table.lookup_mem found, expired, by simpa using unlocked⟩, spare⟩, rfl⟩
  have known : ∀ id ∈ ids, ∃ job ∈ db.jobs, job.id = id ∧ job.status = .queued := by
    intro id member
    rw [recoverJobs_ids sweep, List.mem_map] at member
    obtain ⟨job, chosen, rfl⟩ := member
    obtain ⟨selected, spare⟩ := List.mem_filter.mp chosen
    obtain ⟨same, -, -, -, -, status⟩ := recoveredJob_row now job
    rw [if_pos (of_decide_eq_true spare)] at status
    exact ⟨recoveredJob now job, Table.lookup_mem (each job selected), same, status⟩
  have once : ids.Nodup := by
    rw [recoverJobs_ids sweep]
    exact apart.sublist (List.filter_sublist.map _)
  have unmarked : db.jobs = markedJobs [] clock db.jobs := (markedJobs_nil _ _).symm
  have stamped : ∀ id ∈ ids, clock id = clock id := fun _ _ => rfl
  obtain ⟨published, run, receipts⟩ := publishImportJobs_marks broker distinct once known
    (fun _ _ => List.not_mem_nil) unmarked stamped
  obtain ⟨after, later, runs, emptied, -⟩ := dispatchPasses_drained distinct (fun id _ => stamps id) window receipts
  refine ⟨published, _, _, after, later, by simp only [recoverStaleImportsTask, swept, run]; rfl, runs, ?_, ?_, rfl,
    List.length_filter_le _ _⟩
  · rw [List.nil_append] at emptied
    rw [emptied]
    exact Drain.passes_nodup distinct (once.filter _)
  · intro id
    rw [List.mem_filter, queued]
    exact and_comm

/-! ### The tasks as runs -/

section
variable (env : Env) {hub : Hub}

/-- Whatever a loop writes is two steps of the hub for each job it publishes. -/
theorem publishImportJobs_run (h : publishImportJobs broker clock ids hub.db = .ok (after, published)) :
    ∃ next, Hub.Run env Machine.unguarded hub next ∧ next.db = after ∧ next.deliveries = hub.deliveries := by
  induction ids generalizing hub published with
  | nil =>
    cases h
    exact ⟨hub, .refl hub, rfl, rfl⟩
  | cons id rest ih =>
    unfold publishImportJobs at h
    split at h
    · exact ih h
    · split at h
      · contradiction
      · rename_i job present
        split at h
        · contradiction
        · rename_i last more run
          cases h
          let read : Hub := { hub with dispatches := hub.dispatches ++ [some job] }
          let marked : Hub := { read with
            db := markJobDispatched hub.db job (clock id)
            dispatches := read.dispatches.set hub.dispatches.length none }
          have reads : Hub.step env hub (.dispatchRead id) = some read := by simp only [Hub.step, present]; rfl
          have loaded : read.dispatches[hub.dispatches.length]? = some (some job) := List.getElem?_concat_length
          have writes : Hub.step env read (.dispatchWrite hub.dispatches.length (clock id)) = some marked := by
            simp only [Hub.step, Hub.dispatchWrite, loaded]
            rfl
          obtain ⟨next, onward, same, deliveries⟩ := @ih _ marked run
          exact ⟨next, ((Machine.Run.single trivial reads).tail trivial writes).trans onward, same, deliveries⟩

theorem recoverTask_run {locked : List Id} {report : RecoveryReport}
    (h : recoverStaleImportsTask hub.db locked now broker clock = .ok (after, published, report)) :
    ∃ next, Hub.Run env Machine.unguarded hub next ∧ next.db = after ∧ next.deliveries = hub.deliveries := by
  unfold recoverStaleImportsTask at h
  split at h
  · contradiction
  · rename_i db ids swept
    split at h
    · contradiction
    · rename_i run
      cases h
      have sweep : Hub.step env hub (.recover locked now) = some { hub with db } := by
        simp only [Hub.step, Hub.recover, swept]
      let freed : Hub := { hub with db }
      have loop : publishImportJobs broker clock ids freed.db = .ok (after, published) := run
      obtain ⟨next, onward, same, deliveries⟩ := publishImportJobs_run env loop
      exact ⟨next, (Machine.Run.single trivial sweep).trans onward, same, deliveries⟩

theorem dispatchPasses_run (h : dispatchPasses settings ps hub.db = .ok (after, published)) :
    ∃ next, Hub.Run env Machine.unguarded hub next ∧ next.db = after ∧ next.deliveries = hub.deliveries := by
  induction ps generalizing hub published with
  | nil =>
    cases h
    exact ⟨hub, .refl hub, rfl, rfl⟩
  | cons p rest ih =>
    unfold dispatchPasses dispatchQueuedImportsTask at h
    split at h
    · contradiction
    · rename_i first
      dsimp only at first
      split at first
      · contradiction
      · rename_i run
        cases first
        split at h
        · contradiction
        · rename_i runs
          cases h
          obtain ⟨middle, before, rfl, deliveries⟩ := publishImportJobs_run env run
          obtain ⟨next, onward, same, later⟩ := ih runs
          exact ⟨next, before.trans onward, same, later.trans deliveries⟩

end

end

namespace Small

def twoPasses : List DispatchPass :=
  [⟨moment 1, fun _ => some "task", fun _ => moment 1⟩, ⟨moment 16, fun _ => some "task", fun _ => moment 16⟩]

theorem twoPasses_window : ∀ p ∈ twoPasses, p.now < moment 1 + seconds env.settings.importRedispatchSeconds ∧
    ∀ id, moment 1 ≤ p.clock id := by
  refine List.forall_mem_cons.mpr ⟨⟨by decide, fun _ => le_rfl⟩, List.forall_mem_singleton.mpr ⟨by decide, ?_⟩⟩
  intro _
  show moment 1 ≤ moment 16
  decide

theorem twoPasses_take : ∀ p ∈ twoPasses, moment 1 ≤ p.now ∧ ∀ id, (p.broker id).isSome :=
  List.forall_mem_cons.mpr ⟨⟨le_rfl, fun _ => rfl⟩, List.forall_mem_singleton.mpr ⟨by decide, fun _ => rfl⟩⟩

end Small

/-- Two passes, and one publication. -/
theorem dispatched_once_submitted : ∃ hub after published, Hub.Reachable Small.env hub ∧
    dispatchPasses Small.env.settings Small.twoPasses hub.db = .ok (after, published) ∧
    published.Nodup ∧ 1 ∈ published := by
  obtain ⟨hub, -, reached, shown⟩ := Small.reaches Small.submitted
    (fun hub => decide (hub.db.jobs.length = 1) &&
      (hub.db.job 1).any fun job => dueForDispatch Small.env.settings (Small.moment 1) job) (by decide +kernel)
  simp only [Bool.and_eq_true, decide_eq_true_eq, Option.any_eq_true] at shown
  obtain ⟨one, job, present, due⟩ := shown
  obtain ⟨after, published, run, once, -, all, -⟩ := dispatched_once reached Small.twoPasses_window
  refine ⟨hub, after, published, reached, run, once, ?_⟩
  have mine := all Small.twoPasses_take (by simp [one, Small.twoPasses]) job (Table.lookup_mem present) due
  rw [job_id present] at mine
  exact mine

/-- The worker's lease is over, and the sweep's publication is the only one. -/
theorem sweep_and_dispatch_once_silent : ∃ hub swept first report after later, Hub.Reachable Small.env hub ∧
    recoverStaleImportsTask hub.db [] (Small.moment 400) (fun _ => some "task") (fun _ => Small.moment 400) =
      .ok (swept, first, report) ∧
    dispatchPasses Small.env.settings [⟨Small.moment 410, fun _ => some "task", fun _ => Small.moment 410⟩] swept =
      .ok (after, later) ∧ (first ++ later).Nodup ∧ 1 ∈ first := by
  obtain ⟨hub, -, reached, shown⟩ := Small.reaches (Small.submitted ++ Small.claimed 0 (Small.moment 1))
    (fun hub => (hub.db.job 1).any fun job : ImportJob =>
      leaseExpired (Small.moment 400) job && decide (job.attemptCount < job.maxAttempts)) (by decide +kernel)
  simp only [Option.any_eq_true, Bool.and_eq_true, decide_eq_true_eq] at shown
  obtain ⟨job, present, expired, spare⟩ := shown
  have window : ∀ p ∈ [(⟨Small.moment 410, fun _ => some "task", fun _ => Small.moment 410⟩ : DispatchPass)],
      p.now < Small.moment 400 + seconds Small.env.settings.importRedispatchSeconds ∧
        ∀ id, Small.moment 400 ≤ p.clock id := by
    refine List.forall_mem_singleton.mpr ⟨by decide, fun _ => ?_⟩
    show Small.moment 400 ≤ Small.moment 410
    decide
  obtain ⟨swept, first, report, after, later, sweep, run, once, published, -⟩ := sweep_and_dispatch_once
    (Small.moment 400) (fun _ => some "task") [] reached (fun _ => le_rfl) window
  have mine := (published 1).mpr ⟨rfl, List.not_mem_nil, job, present, expired, spare⟩
  exact ⟨hub, swept, first, report, after, later, reached, sweep, run, once, mine⟩

end SupplyChainHub
