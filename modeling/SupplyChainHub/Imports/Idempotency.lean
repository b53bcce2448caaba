import SupplyChainHub.Imports.Changes

/-!
Submissions under one idempotency key. The lookup, the put and the insert of a call are separate steps,
and only the unique constraint stands between the lookups of two calls and their inserts: it keeps the
jobs apart, but the call that meets it raises whatever it was submitting. A call whose values the columns do
not take raises too, after its payload is stored.
-/

namespace SupplyChainHub

abbrev SubmissionKey := Id × ImportSourceType × Option String

/-- What a job is identified by: the key it was submitted under, and its content. -/
def ImportJob.identity (j : ImportJob) : SubmissionKey × String := (j.idempotency, j.contentSha256)

def Database.identity (db : Database) (id : Id) : Option (SubmissionKey × String) :=
  (db.job id).map ImportJob.identity

/-- The key a request is submitted under, if its supplier is configured. -/
def submissionKey (db : Database) (request : SubmitRequest) : Option SubmissionKey :=
  (db.suppliers.find? fun s => s.code = request.supplierCode).map fun s =>
    (s.id, request.sourceType, some request.idempotencyKey)

def Label.submission? : Label → Option Nat
  | .lookup call | .put call _ _ | .insert call _ _ => some call
  | _ => none

/-! ### What a step does to the submissions -/

inductive SubmissionChange (hub next : Hub) : Label → Prop where
  | outside {l : Label} (notMine : l.submission? = none) (same : next.submissions = hub.submissions) :
      SubmissionChange hub next l
  | opened {l : Label} {x : Submission} (notMine : l.submission? = none)
      (opening : (∃ request, x = .requested request) ∨ ∃ error, x = .refused error)
      (submissions : next.submissions = hub.submissions ++ [x]) : SubmissionChange hub next l
  | looked {call : Nat} {request : SubmitRequest} (present : hub.submissions[call]? = some (.requested request))
      (db : next.db = hub.db)
      (submissions : next.submissions = hub.submissions.set call (submitLookup hub.db request)) :
      SubmissionChange hub next (.lookup call)
  | put {call : Nat} {outcome : PutOutcome} {now : Timestamp} {request : SubmitRequest} {supplierId : Id}
      (present : hub.submissions[call]? = some (.missed request supplierId)) (db : next.db = hub.db)
      (submissions : next.submissions = hub.submissions.set call (if outcome = .stored then
        .stored request supplierId (buildRawObjectKey request.sourceType request.contentSha256 now)
        else .raised request (.domain storeUnavailable))) : SubmissionChange hub next (.put call outcome now)
  | misfitted {call : Nat} {jobId : Id} {now : Timestamp} {request : SubmitRequest} {supplierId : Id}
      {objectKey : String} (present : hub.submissions[call]? = some (.stored request supplierId objectKey))
      (misfit : ¬ request.Fitting) (db : next.db = hub.db)
      (submissions : next.submissions = hub.submissions.set call (.raised request (.unmapped valueError))) :
      SubmissionChange hub next (.insert call jobId now)
  | collided {call : Nat} {jobId : Id} {now : Timestamp} {request : SubmitRequest} {supplierId : Id}
      {objectKey : String} {row : ImportJob}
      (present : hub.submissions[call]? = some (.stored request supplierId objectKey))
      (fitting : request.Fitting) (taken : row ∈ hub.db.jobs)
      (same : row.idempotency = (supplierId, request.sourceType, some request.idempotencyKey))
      (db : next.db = hub.db)
      (submissions : next.submissions = hub.submissions.set call (.raised request (.domain submissionConflict))) :
      SubmissionChange hub next (.insert call jobId now)
  | inserted {call : Nat} {jobId : Id} {now : Timestamp} {request : SubmitRequest} {supplierId : Id}
      {objectKey : String} {job : ImportJob}
      (present : hub.submissions[call]? = some (.stored request supplierId objectKey))
      (fresh : hub.db.job jobId = none) (fitting : request.Fitting)
      (free : ∀ row ∈ hub.db.jobs,
        row.idempotency ≠ (supplierId, request.sourceType, some request.idempotencyKey))
      (owner : job.id = jobId) (identity : job.identity =
        ((supplierId, request.sourceType, some request.idempotencyKey), request.contentSha256))
      (jobs : next.db.jobs = hub.db.jobs ++ [job])
      (submissions : next.submissions = hub.submissions.set call (.returned request jobId true)) :
      SubmissionChange hub next (.insert call jobId now)

section
variable {env : Env} {hub next : Hub} {l : Label} {db after : Database} {id : Id} {key : SubmissionKey}
    {request : SubmitRequest}

theorem insert_submissions {call : Nat} {jobId : Id} {now : Timestamp}
    (h : hub.insert env call jobId now = some next) : SubmissionChange hub next (.insert call jobId now) := by
  unfold Hub.insert at h
  split at h
  · rename_i request supplierId objectKey present fresh
    split at h
    · rename_i refused
      cases h
      rcases submitInsert_refused refused with ⟨rfl, misfit⟩ | ⟨rfl, fitting, row, taken, same⟩
      · exact .misfitted present misfit rfl rfl
      · exact .collided present fitting taken same rfl rfl
    · rename_i inserted
      cases h
      obtain ⟨fitting, free, rfl⟩ := submitInsert_written inserted
      exact .inserted present fresh fitting free rfl rfl rfl rfl
  · contradiction

/-- The steps of the submissions. -/
def Label.submits : Label → Bool
  | .submit _ | .replay _ _ _ | .lookup _ | .put _ _ _ | .insert _ _ _ => true
  | _ => false

theorem submissions_kept (notMine : l.submits = false) (h : Hub.step env hub l = some next) :
    next.submissions = hub.submissions := by
  cases l with
  | submit | replay | lookup | put | insert => contradiction
  | dispatchRead | deliver | inventoryRead | productMappingRead | warehouseMappingRead =>
    cases h
    rfl
  | recover =>
    cases h
    exact recover_calls.submissions
  | dispatchWrite | inventoryCommit | mappingCommit =>
    simp only [Hub.step, Hub.dispatchWrite, Hub.inventoryCommit, Hub.mappingCommit, Hub.endMapping] at h
    repeat' split at h
    all_goals first | contradiction | (cases h; rfl)
  | _ => exact (delivery_calls rfl h).submissions

theorem step_submissions (h : Hub.step env hub l = some next) : SubmissionChange hub next l := by
  cases l with
  | submit request =>
    cases h
    exact .opened rfl (.inl ⟨request, rfl⟩) rfl
  | replay importJobId idempotencyKey available =>
    cases h
    refine .opened rfl ?_ rfl
    split
    · exact .inr ⟨_, rfl⟩
    · exact .inl ⟨_, rfl⟩
  | lookup call =>
    simp only [Hub.step, Hub.lookup] at h
    split at h
    · rename_i present
      cases h
      exact .looked present rfl rfl
    · contradiction
  | put call outcome now =>
    simp only [Hub.step, Hub.put] at h
    split at h
    · rename_i present
      cases h
      exact .put present rfl rfl
    · contradiction
  | insert => exact insert_submissions h
  | _ => exact .outside rfl (submissions_kept rfl h)

/-- A call after a step, by what it was before. -/
inductive SlotChange (env : Env) (hub next : Hub) (call : Nat) : Label → Submission → Prop where
  | kept {l : Label} {x : Submission} (present : hub.submissions[call]? = some x) :
      SlotChange env hub next call l x
  | submitted (request : SubmitRequest) (new : hub.submissions[call]? = none) :
      SlotChange env hub next call (.submit request) (.requested request)
  | replayed {importJobId : Id} {idempotencyKey : String} {available : Bool} {request : SubmitRequest}
      (copied : replayFailedImport env hub.db hub.objects available importJobId idempotencyKey = .ok request)
      (new : hub.submissions[call]? = none) :
      SlotChange env hub next call (.replay importJobId idempotencyKey available) (.requested request)
  | refused {importJobId : Id} {idempotencyKey : String} {available : Bool} (error : DomainError)
      (new : hub.submissions[call]? = none) :
      SlotChange env hub next call (.replay importJobId idempotencyKey available) (.refused error)
  | looked {request : SubmitRequest} (present : hub.submissions[call]? = some (.requested request)) :
      SlotChange env hub next call (.lookup call) (submitLookup hub.db request)
  | stored {now : Timestamp} {request : SubmitRequest} {supplierId : Id}
      (present : hub.submissions[call]? = some (.missed request supplierId))
      (objects : next.objects = hub.objects.put
        (buildRawObjectKey request.sourceType request.contentSha256 now) request.content) :
      SlotChange env hub next call (.put call .stored now)
        (.stored request supplierId (buildRawObjectKey request.sourceType request.contentSha256 now))
  | unanswered {outcome : PutOutcome} {now : Timestamp} {request : SubmitRequest} {supplierId : Id}
      (present : hub.submissions[call]? = some (.missed request supplierId)) :
      SlotChange env hub next call (.put call outcome now) (.raised request (.domain storeUnavailable))
  | uninserted {jobId : Id} {now : Timestamp} {request : SubmitRequest} {supplierId : Id} {objectKey : String}
      {error : CallError} (present : hub.submissions[call]? = some (.stored request supplierId objectKey)) :
      SlotChange env hub next call (.insert call jobId now) (.raised request error)
  | inserted {jobId : Id} {now : Timestamp} {request : SubmitRequest} {supplierId : Id} {objectKey : String}
      (present : hub.submissions[call]? = some (.stored request supplierId objectKey))
      (fresh : hub.db.job jobId = none)
      (made : next.db.job jobId = some (queuedJob env.settings request supplierId objectKey jobId now)) :
      SlotChange env hub next call (.insert call jobId now) (.returned request jobId true)

theorem step_slot {call : Nat} {x : Submission} (h : Hub.step env hub l = some next)
    (found : next.submissions[call]? = some x) : SlotChange env hub next call l x := by
  cases l with
  | submit request =>
    cases h
    rcases Pool.push_cases found with old | ⟨last, rfl⟩
    · exact .kept old
    · exact .submitted request (List.getElem?_eq_none last.ge)
  | replay importJobId idempotencyKey available =>
    cases h
    rcases Pool.push_cases found with old | ⟨last, rfl⟩
    · exact .kept old
    · have new : hub.submissions[call]? = none := List.getElem?_eq_none last.ge
      split
      · exact .refused _ new
      · rename_i copied
        exact .replayed copied new
  | lookup other =>
    simp only [Hub.step, Hub.lookup] at h
    split at h
    · rename_i present
      cases h
      rcases Pool.set_cases found with ⟨rfl, rfl⟩ | ⟨-, old⟩
      · exact .looked present
      · exact .kept old
    · contradiction
  | put other outcome now =>
    simp only [Hub.step, Hub.put] at h
    split at h
    · rename_i present
      cases h
      rcases Pool.set_cases found with ⟨rfl, rfl⟩ | ⟨-, old⟩
      · cases outcome with
        | stored => exact .stored present rfl
        | failedBeforeWrite | failedAfterWrite => exact .unanswered present
      · exact .kept old
    · contradiction
  | insert other jobId now =>
    simp only [Hub.step, Hub.insert] at h
    split at h
    · rename_i request supplierId objectKey present fresh
      split at h
      · rename_i refused
        cases h
        rcases Pool.set_cases found with ⟨rfl, rfl⟩ | ⟨-, old⟩
        · exact .uninserted present
        · exact .kept old
      · rename_i inserted
        cases h
        rcases Pool.set_cases found with ⟨rfl, rfl⟩ | ⟨-, old⟩
        · refine .inserted present fresh ?_
          have owner : (queuedJob env.settings request supplierId objectKey jobId now).id = jobId := rfl
          rw [Database.job, (submitInsert_ok inserted).1, Table.lookup_append_absent fresh, Table.lookup_cons,
            if_pos owner]
        · exact .kept old
    · contradiction
  | _ =>
    rw [submissions_kept rfl h] at found
    exact .kept found

theorem calls_remain (h : Hub.step env hub l = some next) : hub.submissions.length ≤ next.submissions.length := by
  cases step_submissions h with
  | outside _ same => exact (congrArg List.length same).ge
  | opened _ _ submissions => simp [submissions]
  | looked _ _ submissions | put _ _ submissions | misfitted _ _ _ submissions | collided _ _ _ _ _ submissions
  | inserted _ _ _ _ _ _ _ submissions => exact (by rw [submissions, List.length_set])

/-- A job that was not there before is the insert of a call that had put its payload. -/
theorem created_job {job : ImportJob} (ledger : Ledger hub.db) (h : Hub.step env hub l = some next)
    (absent : hub.db.job id = none) (present : next.db.job id = some job) :
    ∃ call now request supplierId objectKey, l = .insert call id now ∧
      hub.submissions[call]? = some (.stored request supplierId objectKey) ∧
      next.submissions = hub.submissions.set call (.returned request id true) ∧
      job = queuedJob env.settings request supplierId objectKey id now := by
  obtain ⟨call, now, -, -, -, rfl, -⟩ := effect_job_new ledger (step_effect h) absent present
  simp only [Hub.step, Hub.insert] at h
  split at h
  · rename_i request supplierId objectKey stored fresh
    split at h
    · obtain rfl := Option.some.inj h
      rw [absent] at present
      contradiction
    · rename_i inserted
      obtain rfl := Option.some.inj h
      refine ⟨call, now, request, supplierId, objectKey, rfl, stored, rfl, ?_⟩
      have owner : (queuedJob env.settings request supplierId objectKey id now).id = id := rfl
      rw [Database.job, (submitInsert_ok inserted).1, Table.lookup_append_absent absent, Table.lookup_cons,
        if_pos owner] at present
      exact (Option.some.inj present).symm
  · contradiction

/-! ### What a step does to the identities of the jobs -/

/-- The columns a job is inserted with and no step writes again. -/
structure SameSubmission (job row : ImportJob) : Prop where
  supplierId : row.supplierId = job.supplierId
  sourceType : row.sourceType = job.sourceType
  idempotencyKey : row.idempotencyKey = job.idempotencyKey
  contentSha256 : row.contentSha256 = job.contentSha256
  payloadObjectKey : row.payloadObjectKey = job.payloadObjectKey
  replayOfJobId : row.replayOfJobId = job.replayOfJobId

theorem JobChange.submission {job row : ImportJob} (change : JobChange env hub job l row) :
    SameSubmission job row := by
  cases change with
  | reported =>
    unfold failedJob
    dsimp only
    split <;> constructor <;> rfl
  | recovered =>
    unfold recoveredJob
    dsimp only
    split <;> constructor <;> rfl
  | _ => constructor <;> rfl

theorem SameSubmission.identity {job row : ImportJob} (same : SameSubmission job row) :
    row.identity = job.identity := by
  simp only [ImportJob.identity, ImportJob.idempotency, same.supplierId, same.sourceType, same.idempotencyKey,
    same.contentSha256]

theorem identity_kept (ledger : Ledger hub.db) (effect : Effect env hub next l)
    {identity : SubmissionKey × String} (known : hub.db.identity id = some identity) :
    next.db.identity id = some identity := by
  obtain ⟨job, present, rfl⟩ := Option.map_eq_some_iff.mp known
  obtain ⟨row, found, change⟩ := effect_job ledger effect present
  rw [Database.identity, found, Option.map_some, change.submission.identity]

theorem identity_before (ledger : Ledger hub.db) (effect : Effect env hub next l)
    (notMine : l.submission? = none) (id : Id) : next.db.identity id = hub.db.identity id := by
  cases known : hub.db.identity id with
  | some identity => exact identity_kept ledger effect known
  | none =>
    have absent : hub.db.job id = none := Option.map_eq_none_iff.mp known
    rw [Database.identity, Option.map_eq_none_iff]
    by_contra present
    obtain ⟨row, found⟩ := Option.ne_none_iff_exists'.mp present
    obtain ⟨call, now, request, supplierId, objectKey, rfl, -⟩ := effect_job_new ledger effect absent found
    contradiction

theorem identity_inserted {job : ImportJob} (fresh : hub.db.job job.id = none)
    (jobs : next.db.jobs = hub.db.jobs ++ [job]) (id : Id) :
    next.db.identity id = if job.id = id then some job.identity else hub.db.identity id := by
  rw [Database.identity, Database.job, jobs, Table.lookup_append, Table.lookup_cons, Table.lookup_nil]
  split
  · rename_i same
    subst same
    rw [← Database.job, fresh]
    rfl
  · rw [Option.or_none]
    rfl

theorem identity_of_mem (ledger : Ledger db) {row : ImportJob} (member : row ∈ db.jobs) :
    db.identity row.id = some row.identity := by
  rw [Database.identity, Database.job, Table.lookup_of_mem ledger.ids member, Option.map_some]

theorem mem_of_identity {digest : String} (known : db.identity id = some (key, digest)) :
    ∃ row ∈ db.jobs, row.id = id ∧ row.idempotency = key ∧ row.contentSha256 = digest := by
  obtain ⟨row, found, same⟩ := Option.map_eq_some_iff.mp known
  obtain ⟨rfl, rfl⟩ := Prod.mk.inj same
  exact ⟨row, Table.lookup_mem found, job_id found, rfl, rfl⟩

theorem submissionKey_congr (suppliers : after.suppliers = db.suppliers) :
    submissionKey after request = submissionKey db request := by
  rw [submissionKey, submissionKey, suppliers]

/-! ### Whatever the order of the calls -/

def Submission.created? : Submission → Option Id
  | .returned _ id true => some id
  | _ => none

/-- A call past its lookup has the supplier of its key, and a returned job has the key and the content
of the call it was returned to. -/
def Submission.Sound (db : Database) : Submission → Prop
  | .missed request supplierId | .stored request supplierId _ =>
    submissionKey db request = some (supplierId, request.sourceType, some request.idempotencyKey)
  | .returned request id _ => ∃ key, submissionKey db request = some key ∧
    db.identity id = some (key, request.contentSha256)
  | _ => True

structure SubmissionLedger (hub : Hub) : Prop where
  unique : ∀ (id id' : Id) (key : SubmissionKey) (d d' : String), hub.db.identity id = some (key, d) →
    hub.db.identity id' = some (key, d') → id = id'
  sound : ∀ (call : Nat) (x : Submission), hub.submissions[call]? = some x → x.Sound hub.db
  creator : ∀ id : Id, (hub.db.identity id).isSome = true → ∃ (call : Nat) (x : Submission),
    hub.submissions[call]? = some x ∧ x.created? = some id ∧
    ∀ (call' : Nat) (x' : Submission), hub.submissions[call']? = some x' → x'.created? = some id → call' = call

theorem Submission.Sound.mono {x : Submission} (suppliers : after.suppliers = db.suppliers)
    (kept : ∀ id identity, db.identity id = some identity → after.identity id = some identity)
    (sound : x.Sound db) : x.Sound after := by
  cases x with
  | missed | stored => exact (submissionKey_congr suppliers).trans sound
  | returned request id created =>
    obtain ⟨key, submitted, known⟩ := sound
    exact ⟨key, (submissionKey_congr suppliers).trans submitted, kept id _ known⟩
  | _ => trivial

theorem Submission.Sound.created {x : Submission} (sound : x.Sound db) (created : x.created? = some id) :
    db.identity id ≠ none := by
  cases x with
  | returned request mine first =>
    cases first with
    | true =>
      obtain rfl := Option.some.inj created
      obtain ⟨key, -, known⟩ := sound
      rw [known]
      exact Option.some_ne_none _
    | false => contradiction
  | _ => contradiction

/-- A step that makes no job: what is new among the calls has created none, and no creator is lost. -/
theorem SubmissionLedger.quiet (ledger : SubmissionLedger hub) (suppliers : next.db.suppliers = hub.db.suppliers)
    (identities : ∀ id, next.db.identity id = hub.db.identity id)
    (calls : ∀ (call : Nat) (x : Submission), next.submissions[call]? = some x →
      hub.submissions[call]? = some x ∨ (x.Sound hub.db ∧ x.created? = none))
    (creators : ∀ (call : Nat) (x : Submission), hub.submissions[call]? = some x → x.created?.isSome = true →
      next.submissions[call]? = some x) : SubmissionLedger next := by
  have mono (x : Submission) (sound : x.Sound hub.db) : x.Sound next.db :=
    sound.mono suppliers fun id _ known => (identities id).trans known
  refine ⟨?_, ?_, ?_⟩
  · intro id id' key d d' known known'
    rw [identities] at known known'
    exact ledger.unique id id' key d d' known known'
  · intro call x present
    rcases calls call x present with old | ⟨sound, -⟩
    · exact mono x (ledger.sound call x old)
    · exact mono x sound
  · intro id known
    rw [identities] at known
    obtain ⟨call, x, present, created, only⟩ := ledger.creator id known
    refine ⟨call, x, creators call x present (by rw [created]; rfl), created, ?_⟩
    intro call' x' present' created'
    rcases calls call' x' present' with old | ⟨-, none⟩
    · exact only call' x' old created'
    · rw [none] at created'
      contradiction

theorem SubmissionLedger.move (ledger : SubmissionLedger hub) (same : next.db = hub.db) {call : Nat}
    {old y : Submission} (present : hub.submissions[call]? = some old) (idle : old.created? = none)
    (submissions : next.submissions = hub.submissions.set call y) (sound : y.Sound hub.db)
    (none : y.created? = none) : SubmissionLedger next := by
  refine ledger.quiet (by rw [same]) (by rw [same]; exact fun _ => rfl) ?_ ?_
  · intro call' x found
    rw [submissions] at found
    rcases Pool.set_cases found with ⟨-, rfl⟩ | ⟨-, before⟩
    · exact .inr ⟨sound, none⟩
    · exact .inl before
  · intro call' x found created
    rw [submissions, List.getElem?_set_ne]
    · exact found
    · rintro rfl
      obtain rfl := Option.some.inj (present.symm.trans found)
      rw [idle] at created
      contradiction

theorem submitLookup_cases (db : Database) (request : SubmitRequest) :
    (submissionKey db request = none ∧ ∃ error, submitLookup db request = .raised request error) ∨
    (∃ supplierId, submissionKey db request =
        some (supplierId, request.sourceType, some request.idempotencyKey) ∧
      submitLookup db request = .missed request supplierId) ∨
    ∃ existing ∈ db.jobs, submissionKey db request = some existing.idempotency ∧
      ((existing.contentSha256 ≠ request.contentSha256 ∧
        ∃ message, submitLookup db request = .raised request (.domain (.resourceConflict message))) ∨
      (existing.contentSha256 = request.contentSha256 ∧
        submitLookup db request = .returned request existing.id false)) := by
  unfold submitLookup submissionKey
  split
  · rename_i absent
    exact .inl ⟨by rw [absent]; rfl, _, rfl⟩
  · rename_i supplier configured
    rw [configured]
    split
    · exact .inr (.inl ⟨supplier.id, rfl, rfl⟩)
    · rename_i existing found
      have same : existing.idempotency = (supplier.id, request.sourceType, some request.idempotencyKey) := by
        simpa using List.find?_some found
      refine .inr (.inr ⟨existing, List.mem_of_find?_eq_some found, by rw [same]; rfl, ?_⟩)
      split
      · rename_i different
        exact .inl ⟨different, _, rfl⟩
      · rename_i equal
        exact .inr ⟨not_not.mp equal, rfl⟩

theorem submitLookup_sound (ledger : Ledger db) (request : SubmitRequest) :
    (submitLookup db request).Sound db ∧ (submitLookup db request).created? = none := by
  rcases submitLookup_cases db request with ⟨-, error, ended⟩ | ⟨supplierId, submits, ended⟩ |
    ⟨existing, member, submits, ⟨-, message, ended⟩ | ⟨equal, ended⟩⟩
  · rw [ended]
    exact ⟨trivial, rfl⟩
  · rw [ended]
    exact ⟨submits, rfl⟩
  · rw [ended]
    exact ⟨trivial, rfl⟩
  · rw [ended]
    refine ⟨⟨_, submits, ?_⟩, rfl⟩
    rw [identity_of_mem ledger member, ImportJob.identity, equal]

section
variable {call : Nat} {supplierId jobId : Id} {objectKey : String} {submitted : SubmissionKey × String}

theorem unique_insert (ledger : SubmissionLedger hub)
    (free : ∀ id digest, hub.db.identity id ≠ some (submitted.1, digest))
    (identities : ∀ id, next.db.identity id = if jobId = id then some submitted else hub.db.identity id)
    (id id' : Id) (key : SubmissionKey) (d d' : String) (known : next.db.identity id = some (key, d))
    (known' : next.db.identity id' = some (key, d')) : id = id' := by
  rw [identities] at known known'
  split at known
  · rename_i mine
    split at known'
    · rename_i mine'
      exact mine.symm.trans mine'
    · obtain rfl := Option.some.inj known
      exact absurd known' (free id' d')
  · split at known'
    · obtain rfl := Option.some.inj known'
      exact absurd known (free id d)
    · exact ledger.unique id id' key d d' known known'

/-- The call that makes a job under its key is the only creator of it. -/
theorem SubmissionLedger.insert (ledger : SubmissionLedger hub) (suppliers : next.db.suppliers = hub.db.suppliers)
    (present : hub.submissions[call]? = some (.stored request supplierId objectKey))
    (fresh : hub.db.identity jobId = none)
    (free : ∀ id digest,
      hub.db.identity id ≠ some ((supplierId, request.sourceType, some request.idempotencyKey), digest))
    (identities : ∀ id, next.db.identity id = if jobId = id then
      some ((supplierId, request.sourceType, some request.idempotencyKey), request.contentSha256)
      else hub.db.identity id)
    (submissions : next.submissions = hub.submissions.set call (.returned request jobId true)) :
    SubmissionLedger next := by
  have kept (id : Id) (identity : SubmissionKey × String) (known : hub.db.identity id = some identity) :
      next.db.identity id = some identity := by
    rw [identities, if_neg]
    · exact known
    · rintro rfl
      rw [fresh] at known
      contradiction
  refine ⟨unique_insert ledger free identities, ?_, ?_⟩
  · intro call' x found
    rw [submissions] at found
    rcases Pool.set_cases found with ⟨-, rfl⟩ | ⟨-, old⟩
    · refine ⟨_, (submissionKey_congr suppliers).trans (ledger.sound call _ present), ?_⟩
      rw [identities, if_pos rfl]
    · exact (ledger.sound call' x old).mono suppliers kept
  · intro id known
    rw [identities] at known
    by_cases mine : jobId = id
    · subst mine
      refine ⟨call, .returned request jobId true, ?_, rfl, ?_⟩
      · rw [submissions]
        exact Pool.set_present present
      · intro call' x' found created
        rw [submissions] at found
        rcases Pool.set_cases found with ⟨same, -⟩ | ⟨-, old⟩
        · exact same
        · exact absurd fresh ((ledger.sound call' x' old).created created)
    · rw [if_neg mine] at known
      obtain ⟨creator, x, found, created, only⟩ := ledger.creator id known
      have other : creator ≠ call := by
        rintro rfl
        obtain rfl := Option.some.inj (present.symm.trans found)
        contradiction
      refine ⟨creator, x, ?_, created, ?_⟩
      · rw [submissions, List.getElem?_set_ne (Ne.symm other)]
        exact found
      · intro call' x' found' created'
        rw [submissions] at found'
        rcases Pool.set_cases found' with ⟨-, rfl⟩ | ⟨-, old⟩
        · exact absurd (Option.some.inj created') mine
        · exact only call' x' old created'

end

theorem submissions_step (ledger : Ledger hub.db) (submitted : SubmissionLedger hub)
    (h : Hub.step env hub l = some next) : SubmissionLedger next := by
  have effect := step_effect h
  have suppliers := effect_suppliers ledger effect
  cases step_submissions h with
  | outside notMine same =>
    refine submitted.quiet suppliers (identity_before ledger effect notMine) ?_ ?_
    · intro call x present
      rw [same] at present
      exact .inl present
    · intro call x present _
      rw [same]
      exact present
  | @opened _ x notMine opening submissions =>
    refine submitted.quiet suppliers (identity_before ledger effect notMine) ?_ ?_
    · intro call y present
      rw [submissions] at present
      rcases Pool.push_cases present with old | ⟨-, rfl⟩
      · exact .inl old
      · rcases opening with ⟨request, rfl⟩ | ⟨error, rfl⟩
        · exact .inr ⟨trivial, rfl⟩
        · exact .inr ⟨trivial, rfl⟩
    · intro call y present _
      rw [submissions, List.getElem?_append_left]
      · exact present
      · exact (List.getElem?_eq_some_iff.mp present).1
  | looked present same submissions =>
    obtain ⟨sound, none⟩ := submitLookup_sound ledger _
    exact submitted.move same present rfl submissions sound none
  | put present same submissions =>
    have sound := submitted.sound _ _ present
    split at submissions
    · exact submitted.move same present rfl submissions sound rfl
    · exact submitted.move same present rfl submissions trivial rfl
  | misfitted present _ same submissions => exact submitted.move same present rfl submissions trivial rfl
  | collided present _ _ _ same submissions => exact submitted.move same present rfl submissions trivial rfl
  | inserted present fresh _ free owner identity jobs submissions =>
    subst owner
    have identities := identity_inserted fresh jobs
    rw [identity] at identities
    refine submitted.insert suppliers present ?_ ?_ identities submissions
    · rw [Database.identity, fresh, Option.map_none]
    · intro id digest taken
      obtain ⟨row, member, -, same, -⟩ := mem_of_identity taken
      exact free row member same

theorem initial_submissions (begins : Hub.Initial hub) : SubmissionLedger hub := by
  have none (id : Id) : hub.db.identity id = none := by
    rw [Database.identity, Database.job, begins.jobs]
    rfl
  refine ⟨?_, ?_, ?_⟩
  · intro id id' key d d' known
    rw [none] at known
    contradiction
  · intro call x present
    rw [begins.submissions] at present
    contradiction
  · intro id known
    rw [none] at known
    contradiction

theorem reachable_submissions (reached : Hub.Reachable env hub) : SubmissionLedger hub := by
  obtain ⟨start, begins, run⟩ := reached
  exact run.invariant_reachable
    (fun _ _ _ reached submitted _ step => submissions_step (reachable_ledger reached) submitted step)
    (.start begins) (initial_submissions begins)

theorem raising_commits_nothing {call : Nat} {error : CallError} (mine : l.submission? = some call)
    (h : Hub.step env hub l = some next) (raised : next.submissions[call]? = some (.raised request error)) :
    next.db = hub.db := by
  cases step_submissions h with
  | outside notMine | opened notMine =>
    rw [notMine] at mine
    contradiction
  | looked _ same => exact same
  | put _ same => exact same
  | misfitted _ _ same => exact same
  | collided _ _ _ _ same => exact same
  | inserted present _ _ _ _ _ _ submissions =>
    obtain rfl := Option.some.inj mine
    rw [submissions, Pool.set_present present] at raised
    cases raised

/-! ### Calls with the same content -/

/-- What is promised to the calls under a key: one job, created by one of them and returned to those with
its content, and a conflict for those with other content. -/
structure Hub.Idempotent (key : SubmissionKey) (hub : Hub) : Prop where
  one : ∀ (id id' : Id) (row row' : ImportJob), hub.db.job id = some row → hub.db.job id' = some row' →
    row.idempotency = key → row'.idempotency = key → id = id'
  created : ∀ (id : Id) (row : ImportJob), hub.db.job id = some row → row.idempotency = key →
    ∃ (call : Nat) (request : SubmitRequest), hub.submissions[call]? = some (.returned request id true) ∧
      ∀ (call' : Nat) (request' : SubmitRequest),
        hub.submissions[call']? = some (.returned request' id true) → call' = call
  returned : ∀ (call : Nat) (request : SubmitRequest) (id : Id) (created : Bool),
    hub.submissions[call]? = some (.returned request id created) → submissionKey hub.db request = some key →
    ∃ row, hub.db.job id = some row ∧ row.idempotency = key ∧ row.contentSha256 = request.contentSha256
  raised : ∀ (call : Nat) (request : SubmitRequest) (error : CallError),
    hub.submissions[call]? = some (.raised request error) → submissionKey hub.db request = some key →
    (∃ message, error = .domain (.resourceConflict message)) ∧
    ∃ id row, hub.db.job id = some row ∧ row.idempotency = key ∧ row.contentSha256 ≠ request.contentSha256

/-- Under the key, the store keeps what is put, the columns take what is inserted, and no insert comes after
that of a job with its content. -/
def InsertsFirst (key : SubmissionKey) (hub : Hub) : Label → Prop
  | .put call outcome _ => ∀ request supplierId, hub.submissions[call]? = some (.missed request supplierId) →
      submissionKey hub.db request = some key → outcome = .stored
  | .insert call _ _ => ∀ request supplierId objectKey,
      hub.submissions[call]? = some (.stored request supplierId objectKey) →
      submissionKey hub.db request = some key → request.Fitting ∧
      ∀ id row, hub.db.job id = some row → row.idempotency = key → row.contentSha256 ≠ request.contentSha256
  | _ => True

def Hub.RaisesConflicts (key : SubmissionKey) (hub : Hub) : Prop :=
  ∀ (call : Nat) (request : SubmitRequest) (error : CallError),
    hub.submissions[call]? = some (.raised request error) → submissionKey hub.db request = some key →
    (∃ message, error = .domain (.resourceConflict message)) ∧
    ∃ id digest, hub.db.identity id = some (key, digest) ∧ digest ≠ request.contentSha256

theorem idempotent_of_raised (submitted : SubmissionLedger hub) (raises : hub.RaisesConflicts key) :
    hub.Idempotent key := by
  have known {id : Id} {row : ImportJob} (found : hub.db.job id = some row) (mine : row.idempotency = key) :
      hub.db.identity id = some (key, row.contentSha256) := by
    rw [Database.identity, found, Option.map_some, ImportJob.identity, mine]
  have row {id : Id} {digest : String} (known : hub.db.identity id = some (key, digest)) :
      ∃ row, hub.db.job id = some row ∧ row.idempotency = key ∧ row.contentSha256 = digest := by
    obtain ⟨row, found, same⟩ := Option.map_eq_some_iff.mp known
    obtain ⟨rfl, rfl⟩ := Prod.mk.inj same
    exact ⟨row, found, rfl, rfl⟩
  refine ⟨?_, ?_, ?_, ?_⟩
  · intro id id' r r' found found' mine mine'
    exact submitted.unique id id' key _ _ (known found mine) (known found' mine')
  · intro id r found mine
    obtain ⟨call, x, present, created, only⟩ := submitted.creator id (by rw [known found mine]; rfl)
    cases x with
    | returned request id' first =>
      cases first with
      | true =>
        obtain rfl := Option.some.inj created
        exact ⟨call, request, present, fun call' request' present' => only call' _ present' rfl⟩
      | false => contradiction
    | _ => contradiction
  · intro call request id created present submits
    obtain ⟨key', submits', identity⟩ := submitted.sound call _ present
    obtain rfl := Option.some.inj (submits.symm.trans submits')
    exact row identity
  · intro call request error present submits
    obtain ⟨conflict, id, digest, identity, different⟩ := raises call request error present submits
    obtain ⟨r, found, mine, rfl⟩ := row identity
    exact ⟨conflict, id, r, found, mine, different⟩

theorem submitLookup_raises (ledger : Ledger db) {asked : SubmitRequest} {error : CallError}
    (ended : submitLookup db asked = .raised request error) (submits : submissionKey db request = some key) :
    (∃ message, error = .domain (.resourceConflict message)) ∧
    ∃ id digest, db.identity id = some (key, digest) ∧ digest ≠ request.contentSha256 := by
  rcases submitLookup_cases db asked with ⟨none, error', raised⟩ | ⟨supplierId, -, missed⟩ |
    ⟨existing, member, submits', ⟨different, message, raised⟩ | ⟨-, returned⟩⟩
  · rw [raised] at ended
    cases ended
    rw [none] at submits
    contradiction
  · rw [missed] at ended
    contradiction
  · rw [raised] at ended
    cases ended
    obtain rfl := Option.some.inj (submits.symm.trans submits')
    exact ⟨⟨message, rfl⟩, existing.id, _, identity_of_mem ledger member, different⟩
  · rw [returned] at ended
    contradiction

theorem raises_step (ledger : Ledger hub.db) (submitted : SubmissionLedger hub)
    (raises : hub.RaisesConflicts key) (met : InsertsFirst key hub l)
    (h : Hub.step env hub l = some next) : next.RaisesConflicts key := by
  have effect := step_effect h
  have suppliers := effect_suppliers ledger effect
  intro call request error present submits
  rw [submissionKey_congr suppliers] at submits
  -- whatever a call met before the step is still among the rows after it
  have later (conflict : (∃ message, error = .domain (.resourceConflict message)) ∧
      ∃ id digest, hub.db.identity id = some (key, digest) ∧ digest ≠ request.contentSha256) :
      (∃ message, error = .domain (.resourceConflict message)) ∧
        ∃ id digest, next.db.identity id = some (key, digest) ∧ digest ≠ request.contentSha256 := by
    obtain ⟨message, id, digest, known, different⟩ := conflict
    exact ⟨message, id, digest, identity_kept ledger effect known, different⟩
  apply later
  cases step_submissions h with
  | outside _ same =>
    rw [same] at present
    exact raises call request error present submits
  | opened _ opening submissions =>
    rw [submissions] at present
    rcases Pool.push_cases present with old | ⟨-, rfl⟩
    · exact raises call request error old submits
    · rcases opening with ⟨_, same⟩ | ⟨_, same⟩ <;> contradiction
  | looked _ _ submissions =>
    rw [submissions] at present
    rcases Pool.set_cases present with ⟨-, ended⟩ | ⟨-, old⟩
    · exact submitLookup_raises ledger ended.symm submits
    · exact raises call request error old submits
  | @put mine outcome now asked supplierId before _ submissions =>
    rw [submissions] at present
    rcases Pool.set_cases present with ⟨-, ended⟩ | ⟨-, old⟩
    · split at ended
      · contradiction
      · rename_i failed
        cases ended
        exact absurd (met request supplierId before submits) failed
    · exact raises call request error old submits
  | @misfitted mine jobId now asked supplierId objectKey before misfit _ submissions =>
    rw [submissions] at present
    rcases Pool.set_cases present with ⟨-, ended⟩ | ⟨-, old⟩
    · cases ended
      exact absurd (met request supplierId objectKey before submits).1 misfit
    · exact raises call request error old submits
  | @collided mine jobId now asked supplierId objectKey row before _ member same _ submissions =>
    rw [submissions] at present
    rcases Pool.set_cases present with ⟨-, ended⟩ | ⟨-, old⟩
    · cases ended
      have submits' := submitted.sound mine _ before
      obtain rfl := Option.some.inj (submits.symm.trans submits')
      have found : hub.db.job row.id = some row := Table.lookup_of_mem ledger.ids member
      have different := (met request supplierId objectKey before submits).2 row.id row found same
      exact ⟨⟨_, rfl⟩, row.id, row.contentSha256, by rw [identity_of_mem ledger member, ImportJob.identity, same],
        different⟩
    · exact raises call request error old submits
  | inserted _ _ _ _ _ _ _ submissions =>
    rw [submissions] at present
    rcases Pool.set_cases present with ⟨-, ended⟩ | ⟨-, old⟩
    · contradiction
    · exact raises call request error old submits

def StaysIdempotent (env : Env) (key : SubmissionKey) (hub : Hub) (l : Label) : Prop :=
  ∀ next, Hub.step env hub l = some next → next.Idempotent key

theorem insertsFirst_of_idempotent (ledger : Ledger hub.db) (submitted : SubmissionLedger hub)
    (h : Hub.step env hub l = some next) (idempotent : next.Idempotent key) : InsertsFirst key hub l := by
  have suppliers := effect_suppliers ledger (step_effect h)
  cases l with
  | put call outcome now =>
    intro request supplierId present submits
    by_contra failed
    have raised : next.submissions[call]? = some (.raised request (.domain storeUnavailable)) := by
      simp only [Hub.step, Hub.put, present] at h
      cases h
      dsimp only
      rw [if_neg failed]
      exact Pool.set_present present
    obtain ⟨⟨message, conflict⟩, -⟩ :=
      idempotent.raised call request _ raised ((submissionKey_congr suppliers).trans submits)
    cases CallError.domain.inj conflict
  | insert call jobId now =>
    intro request supplierId objectKey present submits
    cases step_submissions h with
    | outside notMine | opened notMine => contradiction
    | misfitted before _ db submissions =>
      obtain ⟨rfl, rfl, rfl⟩ := Submission.stored.inj (Option.some.inj (present.symm.trans before))
      have raised : next.submissions[call]? = some (.raised request (.unmapped valueError)) := by
        rw [submissions]
        exact Pool.set_present present
      obtain ⟨⟨message, conflict⟩, -⟩ :=
        idempotent.raised call request _ raised ((submissionKey_congr suppliers).trans submits)
      contradiction
    | collided before fitting _ _ db submissions =>
      obtain ⟨rfl, rfl, rfl⟩ := Submission.stored.inj (Option.some.inj (present.symm.trans before))
      have raised : next.submissions[call]? = some (.raised request (.domain submissionConflict)) := by
        rw [submissions]
        exact Pool.set_present present
      refine ⟨fitting, fun id row found mine same => ?_⟩
      obtain ⟨-, id', row', found', mine', different⟩ :=
        idempotent.raised call request _ raised ((submissionKey_congr suppliers).trans submits)
      rw [db] at found'
      have one := idempotent.one id id' row row' (by rw [db]; exact found) (by rw [db]; exact found') mine mine'
      subst one
      obtain rfl := Option.some.inj (found.symm.trans found')
      exact different same
    | inserted before _ fitting free =>
      obtain ⟨rfl, rfl, rfl⟩ := Submission.stored.inj (Option.some.inj (present.symm.trans before))
      have submits' := submitted.sound call _ present
      obtain rfl := Option.some.inj (submits.symm.trans submits')
      exact ⟨fitting, fun id row found mine => absurd mine (free row (Table.lookup_mem found))⟩
  | _ => trivial

theorem raises_run {start : Hub} (begins : Hub.Initial start) (run : Hub.Run env (InsertsFirst key) start hub) :
    hub.RaisesConflicts key := by
  refine run.invariant_reachable ?_ (.start begins) ?_
  · intro s l t reached raises met step
    exact raises_step (reachable_ledger reached) (reachable_submissions reached) raises met step
  · intro call request error present
    rw [begins.submissions] at present
    contradiction

/-- A call that raises has committed nothing. Along a run in which the store keeps the payloads, the columns take
the values, and no call inserts after another with its content, one job comes of a key: one call creates it, the
others with its content are given it, and those with other content meet a conflict. A run that keeps to this is such a
run. -/
theorem submissions_idempotent {start : Hub} (begins : Hub.Initial start) (key : SubmissionKey) :
    (∀ hub next l call request error, Label.submission? l = some call → Hub.step env hub l = some next →
      next.submissions[call]? = some (.raised request error) → next.db = hub.db) ∧
    (∀ hub, Hub.Run env (InsertsFirst key) start hub → hub.Idempotent key) ∧
    ∀ hub, Hub.Run env (StaysIdempotent env key) start hub → Hub.Run env (InsertsFirst key) start hub := by
  refine ⟨fun hub next l call request error => raising_commits_nothing, ?_, ?_⟩
  · intro hub run
    have reached := Machine.Reachable.run (.start begins) run
    exact idempotent_of_raised (reachable_submissions reached) (raises_run begins run)
  · intro hub run
    refine run.strengthen (P := fun _ => True) (fun _ _ => trivial) ?_ (.start begins)
    intro s l t reached _ stays step
    exact insertsFirst_of_idempotent (reachable_ledger reached) (reachable_submissions reached) step (stays t step)

end

/-- `InsertsFirst` as it can be computed. -/
def insertsFirstNow (key : SubmissionKey) (hub : Hub) : Label → Bool
  | .put _ outcome _ => outcome = .stored
  | .insert call _ _ =>
    match hub.submissions[call]? with
    | some (.stored request _ _) => request.Fitting &&
      hub.db.jobs.all fun row => row.idempotency ≠ key || row.contentSha256 ≠ request.contentSha256
    | _ => true
  | _ => true

theorem insertsFirstNow_sound (key : SubmissionKey) (hub : Hub) (l : Label)
    (h : insertsFirstNow key hub l = true) : InsertsFirst key hub l := by
  cases l with
  | put call outcome now =>
    intro _ _ _ _
    exact of_decide_eq_true h
  | insert call jobId now =>
    intro request supplierId objectKey present _
    simp only [insertsFirstNow, present, Bool.and_eq_true, decide_eq_true_eq, List.all_eq_true] at h
    refine ⟨h.1, fun id row found mine => ?_⟩
    simpa [mine] using h.2 row (Table.lookup_mem found)
  | _ => trivial

namespace Small

def key : SubmissionKey := (1, .supplierBCsv, some "key-1")

/-- Two identical calls, and both lookups before either insert. -/
def retried : List Label :=
  [.submit request, .submit request, .lookup 0, .lookup 1, .put 0 .stored (moment 0), .put 1 .stored (moment 1),
    .insert 0 1 (moment 0), .insert 1 2 (moment 1)]

end Small

/-- The same request a second time, after the first: job 1 is created once, and given to both calls. -/
theorem submissions_idempotent_again : ∃ hub, Hub.Run Small.env (InsertsFirst Small.key) Small.hub hub ∧
    hub.submissions.length = 2 ∧ hub.submissions.filterMap Submission.created? = [1] ∧
    hub.Idempotent Small.key := by
  have shown : (Machine.exec (Machine.checked (Hub.step Small.env) (insertsFirstNow Small.key)) Small.hub
      (Small.submitted ++ [.submit Small.request, .lookup 1])).any (fun hub =>
        hub.submissions.length = 2 && hub.submissions.filterMap Submission.created? = [1]) = true := by
    decide +kernel
  simp only [Option.any_eq_true, Bool.and_eq_true, decide_eq_true_eq] at shown
  obtain ⟨hub, steps, both, once⟩ := shown
  have run : Hub.Run Small.env (InsertsFirst Small.key) Small.hub hub :=
    Machine.exec_run_checked (insertsFirstNow_sound Small.key) steps
  exact ⟨hub, run, both, once, (submissions_idempotent Small.initial Small.key).2.1 hub run⟩

/-- Two identical calls miss each other's job. The second meets the unique constraint and raises a conflict,
though the job under its key has its content. -/
theorem identical_call_raises : ∃ (hub : Hub) (row : ImportJob) (request : SubmitRequest),
    Hub.Reachable Small.env hub ∧ hub.db.job 1 = some row ∧ row.idempotency = Small.key ∧
    hub.submissions[1]? = some (.raised request (.domain submissionConflict)) ∧
    submissionKey hub.db request = some Small.key ∧ row.contentSha256 = request.contentSha256 ∧
    ¬ hub.Idempotent Small.key := by
  obtain ⟨hub, -, reached, shown⟩ := Small.reaches Small.retried
    (fun hub => (hub.db.job 1).any fun row => row.idempotency = Small.key &&
      hub.submissions[1]?.any fun x => match x with
        | .raised request error => error = .domain submissionConflict &&
          submissionKey hub.db request = some Small.key && row.contentSha256 = request.contentSha256
        | _ => false)
    (by decide +kernel)
  simp only [Option.any_eq_true, Bool.and_eq_true, decide_eq_true_eq] at shown
  obtain ⟨row, found, mine, x, present, ended⟩ := shown
  cases x with
  | raised request error =>
    simp only [Bool.and_eq_true, decide_eq_true_eq] at ended
    obtain ⟨⟨rfl, submits⟩, same⟩ := ended
    refine ⟨hub, row, request, reached, found, mine, present, submits, same, ?_⟩
    intro idempotent
    obtain ⟨-, id, other, found', mine', different⟩ := idempotent.raised 1 _ _ present submits
    have one := idempotent.one 1 id row other found found' mine mine'
    subst one
    obtain rfl := Option.some.inj (found.symm.trans found')
    exact different same
  | _ => contradiction

end SupplyChainHub
