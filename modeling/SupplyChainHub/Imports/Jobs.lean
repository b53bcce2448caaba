import SupplyChainHub.Database.Rows
import SupplyChainHub.Imports.Failures

/-!
The operations of `integration_services.py` that write import jobs and attempts.

Claim, failure report and recovery hold the job's row from `SELECT ... FOR UPDATE` to their commit,
so each is one function of the committed database. Marking a job dispatched reads it without a
lock: it takes the row the session loaded.
-/

namespace SupplyChainHub

def recordImportEvent (job : ImportJob) (component stage status : String) (evidence : Evidence)
    (now : Timestamp) : OperationEvent :=
  { importJobId := job.id, component, stage, status, evidenceReference := evidence, occurredAt := now }

namespace Database

def addEvents (db : Database) (events : List OperationEvent) : Database :=
  { db with events := db.events ++ events }

/-- An attempt row, under `uq_import_attempts_job_attempt_number`. -/
def insertAttempt (db : Database) (attempt : ImportAttempt) : Except Raised Database :=
  match db.attempt attempt.importJobId attempt.attemptNumber with
  | some _ => .error (integrityError "uq_import_attempts_job_attempt_number")
  | none => .ok { db with attempts := db.attempts ++ [attempt] }

def findCurrentAttempt (db : Database) (job : ImportJob) : Option ImportAttempt :=
  db.attempt job.id job.attemptCount

end Database

def jobNotFound (importJobId : Id) : Raised :=
  ⟨[.resourceNotFoundError], "Import job '" ++ importJobId.repr ++ "' was not found."⟩

/-! ### Dispatch -/

/-- `loaded` is the job as `session.get` returned it. -/
def markJobDispatched (db : Database) (loaded : ImportJob) (dispatchedAt : Timestamp) : Database :=
  if loaded.status = .queued then
    (db.modifyJob loaded.id (loaded.writeBack { loaded with dispatchedAt := some dispatchedAt })).addEvents
      [recordImportEvent loaded "Redis" "job.dispatched" "succeeded" (.importJob loaded.id) dispatchedAt]
  else db

/-- The filter of `jobs_due_for_dispatch`. -/
def dueForDispatch (settings : Settings) (now : Timestamp) (job : ImportJob) : Bool :=
  job.status = .queued &&
  job.nextRetryAt.all (· ≤ now) &&
  job.dispatchedAt.all (· + seconds settings.importRedispatchSeconds ≤ now)

def jobsDueForDispatch (settings : Settings) (db : Database) (now : Timestamp) (limit : Nat := 100) :
    List ImportJob :=
  ((db.jobs.filter (dueForDispatch settings now)).mergeSort fun a b => a.createdAt ≤ b.createdAt).take limit

/-! ### Claim -/

/-- The job and attempt a worker's session holds once the claim has committed. The session keeps
them as it wrote them: objects do not expire on commit. -/
structure WorkerSession where
  job : ImportJob
  attempt : ImportAttempt
  processing : job.status = .processing
  leased : job.leaseExpiresAt.isSome
  held : job.workerId.isSome
  unfinished : job.completedAt = none
  current : attempt.key = (job.id, job.attemptCount)
  running : attempt.status = .running
  unclosed : attempt.completedAt = none

def claimedJob (settings : Settings) (job : ImportJob) (workerId : String) (now : Timestamp) : ImportJob :=
  { job with
    status := .processing
    attemptCount := job.attemptCount + 1
    startedAt := some (job.startedAt.getD now)
    completedAt := none
    nextRetryAt := none
    leaseExpiresAt := some (now + seconds settings.importLeaseSeconds)
    workerId := some workerId
    failureCode := none
    failureMessage := none
    lastErrorRetryable := none }

def openAttempt (job : ImportJob) (workerId : String) (celeryTaskId : Option String) : ImportAttempt :=
  { importJobId := job.id, attemptNumber := job.attemptCount, celeryTaskId, workerId }

def claimSession (settings : Settings) (job : ImportJob) (workerId : String)
    (celeryTaskId : Option String) (now : Timestamp) : WorkerSession where
  job := claimedJob settings job workerId now
  attempt := openAttempt (claimedJob settings job workerId now) workerId celeryTaskId
  processing := rfl
  leased := rfl
  held := rfl
  unfinished := rfl
  current := rfl
  running := rfl
  unclosed := rfl

/-- The first transaction of `execute_import_job`. It returns `none` when the job is not to be
worked on now, and the worker's session when it is claimed. -/
def executeImportJobClaim (settings : Settings) (db : Database) (importJobId : Id) (workerId : String)
    (celeryTaskId : Option String) (now : Timestamp) : Except Raised (Option (Database × WorkerSession)) :=
  match db.job importJobId with
  | none => .error (jobNotFound importJobId)
  | some job =>
    if job.status ≠ .queued then .ok none
    else if job.nextRetryAt.any (now < ·) then .ok none
    else
      let session := claimSession settings job workerId celeryTaskId now
      match (db.modifyJob importJobId fun _ => session.job).insertAttempt session.attempt with
      | .error e => .error e
      | .ok db => .ok (some (db.addEvents
          [recordImportEvent session.job "Celery" "worker.claimed" "running"
            (.importAttempt importJobId session.job.attemptCount) now], session))

/-! ### Failure report -/

/-- The current attempt of a job whose failure is recorded, or the new one opened for it. -/
def attemptToFail (db : Database) (job : ImportJob) (workerId : String) (celeryTaskId : Option String) :
    Except Raised (Database × ImportJob × ImportAttempt) :=
  match db.findCurrentAttempt job with
  | some attempt => .ok (db, job, attempt)
  | none =>
    let job := { job with attemptCount := job.attemptCount + 1 }
    let attempt := openAttempt job workerId celeryTaskId
    match db.insertAttempt attempt with
    | .error e => .error e
    | .ok db => .ok (db, job, attempt)

def failureDisposition (settings : Settings) (job : ImportJob) (error : Raised) : FailureDisposition :=
  let (retryable, failureCode) := classifyImportFailure error
  let retryScheduled := retryable && decide (job.attemptCount < job.maxAttempts)
  { retryScheduled
    retryDelaySeconds := if retryScheduled then some (calculateRetryDelay settings job.attemptCount) else none
    failureCode }

def failedJob (settings : Settings) (job : ImportJob) (error : Raised) (now : Timestamp) : ImportJob :=
  let disposition := failureDisposition settings job error
  let job := { job with
    failureCode := some disposition.failureCode
    failureMessage := some error.text
    lastErrorRetryable := some (classifyImportFailure error).1
    leaseExpiresAt := none
    workerId := none
    dispatchedAt := none }
  if disposition.retryScheduled then
    { job with
      status := .queued
      nextRetryAt := some (now + seconds (disposition.retryDelaySeconds.getD 0)) }
  else { job with status := .failed, completedAt := some now, nextRetryAt := none }

def failedAttempt (settings : Settings) (job : ImportJob) (error : Raised) (now : Timestamp)
    (attempt : ImportAttempt) : ImportAttempt :=
  let disposition := failureDisposition settings job error
  { attempt with
    errorCode := some disposition.failureCode
    errorMessage := some error.text
    retryable := some (classifyImportFailure error).1
    completedAt := some now
    status := if disposition.retryScheduled then .retryScheduled else .failed }

def failureEvent (settings : Settings) (job : ImportJob) (error : Raised) (now : Timestamp) : OperationEvent :=
  if (failureDisposition settings job error).retryScheduled then
    recordImportEvent job "Celery" "job.retry_scheduled" "warning"
      (.importAttempt job.id job.attemptCount) now
  else recordImportEvent job "Celery" "job.failed" "failed" (.importJob job.id) now

def recordImportFailure (settings : Settings) (db : Database) (importJobId : Id) (error : Raised)
    (workerId : String) (celeryTaskId : Option String) (now : Timestamp) :
    Except Raised (Database × FailureDisposition) :=
  match db.job importJobId with
  | none => .error (jobNotFound importJobId)
  | some job =>
    match attemptToFail db job workerId celeryTaskId with
    | .error e => .error e
    | .ok (db, job, _) => .ok
        ((((db.modifyJob importJobId fun _ => failedJob settings job error now).modifyAttempt
            job.id job.attemptCount (failedAttempt settings job error now)).addEvents
          [failureEvent settings job error now]),
        failureDisposition settings job error)

/-! ### Lease recovery -/

def leaseExpired (now : Timestamp) (job : ImportJob) : Bool :=
  job.status = .processing && job.leaseExpiresAt.any (· < now)

def recoveredAttempt (now : Timestamp) (attempt : ImportAttempt) : ImportAttempt :=
  { attempt with
    status := .abandoned
    completedAt := some now
    errorCode := some "worker_lease_expired"
    errorMessage := some "The worker lease expired before completion."
    retryable := some true }

def recoveredJob (now : Timestamp) (job : ImportJob) : ImportJob :=
  let job := { job with
    failureCode := some "worker_lease_expired"
    failureMessage := some "The worker lease expired before completion."
    lastErrorRetryable := some true
    leaseExpiresAt := none
    workerId := none
    dispatchedAt := none }
  if job.attemptCount < job.maxAttempts then { job with status := .queued, nextRetryAt := some now }
  else { job with status := .failed, completedAt := some now }

def recoverJob (now : Timestamp) (db : Database) (job : ImportJob) : Except Raised (Database × List Id) :=
  match db.findCurrentAttempt job with
  | none => .error ⟨[.permanentImportError],
      "Import job '" ++ job.id.repr ++ "' has no durable current attempt."⟩
  | some _ => .ok
      ((db.modifyJob job.id fun _ => recoveredJob now job).modifyAttempt job.id job.attemptCount
        (recoveredAttempt now),
      if job.attemptCount < job.maxAttempts then [job.id] else [])

def recoverJobs (now : Timestamp) : List ImportJob → Database → Except Raised (Database × List Id)
  | [], db => .ok (db, [])
  | job :: rest, db =>
    match recoverJob now db job with
    | .error e => .error e
    | .ok (db, first) =>
      match recoverJobs now rest db with
      | .error e => .error e
      | .ok (db, later) => .ok (db, first ++ later)

/-- `locked` are the jobs whose row another transaction has locked: `SKIP LOCKED` leaves them out. -/
def recoverStaleImports (db : Database) (locked : List Id) (now : Timestamp) :
    Except Raised (Database × List Id) :=
  recoverJobs now (db.jobs.filter fun job => leaseExpired now job && !locked.contains job.id) db

end SupplyChainHub
