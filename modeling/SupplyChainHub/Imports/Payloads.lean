import SupplyChainHub.Imports.Idempotency
import SupplyChainHub.Imports.Transactions

/-!
Retained payloads. Objects are put before their job is committed, under a key that other jobs of the
same content share, and put again by every submission of that content. What saves the payload is that
the key names the digest: whoever writes over an object writes content of the same digest.
-/

namespace SupplyChainHub

/-! ### The digest in a key -/

theorem padded_digits {width n : Nat} {c : Char} (h : c ∈ (padded width n).toList) : c.isDigit = true := by
  simp only [padded, String.toList_append, String.toList_ofList, List.mem_append, List.mem_replicate] at h
  rcases h with ⟨-, rfl⟩ | digit
  · decide
  · rw [Nat.repr, String.toList_ofList] at digit
    exact Nat.isDigit_of_mem_toDigits (by decide) (by decide) digit

theorem isoDate_slash (t : Timestamp) : '/' ∉ (isoDate t).toList := by
  have digitless {width n : Nat} : '/' ∉ (padded width n).toList := fun h => nomatch padded_digits h
  have dash : '/' ∉ ("-" : String).toList := by decide
  simp only [isoDate, String.toList_append, List.mem_append, digitless, dash, or_self, not_false_iff]

/-- What stands before the date in a key. -/
def sourceFolder (sourceType : ImportSourceType) : String :=
  "raw/inventory/source=" ++ sourceType.value ++ "/ingest_date="

def objectExtension (sourceType : ImportSourceType) : String :=
  if sourceType = .supplierAJson then "json" else "csv"

theorem buildRawObjectKey_eq (s : ImportSourceType) (digest : String) (t : Timestamp) :
    buildRawObjectKey s digest t = sourceFolder s ++ isoDate t ++ "/" ++ digest ++ "." ++ objectExtension s := rfl

theorem sourceFolder_inj {s s' : ImportSourceType} {rest rest' : List Char}
    (h : (sourceFolder s).toList ++ rest = (sourceFolder s').toList ++ rest') : s = s' := by
  -- the letter of the supplier
  have inside (s : ImportSourceType) : 30 < (sourceFolder s).toList.length := by cases s <;> decide
  have letter := congrArg (·[30]?) h
  simp only [List.getElem?_append_left (inside _)] at letter
  cases s <;> cases s' <;> first | rfl | exact absurd letter (by decide)

/-- What follows the first slash is the same on both sides. -/
theorem after_slash {date date' rest rest' : List Char} (clear : '/' ∉ date) (clear' : '/' ∉ date')
    (h : date ++ '/' :: rest = date' ++ '/' :: rest') : rest = rest' := by
  have drop {xs ys : List Char} (clear : '/' ∉ xs) : (xs ++ '/' :: ys).dropWhile (· != '/') = '/' :: ys := by
    have before : ∀ c ∈ xs, (c != '/') = true := by
      intro c member
      rw [bne_iff_ne]
      rintro rfl
      exact clear member
    rw [List.dropWhile_append_of_pos before]
    rfl
  have dropped := congrArg (List.dropWhile (· != '/')) h
  rw [drop clear, drop clear'] at dropped
  exact (List.cons.inj dropped).2

theorem buildRawObjectKey_digest {s s' : ImportSourceType} {digest digest' : String} {t t' : Timestamp}
    (h : buildRawObjectKey s digest t = buildRawObjectKey s' digest' t') : digest = digest' := by
  rw [buildRawObjectKey_eq, buildRawObjectKey_eq] at h
  have same := congrArg String.toList h
  simp only [String.toList_append, List.append_assoc] at same
  obtain rfl := sourceFolder_inj same
  have dated := List.append_cancel_left same
  have named : digest.toList ++ (".".toList ++ (objectExtension s).toList) =
      digest'.toList ++ (".".toList ++ (objectExtension s).toList) :=
    after_slash (isoDate_slash t) (isoDate_slash t') dated
  exact String.toList_inj.mp (List.append_cancel_right named)

section
variable {env : Env} {hub next : Hub} {l : Label} {objects : ObjectStore} {digest objectKey : String}
    {job row : ImportJob} {request : SubmitRequest}

/-! ### What the bucket holds -/

/-- The key names the digest, and the object under it has that digest. -/
def Retains (env : Env) (objects : ObjectStore) (digest objectKey : String) : Prop :=
  (∃ sourceType now, objectKey = buildRawObjectKey sourceType digest now) ∧
    ∃ content, objects objectKey = some content ∧ env.sha256 content = digest

def ImportJob.Retained (env : Env) (objects : ObjectStore) (job : ImportJob) : Prop :=
  ∃ objectKey, job.payloadObjectKey = some objectKey ∧ Retains env objects job.contentSha256 objectKey

theorem retains_put (request : SubmitRequest) (verified : env.sha256 request.content = request.contentSha256)
    (now : Timestamp) :
    Retains env (objects.put (buildRawObjectKey request.sourceType request.contentSha256 now) request.content)
      request.contentSha256 (buildRawObjectKey request.sourceType request.contentSha256 now) :=
  ⟨⟨_, _, rfl⟩, request.content, if_pos rfl, verified⟩

/-- Writing over an object keeps its digest. -/
theorem Retains.put (retains : Retains env objects digest objectKey)
    (verified : env.sha256 request.content = request.contentSha256) (now : Timestamp) :
    Retains env (objects.put (buildRawObjectKey request.sourceType request.contentSha256 now) request.content)
      digest objectKey := by
  obtain ⟨named, content, held, digested⟩ := retains
  refine ⟨named, ?_⟩
  by_cases same : objectKey = buildRawObjectKey request.sourceType request.contentSha256 now
  · obtain ⟨sourceType, then_, rfl⟩ := named
    obtain rfl := buildRawObjectKey_digest same
    exact ⟨request.content, if_pos same, verified⟩
  · exact ⟨content, (if_neg same).trans held, digested⟩

/-- Loading the payload fails only while the store does not answer: neither with the not-found nor with
the checksum error. -/
def ImportJob.Loads (env : Env) (objects : ObjectStore) (job : ImportJob) : Prop :=
  loadImportPayload env objects false job =
      .error ⟨[.transientImportError], "The raw-data object store is temporarily unavailable."⟩ ∧
    ∃ content, loadImportPayload env objects true job = .ok content ∧ env.sha256 content = job.contentSha256

theorem retained_loads (retained : job.Retained env objects) : job.Loads env objects := by
  obtain ⟨objectKey, keyed, -, content, held, digested⟩ := retained
  constructor
  · simp [loadImportPayload, keyed]
  · refine ⟨content, ?_, digested⟩
    simp [loadImportPayload, keyed, held, digested]

theorem loadImportPayload_digest {available : Bool} {content : ByteArray}
    (h : loadImportPayload env objects available job = .ok content) : env.sha256 content = job.contentSha256 := by
  unfold loadImportPayload at h
  dsimp only at h
  split at h
  · contradiction
  · split at h
    · contradiction
    · rename_i digested
      obtain rfl := Except.ok.inj h
      exact not_not.mp digested

theorem replay_verified {db : Database} {available : Bool} {importJobId : Id} {idempotencyKey : String}
    (h : replayFailedImport env db objects available importJobId idempotencyKey = .ok request) :
    env.sha256 request.content = request.contentSha256 := by
  unfold replayFailedImport at h
  split at h
  · contradiction
  · split at h
    · contradiction
    · split at h
      · contradiction
      · split at h
        · split at h <;> contradiction
        · rename_i loaded
          split at h
          · contradiction
          · obtain rfl := Except.ok.inj h
            exact loadImportPayload_digest loaded

/-! ### What a step does to the bucket -/

inductive ObjectChange (hub next : Hub) : Label → Prop where
  | kept {l : Label} (objects : next.objects = hub.objects) : ObjectChange hub next l
  | put {call : Nat} {outcome : PutOutcome} {now : Timestamp} {request : SubmitRequest} {supplierId : Id}
      (present : hub.submissions[call]? = some (.missed request supplierId))
      (objects : next.objects = hub.objects.put
        (buildRawObjectKey request.sourceType request.contentSha256 now) request.content) :
      ObjectChange hub next (.put call outcome now)

theorem step_objects (h : Hub.step env hub l = some next) : ObjectChange hub next l := by
  cases l with
  | put call outcome now =>
    simp only [Hub.step, Hub.put] at h
    split at h
    · rename_i present
      by_cases unwritten : outcome = .failedBeforeWrite
      · rw [if_pos unwritten] at h
        cases h
        exact .kept rfl
      · rw [if_neg unwritten] at h
        cases h
        exact .put present rfl
    · contradiction
  | submit | replay | deliver | dispatchRead | inventoryRead | productMappingRead | warehouseMappingRead =>
    cases h
    exact .kept rfl
  | recover =>
    cases h
    exact .kept recover_calls.objects
  | lookup | insert | dispatchWrite | inventoryCommit | mappingCommit =>
    simp only [Hub.step, Hub.lookup, Hub.insert, Hub.dispatchWrite, Hub.inventoryCommit, Hub.mappingCommit,
      Hub.endMapping] at h
    repeat' split at h
    all_goals first | contradiction | (cases h; exact .kept rfl)
  | _ => exact .kept (delivery_calls rfl h).objects

/-! ### Every run -/

/-- The callers of `submit_inventory_import` pass the digest of the content they pass. -/
def Verified (env : Env) (_ : Hub) (l : Label) : Prop :=
  ∀ request, l = .submit request → env.sha256 request.content = request.contentSha256

/-- What a call carries is verified, and what it has put is retained. -/
def Submission.Retained (env : Env) (objects : ObjectStore) : Submission → Prop
  | .requested request | .missed request _ => env.sha256 request.content = request.contentSha256
  | .stored request _ objectKey => Retains env objects request.contentSha256 objectKey
  | _ => True

structure Retention (env : Env) (hub : Hub) : Prop where
  jobs : ∀ id job, hub.db.job id = some job → job.Retained env hub.objects
  sessions : ∀ (d : Nat) (x : Delivery) (w : WorkerSession), hub.deliveries[d]? = some x →
    x.session? = some w → w.job.Retained env hub.objects
  calls : ∀ (call : Nat) (x : Submission), hub.submissions[call]? = some x → x.Retained env hub.objects

theorem ImportJob.Retained.congr (retained : job.Retained env objects)
    (same : row.payloadObjectKey = job.payloadObjectKey ∧ row.contentSha256 = job.contentSha256) :
    row.Retained env objects := by
  obtain ⟨objectKey, keyed, holds⟩ := retained
  exact ⟨objectKey, same.1.trans keyed, same.2 ▸ holds⟩

theorem Submission.Retained.mono {x : Submission} {after : ObjectStore} (retained : x.Retained env objects)
    (keeps : ∀ digest objectKey, Retains env objects digest objectKey → Retains env after digest objectKey) :
    x.Retained env after := by
  cases x with
  | stored => exact keeps _ _ retained
  | requested | missed => exact retained
  | _ => trivial

/-- What is retained stays retained: the only step that writes objects puts verified content. -/
theorem Retention.keeps (retention : Retention env hub) (h : Hub.step env hub l = some next)
    (retains : Retains env hub.objects digest objectKey) : Retains env next.objects digest objectKey := by
  cases step_objects h with
  | kept objects => rwa [objects]
  | put present objects =>
    have verified := retention.calls _ _ present
    rw [objects]
    exact retains.put verified _

theorem Retention.jobs_step (retention : Retention env hub) (ledger : Ledger hub.db)
    (h : Hub.step env hub l = some next) {id : Id} (found : next.db.job id = some row) :
    row.Retained env next.objects := by
  cases present : hub.db.job id with
  | some job =>
    obtain ⟨row', updated, change⟩ := effect_job ledger (step_effect h) present
    obtain rfl := Option.some.inj (found.symm.trans updated)
    obtain ⟨objectKey, keyed, retains⟩ := (retention.jobs id job present).congr
      ⟨change.submission.payloadObjectKey, change.submission.contentSha256⟩
    exact ⟨objectKey, keyed, retention.keeps h retains⟩
  | none =>
    obtain ⟨call, now, request, supplierId, objectKey, -, stored, -, rfl⟩ :=
      created_job ledger h present found
    exact ⟨objectKey, rfl, retention.keeps h (retention.calls call _ stored)⟩

theorem Retention.sessions_step (retention : Retention env hub) (h : Hub.step env hub l = some next) {d : Nat}
    {y : Delivery} {w : WorkerSession} (found : next.deliveries[d]? = some y) (holds : y.session? = some w) :
    w.job.Retained env next.objects := by
  have old {job : ImportJob} (retained : job.Retained env hub.objects) : job.Retained env next.objects := by
    obtain ⟨objectKey, keyed, retains⟩ := retained
    exact ⟨objectKey, keyed, retention.keeps h retains⟩
  rcases effect_session (step_effect h) found holds with ⟨x, present, before⟩ | ⟨jobId, workerId, task, now, claim⟩
  · exact old (retention.sessions d x w present before)
  · obtain ⟨job, known, -, -, -, rfl, -⟩ := claim_ok claim
    exact (old (retention.jobs jobId job known)).congr ⟨rfl, rfl⟩

theorem Retention.calls_step (retention : Retention env hub) (met : Verified env hub l)
    (h : Hub.step env hub l = some next) {call : Nat} {x : Submission} (found : next.submissions[call]? = some x) :
    x.Retained env next.objects := by
  cases step_slot h found with
  | kept present => exact (retention.calls call x present).mono fun _ _ => retention.keeps h
  | submitted request => exact met request rfl
  | replayed copied => exact replay_verified copied
  | @looked request present =>
    have verified := retention.calls call _ present
    rcases submitLookup_cases hub.db request with ⟨-, error, same⟩ | ⟨supplierId, -, same⟩ |
      ⟨existing, -, -, ⟨-, message, same⟩ | ⟨-, same⟩⟩
    · rw [same]; trivial
    · rw [same]; exact verified
    · rw [same]; trivial
    · rw [same]; trivial
  | stored present objects =>
    rw [objects]
    exact retains_put _ (retention.calls call _ present) _
  | refused | unanswered | uninserted | inserted => trivial

theorem retention_run {start : Hub} (begins : Hub.Initial start) (run : Hub.Run env (Verified env) start hub) :
    Retention env hub := by
  apply run.invariant_reachable (P := Retention env) ?_ (.start begins)
  · constructor
    · intro id job present
      rw [Database.job, begins.jobs] at present
      contradiction
    · intro d x w present
      rw [begins.deliveries] at present
      contradiction
    · intro call x present
      rw [begins.submissions] at present
      contradiction
  · intro hub l next reached retention met h
    exact ⟨fun _ _ => retention.jobs_step (reachable_ledger reached) h,
      fun _ _ _ => retention.sessions_step h, fun _ _ => retention.calls_step met h⟩

/-- Whatever is submitted, put and replayed, in any order and on any dates: the payload of every job is in
the bucket, whole, and it loads for whoever loads it. -/
theorem payloads_retained {start : Hub} (begins : Hub.Initial start)
    (run : Hub.Run env (Verified env) start hub) :
    (∀ id job, hub.db.job id = some job → (∃ objectKey content, job.payloadObjectKey = some objectKey ∧
      hub.objects objectKey = some content ∧ env.sha256 content = job.contentSha256) ∧
      job.Loads env hub.objects) ∧
    ∀ (d : Nat) session, hub.deliveries[d]? = some (.claimed session) →
      session.job.Loads env hub.objects := by
  have retention := retention_run begins run
  constructor
  · intro id job present
    have retained := retention.jobs id job present
    have loads := retained_loads retained
    obtain ⟨objectKey, keyed, -, content, held, digested⟩ := retained
    exact ⟨⟨objectKey, content, keyed, held, digested⟩, loads⟩
  · intro d session present
    exact retained_loads (retention.sessions d _ session present rfl)

end

namespace Small

/-- A put that wrote but did not answer, the resubmission, its permanent failure and its replay. -/
def replayed : List Label :=
  [.submit request, .lookup 0, .put 0 .failedAfterWrite (moment 0), .submit request, .lookup 1,
    .put 1 .stored (moment 1), .insert 1 1 (moment 1)] ++ claimed 0 (moment 2) ++
  [.raise 0 (permanentImportError "unreadable"), .report 0 (moment 3), .replay 1 "key-2" true, .lookup 2,
    .put 2 .stored (moment 4), .insert 2 2 (moment 4)]

end Small

theorem payloads_retained_replayed : ∃ hub job objectKey content,
    Hub.Run Small.env (Verified Small.env) Small.hub hub ∧ hub.db.job 2 = some job ∧
    job.replayOfJobId = some 1 ∧ job.payloadObjectKey = some objectKey ∧
    hub.objects objectKey = some content ∧ Small.env.sha256 content = job.contentSha256 := by
  have shown : (Machine.exec (Hub.step Small.env) Small.hub Small.replayed).any
      (fun hub => (hub.db.job 2).any fun job => job.replayOfJobId = some 1) = true := by decide +kernel
  simp only [Option.any_eq_true, decide_eq_true_eq] at shown
  obtain ⟨hub, steps, job, present, replay⟩ := shown
  have verified : ∀ l ∈ Small.replayed, ∀ s, Verified Small.env s l := by
    rintro l member s request rfl
    simp only [Small.replayed, Small.claimed, List.mem_append, List.mem_cons, Label.submit.injEq, reduceCtorEq,
      List.not_mem_nil, or_false, false_or, or_self] at member
    rw [member]
    rfl
  have run : Hub.Run Small.env (Verified Small.env) Small.hub hub := Machine.exec_run verified steps
  obtain ⟨⟨objectKey, content, keyed, held, digested⟩, -⟩ := (payloads_retained Small.initial run).1 2 job present
  exact ⟨hub, job, objectKey, content, run, present, replay, keyed, held, digested⟩

end SupplyChainHub
