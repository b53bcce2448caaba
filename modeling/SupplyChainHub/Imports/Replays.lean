import SupplyChainHub.Imports.Idempotency

/-!
Replays. `replay_failed_import` copies a failed job into a submission and leaves the rest to the
submission, whose idempotency lookup knows nothing of replays: it returns whatever job the key holds.
-/

namespace SupplyChainHub

/-- The job is a replay of the original, and another job than it. -/
structure Linked (db : Database) (original id : Id) : Prop where
  other : id ≠ original
  rows : ∃ job replayed, db.job id = some job ∧ db.job original = some replayed ∧
    job.replayOfJobId = some original ∧ job.contentSha256 = replayed.contentSha256 ∧
    job.sourceType = replayed.sourceType ∧ job.supplierId = replayed.supplierId

/-- Only `replay_failed_import` passes a `replay_of_job_id`. -/
def Plain (_ : Hub) (l : Label) : Prop := ∀ request, l = .submit request → request.replayOfJobId = none

/-- The request submits the original's content again, for its supplier. -/
def SubmitRequest.Copies (request : SubmitRequest) (db : Database) (original : Id) : Prop :=
  ∃ replayed supplier, db.job original = some replayed ∧
    Table.lookup Supplier.id replayed.supplierId db.suppliers = some supplier ∧
    request.supplierCode = supplier.code ∧ request.sourceType = replayed.sourceType ∧
    request.contentSha256 = replayed.contentSha256

/-- What a call that replays a job carries, and what it has made. -/
def Submission.Replaying (db : Database) : Submission → Prop
  | .requested request | .missed request _ | .stored request _ _ =>
    ∀ original, request.replayOfJobId = some original → request.Copies db original
  | .returned request id true => ∀ original, request.replayOfJobId = some original → Linked db original id
  | _ => True

structure ReplayLedger (hub : Hub) : Prop where
  codes : (hub.db.suppliers.map Supplier.code).Nodup
  calls : ∀ (call : Nat) (x : Submission), hub.submissions[call]? = some x → x.Replaying hub.db
  selfless : ∀ id job, hub.db.job id = some job → job.replayOfJobId ≠ some id

section
variable {env : Env} {hub next : Hub} {l : Label} {db after : Database} {original id : Id}
    {request : SubmitRequest} {job row : ImportJob}

/-! ### What does not change -/

/-- Every row has a later row of the same submission. -/
def Carries (db after : Database) : Prop :=
  after.suppliers = db.suppliers ∧
    ∀ id job, db.job id = some job → ∃ row, after.job id = some row ∧ SameSubmission job row

theorem step_carries (ledger : Ledger hub.db) (h : Hub.step env hub l = some next) : Carries hub.db next.db := by
  refine ⟨effect_suppliers ledger (step_effect h), fun id job present => ?_⟩
  obtain ⟨row, updated, change⟩ := effect_job ledger (step_effect h) present
  exact ⟨row, updated, change.submission⟩

theorem Linked.mono (linked : Linked db original id) (carries : Carries db after) : Linked after original id := by
  obtain ⟨other, job, replayed, present, known, replays, content, source, supplier⟩ := linked
  obtain ⟨row, found, mine⟩ := carries.2 id job present
  obtain ⟨row', found', its⟩ := carries.2 original replayed known
  refine ⟨other, row, row', found, found', mine.replayOfJobId.trans replays, ?_, ?_, ?_⟩
  · rw [mine.contentSha256, its.contentSha256, content]
  · rw [mine.sourceType, its.sourceType, source]
  · rw [mine.supplierId, its.supplierId, supplier]

theorem SubmitRequest.Copies.mono (copies : request.Copies db original) (carries : Carries db after) :
    request.Copies after original := by
  obtain ⟨replayed, supplier, known, mine, code, source, content⟩ := copies
  obtain ⟨row, found, its⟩ := carries.2 original replayed known
  refine ⟨row, supplier, found, ?_, code, source.trans its.sourceType.symm, content.trans its.contentSha256.symm⟩
  rw [its.supplierId, carries.1]
  exact mine

theorem Submission.Replaying.mono {x : Submission} (replaying : x.Replaying db) (carries : Carries db after) :
    x.Replaying after := by
  cases x with
  | requested | missed | stored => exact fun original replays => (replaying original replays).mono carries
  | returned request id created =>
    cases created with
    | true => exact fun original replays => (replaying original replays).mono carries
    | false => trivial
  | _ => trivial

/-! ### Where a replay's request leads -/

theorem replay_copies {objects : ObjectStore} {available : Bool} {key : String}
    (h : replayFailedImport env db objects available id key = .ok request)
    (replays : request.replayOfJobId = some original) : request.Copies db original := by
  unfold replayFailedImport at h
  split at h
  · contradiction
  · rename_i replayed present
    split at h
    · contradiction
    · split at h
      · contradiction
      · split at h
        · split at h <;> contradiction
        · split at h
          · contradiction
          · rename_i supplier mine
            obtain rfl := Except.ok.inj h
            obtain rfl := Option.some.inj replays
            rw [job_id present]
            exact ⟨replayed, supplier, present, mine, rfl, rfl, rfl⟩

/-- Under distinct codes the lookup finds the supplier the request was copied for. -/
theorem copies_key (codes : (db.suppliers.map Supplier.code).Nodup) (copies : request.Copies db original) :
    ∃ replayed, db.job original = some replayed ∧ request.contentSha256 = replayed.contentSha256 ∧
      request.sourceType = replayed.sourceType ∧
      submissionKey db request = some (replayed.supplierId, request.sourceType, some request.idempotencyKey) := by
  obtain ⟨replayed, supplier, known, mine, code, source, content⟩ := copies
  refine ⟨replayed, known, content, source, ?_⟩
  have found : Table.lookup Supplier.code supplier.code db.suppliers = some supplier :=
    Table.lookup_of_mem codes (Table.lookup_mem mine)
  have owner : supplier.id = replayed.supplierId := Table.lookup_key mine
  rw [submissionKey, code, ← owner]
  exact congrArg (Option.map _) found

/-! ### Every run -/

section
variable (replaying : ReplayLedger hub) (ledger : Ledger hub.db) (submitted : SubmissionLedger hub)
  (h : Hub.step env hub l = some next)

include replaying ledger submitted h

/-- The insert of a replay makes a job linked to the original. -/
theorem created_linked (absent : hub.db.job id = none) (present : next.db.job id = some job)
    (replays : job.replayOfJobId = some original) : Linked next.db original id := by
  obtain ⟨call, now, request, supplierId, objectKey, rfl, stored, -, rfl⟩ := created_job ledger h absent present
  have copies := replaying.calls call _ stored original replays
  obtain ⟨replayed, known, content, source, mine⟩ := copies_key replaying.codes copies
  have owner : supplierId = replayed.supplierId := by
    have sound : submissionKey hub.db request = some (supplierId, _, _) := submitted.sound call _ stored
    rw [mine] at sound
    exact (congrArg Prod.fst (Option.some.inj sound)).symm
  obtain ⟨row, found, its⟩ := (step_carries ledger h).2 original replayed known
  refine ⟨?_, _, row, present, found, replays, content.trans its.contentSha256.symm,
    source.trans its.sourceType.symm, owner.trans its.supplierId.symm⟩
  rintro rfl
  rw [absent] at known
  contradiction

theorem selfless_step (found : next.db.job id = some row) : row.replayOfJobId ≠ some id := by
  cases before : hub.db.job id with
  | some job =>
    obtain ⟨row', updated, change⟩ := effect_job ledger (step_effect h) before
    obtain rfl := Option.some.inj (found.symm.trans updated)
    rw [change.submission.replayOfJobId]
    exact replaying.selfless id job before
  | none =>
    intro itself
    exact (created_linked replaying ledger submitted h before found itself).other rfl

theorem replays_step (met : Plain hub l) {call : Nat} {x : Submission}
    (found : next.submissions[call]? = some x) : x.Replaying next.db := by
  have carries := step_carries ledger h
  cases step_slot h found with
  | kept present => exact (replaying.calls call x present).mono carries
  | submitted request =>
    intro original replays
    rw [met request rfl] at replays
    contradiction
  | replayed copied => exact fun original replays => (replay_copies copied replays).mono carries
  | @looked request present =>
    have copies := (replaying.calls call _ present).mono carries
    rcases submitLookup_cases hub.db request with ⟨-, error, same⟩ | ⟨supplierId, -, same⟩ |
      ⟨existing, -, -, ⟨-, message, same⟩ | ⟨-, same⟩⟩
    · rw [same]; trivial
    · rw [same]; exact copies
    · rw [same]; trivial
    · rw [same]; trivial
  | stored present => exact (replaying.calls call _ present).mono carries
  | inserted present fresh made =>
    exact fun original replays => created_linked replaying ledger submitted h fresh made replays
  | refused | unanswered | uninserted => trivial

end

theorem replay_run {start : Hub} (begins : Hub.Initial start) (run : Hub.Run env Plain start hub) :
    ReplayLedger hub := by
  apply run.invariant_reachable (P := ReplayLedger) ?_ (.start begins)
  · refine ⟨begins.suppliers, ?_, ?_⟩
    · intro call x present
      rw [begins.submissions] at present
      contradiction
    · intro id job present
      rw [Database.job, begins.jobs] at present
      contradiction
  · intro hub l next reached replaying met h
    have ledger := reachable_ledger reached
    have submitted := reachable_submissions reached
    refine ⟨?_, fun call x => replays_step replaying ledger submitted h met,
      fun id job => selfless_step replaying ledger submitted h⟩
    rw [effect_suppliers ledger (step_effect h)]
    exact replaying.codes

/-! ### From the lookup on -/

/-- What a call can still become whose lookup found no job: it returns none but the one it inserts. -/
def Submission.Makes (request : SubmitRequest) : Submission → Prop
  | .missed r _ | .stored r _ _ | .returned r _ true => r = request
  | .raised _ _ => True
  | _ => False

/-- What a call keeps from step to step, it keeps. -/
theorem slot_run {P : Submission → Prop} {guard : Hub → Label → Prop} {call : Nat} {x y : Submission}
    (keeps : ∀ s l t x y, s.submissions[call]? = some x → P x → SlotChange env s t call l y → P y)
    (present : hub.submissions[call]? = some x) (start : P x) (run : Hub.Run env guard hub next)
    (found : next.submissions[call]? = some y) : P y := by
  have some_call : ∃ y, next.submissions[call]? = some y ∧ P y := by
    refine run.invariant (P := fun s => ∃ y, s.submissions[call]? = some y ∧ P y) ?_ ⟨x, present, start⟩
    rintro s l t ⟨x, present, holds⟩ - h
    have inside := ((List.getElem?_eq_some_iff.mp present).1).trans_le (calls_remain h)
    have after := List.getElem?_eq_getElem inside
    exact ⟨_, after, keeps s l t x _ present holds (step_slot h after)⟩
  obtain ⟨z, same, holds⟩ := some_call
  obtain rfl := Option.some.inj (same.symm.trans found)
  exact holds

theorem makes_keeps {call : Nat} (s : Hub) (l : Label) (t : Hub) (x y : Submission)
    (present : s.submissions[call]? = some x) (makes : x.Makes request) (change : SlotChange env s t call l y) :
    y.Makes request := by
  cases change with
  | kept same =>
    obtain rfl := Option.some.inj (present.symm.trans same)
    exact makes
  | submitted _ new | replayed _ new | refused _ new =>
    rw [new] at present
    contradiction
  | looked before =>
    obtain rfl := Option.some.inj (present.symm.trans before)
    exact makes.elim
  | stored before | inserted before =>
    obtain rfl := Option.some.inj (present.symm.trans before)
    exact makes
  | unanswered | uninserted => trivial

theorem returned_keeps {created : Bool} {call : Nat} (s : Hub) (l : Label) (t : Hub) (x y : Submission)
    (present : s.submissions[call]? = some x) (same : x = .returned request id created)
    (change : SlotChange env s t call l y) : y = .returned request id created := by
  subst same
  cases change with
  | kept same => exact Option.some.inj (same.symm.trans present)
  | submitted _ new | replayed _ new | refused _ new =>
    rw [new] at present
    contradiction
  | looked before | stored before | unanswered before | uninserted before | inserted before =>
    cases present.symm.trans before

/-- The idempotency lookup finds no job with the content of the replayed one, or one that replays it. -/
def KeyFree (db : Database) (request : SubmitRequest) (original : Id) : Prop :=
  ∀ existing ∈ db.jobs, submissionKey db request = some existing.idempotency →
    existing.contentSha256 = request.contentSha256 → existing.replayOfJobId = some original

instance (db : Database) (request : SubmitRequest) (original : Id) : Decidable (KeyFree db request original) :=
  inferInstanceAs (Decidable (∀ existing ∈ db.jobs, submissionKey db request = some existing.idempotency →
    existing.contentSha256 = request.contentSha256 → existing.replayOfJobId = some original))

theorem submitLookup_missed {supplierId : Id} (missed : submitLookup db request = .missed request supplierId) :
    ∀ row ∈ db.jobs, submissionKey db request ≠ some row.idempotency := by
  intro row member same
  unfold submitLookup at missed
  split at missed
  · contradiction
  · rename_i supplier configured
    split at missed
    · rename_i absent
      rw [submissionKey, configured] at same
      have key := Option.some.inj same
      simpa [key.symm] using List.find?_eq_none.mp absent row member
    · split at missed <;> contradiction

theorem lookup_returns (submitted : SubmissionLedger hub) (ledger : Ledger hub.db) {existing : ImportJob}
    (member : existing ∈ hub.db.jobs) (same : submissionKey hub.db request = some existing.idempotency)
    (content : existing.contentSha256 = request.contentSha256) :
    submitLookup hub.db request = .returned request existing.id false := by
  -- the key is unique: whatever the lookup finds is this job
  have only {found : ImportJob} (member' : found ∈ hub.db.jobs)
      (same' : submissionKey hub.db request = some found.idempotency) : found = existing := by
    have key : found.idempotency = existing.idempotency := Option.some.inj (same'.symm.trans same)
    have known : hub.db.identity found.id = some (existing.idempotency, found.contentSha256) := by
      rw [← key]
      exact identity_of_mem ledger member'
    have equal : found.id = existing.id :=
      submitted.unique _ _ _ _ _ known (identity_of_mem ledger member)
    have row : hub.db.job found.id = some found := Table.lookup_of_mem ledger.ids member'
    have row' : hub.db.job existing.id = some existing := Table.lookup_of_mem ledger.ids member
    rw [equal, row'] at row
    exact (Option.some.inj row).symm
  rcases submitLookup_cases hub.db request with ⟨none, -⟩ | ⟨supplierId, -, missed⟩ |
    ⟨found, member', same', ⟨different, -⟩ | ⟨-, returns⟩⟩
  · rw [none] at same
    contradiction
  · exact absurd same (submitLookup_missed missed existing member)
  · obtain rfl := only member' same'
    exact absurd content different
  · obtain rfl := only member' same'
    exact returns

theorem linked_run {guard : Hub → Label → Prop} (reached : Hub.Reachable env hub)
    (run : Hub.Run env guard hub next) (linked : Linked hub.db original id) : Linked next.db original id := by
  apply run.invariant_reachable (P := fun hub => Linked hub.db original id) ?_ reached linked
  intro s l t reached linked _ h
  exact linked.mono (step_carries (reachable_ledger reached) h)

theorem found_linked (replaying : ReplayLedger hub) (ledger : Ledger hub.db) {call : Nat}
    (asked : hub.submissions[call]? = some (.requested request)) (replays : request.replayOfJobId = some original)
    (free : KeyFree hub.db request original) {existing : ImportJob} (member : existing ∈ hub.db.jobs)
    (same : submissionKey hub.db request = some existing.idempotency)
    (content : existing.contentSha256 = request.contentSha256) : Linked hub.db original existing.id := by
  have row : hub.db.job existing.id = some existing := Table.lookup_of_mem ledger.ids member
  obtain ⟨replayed, known, content', source, key⟩ :=
    copies_key replaying.codes (replaying.calls call _ asked original replays)
  have identified : existing.idempotency = (replayed.supplierId, request.sourceType, some request.idempotencyKey) :=
    Option.some.inj (same.symm.trans key)
  have links := free existing member same content
  refine ⟨?_, existing, replayed, row, known, links, content.trans content', ?_, congrArg Prod.fst identified⟩
  · rintro rfl
    exact replaying.selfless _ existing row links
  · exact (congrArg (fun k => k.2.1) identified).trans source

/-- A replay that returns a job returns one that is linked to the original, unless its key already held a
job of the same content that is not a replay of the original. -/
theorem replay_is_linked {start : Hub} {call : Nat} (begins : Hub.Initial start)
    (run : Hub.Run env Plain start hub) (asked : hub.submissions[call]? = some (.requested request))
    (replays : request.replayOfJobId = some original) (h : Hub.step env hub (.lookup call) = some next) :
    (∀ later r id created, Hub.Run env Plain next later →
      later.submissions[call]? = some (.returned r id created) → Linked later.db original id) ↔
      KeyFree hub.db request original := by
  have reached : Hub.Reachable env hub := ⟨start, begins, run.free⟩
  have ledger := reachable_ledger reached
  have submitted := reachable_submissions reached
  have looked : next.db = hub.db ∧ next.submissions[call]? = some (submitLookup hub.db request) := by
    simp only [Hub.step, Hub.lookup, asked, Option.some.injEq] at h
    subst h
    exact ⟨rfl, Pool.set_present asked⟩
  obtain ⟨still, slot⟩ := looked
  constructor
  · intro law existing member same content
    rw [lookup_returns submitted ledger member same content] at slot
    obtain ⟨-, job, -, found, -, links, -⟩ := law next request existing.id false (.refl next) slot
    have row : hub.db.job existing.id = some existing := Table.lookup_of_mem ledger.ids member
    rw [still, row] at found
    rw [Option.some.inj found]
    exact links
  · intro free later r id created after returned
    have made (makes : (submitLookup hub.db request).Makes request) : Linked later.db original id := by
      have makes' := slot_run makes_keeps slot makes after returned
      cases created with
      | true =>
        obtain rfl : r = request := makes'
        have met : Plain hub (.lookup call) := by
          intro _ other
          contradiction
        have replaying := replay_run begins ((run.tail met h).trans after)
        exact replaying.calls call _ returned original replays
      | false => exact makes'.elim
    rcases submitLookup_cases hub.db request with ⟨-, error, same⟩ | ⟨supplierId, -, same⟩ |
      ⟨existing, member, key, ⟨-, message, same⟩ | ⟨content, same⟩⟩
    · exact made (by rw [same]; trivial)
    · exact made (by rw [same]; rfl)
    · exact made (by rw [same]; trivial)
    · have final := slot_run returned_keeps slot same after returned
      obtain ⟨-, rfl, -⟩ := Submission.returned.inj final
      have linked := found_linked (replay_run begins run) ledger asked replays free member key content
      rw [← still] at linked
      exact linked_run (reached.step h) after linked

end

namespace Small

/-- A job that fails for good and is replayed under a key. -/
def replayedUnder (key : String) : List Label :=
  submitted ++ claimed 0 (moment 1) ++ [.raise 0 (permanentImportError "unreadable"), .report 0 (moment 2),
    .replay 1 key true]

theorem replayedUnder_plain (key : String) : ∀ l ∈ replayedUnder key, ∀ hub, Plain hub l := by
  rintro l member hub other rfl
  simp only [replayedUnder, submitted, claimed, List.mem_append, List.mem_cons, Label.submit.injEq, reduceCtorEq,
    List.not_mem_nil, or_false] at member
  rw [member]
  rfl

end Small

/-- The request of a call that is about to look up a replay of the job. -/
def Submission.replay? (original : Id) : Submission → Option SubmitRequest
  | .requested request => if request.replayOfJobId = some original then some request else none
  | _ => none

def Submission.returns (id : Id) : Submission → Bool
  | .returned _ jobId _ => jobId = id
  | _ => false

theorem Submission.replay_ok {x : Submission} {original : Id} {request : SubmitRequest}
    (h : x.replay? original = some request) : x = .requested request ∧ request.replayOfJobId = some original := by
  cases x with
  | requested asked =>
    simp only [Submission.replay?] at h
    split at h
    · obtain rfl := Option.some.inj h
      exact ⟨rfl, ‹_›⟩
    · contradiction
  | _ => contradiction

theorem Submission.returns_ok {x : Submission} {id : Id} (h : x.returns id = true) :
    ∃ request created, x = .returned request id created := by
  cases x with
  | returned request jobId created =>
    obtain rfl : jobId = id := of_decide_eq_true h
    exact ⟨request, created, rfl⟩
  | _ => contradiction

/-- Replayed under a key of its own. -/
theorem replay_is_linked_new : ∃ (hub next later : Hub) (request r : SubmitRequest) (created : Bool),
    Hub.Run Small.env Plain Small.hub hub ∧ hub.submissions[1]? = some (.requested request) ∧
    request.replayOfJobId = some 1 ∧ Hub.step Small.env hub (.lookup 1) = some next ∧
    later.submissions[1]? = some (.returned r 2 created) ∧ Linked later.db 1 2 := by
  have shown : (Machine.exec (Hub.step Small.env) Small.hub (Small.replayedUnder "key-2")).any (fun hub =>
      (hub.submissions[1]?).any (fun x => (x.replay? 1).any fun request => KeyFree hub.db request 1) &&
      (Hub.step Small.env hub (.lookup 1)).any fun next =>
        (Machine.exec (Hub.step Small.env) next [.put 1 .stored (Small.moment 3), .insert 1 2 (Small.moment 3)]).any
          fun later => (later.submissions[1]?).any fun x => x.returns 2) = true := by decide +kernel
  simp only [Option.any_eq_true, Bool.and_eq_true, decide_eq_true_eq] at shown
  obtain ⟨hub, steps, ⟨x, asked, request, replays, free⟩, next, step, later, after, y, made, returned⟩ := shown
  obtain ⟨rfl, original⟩ := Submission.replay_ok replays
  obtain ⟨r, created, rfl⟩ := Submission.returns_ok returned
  have run : Hub.Run Small.env Plain Small.hub hub :=
    Machine.exec_run (Small.replayedUnder_plain "key-2") steps
  have onward : Hub.Run Small.env Plain next later := by
    refine Machine.exec_run ?_ after
    rintro l member s other rfl
    simp at member
  have linked := (replay_is_linked Small.initial run asked original step).mpr free later r 2 created onward made
  exact ⟨hub, next, later, request, r, created, run, asked, original, step, made, linked⟩

/-- Replayed under the key it was submitted with, a failed job is returned as its own replay. -/
theorem replay_returns_original : ∃ (hub next : Hub) (request r : SubmitRequest) (created : Bool),
    Hub.Reachable Small.env hub ∧ hub.submissions[1]? = some (.requested request) ∧
    request.replayOfJobId = some 1 ∧ Hub.step Small.env hub (.lookup 1) = some next ∧
    next.submissions[1]? = some (.returned r 1 created) ∧ ¬Linked next.db 1 1 := by
  obtain ⟨hub, -, reached, shown⟩ := Small.reaches (Small.replayedUnder "key-1")
    (fun hub => (hub.submissions[1]?).any (fun x => (x.replay? 1).isSome) &&
      (Hub.step Small.env hub (.lookup 1)).any fun next => (next.submissions[1]?).any fun x => x.returns 1)
    (by decide +kernel)
  simp only [Option.any_eq_true, Bool.and_eq_true, Option.isSome_iff_exists] at shown
  obtain ⟨⟨x, asked, request, replays⟩, next, step, y, slot, returned⟩ := shown
  obtain ⟨rfl, original⟩ := Submission.replay_ok replays
  obtain ⟨r, created, rfl⟩ := Submission.returns_ok returned
  exact ⟨hub, next, request, r, created, reached, asked, original, step, slot, fun linked => linked.other rfl⟩

end SupplyChainHub
