import SupplyChainHub.Pipelines.RecentRuns

/-!
The runs of `airflow/dags/inventory_risk_pipeline.py`: check, transform, verify, each tried a second time when it
fails, one run at a time, beside executions made by hand. An attempt of transform is an execution that goes on writing
until it exits or is killed.
-/

namespace SupplyChainHub

/-- `verify_manifest` -/
def verifyManifest (objects : PipelineObjects) (partitionDate : CalendarDate) (runId : String) :
    Except Raised RunManifest :=
  let key := manifestKey partitionDate runId
  match objects.lookup key with
  | none => .error ⟨[], "An error occurred (NoSuchKey) when calling the GetObject operation: The specified key " ++
      "does not exist."⟩
  | some (.manifest manifest) =>
    if manifest.status ≠ "succeeded" then .error ⟨[], "Manifest '" ++ key ++ "' is not successful."⟩
    else if !manifest.curatedKeys.any (endsWith ".parquet") || !manifest.summaryKeys.any (endsWith ".parquet") then
      .error ⟨[], "Manifest '" ++ key ++ "' has no published Parquet objects."⟩
    else .ok manifest
  | some (.quality _) => .error ⟨[], "Manifest '" ++ key ++ "' is not successful."⟩
  | some (.raw _) | some .data => .error ⟨[], "Expecting value: line 1 column 1 (char 0)"⟩

/-! ### The DAG -/

inductive DagStage where
  | check
  | transform
  /-- An attempt goes on: which writer it is, and what it is going to return or raise. -/
  | transforming (execution : Nat) (outcome : Except Raised RunManifest)
  | verify (returned : RunManifest)

structure DagRun where
  partitionDate : CalendarDate
  runId : String
  stage : DagStage
  /-- `retries` is 1. -/
  retried : Bool

structure DagSuccess where
  partitionDate : CalendarDate
  runId : String
  /-- What transform returned. -/
  returned : RunManifest
  verified : RunManifest

structure Daily where
  archive : Archive
  /-- `max_active_runs` is 1. -/
  active : Option DagRun
  succeeded : List DagSuccess

inductive DailyLabel where
  | trigger (partitionDate : CalendarDate) (dated : partitionDate.Valid) (runId : String)
  /-- The next task is tried; `output` is what Spark would write. -/
  | attempt (output : SparkOutput)
  | exit
  /-- The timeout of the task ends its process. -/
  | kill
  | other (l : ArchiveLabel)

def DagRun.next (run : DagRun) (stage : DagStage) : DagRun := { run with stage, retried := false }

/-- The task is tried again, or the run has failed. -/
def DagRun.failed (run : DagRun) (stage : DagStage) : Option DagRun :=
  if run.retried then none else some { run with stage, retried := true }

namespace Daily

def attempt (spark : Spark) (s : Daily) (run : DagRun) (output : SparkOutput) : Option Daily :=
  match run.stage with
  | .check =>
    match checkSource s.archive.objects run.partitionDate with
    | .ok _ => some { s with active := some (run.next .transform) }
    | .error _ => some { s with active := run.failed .check }
  | .transform =>
    let execution := runPipeline spark run.partitionDate run.runId output s.archive.objects
    some { s with
      archive := { s.archive with running := s.archive.running ++ [execution.writes] }
      active := some { run with stage := .transforming s.archive.running.length execution.outcome } }
  | .transforming _ _ => none
  | .verify returned =>
    match verifyManifest s.archive.objects run.partitionDate run.runId with
    | .ok verified => some { s with
        active := none
        succeeded := s.succeeded ++ [⟨run.partitionDate, run.runId, returned, verified⟩] }
    | .error _ => some { s with active := run.failed (.verify returned) }

/-- The attempt has made all its writes. -/
def exit (s : Daily) (run : DagRun) : Option Daily :=
  match run.stage with
  | .transforming execution outcome =>
    if s.archive.running[execution]? = some [] then
      match outcome with
      | .ok returned => some { s with active := some (run.next (.verify returned)) }
      | .error _ => some { s with active := run.failed .transform }
    else none
  | _ => none

/-- The attempt makes no other write. -/
def kill (s : Daily) (run : DagRun) : Option Daily :=
  match run.stage with
  | .transforming execution _ => some { s with
      archive := { s.archive with running := s.archive.running.set execution [] }
      active := run.failed .transform }
  | _ => none

def step (spark : Spark) (s : Daily) : DailyLabel → Option Daily
  | .trigger partitionDate _ runId =>
    if s.active.isSome then none else some { s with active := some ⟨partitionDate, runId, .check, false⟩ }
  | .attempt output => s.active.bind fun run => attempt spark s run output
  | .exit => s.active.bind (exit s)
  | .kill => s.active.bind (kill s)
  | .other l => (Archive.step spark s.archive l).map fun archive => { s with archive }

end Daily

/-- Nobody executes a run by hand under the keys of the one that the DAG makes at the time. -/
def Undisputed (s : Daily) : DailyLabel → Prop
  | .trigger partitionDate _ runId => Writers.Free s.archive (manifestKey partitionDate runId)
  | .other (.execute partitionDate _ runId _) => ∀ run ∈ s.active,
      manifestKey run.partitionDate run.runId ≠ manifestKey partitionDate runId
  | _ => True

/-- A manifest of an execution whose frame passed the gates. -/
def Made (spark : Spark) (partitionDate : CalendarDate) (runId : String) (m : RunManifest) : Prop :=
  ∃ objects output sourceKeys frame, receive spark partitionDate objects = .ok (sourceKeys, frame) ∧
    (qualityReport partitionDate runId frame).passed = true ∧
    m = runManifest partitionDate runId output sourceKeys frame (transform spark.approxQuantile frame)

def DagRun.key (run : DagRun) : String := manifestKey run.partitionDate run.runId

/-- What is known of the key of a run at each of its stages. -/
def DagRun.Holds (spark : Spark) (archive : Archive) (run : DagRun) : Prop :=
  match run.stage with
  | .check | .transform | .transforming _ (.error _) => Writers.Free archive run.key
  | .transforming execution (.ok m) =>
    Writers.Owner archive execution run.key (.manifest m) ∧ Made spark run.partitionDate run.runId m
  | .verify m => Writers.Free archive run.key ∧ archive.objects.lookup run.key = some (.manifest m) ∧
      Made spark run.partitionDate run.runId m

def HasParquet (keys : List String) : Prop := ∃ key ∈ keys, endsWith ".parquet" key = true

structure Daily.Sound (spark : Spark) (s : Daily) : Prop where
  archive : pipelineScheme.Sound s.archive
  active : ∀ run ∈ s.active, run.partitionDate.Valid ∧ run.Holds spark s.archive
  succeeded : ∀ done ∈ s.succeeded, done.verified = done.returned ∧
    Made spark done.partitionDate done.runId done.returned ∧
    HasParquet done.returned.curatedKeys ∧ HasParquet done.returned.summaryKeys ∧
    pipelineScheme.Fits (· ∈ s.archive.objects) (manifestKey done.partitionDate done.runId) (.manifest done.returned)

section
variable {spark : Spark} {partitionDate d : CalendarDate} {runId other key : String} {output : SparkOutput}
  {objects : PipelineObjects} {m : RunManifest} {archive archive' : Archive} {run : DagRun} {s t : Daily}

/-! ### Verification -/

theorem verifyManifest_ok (verified : verifyManifest objects partitionDate runId = .ok m) :
    objects.lookup (manifestKey partitionDate runId) = some (.manifest m) ∧ HasParquet m.curatedKeys ∧
      HasParquet m.summaryKeys := by
  unfold verifyManifest at verified
  dsimp only at verified
  split at verified
  · cases verified
  · rename_i manifest found
    split at verified
    · cases verified
    · split at verified
      · cases verified
      · rename_i published
        obtain rfl := Except.ok.inj verified
        rw [Bool.or_eq_true, Bool.not_eq_true', Bool.not_eq_true', not_or, Bool.not_eq_false, Bool.not_eq_false,
          List.any_eq_true, List.any_eq_true] at published
        exact ⟨found, published⟩
  · cases verified
  · cases verified
  · cases verified

/-! ### Executions -/

theorem manifestKey_ne_latest : manifestKey partitionDate runId ≠ latestKey d := by
  intro same
  have own : isRunManifest (manifestKey partitionDate runId) = true := manifestKey_isRunManifest
  rw [same, latestKey_not_run] at own
  cases own

/-- No other run writes the manifest of this one. -/
theorem execution_spares (apart : manifestKey partitionDate runId ≠ manifestKey d other) :
    manifestKey partitionDate runId ∉ (runPipeline spark d other output objects).writes.map Prod.fst := by
  intro member
  let writes := (runPipeline spark d other output objects).writes
  have wrote : Wrote spark d other output objects writes.length (writes.take writes.length) := runPipeline_writes
  rw [List.take_length] at wrote
  obtain ⟨folder, touched⟩ := wrote.touched member
  obtain rfl := folder_unique touched.inFolder manifestKey_folder
  cases touched with
  | manifest same => exact apart same
  | latest same => exact manifestKey_ne_latest same

theorem execution_failed {e : Raised}
    (raised : (runPipeline spark partitionDate runId output objects).outcome = .error e) :
    manifestKey partitionDate runId ∉
      (runPipeline spark partitionDate runId output objects).writes.map Prod.fst := by
  unfold runPipeline at raised ⊢
  split at raised
  · simp
  · rename_i sourceKeys frame received
    dsimp only at raised ⊢
    split at raised
    · simp only [List.map_cons, List.map_nil, List.mem_singleton]
      intro same
      have place : InFolder .manifests (manifestKey partitionDate runId) := manifestKey_folder
      exact absurd (folder_unique place (same ▸ qualityKey_folder)) (by decide)
    · cases raised

theorem execution_returned
    (returned : (runPipeline spark partitionDate runId output objects).outcome = .ok m) :
    Writers.Ends (runPipeline spark partitionDate runId output objects).writes (manifestKey partitionDate runId)
      (.manifest m) ∧ Made spark partitionDate runId m := by
  unfold runPipeline at returned ⊢
  split at returned
  · cases returned
  · rename_i sourceKeys frame received
    dsimp only at returned ⊢
    cases gates : (qualityReport partitionDate runId frame).passed with
    | false =>
      simp [curate, gates] at returned
    | true =>
      rw [curate_passed gates] at returned ⊢
      obtain rfl := Except.ok.inj returned
      let manifest := runManifest partitionDate runId output sourceKeys frame (transform spark.approxQuantile frame)
      refine ⟨⟨(qualityKey partitionDate runId, .quality (qualityReport partitionDate runId frame)) ::
        (manifest.curatedKeys ++ manifest.summaryKeys).map (·, .data), [(latestKey partitionDate, .manifest manifest)],
        rfl, ?_⟩, objects, output, sourceKeys, frame, received, gates, rfl⟩
      rw [List.map_singleton, List.mem_singleton]
      exact manifestKey_latest

/-! ### What a step does to the run that goes on -/

/-- Other activity does not touch the key of the run. -/
theorem spared {l : ArchiveLabel} (undisputed : Undisputed s (.other l)) (active : run ∈ s.active) :
    (l.writers spark s.archive.objects).Spares run.key := by
  have raw (d : CalendarDate) (name : String) : run.key ≠ sourcePrefix d ++ name := by
    intro same
    have place : InFolder .manifests run.key := manifestKey_folder
    exact absurd (folder_unique place (same ▸ sourcePrefix_folder name)) (by decide)
  cases l with
  | put partitionDate name content => exact raw partitionDate name
  | remove partitionDate name => exact raw partitionDate name
  | execute partitionDate dated runId output => exact execution_spares (undisputed run active)
  | write execution => trivial

theorem holds_other {l : ArchiveLabel} (undisputed : Undisputed s (.other l)) (active : run ∈ s.active)
    (holds : run.Holds spark s.archive) (next : Archive.step spark s.archive l = some archive') :
    run.Holds spark archive' := by
  have spares : (l.writers spark s.archive.objects).Spares run.key := spared undisputed active
  unfold DagRun.Holds at holds ⊢
  split at holds
  · exact (holds.step spares next).1
  · exact (holds.step spares next).1
  · exact (holds.step spares next).1
  · exact ⟨holds.1.step spares next, holds.2⟩
  · obtain ⟨free, there, made⟩ := holds
    obtain ⟨later, same⟩ := free.step spares next
    exact ⟨later, same.trans there, made⟩

/-! ### Every run of the DAG -/

theorem Daily.Sound.withActive (sound : s.Sound spark) {active : Option DagRun}
    (holds : ∀ run ∈ active, run.partitionDate.Valid ∧ run.Holds spark s.archive) :
    Daily.Sound spark { s with active } :=
  ⟨sound.archive, holds, sound.succeeded⟩

/-- Whatever becomes of the archive, what is recorded as succeeded is still there. -/
theorem Daily.Sound.withArchive (sound : s.Sound spark) {archive : Archive} {active : Option DagRun}
    (stored : pipelineScheme.Sound archive)
    (keeps : ∀ key, pipelineScheme.lasting key → key ∈ s.archive.objects → key ∈ archive.objects)
    (holds : ∀ run ∈ active, run.partitionDate.Valid ∧ run.Holds spark archive) :
    Daily.Sound spark { s with archive, active } := by
  refine ⟨stored, holds, fun done member => ?_⟩
  obtain ⟨same, made, curated, summary, fits⟩ := sound.succeeded done member
  exact ⟨same, made, curated, summary, fits.mono keeps⟩

/-- A task that failed is the run's next one again, if it is tried again. -/
theorem failed_holds {stage : DagStage} (valid : run.partitionDate.Valid)
    (holds : DagRun.Holds spark archive { run with stage, retried := true }) :
    ∀ again ∈ run.failed stage, again.partitionDate.Valid ∧ again.Holds spark archive := by
  intro again member
  unfold DagRun.failed at member
  split at member
  · cases member
  · obtain rfl := Option.some.inj member
    exact ⟨valid, holds⟩

theorem transform_sound (sound : s.Sound spark) (valid : run.partitionDate.Valid) (free : Writers.Free s.archive run.key)
    (output : SparkOutput) :
    let execution := runPipeline spark run.partitionDate run.runId output s.archive.objects
    Daily.Sound spark { s with
      archive := { s.archive with running := s.archive.running ++ [execution.writes] }
      active := some { run with stage := .transforming s.archive.running.length execution.outcome } } := by
  intro execution
  let l : ArchiveLabel := .execute run.partitionDate valid run.runId output
  have next : Archive.step spark s.archive l = some { s.archive with running := s.archive.running ++
      [(runPipeline spark run.partitionDate run.runId output s.archive.objects).writes] } := rfl
  have permits : pipelineScheme.Permits s.archive (l.writers spark s.archive.objects) := permitted s.archive l
  refine sound.withArchive (Writers.step_sound sound.archive permits next)
    (fun key lasts present => Writers.step_keeps permits next lasts present) fun started member => ?_
  obtain rfl := Option.some.inj member
  refine ⟨valid, ?_⟩
  unfold DagRun.Holds
  cases outcome : (runPipeline spark run.partitionDate run.runId output s.archive.objects).outcome with
  | error e => exact (free.step (l := l.writers spark s.archive.objects) (execution_failed outcome) next).1
  | ok m =>
    obtain ⟨ends, made⟩ := execution_returned outcome
    exact ⟨free.owner ends, made⟩

theorem attempt_sound (sound : s.Sound spark) (active : run ∈ s.active) (next : s.attempt spark run output = some t) :
    t.Sound spark := by
  obtain ⟨valid, holds⟩ := sound.active run active
  unfold Daily.attempt at next
  unfold DagRun.Holds at holds
  split at next
  · rename_i stage
    rw [stage] at holds
    split at next
    · obtain rfl := Option.some.inj next
      refine sound.withActive fun again member => ?_
      obtain rfl := Option.some.inj member
      exact ⟨valid, holds⟩
    · obtain rfl := Option.some.inj next
      exact sound.withActive (failed_holds valid holds)
  · rename_i stage
    rw [stage] at holds
    obtain rfl := Option.some.inj next
    exact transform_sound sound valid holds output
  · cases next
  · rename_i returned stage
    rw [stage] at holds
    obtain ⟨free, there, made⟩ := holds
    split at next
    · rename_i verified accepted
      obtain rfl := Option.some.inj next
      obtain ⟨found, curated, summary⟩ := verifyManifest_ok accepted
      obtain rfl : returned = verified := PipelineObject.manifest.inj (Option.some.inj (there.symm.trans found))
      refine ⟨sound.archive, nofun, List.forall_mem_append.mpr ⟨sound.succeeded, List.forall_mem_singleton.mpr ?_⟩⟩
      exact ⟨rfl, made, curated, summary, sound.archive.stored _ _ found⟩
    · obtain rfl := Option.some.inj next
      exact sound.withActive (failed_holds valid ⟨free, there, made⟩)

theorem exit_sound (sound : s.Sound spark) (active : run ∈ s.active) (next : s.exit run = some t) : t.Sound spark := by
  obtain ⟨valid, holds⟩ := sound.active run active
  unfold Daily.exit at next
  unfold DagRun.Holds at holds
  split at next
  · rename_i execution outcome stage
    rw [stage] at holds
    split at next
    · rename_i finished
      split at next
      · obtain rfl := Option.some.inj next
        obtain ⟨owner, made⟩ := holds
        obtain ⟨free, there⟩ := owner.done finished
        refine sound.withActive fun again member => ?_
        obtain rfl := Option.some.inj member
        exact ⟨valid, free, there, made⟩
      · obtain rfl := Option.some.inj next
        exact sound.withActive (failed_holds valid holds)
    · cases next
  · cases next

theorem kill_sound (sound : s.Sound spark) (active : run ∈ s.active) (next : s.kill run = some t) : t.Sound spark := by
  obtain ⟨valid, holds⟩ := sound.active run active
  unfold Daily.kill at next
  unfold DagRun.Holds at holds
  split at next
  · rename_i execution outcome stage
    rw [stage] at holds
    obtain rfl := Option.some.inj next
    refine sound.withArchive (sound.archive.stopped execution) (fun _ _ present => present) (failed_holds valid ?_)
    cases outcome with
    | error e => exact Writers.Free.stopped holds execution
    | ok m => exact holds.1.stopped
  · cases next

theorem Daily.step_sound {l : DailyLabel} (sound : s.Sound spark) (undisputed : Undisputed s l)
    (next : s.step spark l = some t) : t.Sound spark := by
  cases l with
  | trigger partitionDate dated runId =>
    rw [Daily.step] at next
    split at next
    · cases next
    · obtain rfl := Option.some.inj next
      refine sound.withActive fun started member => ?_
      obtain rfl := Option.some.inj member
      exact ⟨dated, undisputed⟩
  | attempt output =>
    obtain ⟨run, active, attempted⟩ := Option.bind_eq_some_iff.mp next
    exact attempt_sound sound active attempted
  | exit =>
    obtain ⟨run, active, exited⟩ := Option.bind_eq_some_iff.mp next
    exact exit_sound sound active exited
  | kill =>
    obtain ⟨run, active, killed⟩ := Option.bind_eq_some_iff.mp next
    exact kill_sound sound active killed
  | other l =>
    obtain ⟨archive, moved, rfl⟩ := Option.map_eq_some_iff.mp next
    refine sound.withArchive (Writers.step_sound sound.archive (permitted s.archive l) moved)
      (fun key lasts present => Writers.step_keeps (permitted s.archive l) moved lasts present) fun run active => ?_
    obtain ⟨valid, holds⟩ := sound.active run active
    exact ⟨valid, holds_other undisputed active holds moved⟩

/-- A run of the DAG only succeeds on what its own transform has published: the manifest that is verified is the one
that transform returned, of a frame that passed the gates, it lists Parquet files of both kinds, and all that it lists
is there, then and ever after. -/
theorem daily_runs_verified {done : DagSuccess}
    (run : Machine.Run (Daily.step spark) Undisputed ⟨⟨∅, []⟩, none, []⟩ s) (succeeded : done ∈ s.succeeded) :
    done.verified = done.returned ∧ Made spark done.partitionDate done.runId done.returned ∧
      HasParquet done.returned.curatedKeys ∧ HasParquet done.returned.summaryKeys ∧
      done.returned.Complete s.archive.objects := by
  have empty : Daily.Sound spark ⟨⟨∅, []⟩, none, []⟩ :=
    ⟨pipelineScheme.empty_sound, nofun, List.forall_mem_nil _⟩
  have sound := run.invariant (P := Daily.Sound spark)
    (fun _ _ _ sound undisputed next => Daily.step_sound sound undisputed next) empty
  obtain ⟨same, made, curated, summary, fits⟩ := sound.succeeded done succeeded
  exact ⟨same, made, curated, summary, complete_of_fits sound.archive fits⟩

end

namespace Small

/-- The first attempt of transform is killed after a write, and the second goes through. -/
def nightly : List DailyLabel :=
  [.other (.put day "inventory.csv" csv), .trigger day day_valid "scheduled", .attempt (sparkOutput "a"),
    .other (.execute day day_valid "manual" (sparkOutput "b")), .attempt (sparkOutput "a"), .other (.write 0),
    .other (.write 1), .kill, .attempt (sparkOutput "c")] ++ List.replicate 7 (.other (.write 2)) ++
  [.exit, .attempt (sparkOutput "a")]

def undisputed (s : Daily) : DailyLabel → Bool
  | .trigger partitionDate _ runId =>
    s.archive.running.all fun writes => decide (manifestKey partitionDate runId ∉ writes.map Prod.fst)
  | .other (.execute partitionDate _ runId _) =>
    s.active.all fun run => decide (manifestKey run.partitionDate run.runId ≠ manifestKey partitionDate runId)
  | _ => true

theorem undisputed_sound (s : Daily) (l : DailyLabel) (checked : undisputed s l = true) : Undisputed s l := by
  cases l with
  | trigger partitionDate dated runId =>
    intro writes member
    exact of_decide_eq_true (List.all_eq_true.mp checked writes member)
  | attempt | exit | kill => trivial
  | other l =>
    cases l with
    | put | remove | write => trivial
    | execute partitionDate dated runId output =>
      intro run active
      have apart := (Option.all_eq_true _ _).mp checked run active
      exact of_decide_eq_true apart

end Small

theorem daily_runs_verified_nightly : ∃ (s : Daily) (done : DagSuccess), done ∈ s.succeeded ∧
    done.verified = done.returned ∧ done.returned.Complete s.archive.objects := by
  have shown : (Machine.exec (Machine.checked (Daily.step Small.spark) Small.undisputed) ⟨⟨∅, []⟩, none, []⟩
      Small.nightly).any (fun s => decide (0 < s.succeeded.length)) = true := by decide +kernel
  obtain ⟨s, steps, shown⟩ := (Option.any_eq_true _ _).mp shown
  obtain ⟨done, succeeded⟩ := List.exists_mem_of_length_pos (of_decide_eq_true shown)
  obtain ⟨same, -, -, -, complete⟩ :=
    daily_runs_verified (Machine.exec_run_checked Small.undisputed_sound steps) succeeded
  exact ⟨s, done, succeeded, same, complete⟩

end SupplyChainHub
