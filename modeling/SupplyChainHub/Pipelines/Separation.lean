import SupplyChainHub.Pipelines.Publishing

/-!
Two runs of one partition date. Their keys are kept apart by the rewritten ids alone, so that ids which are not
told apart share all of them, the manifest's included.
-/

namespace SupplyChainHub

/-- The keys and prefixes of a run. -/
def runKeys (partitionDate : CalendarDate) (runId : String) : List String :=
  [manifestKey partitionDate runId, qualityKey partitionDate runId, curatedPrefix partitionDate runId,
    summaryPrefix partitionDate runId]

/-- Steps that execute no other run than this one. -/
def OnlyRun (runId : String) : Pipeline → PipelineLabel → Prop
  | _, .execute executed _ _ => executed = runId
  | _, _ => True

/-- What a run has in a folder. -/
def runKey (partitionDate : CalendarDate) (runId : String) : KeyFolder → String
  | .raw => sourcePrefix partitionDate
  | .manifests => manifestKey partitionDate runId
  | .quality => qualityKey partitionDate runId
  | .curated => curatedPrefix partitionDate runId
  | .summary => summaryPrefix partitionDate runId

section
variable {spark : Spark} {partitionDate : CalendarDate} {runId other : String} {folder folder' : KeyFolder}
  {s t : Pipeline} {l : PipelineLabel}

theorem runKey_folder : InFolder folder (runKey partitionDate runId folder) := by
  cases folder with
  | raw =>
    have place : InFolder .raw (sourcePrefix partitionDate ++ "") := sourcePrefix_folder ""
    rwa [String.append_empty] at place
  | manifests => exact manifestKey_folder
  | quality => exact qualityKey_folder
  | curated => exact curatedPrefix_folder
  | summary => exact summaryPrefix_folder

theorem runKey_unique (same : runKey partitionDate runId folder = runKey partitionDate other folder') :
    folder = folder' := by
  have place : InFolder folder (runKey partitionDate runId folder) := runKey_folder
  rw [same] at place
  exact folder_unique place runKey_folder

theorem runKeys_map : runKeys partitionDate runId =
    [KeyFolder.manifests, .quality, .curated, .summary].map (runKey partitionDate runId) := rfl

theorem runKeys_nodup : (runKeys partitionDate runId).Nodup := by
  rw [runKeys_map]
  exact List.Nodup.map (fun _ _ same => runKey_unique same) (by decide)

theorem runKeys_disjoint (apart : safeRunId runId ≠ safeRunId other) :
    (runKeys partitionDate runId).Disjoint (runKeys partitionDate other) := by
  intro key mine others
  rw [runKeys_map] at mine others
  obtain ⟨folder, listed, rfl⟩ := List.mem_map.mp mine
  obtain ⟨folder', -, same⟩ := List.mem_map.mp others
  obtain rfl := runKey_unique same
  cases folder' with
  | raw => exact absurd listed (by decide)
  | manifests => exact apart (manifestKey_inj.mp same.symm)
  | quality => exact apart (qualityKey_inj.mp same.symm)
  | curated => exact apart (curatedPrefix_inj.mp same.symm)
  | summary => exact apart (summaryPrefix_inj.mp same.symm)

theorem step_manifest_kept (apart : safeRunId runId ≠ safeRunId other) (met : OnlyRun other s l)
    (next : s.step spark partitionDate l = some t) :
    t.objects.lookup (manifestKey partitionDate runId) = s.objects.lookup (manifestKey partitionDate runId) := by
  have raw {name : String} : manifestKey partitionDate runId ≠ sourcePrefix partitionDate ++ name := by
    intro same
    exact absurd (folder_unique manifestKey_folder (same ▸ sourcePrefix_folder name)) (by decide)
  cases l with
  | put name content =>
    obtain rfl := Option.some.inj next
    exact AList.lookup_insert_ne raw
  | remove name =>
    obtain rfl := Option.some.inj next
    exact AList.lookup_erase_ne raw
  | execute executed output writes =>
    obtain rfl : executed = other := met
    unfold Pipeline.step at next
    simp only at next
    split at next
    · obtain rfl := Option.some.inj next
      exact (executed_elsewhere apart runPipeline_writes).1
    · cases next

theorem run_manifest_kept (apart : safeRunId runId ≠ safeRunId other)
    (run : Machine.Run (Pipeline.step spark partitionDate) (OnlyRun other) s t) :
    t.objects.lookup (manifestKey partitionDate runId) = s.objects.lookup (manifestKey partitionDate runId) := by
  refine run.invariant (P := fun u => u.objects.lookup (manifestKey partitionDate runId) =
    s.objects.lookup (manifestKey partitionDate runId)) ?_ rfl
  exact fun u l v before met next => (step_manifest_kept apart met next).trans before

end

/-- Two runs have no key in common, and neither replaces the other's manifest, when their ids differ in a
character that is kept. -/
theorem runs_apart_iff (partitionDate : CalendarDate) (runId other : String) :
    ((runKeys partitionDate runId ++ runKeys partitionDate other).Nodup ∧
      ∀ (spark : Spark) (s t : Pipeline), Machine.Run (Pipeline.step spark partitionDate) (OnlyRun other) s t →
        t.objects.lookup (manifestKey partitionDate runId) = s.objects.lookup (manifestKey partitionDate runId)) ↔
      ToldApart runId other := by
  rw [← not_iff_comm.mp safeRunId_eq.symm]
  constructor
  · rintro ⟨distinct, -⟩ same
    have shared : manifestKey partitionDate runId = manifestKey partitionDate other := manifestKey_inj.mpr same
    exact (List.nodup_append.mp distinct).2.2 _ (.head _) _ (.head _) shared
  · intro apart
    refine ⟨List.nodup_append.mpr ⟨runKeys_nodup, runKeys_nodup, ?_⟩, fun spark s t run => run_manifest_kept apart run⟩
    rintro key mine _ others rfl
    exact runKeys_disjoint apart mine others

namespace Small

def manifestOf (runId : String) : PipelineObject → Bool
  | .manifest m => decide (m.runId = runId)
  | _ => false

theorem manifestOf_eq {runId : String} {object : PipelineObject} (shown : manifestOf runId object = true) :
    ∃ m, object = .manifest m ∧ m.runId = runId := by
  cases object with
  | manifest m => exact ⟨m, rfl, of_decide_eq_true shown⟩
  | raw | quality | data => cases shown

end Small

/-- Both ids are written `manual_1`. -/
theorem other_run_replaces_manifest :
    ∃ (s t : Pipeline) (m m' : RunManifest),
      Machine.Run (Pipeline.step Small.spark Small.day) Machine.unguarded ⟨∅, []⟩ s ∧
      Machine.Run (Pipeline.step Small.spark Small.day) (OnlyRun "manual/1") s t ∧
      s.objects.lookup (manifestKey Small.day "manual:1") = some (.manifest m) ∧ m.runId = "manual:1" ∧
      t.objects.lookup (manifestKey Small.day "manual:1") = some (.manifest m') ∧ m'.runId = "manual/1" := by
  have shown : (Machine.exec (Pipeline.step Small.spark Small.day) ⟨∅, []⟩
      [.put "inventory.csv" Small.csv, .execute "manual:1" (Small.sparkOutput "a") 7]).any (fun s =>
        (s.objects.lookup (manifestKey Small.day "manual:1")).any (Small.manifestOf "manual:1") &&
          (Machine.exec (Pipeline.step Small.spark Small.day) s [.execute "manual/1" (Small.sparkOutput "b") 7]).any
            fun t => (t.objects.lookup (manifestKey Small.day "manual:1")).any (Small.manifestOf "manual/1")) =
      true := by
    decide +kernel
  obtain ⟨s, steps, shown⟩ := (Option.any_eq_true _ _).mp shown
  obtain ⟨first, shown⟩ := Bool.and_eq_true_iff.mp shown
  obtain ⟨t, steps', second⟩ := (Option.any_eq_true _ _).mp shown
  obtain ⟨object, found, first⟩ := (Option.any_eq_true _ _).mp first
  obtain ⟨object', found', second⟩ := (Option.any_eq_true _ _).mp second
  obtain ⟨m, rfl, mine⟩ := Small.manifestOf_eq first
  obtain ⟨m', rfl, others⟩ := Small.manifestOf_eq second
  have only : ∀ l ∈ [PipelineLabel.execute "manual/1" (Small.sparkOutput "b") 7], ∀ s, OnlyRun "manual/1" s l := by
    intro l member s
    rw [List.mem_singleton.mp member]
    rfl
  exact ⟨s, t, m, m', Machine.exec_run (fun _ _ _ => trivial) steps, Machine.exec_run only steps', found, mine, found',
    others⟩

end SupplyChainHub
