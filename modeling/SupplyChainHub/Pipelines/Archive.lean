import SupplyChainHub.Library.Writers
import SupplyChainHub.Pipelines.Dates
import SupplyChainHub.Pipelines.Publishing

/-!
The bucket while executions of any dates and runs write to it at the same time, each putting its objects one after the
other, and any of them may stop for good. Whatever manifest a reader finds, it finds all that the manifest lists.
-/

namespace SupplyChainHub

abbrev Archive := Writers.State String PipelineObject

inductive ArchiveLabel where
  | put (partitionDate : CalendarDate) (name content : String)
  | remove (partitionDate : CalendarDate) (name : String)
  | execute (partitionDate : CalendarDate) (dated : partitionDate.Valid) (runId : String) (output : SparkOutput)
  /-- The next write of an execution. -/
  | write (execution : Nat)

def ArchiveLabel.writers (spark : Spark) (objects : PipelineObjects) :
    ArchiveLabel → Writers.Label String PipelineObject
  | put partitionDate name content => .put (sourcePrefix partitionDate ++ name) (.raw content)
  | remove partitionDate name => .remove (sourcePrefix partitionDate ++ name)
  | execute partitionDate _ runId output => .start (runPipeline spark partitionDate runId output objects).writes
  | write execution => .advance execution

namespace Archive

def step (spark : Spark) (s : Archive) (l : ArchiveLabel) : Option Archive := Writers.step s (l.writers spark s.objects)

abbrev Run (spark : Spark) : Archive → Archive → Prop := Machine.Run (step spark) Machine.unguarded

end Archive

/-! ### What is where -/

/-- Each kind of object has its folder; a report and a manifest have their keys. -/
def PipelineObject.AllowedAt (key : String) : PipelineObject → Prop
  | .raw _ => InFolder .raw key
  | .quality report => key = qualityKey report.partitionDate report.runId
  | .data => InFolder .curated key ∨ InFolder .summary key
  | .manifest m => m.partitionDate.Valid ∧ m.status = "succeeded" ∧ m.qualityReportKey = qualityKey m.partitionDate m.runId ∧
      (∀ listed ∈ m.curatedKeys, Under (curatedPrefix m.partitionDate m.runId) listed) ∧
      (∀ listed ∈ m.summaryKeys, Under (summaryPrefix m.partitionDate m.runId) listed) ∧
      (key = manifestKey m.partitionDate m.runId ∨ key = latestKey m.partitionDate)

/-- A manifest refers to what it lists, and as the latest one to its own copy too. -/
def PipelineObject.RefersTo (key : String) (target : String) : PipelineObject → Prop
  | .manifest m => target ∈ m.curatedKeys ∨ target ∈ m.summaryKeys ∨ target = m.qualityReportKey ∨
      key = latestKey m.partitionDate ∧ target = manifestKey m.partitionDate m.runId
  | _ => False

def pipelineScheme : Writers.Scheme String PipelineObject where
  allowed key object := object.AllowedAt key
  refers key object target := object.RefersTo key target
  lasting key := ¬ InFolder .raw key

section
variable {spark : Spark} {partitionDate : CalendarDate} {runId key : String} {output : SparkOutput}
  {objects : PipelineObjects} {known : String → Prop} {s t : Archive} {l : ArchiveLabel} {m : RunManifest}

theorem lasts {folder : KeyFolder} (place : InFolder folder key) (other : folder ≠ .raw) :
    pipelineScheme.lasting key :=
  fun raw => other (folder_unique place raw)

theorem AllowedAt.folder {object : PipelineObject} (allowed : object.AllowedAt key) :
    (InFolder .manifests key → ∃ m, object = .manifest m) ∧ (InFolder .quality key → ∃ report, object = .quality report) ∧
      (InFolder .curated key ∨ InFolder .summary key → object = .data) := by
  have apart {folder folder' : KeyFolder} (place : InFolder folder key) (other : folder ≠ folder') :
      ¬ InFolder folder' key := fun place' => other (folder_unique place place')
  cases object with
  | raw content =>
    have place : InFolder .raw key := allowed
    exact ⟨fun there => absurd there (apart place (by decide)), fun there => absurd there (apart place (by decide)),
      Or.rec (fun there => absurd there (apart place (by decide))) fun there => absurd there (apart place (by decide))⟩
  | quality report =>
    have place : InFolder .quality key := (allowed : key = _) ▸ qualityKey_folder
    exact ⟨fun there => absurd there (apart place (by decide)), fun _ => ⟨report, rfl⟩,
      Or.rec (fun there => absurd there (apart place (by decide))) fun there => absurd there (apart place (by decide))⟩
  | data =>
    refine ⟨fun there => ?_, fun there => ?_, fun _ => rfl⟩ <;>
      rcases (allowed : InFolder .curated key ∨ InFolder .summary key) with place | place <;>
      exact absurd there (apart place (by decide))
  | manifest m =>
    have place : InFolder .manifests key := by
      rcases allowed.2.2.2.2.2 with rfl | rfl
      · exact manifestKey_folder
      · exact latestKey_folder
    exact ⟨fun _ => ⟨m, rfl⟩, fun there => absurd there (apart place (by decide)),
      Or.rec (fun there => absurd there (apart place (by decide))) fun there => absurd there (apart place (by decide))⟩

theorem dataKeys_closed (known : String → Prop) : pipelineScheme.Closed known
    ((dataKeys partitionDate runId output).map (·, PipelineObject.data)) := by
  refine Writers.closed_plain (fun write member => ?_) fun write member target refers => ?_
  · obtain ⟨listed, present, rfl⟩ := List.mem_map.mp member
    exact (dataKeys_under present).imp (·.inFolder curatedPrefix_folder) (·.inFolder summaryPrefix_folder)
  · obtain ⟨listed, -, rfl⟩ := List.mem_map.mp member
    exact refers

/-- An execution puts its report and its data before the manifest that lists them, and the manifest before its copy. -/
theorem runPipeline_closed (dated : partitionDate.Valid) (known : String → Prop) :
    pipelineScheme.Closed known (runPipeline spark partitionDate runId output objects).writes := by
  unfold runPipeline
  split
  · trivial
  · rename_i sourceKeys frame received
    have report (known : String → Prop) : pipelineScheme.Fits known (qualityKey partitionDate runId)
        (.quality (qualityReport partitionDate runId frame)) := ⟨rfl, fun _ => False.elim⟩
    dsimp only
    split
    · exact ⟨report known, trivial⟩
    · rename_i t curated
      refine ⟨report known, (dataKeys_closed _).append ?_⟩
      have keys : ((dataKeys partitionDate runId output).map (·, PipelineObject.data)).map Prod.fst =
          dataKeys partitionDate runId output := by simp [Function.comp_def]
      rw [keys]
      have allowed (key : String) (own : key = manifestKey partitionDate runId ∨ key = latestKey partitionDate) :
          (PipelineObject.manifest (runManifest partitionDate runId output sourceKeys frame t)).AllowedAt key :=
        ⟨dated, rfl, rfl, fun _ => curated_under, fun _ => summary_under, own⟩
      refine ⟨⟨allowed _ (.inl rfl), ?_⟩, ⟨allowed _ (.inr rfl), ?_⟩, trivial⟩
      · rintro target (curatedKey | summaryKey | rfl | ⟨same, -⟩)
        · exact ⟨lasts ((curated_under curatedKey).inFolder curatedPrefix_folder) (by decide),
            .inr (List.mem_append_left _ curatedKey)⟩
        · exact ⟨lasts ((summary_under summaryKey).inFolder summaryPrefix_folder) (by decide),
            .inr (List.mem_append_right _ summaryKey)⟩
        · exact ⟨lasts qualityKey_folder (by decide), .inl (.inr rfl)⟩
        · exact absurd same manifestKey_latest
      · rintro target (curatedKey | summaryKey | rfl | ⟨-, rfl⟩)
        · exact ⟨lasts ((curated_under curatedKey).inFolder curatedPrefix_folder) (by decide),
            .inl (.inr (List.mem_append_left _ curatedKey))⟩
        · exact ⟨lasts ((summary_under summaryKey).inFolder summaryPrefix_folder) (by decide),
            .inl (.inr (List.mem_append_right _ summaryKey))⟩
        · exact ⟨lasts qualityKey_folder (by decide), .inl (.inl (.inr rfl))⟩
        · exact ⟨lasts manifestKey_folder (by decide), .inr rfl⟩

theorem permitted (s : Archive) (l : ArchiveLabel) : pipelineScheme.Permits s (l.writers spark s.objects) := by
  cases l with
  | put partitionDate name content => exact ⟨sourcePrefix_folder name, fun _ => False.elim⟩
  | remove partitionDate name => exact fun stays => stays (sourcePrefix_folder name)
  | execute partitionDate dated runId output => exact runPipeline_closed dated _
  | write execution => trivial

theorem Archive.run_sound (sound : pipelineScheme.Sound s) (run : Archive.Run spark s t) : pipelineScheme.Sound t :=
  run.invariant (fun u l _ sound _ next => Writers.step_sound sound (permitted u l) next) sound

theorem Archive.run_keeps (lasting : pipelineScheme.lasting key) (present : key ∈ s.objects)
    (run : Archive.Run spark s t) : key ∈ t.objects :=
  run.invariant (P := fun u => key ∈ u.objects)
    (fun u l _ there _ next => Writers.step_keeps (permitted u l) next lasting there) present

/-- All that a manifest names is there. A later execution of the run may have written its report anew, under the same
key. -/
structure RunManifest.Complete (objects : PipelineObjects) (m : RunManifest) : Prop where
  status : m.status = "succeeded"
  report : ∃ report, objects.lookup m.qualityReportKey = some (.quality report)
  data : ∀ listed ∈ m.curatedKeys ++ m.summaryKeys, objects.lookup listed = some .data

theorem stored_object (sound : pipelineScheme.Sound s) (present : key ∈ s.objects) :
    ∃ object, s.objects.lookup key = some object ∧ object.AllowedAt key := by
  obtain ⟨object, found⟩ := Option.isSome_iff_exists.mp (AList.lookup_isSome.mpr present)
  exact ⟨object, found, (sound.stored key object found).1⟩

theorem complete_of_fits (sound : pipelineScheme.Sound s)
    (fits : pipelineScheme.Fits (· ∈ s.objects) key (.manifest m)) : m.Complete s.objects := by
  obtain ⟨⟨-, status, reportKey, curatedKeys, summaryKeys, -⟩, refers⟩ := fits
  have stored {target : String} (listed : (PipelineObject.manifest m).RefersTo key target) :
      ∃ object, s.objects.lookup target = some object ∧ object.AllowedAt target :=
    stored_object sound (refers target listed).2
  refine ⟨status, ?_, fun listed member => ?_⟩
  · obtain ⟨object, there, kind⟩ := stored (.inr (.inr (.inl rfl)))
    obtain ⟨report, rfl⟩ := (AllowedAt.folder kind).2.1 (reportKey ▸ qualityKey_folder)
    exact ⟨report, there⟩
  · rcases List.mem_append.mp member with curated | summary
    · obtain ⟨object, there, kind⟩ := stored (.inl curated)
      obtain rfl := (AllowedAt.folder kind).2.2 (.inl ((curatedKeys listed curated).inFolder curatedPrefix_folder))
      exact there
    · obtain ⟨object, there, kind⟩ := stored (.inr (.inl summary))
      obtain rfl := (AllowedAt.folder kind).2.2 (.inr ((summaryKeys listed summary).inFolder summaryPrefix_folder))
      exact there

/-- What a manifest lists stays there, whoever has read it. -/
theorem listed_complete (sound : pipelineScheme.Sound s) (found : s.objects.lookup key = some (.manifest m))
    (later : Archive.Run spark s t) : m.Complete t.objects :=
  complete_of_fits (Archive.run_sound sound later)
    ((sound.stored key _ found).mono fun _ lasts present => Archive.run_keeps lasts present later)

/-- Where there is a manifest, its run has one. -/
theorem own_present (sound : pipelineScheme.Sound s) (found : s.objects.lookup key = some (.manifest m)) :
    (key = manifestKey m.partitionDate m.runId ∨ key = latestKey m.partitionDate) ∧
      manifestKey m.partitionDate m.runId ∈ s.objects := by
  obtain ⟨allowed, refers⟩ := sound.stored key _ found
  have own := allowed.2.2.2.2.2
  refine ⟨own, ?_⟩
  rcases own with same | same
  · rw [← same, ← AList.lookup_isSome, found]
    rfl
  · exact (refers _ (.inr (.inr (.inr ⟨same, rfl⟩)))).2

/-- However executions of any dates and runs interleave their writes, and wherever they stop: whoever has read a
manifest, under its run or as the latest one, finds all that it lists, at that time and ever after. -/
theorem manifests_complete (run : Archive.Run spark ⟨∅, []⟩ s) (found : s.objects.lookup key = some (.manifest m))
    (later : Archive.Run spark s t) : m.Complete t.objects ∧
      (key = manifestKey m.partitionDate m.runId ∨ key = latestKey m.partitionDate) ∧
      ∃ own, t.objects.lookup (manifestKey m.partitionDate m.runId) = some (.manifest own) := by
  have sound := Archive.run_sound pipelineScheme.empty_sound run
  obtain ⟨own, present⟩ := own_present sound found
  obtain ⟨object, there, kind⟩ := stored_object (Archive.run_sound sound later)
    (Archive.run_keeps (lasts manifestKey_folder (by decide)) present later)
  obtain ⟨m', rfl⟩ := (AllowedAt.folder kind).1 manifestKey_folder
  exact ⟨listed_complete sound found later, own, m', there⟩

end

namespace Small

theorem day_valid : day.Valid := by decide

/-- One execution goes through while another is at its data. -/
def overtakenRun : List ArchiveLabel :=
  [.put day "inventory.csv" csv, .execute day day_valid "manual" (sparkOutput "a"),
    .execute day day_valid "nightly" (sparkOutput "b"), .write 1, .write 1, .write 1] ++ List.replicate 7 (.write 0)

def isManifest : PipelineObject → Bool
  | .manifest _ => true
  | _ => false

theorem isManifest_eq {object : PipelineObject} (shown : isManifest object = true) : ∃ m, object = .manifest m := by
  cases object with
  | manifest m => exact ⟨m, rfl⟩
  | raw | quality | data => cases shown

end Small

/-- The other execution makes one more write and stops without a manifest. -/
theorem manifests_complete_overtaken : ∃ (s t : Archive) (m : RunManifest),
    s.objects.lookup (latestKey Small.day) = some (.manifest m) ∧ m.Complete t.objects ∧
      t.objects.lookup (manifestKey Small.day "nightly") = none := by
  have shown : (Machine.exec (Archive.step Small.spark) ⟨∅, []⟩ Small.overtakenRun).any (fun s =>
      (s.objects.lookup (latestKey Small.day)).any Small.isManifest &&
        (Machine.exec (Archive.step Small.spark) s [.write 1]).any fun t =>
          (t.objects.lookup (manifestKey Small.day "nightly")).isNone) = true := by decide +kernel
  obtain ⟨s, steps, shown⟩ := (Option.any_eq_true _ _).mp shown
  obtain ⟨latest, stops⟩ := Bool.and_eq_true_iff.mp shown
  obtain ⟨object, found, kind⟩ := (Option.any_eq_true _ _).mp latest
  obtain ⟨m, rfl⟩ := Small.isManifest_eq kind
  obtain ⟨t, later, none⟩ := (Option.any_eq_true _ _).mp stops
  exact ⟨s, t, m, found, (manifests_complete (Machine.exec_run (fun _ _ _ => trivial) steps) found
    (Machine.exec_run (fun _ _ _ => trivial) later)).1, Option.isNone_iff_eq_none.mp none⟩

end SupplyChainHub
