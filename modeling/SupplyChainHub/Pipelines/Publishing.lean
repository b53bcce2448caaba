import Mathlib.Data.List.Lex
import Mathlib.Data.List.Sort
import Mathlib.Data.String.Basic
import SupplyChainHub.Library.Buckets
import SupplyChainHub.Library.Machines
import SupplyChainHub.Pipelines.Quality

/-!
`run_pipeline` as the objects it writes, one after the other, and the executions of one partition date: each may
stop after any of its writes and be made again under its run id. How Spark reads the raw files is a parameter, and
so are the names of the files it writes, which are new apart from `_SUCCESS`.
-/

namespace SupplyChainHub

structure RunManifest where
  status : String
  partitionDate : CalendarDate
  runId : String
  sourceKeys : List String
  inputRows : Nat
  qualityReportKey : String
  curatedKeys : List String
  summaryKeys : List String
  lowToMedium : Double
  mediumToHigh : Double
  deriving DecidableEq

inductive PipelineObject where
  | raw (content : String)
  | quality (report : QualityReport)
  | data
  | manifest (manifest : RunManifest)
  deriving DecidableEq

abbrev PipelineObjects := Bucket String PipelineObject

/-- What Spark does with the downloaded files and with the ratios. -/
structure Spark where
  readCsv : List (String × String) → Except Raised (List RawInventoryRow)
  approxQuantile : List Double → Option (Double × Double)

/-- The files of the two directories Spark wrote, as the parts of their paths. -/
structure SparkOutput where
  curated : List (List String)
  summary : List (List String)
  deriving DecidableEq

/-! ### The object store -/

def listKeys (objects : PipelineObjects) (keyPrefix : String) : List String :=
  (objects.keys.filter fun key => keyPrefix.toList.isPrefixOf key.toList).insertionSort (· ≤ ·)

/-- The files by the keys they are downloaded from. -/
def downloadPrefix (objects : PipelineObjects) (keyPrefix : String) : List (String × String) :=
  (listKeys objects keyPrefix).filterMap fun key =>
    match objects.lookup key with
    | some (.raw content) => some (key, content)
    | _ => none

theorem mem_listKeys {objects : PipelineObjects} {keyPrefix key : String} :
    key ∈ listKeys objects keyPrefix ↔ key ∈ objects ∧ keyPrefix.toList <+: key.toList := by
  rw [listKeys, List.mem_insertionSort, List.mem_filter, AList.mem_keys, List.isPrefixOf_iff_prefix]

theorem listKeys_sorted (objects : PipelineObjects) (keyPrefix : String) :
    (listKeys objects keyPrefix).Pairwise (· < ·) := by
  have sorted : (listKeys objects keyPrefix).Pairwise (· ≤ ·) := List.pairwise_insertionSort _ _
  have distinct : (listKeys objects keyPrefix).Nodup :=
    (List.perm_insertionSort _ _).nodup_iff.mpr (objects.keys_nodup.filter _)
  exact sorted.imp₂ (fun _ _ le ne => lt_of_le_of_ne le ne) distinct

def isHidden (path : List String) : Bool := path.getLast?.any fun name => name.toList.head? = some '.'

/-- The files `upload_directory` uploads, in its order. -/
def uploads (files : List (List String)) : List (List String) :=
  (files.insertionSort (· ≤ ·)).filter fun path => !isHidden path

def withoutTrailingSlashes (key : String) : String :=
  String.ofList (key.toList.reverse.dropWhile (· = '/')).reverse

def uploadDirectory (files : List (List String)) (destinationPrefix : String) : List String :=
  (uploads files).map fun path => withoutTrailingSlashes destinationPrefix ++ "/" ++ "/".intercalate path

/-! ### One execution -/

def checkSource (objects : PipelineObjects) (partitionDate : CalendarDate) : Except Raised (List String) :=
  let keys := listKeys objects (sourcePrefix partitionDate)
  if keys.isEmpty then .error ⟨[], "No raw inventory objects exist for " ++ partitionDate.isoformat ++ "."⟩
  else .ok keys

/-- What an execution puts, and what it returns or raises. -/
structure PipelineRun where
  writes : List (String × PipelineObject)
  outcome : Except Raised RunManifest

section
variable (spark : Spark) (partitionDate : CalendarDate)

/-- The frame of the raw objects. -/
def receive (objects : PipelineObjects) : Except Raised (List String × List RawInventoryRow) := do
  let sourceKeys ← checkSource objects partitionDate
  let frame ← spark.readCsv (downloadPrefix objects (sourcePrefix partitionDate))
  return (sourceKeys, frame)

def runManifest (runId : String) (output : SparkOutput) (sourceKeys : List String) (frame : List RawInventoryRow)
    (t : Transformed) : RunManifest where
  status := "succeeded"
  partitionDate
  runId
  sourceKeys
  inputRows := frame.length
  qualityReportKey := qualityKey partitionDate runId
  curatedKeys := uploadDirectory output.curated (curatedPrefix partitionDate runId)
  summaryKeys := uploadDirectory output.summary (summaryPrefix partitionDate runId)
  lowToMedium := t.lowToMedium
  mediumToHigh := t.mediumToHigh

def runPipeline (runId : String) (output : SparkOutput) (objects : PipelineObjects) : PipelineRun :=
  match receive spark partitionDate objects with
  | .error e => ⟨[], .error e⟩
  | .ok (sourceKeys, frame) =>
    let quality := (qualityKey partitionDate runId, .quality (qualityReport partitionDate runId frame))
    match curate spark.approxQuantile partitionDate runId frame with
    | .error e => ⟨[quality], .error e⟩
    | .ok t =>
      let manifest := runManifest partitionDate runId output sourceKeys frame t
      ⟨quality :: ((manifest.curatedKeys ++ manifest.summaryKeys).map (·, .data) ++
        [(manifestKey partitionDate runId, .manifest manifest), (latestKey partitionDate, .manifest manifest)]),
        .ok manifest⟩

end

/-! ### Executions one after the other -/

/-- The bucket, and the names that Spark has used. -/
structure Pipeline where
  objects : PipelineObjects
  used : List (List String)

inductive PipelineLabel where
  | put (name content : String)
  | remove (name : String)
  | execute (runId : String) (output : SparkOutput) (writes : Nat)

def successMarker : List String := ["_SUCCESS"]

namespace SparkOutput

/-- The uploaded files apart from the two markers. -/
def parts (output : SparkOutput) : List (List String) :=
  (uploads output.curated ++ uploads output.summary).filter (· ≠ successMarker)

/-- Every write ends with a marker and names its own files as no write before it did. -/
def Fresh (output : SparkOutput) (used : List (List String)) : Prop :=
  successMarker ∈ output.curated ∧ successMarker ∈ output.summary ∧ output.parts.Nodup ∧
    ∀ path ∈ output.parts, path ∉ used

instance (output : SparkOutput) (used : List (List String)) : Decidable (output.Fresh used) := by
  unfold Fresh; infer_instance

end SparkOutput

/-- Raw objects change between executions; an execution makes its first `writes` writes. -/
def Pipeline.step (spark : Spark) (partitionDate : CalendarDate) (s : Pipeline) : PipelineLabel → Option Pipeline
  | .put name content =>
    some { s with objects := s.objects.insert (sourcePrefix partitionDate ++ name) (.raw content) }
  | .remove name => some { s with objects := s.objects.erase (sourcePrefix partitionDate ++ name) }
  | .execute runId output writes =>
    if output.Fresh s.used then
      some {
        objects := Bucket.puts s.objects ((runPipeline spark partitionDate runId output s.objects).writes.take writes)
        used := s.used ++ output.parts }
    else none

/-! ### What an execution writes -/

section
variable (spark : Spark) (partitionDate : CalendarDate) (runId : String) (output : SparkOutput)

def dataKeys : List String :=
  uploadDirectory output.curated (curatedPrefix partitionDate runId) ++
    uploadDirectory output.summary (summaryPrefix partitionDate runId)

def markerKeys : List String :=
  [curatedPrefix partitionDate runId ++ "/_SUCCESS", summaryPrefix partitionDate runId ++ "/_SUCCESS"]

/-- The writes of an execution that gets to its manifest. -/
def publishingWrites (report : QualityReport) (manifest : RunManifest) (later : List (String × PipelineObject)) :
    List (String × PipelineObject) :=
  (qualityKey partitionDate runId, .quality report) :: ((dataKeys partitionDate runId output).map (·, .data) ++
    (manifestKey partitionDate runId, .manifest manifest) :: later)

/-- The first `writes` writes of an execution. -/
inductive Wrote (objects : PipelineObjects) (writes : Nat) : List (String × PipelineObject) → Prop where
  | nothing : Wrote objects writes []
  | stopped {sourceKeys : List String} {frame : List RawInventoryRow} {data : List String}
      (received : receive spark partitionDate objects = .ok (sourceKeys, frame)) (begun : 0 < writes)
      (within : ∀ key ∈ data, key ∈ (dataKeys partitionDate runId output).take (writes - 1)) :
      Wrote objects writes ((qualityKey partitionDate runId, .quality (qualityReport partitionDate runId frame)) ::
        data.map (·, .data))
  | published {sourceKeys : List String} {frame : List RawInventoryRow} {t : Transformed}
      {later : List (String × PipelineObject)}
      (received : receive spark partitionDate objects = .ok (sourceKeys, frame))
      (passed : (qualityReport partitionDate runId frame).passed = true)
      (reached : (dataKeys partitionDate runId output).length + 2 ≤ writes)
      (last : ∀ key ∈ later.map Prod.fst, key = latestKey partitionDate) :
      Wrote objects writes (publishingWrites partitionDate runId output (qualityReport partitionDate runId frame)
        (runManifest partitionDate runId output sourceKeys frame t) later)

end

section
variable {spark : Spark} {partitionDate : CalendarDate} {runId : String} {output : SparkOutput}
  {objects : PipelineObjects} {writes : Nat} {used : List (List String)}

theorem take_stopped {keys : List String} {a b : String × PipelineObject} {n : Nat} (early : n ≤ keys.length) :
    (keys.map (·, PipelineObject.data) ++ [a, b]).take n = (keys.take n).map (·, PipelineObject.data) := by
  rw [List.take_append_of_le_length (by simpa using early), List.map_take]

theorem take_published {keys : List String} {a b : String × PipelineObject} {n : Nat} (late : keys.length < n) :
    ∃ later, (∀ write ∈ later, write = b) ∧
      (keys.map (·, PipelineObject.data) ++ [a, b]).take n = keys.map (·, PipelineObject.data) ++ a :: later := by
  obtain ⟨rest, rfl⟩ := Nat.exists_eq_add_of_lt late
  refine ⟨[b].take rest, fun write member => List.mem_singleton.mp (List.mem_of_mem_take member), ?_⟩
  have after : keys.length + rest + 1 - keys.length = rest + 1 := by omega
  rw [List.take_append, List.length_map, after, List.take_succ_cons,
    List.take_of_length_le (by rw [List.length_map]; omega)]

theorem runPipeline_writes : Wrote spark partitionDate runId output objects writes
    ((runPipeline spark partitionDate runId output objects).writes.take writes) := by
  unfold runPipeline
  cases received : receive spark partitionDate objects with
  | error e => simpa only [List.take_nil] using .nothing
  | ok read =>
    obtain ⟨sourceKeys, frame⟩ := read
    cases writes with
    | zero => simpa only [List.take_zero] using .nothing
    | succ n =>
      cases gates : (qualityReport partitionDate runId frame).passed with
      | false =>
        simp only [curate, gates, Bool.not_false, if_true, List.take_succ_cons, List.take_nil]
        have none : ∀ key ∈ ([] : List String), key ∈ (dataKeys partitionDate runId output).take (n + 1 - 1) := by simp
        exact .stopped received n.succ_pos none
      | true =>
        simp only [curate_passed gates, List.take_succ_cons]
        by_cases reached : (dataKeys partitionDate runId output).length < n
        · obtain ⟨later, same, written⟩ := take_published (a := (manifestKey partitionDate runId, _))
            (b := (latestKey partitionDate, _)) reached
          have last : ∀ key ∈ later.map Prod.fst, key = latestKey partitionDate := by
            intro key member
            obtain ⟨write, inside, rfl⟩ := List.mem_map.mp member
            rw [same write inside]
          have enough : (dataKeys partitionDate runId output).length + 2 ≤ n + 1 := by omega
          have wrote := Wrote.published (t := transform spark.approxQuantile frame) received gates enough last
          rwa [publishingWrites, ← written] at wrote
        · have wrote : Wrote spark partitionDate runId output objects (n + 1) _ :=
            .stopped received n.succ_pos fun key member => member
          rwa [Nat.add_sub_cancel, ← take_stopped (not_lt.mp reached)] at wrote

/-! ### Where it writes -/

theorem withoutTrailingSlashes_run (folder : String) :
    withoutTrailingSlashes (folder ++ "/run_id=" ++ safeRunId runId) = folder ++ "/run_id=" ++ safeRunId runId := by
  have stops {xs rest : List Char} (free : '/' ∉ xs) :
      (xs ++ '=' :: rest).dropWhile (fun c => decide (c = '/')) = xs ++ '=' :: rest := by
    cases xs with
    | nil => simp
    | cons c xs =>
      have other : c ≠ '/' := fun same => free (same ▸ List.mem_cons_self)
      simp [other]
  have letters : "/run_id=".toList.reverse = '=' :: "/run_id".toList.reverse := by decide
  have free : '/' ∉ (safeRunId runId).toList.reverse := fun member => safeRunId_no_slash (List.mem_reverse.mp member)
  unfold withoutTrailingSlashes
  simp only [String.toList_append, List.reverse_append, letters, List.append_assoc, List.cons_append]
  rw [stops free, ← String.toList_inj, String.toList_ofList]
  simp

theorem uploadDirectory_curated (files : List (List String)) :
    uploadDirectory files (curatedPrefix partitionDate runId) = (uploads files).map fun path =>
      curatedPrefix partitionDate runId ++ "/" ++ "/".intercalate path := by
  unfold uploadDirectory curatedPrefix
  rw [withoutTrailingSlashes_run]

theorem uploadDirectory_summary (files : List (List String)) :
    uploadDirectory files (summaryPrefix partitionDate runId) = (uploads files).map fun path =>
      summaryPrefix partitionDate runId ++ "/" ++ "/".intercalate path := by
  unfold uploadDirectory summaryPrefix
  rw [withoutTrailingSlashes_run]

theorem curated_under {files : List (List String)} {key : String}
    (member : key ∈ uploadDirectory files (curatedPrefix partitionDate runId)) :
    Under (curatedPrefix partitionDate runId) key := by
  rw [uploadDirectory_curated] at member
  obtain ⟨path, -, rfl⟩ := List.mem_map.mp member
  exact ⟨_, rfl⟩

theorem summary_under {files : List (List String)} {key : String}
    (member : key ∈ uploadDirectory files (summaryPrefix partitionDate runId)) :
    Under (summaryPrefix partitionDate runId) key := by
  rw [uploadDirectory_summary] at member
  obtain ⟨path, -, rfl⟩ := List.mem_map.mp member
  exact ⟨_, rfl⟩

theorem marker_uploaded {files : List (List String)} (present : successMarker ∈ files) :
    successMarker ∈ uploads files := by
  refine List.mem_filter.mpr ⟨(List.mem_insertionSort _).mpr present, by decide⟩

theorem markers_uploaded (partitionDate : CalendarDate) (runId : String) (fresh : output.Fresh used) :
    curatedPrefix partitionDate runId ++ "/_SUCCESS" ∈
        uploadDirectory output.curated (curatedPrefix partitionDate runId) ∧
      summaryPrefix partitionDate runId ++ "/_SUCCESS" ∈
        uploadDirectory output.summary (summaryPrefix partitionDate runId) := by
  have name (folder : String) : folder ++ "/" ++ "/".intercalate successMarker = folder ++ "/_SUCCESS" := by
    rw [String.append_assoc]
    rfl
  rw [uploadDirectory_curated, uploadDirectory_summary]
  exact ⟨List.mem_map.mpr ⟨_, marker_uploaded fresh.1, name _⟩, List.mem_map.mpr ⟨_, marker_uploaded fresh.2.1, name _⟩⟩

/-- Where an execution of the run writes. -/
inductive Touched (partitionDate : CalendarDate) (runId key : String) : KeyFolder → Prop where
  | quality (same : key = qualityKey partitionDate runId) : Touched partitionDate runId key .quality
  | manifest (same : key = manifestKey partitionDate runId) : Touched partitionDate runId key .manifests
  | latest (same : key = latestKey partitionDate) : Touched partitionDate runId key .manifests
  | curated (under : Under (curatedPrefix partitionDate runId) key) : Touched partitionDate runId key .curated
  | summary (under : Under (summaryPrefix partitionDate runId) key) : Touched partitionDate runId key .summary

theorem Touched.inFolder {key : String} {folder : KeyFolder} (touched : Touched partitionDate runId key folder) :
    InFolder folder key := by
  cases touched with
  | quality same => exact same ▸ qualityKey_folder
  | manifest same => exact same ▸ manifestKey_folder
  | latest same => exact same ▸ latestKey_folder
  | curated under => exact under.inFolder curatedPrefix_folder
  | summary under => exact under.inFolder summaryPrefix_folder

/-- What two runs both write is the latest manifest, when their rewritten ids differ. -/
theorem Touched.shared {other key : String} {folder folder' : KeyFolder}
    (first : Touched partitionDate runId key folder) (second : Touched partitionDate other key folder') :
    key = latestKey partitionDate ∨ safeRunId runId = safeRunId other := by
  obtain rfl := folder_unique first.inFolder second.inFolder
  cases first with
  | quality same =>
    cases second with
    | quality same' => exact .inr (qualityKey_inj.mp (same.symm.trans same'))
  | manifest same =>
    cases second with
    | manifest same' => exact .inr (manifestKey_inj.mp (same.symm.trans same'))
    | latest same' => exact .inl same'
  | latest same => exact .inl same
  | curated under =>
    cases second with
    | curated under' => exact .inr (under_curated under under')
  | summary under =>
    cases second with
    | summary under' => exact .inr (under_summary under under')

theorem dataKeys_under {key : String} (member : key ∈ dataKeys partitionDate runId output) :
    Under (curatedPrefix partitionDate runId) key ∨ Under (summaryPrefix partitionDate runId) key :=
  (List.mem_append.mp member).imp curated_under summary_under

theorem dataKeys_touched {key : String} (member : key ∈ dataKeys partitionDate runId output) :
    ∃ folder, Touched partitionDate runId key folder := by
  rcases dataKeys_under member with under | under
  · exact ⟨_, .curated under⟩
  · exact ⟨_, .summary under⟩

theorem Wrote.touched {written : List (String × PipelineObject)}
    (wrote : Wrote spark partitionDate runId output objects writes written) {key : String}
    (member : key ∈ written.map Prod.fst) : ∃ folder, Touched partitionDate runId key folder := by
  cases wrote with
  | nothing => cases member
  | stopped received begun within =>
    simp only [List.map_cons, List.map_map, List.mem_cons, List.mem_map, Function.comp_apply] at member
    rcases member with same | ⟨key, inside, rfl⟩
    · exact ⟨_, .quality same⟩
    · exact dataKeys_touched (List.mem_of_mem_take (within key inside))
  | published received passed reached last =>
    simp only [publishingWrites, List.map_cons, List.map_append, List.map_map, List.mem_cons, List.mem_append] at member
    rcases member with same | inside | same | inside
    · exact ⟨_, .quality same⟩
    · obtain ⟨key, present, rfl⟩ := List.mem_map.mp inside
      exact dataKeys_touched present
    · exact ⟨_, .manifest same⟩
    · exact ⟨_, .latest (last key inside)⟩

/-! ### What a manifest describes -/

structure Described (partitionDate : CalendarDate) (objects : PipelineObjects) (runId : String) (m : RunManifest) :
    Prop where
  report : ∃ report, objects.lookup m.qualityReportKey = some (.quality report) ∧ report.passed = true ∧
    report.inputRows = m.inputRows
  curated : ∀ key, key ∈ m.curatedKeys ↔ key ∈ objects ∧ Under (curatedPrefix partitionDate runId) key
  summary : ∀ key, key ∈ m.summaryKeys ↔ key ∈ objects ∧ Under (summaryPrefix partitionDate runId) key

/-- A described manifest at its own keys, with the two markers among them. -/
structure Published (partitionDate : CalendarDate) (objects : PipelineObjects) (runId : String) (m : RunManifest) :
    Prop extends Described partitionDate objects runId m where
  reportKey : m.qualityReportKey = qualityKey partitionDate runId
  marked : ∀ key ∈ markerKeys partitionDate runId, key ∈ objects

/-- No leftovers when it publishes, and over a published manifest neither another count nor another file. -/
structure Undisturbed (spark : Spark) (partitionDate : CalendarDate) (objects : PipelineObjects) (runId : String)
    (output : SparkOutput) (writes : Nat) : Prop where
  publishing : ∀ sourceKeys frame, receive spark partitionDate objects = .ok (sourceKeys, frame) →
    (qualityReport partitionDate runId frame).passed = true →
    (dataKeys partitionDate runId output).length + 2 ≤ writes →
    ∀ key ∈ objects, Under (curatedPrefix partitionDate runId) key ∨ Under (summaryPrefix partitionDate runId) key →
      key ∈ markerKeys partitionDate runId
  repeating : ∀ sourceKeys frame m, receive spark partitionDate objects = .ok (sourceKeys, frame) → 0 < writes →
    objects.lookup (manifestKey partitionDate runId) = some (.manifest m) →
    (qualityReport partitionDate runId frame).passed = true ∧ frame.length = m.inputRows ∧
      ∀ key ∈ (dataKeys partitionDate runId output).take (writes - 1), key ∈ markerKeys partitionDate runId

section
variable {next : PipelineObjects} {other key : String} {m : RunManifest}

theorem marker_under (member : key ∈ markerKeys partitionDate runId) :
    Under (curatedPrefix partitionDate runId) key ∨ Under (summaryPrefix partitionDate runId) key := by
  rcases List.mem_pair.mp member with rfl | rfl
  · exact .inl ⟨"_SUCCESS", by rw [String.append_assoc]; rfl⟩
  · exact .inr ⟨"_SUCCESS", by rw [String.append_assoc]; rfl⟩

theorem not_under {folder : KeyFolder} (place : InFolder folder key)
    (elsewhere : folder ≠ .curated ∧ folder ≠ .summary) :
    ¬ (Under (curatedPrefix partitionDate runId) key ∨ Under (summaryPrefix partitionDate runId) key) := by
  rintro (under | under)
  · exact elsewhere.1 (folder_unique place (under.inFolder curatedPrefix_folder))
  · exact elsewhere.2 (folder_unique place (under.inFolder summaryPrefix_folder))

theorem curated_not_summary (under : Under (curatedPrefix partitionDate runId) key)
    (under' : Under (summaryPrefix partitionDate runId) key) : False :=
  absurd (folder_unique (under.inFolder curatedPrefix_folder) (under'.inFolder summaryPrefix_folder)) (by decide)

theorem Published.frame (published : Published partitionDate objects runId m)
    (passed : ∃ report, next.lookup (qualityKey partitionDate runId) = some (.quality report) ∧ report.passed = true ∧
      report.inputRows = m.inputRows)
    (data : ∀ key, Under (curatedPrefix partitionDate runId) key ∨ Under (summaryPrefix partitionDate runId) key →
      (key ∈ next ↔ key ∈ objects)) : Published partitionDate next runId m := by
  obtain ⟨⟨-, curated, summary⟩, reportKey, marked⟩ := published
  refine ⟨⟨reportKey ▸ passed, ?_, ?_⟩, reportKey, ?_⟩
  · intro key
    rw [curated key]
    exact and_congr_left fun under => (data key (.inl under)).symm
  · intro key
    rw [summary key]
    exact and_congr_left fun under => (data key (.inr under)).symm
  · exact fun key member => (data key (marker_under member)).mpr (marked key member)

/-- Runs of one rewritten id share their keys. -/
theorem Published.of_same (same : safeRunId runId = safeRunId other)
    (published : Published partitionDate objects runId m) : Published partitionDate objects other m := by
  have quality : qualityKey partitionDate runId = qualityKey partitionDate other := qualityKey_inj.mpr same
  have curated : curatedPrefix partitionDate runId = curatedPrefix partitionDate other := curatedPrefix_inj.mpr same
  have summary : summaryPrefix partitionDate runId = summaryPrefix partitionDate other := summaryPrefix_inj.mpr same
  obtain ⟨⟨passed, listed, listed'⟩, reportKey, marked⟩ := published
  unfold markerKeys at marked
  rw [curated] at listed marked
  rw [summary] at listed' marked
  exact ⟨⟨passed, listed, listed'⟩, reportKey.trans quality, marked⟩

/-! ### Executions of other runs -/

/-- What describes a run is not touched by another rewritten id. -/
theorem untouched (apart : safeRunId runId ≠ safeRunId other) {folder : KeyFolder}
    (touched : Touched partitionDate other key folder) :
    key ≠ manifestKey partitionDate runId ∧ key ≠ qualityKey partitionDate runId ∧
      ¬ Under (curatedPrefix partitionDate runId) key ∧ ¬ Under (summaryPrefix partitionDate runId) key := by
  have latest : InFolder .manifests (latestKey partitionDate) := latestKey_folder
  refine ⟨fun same => ?_, fun same => ?_, fun under => ?_, fun under => ?_⟩
  · exact ((Touched.manifest same).shared touched).elim
      (fun last => manifestKey_latest (same.symm.trans last)) apart
  · exact ((Touched.quality same).shared touched).elim
      (fun last => absurd (folder_unique (same ▸ qualityKey_folder) (last ▸ latest)) (by decide)) apart
  · exact ((Touched.curated under).shared touched).elim
      (fun last => absurd (folder_unique (under.inFolder curatedPrefix_folder) (last ▸ latest)) (by decide)) apart
  · exact ((Touched.summary under).shared touched).elim
      (fun last => absurd (folder_unique (under.inFolder summaryPrefix_folder) (last ▸ latest)) (by decide)) apart

theorem executed_elsewhere (apart : safeRunId runId ≠ safeRunId other) {written : List (String × PipelineObject)}
    (wrote : Wrote spark partitionDate other output objects writes written) :
    (Bucket.puts objects written).lookup (manifestKey partitionDate runId) =
        objects.lookup (manifestKey partitionDate runId) ∧
      (Bucket.puts objects written).lookup (qualityKey partitionDate runId) =
        objects.lookup (qualityKey partitionDate runId) ∧
      ∀ key, Under (curatedPrefix partitionDate runId) key ∨ Under (summaryPrefix partitionDate runId) key →
        (key ∈ Bucket.puts objects written ↔ key ∈ objects) := by
  refine ⟨Bucket.lookup_puts_other fun member => ?_, Bucket.lookup_puts_other fun member => ?_, fun key under => ?_⟩
  · obtain ⟨_, touched⟩ := wrote.touched member
    exact (untouched apart touched).1 rfl
  · obtain ⟨_, touched⟩ := wrote.touched member
    exact (untouched apart touched).2.1 rfl
  · rw [Bucket.mem_puts, or_iff_left]
    intro member
    obtain ⟨_, touched⟩ := wrote.touched member
    exact under.elim (untouched apart touched).2.2.1 (untouched apart touched).2.2.2

/-! ### Executions of the run itself -/

/-- An execution that stops before its manifest leaves the published one as it was. -/
theorem stopped_published (published : Published partitionDate objects runId m) {frame : List RawInventoryRow}
    {data : List String} (passed : (qualityReport partitionDate runId frame).passed = true)
    (count : frame.length = m.inputRows) (marks : ∀ key ∈ data, key ∈ markerKeys partitionDate runId) :
    Published partitionDate (Bucket.puts objects ((qualityKey partitionDate runId,
      .quality (qualityReport partitionDate runId frame)) :: data.map (·, PipelineObject.data))) runId m := by
  have keys : (data.map (·, PipelineObject.data)).map Prod.fst = data := by simp [Function.comp_def]
  have elsewhere : qualityKey partitionDate runId ∉ (data.map (·, PipelineObject.data)).map Prod.fst := by
    rw [keys]
    exact fun member => not_under qualityKey_folder (by decide) (marker_under (marks _ member))
  apply published.frame
  · exact ⟨_, Bucket.lookup_puts_last [] elsewhere, passed, count⟩
  · intro key under
    rw [Bucket.mem_puts, List.map_cons, keys, List.mem_cons]
    constructor
    · rintro (present | rfl | written)
      · exact present
      · exact absurd under (not_under qualityKey_folder (by decide))
      · exact published.marked key (marks key written)
    · exact .inl

section
variable {report : QualityReport} {later : List (String × PipelineObject)}
  (last : ∀ key ∈ later.map Prod.fst, key = latestKey partitionDate)
include last

theorem publishing_report :
    (Bucket.puts objects (publishingWrites partitionDate runId output report m later)).lookup
      (qualityKey partitionDate runId) = some (.quality report) := by
  apply Bucket.lookup_puts_last []
  have keys : ((dataKeys partitionDate runId output).map (·, PipelineObject.data)).map Prod.fst =
      dataKeys partitionDate runId output := by simp [Function.comp_def]
  rw [List.map_append, keys, List.map_cons, List.mem_append, List.mem_cons]
  have quality : InFolder .quality (qualityKey partitionDate runId) := qualityKey_folder
  have manifests : InFolder .manifests (manifestKey partitionDate runId) := manifestKey_folder
  rintro (listed | same | latest)
  · exact not_under quality (by decide) (dataKeys_under listed)
  · have key : qualityKey partitionDate runId = manifestKey partitionDate runId := same
    exact absurd (folder_unique quality (key ▸ manifests)) (by decide)
  · exact absurd (folder_unique quality (last _ latest ▸ latestKey_folder)) (by decide)

theorem publishing_data {key : String}
    (under : Under (curatedPrefix partitionDate runId) key ∨ Under (summaryPrefix partitionDate runId) key) :
    key ∈ Bucket.puts objects (publishingWrites partitionDate runId output report m later) ↔
      key ∈ objects ∨ key ∈ dataKeys partitionDate runId output := by
  have keys : ((dataKeys partitionDate runId output).map (·, PipelineObject.data)).map Prod.fst =
      dataKeys partitionDate runId output := by simp [Function.comp_def]
  unfold publishingWrites
  rw [Bucket.mem_puts, List.map_cons, List.map_append, keys, List.map_cons, List.mem_cons, List.mem_append,
    List.mem_cons]
  constructor
  · rintro (before | rfl | listed | rfl | latest)
    · exact .inl before
    · exact absurd under (not_under qualityKey_folder (by decide))
    · exact .inr listed
    · exact absurd under (not_under manifestKey_folder (by decide))
    · exact absurd under (not_under (last key latest ▸ latestKey_folder) (by decide))
  · rintro (before | listed)
    · exact .inl before
    · exact .inr (.inr (.inl listed))

theorem publishing_manifest :
    (Bucket.puts objects (publishingWrites partitionDate runId output report m later)).lookup
      (manifestKey partitionDate runId) = some (.manifest m) := by
  have split : publishingWrites partitionDate runId output report m later =
      ((qualityKey partitionDate runId, .quality report) ::
        (dataKeys partitionDate runId output).map (·, PipelineObject.data)) ++
          (manifestKey partitionDate runId, .manifest m) :: later := rfl
  rw [split]
  exact Bucket.lookup_puts_last _ fun latest => manifestKey_latest (last _ latest)

/-- An execution that publishes lists all there is, when it found no more than the markers. -/
theorem published_now {sourceKeys : List String} {frame : List RawInventoryRow} {t : Transformed}
    (fresh : output.Fresh used) (passed : (qualityReport partitionDate runId frame).passed = true)
    (clear : ∀ key ∈ objects,
      Under (curatedPrefix partitionDate runId) key ∨ Under (summaryPrefix partitionDate runId) key →
        key ∈ markerKeys partitionDate runId) :
    Published partitionDate (Bucket.puts objects (publishingWrites partitionDate runId output
      (qualityReport partitionDate runId frame) (runManifest partitionDate runId output sourceKeys frame t) later))
      runId (runManifest partitionDate runId output sourceKeys frame t) := by
  obtain ⟨curatedMark, summaryMark⟩ := markers_uploaded partitionDate runId fresh
  refine ⟨⟨?_, ?_, ?_⟩, rfl, ?_⟩
  · exact ⟨_, publishing_report last, passed, rfl⟩
  · intro key
    constructor
    · intro listed
      exact ⟨(publishing_data last (.inl (curated_under listed))).mpr (.inr (List.mem_append_left _ listed)),
        curated_under listed⟩
    · rintro ⟨there, under⟩
      rcases (publishing_data last (.inl under)).mp there with before | listed
      · rcases List.mem_pair.mp (clear key before (.inl under)) with rfl | rfl
        · exact curatedMark
        · exact (curated_not_summary under (summary_under summaryMark)).elim
      · rcases List.mem_append.mp listed with mine | other
        · exact mine
        · exact (curated_not_summary under (summary_under other)).elim
  · intro key
    constructor
    · intro listed
      exact ⟨(publishing_data last (.inr (summary_under listed))).mpr (.inr (List.mem_append_right _ listed)),
        summary_under listed⟩
    · rintro ⟨there, under⟩
      rcases (publishing_data last (.inr under)).mp there with before | listed
      · rcases List.mem_pair.mp (clear key before (.inr under)) with rfl | rfl
        · exact (curated_not_summary (curated_under curatedMark) under).elim
        · exact summaryMark
      · rcases List.mem_append.mp listed with other | mine
        · exact (curated_not_summary (curated_under other) under).elim
        · exact mine
  · intro key member
    refine (publishing_data last (marker_under member)).mpr (.inr ?_)
    rcases List.mem_pair.mp member with rfl | rfl
    · exact List.mem_append_left _ curatedMark
    · exact List.mem_append_right _ summaryMark

end

/-! ### Runs -/

def AllPublished (partitionDate : CalendarDate) (objects : PipelineObjects) : Prop :=
  ∀ runId m, objects.lookup (manifestKey partitionDate runId) = some (.manifest m) →
    Published partitionDate objects runId m

theorem wrote_allPublished {written : List (String × PipelineObject)} (all : AllPublished partitionDate objects)
    (fresh : output.Fresh used) (undisturbed : Undisturbed spark partitionDate objects other output writes)
    (wrote : Wrote spark partitionDate other output objects writes written) :
    AllPublished partitionDate (Bucket.puts objects written) := by
  intro runId m found
  by_cases same : safeRunId runId = safeRunId other
  · have key : manifestKey partitionDate runId = manifestKey partitionDate other := manifestKey_inj.mpr same
    apply Published.of_same same.symm
    rw [key] at found
    cases wrote with
    | nothing => exact all other m found
    | stopped received begun within =>
      rw [Bucket.lookup_puts_other] at found
      · obtain ⟨passed, count, marks⟩ := undisturbed.repeating _ _ m received begun found
        exact stopped_published (all other m found) passed count fun key member => marks key (within key member)
      · simp only [List.map_cons, List.map_map, List.mem_cons, List.mem_map, Function.comp_apply, not_or, not_exists,
          not_and]
        constructor
        · intro clash
          exact absurd (folder_unique manifestKey_folder (clash ▸ qualityKey_folder)) (by decide)
        · rintro key member rfl
          exact not_under manifestKey_folder (by decide) (dataKeys_under (List.mem_of_mem_take (within _ member)))
    | published received passed reached last =>
      rw [publishing_manifest last] at found
      cases found
      exact published_now last fresh passed (undisturbed.publishing _ _ received passed reached)
  · obtain ⟨manifest, quality, data⟩ := executed_elsewhere same wrote
    rw [manifest] at found
    have published := all runId m found
    refine published.frame ?_ data
    rw [quality, ← published.reportKey]
    exact published.report

/-- Raw objects describe no run. -/
theorem raw_allPublished (all : AllPublished partitionDate objects)
    (elsewhere : ∀ key, ¬ InFolder .raw key → next.lookup key = objects.lookup key) :
    AllPublished partitionDate next := by
  intro runId m found
  have apart {key : String} {folder : KeyFolder} (place : InFolder folder key) (other : folder ≠ .raw) :
      next.lookup key = objects.lookup key := elsewhere key fun raw => other (folder_unique place raw)
  rw [apart manifestKey_folder (by decide)] at found
  have published := all runId m found
  refine published.frame ?_ fun key under => ?_
  · rw [apart qualityKey_folder (by decide), ← published.reportKey]
    exact published.report
  · rw [← AList.lookup_isSome, ← AList.lookup_isSome]
    rcases under with under | under
    · rw [apart (under.inFolder curatedPrefix_folder) (by decide)]
    · rw [apart (under.inFolder summaryPrefix_folder) (by decide)]

end

end

/-- Executions are undisturbed; raw objects may change at any time between them. -/
def UndisturbedStep (spark : Spark) (partitionDate : CalendarDate) (s : Pipeline) : PipelineLabel → Prop
  | .execute runId output writes => Undisturbed spark partitionDate s.objects runId output writes
  | _ => True

section
variable {spark : Spark} {partitionDate : CalendarDate} {s t : Pipeline} {l : PipelineLabel}

theorem step_allPublished (all : AllPublished partitionDate s.objects) (met : UndisturbedStep spark partitionDate s l)
    (next : s.step spark partitionDate l = some t) : AllPublished partitionDate t.objects := by
  cases l with
  | put name content =>
    obtain rfl := Option.some.inj next
    apply raw_allPublished all
    intro key other
    exact AList.lookup_insert_ne fun same => other (same ▸ sourcePrefix_folder name)
  | remove name =>
    obtain rfl := Option.some.inj next
    apply raw_allPublished all
    intro key other
    exact AList.lookup_erase_ne fun same => other (same ▸ sourcePrefix_folder name)
  | execute runId output writes =>
    unfold Pipeline.step at next
    simp only at next
    split at next
    · rename_i fresh
      obtain rfl := Option.some.inj next
      exact wrote_allPublished all fresh met runPipeline_writes
    · cases next

/-- In every run whose executions are undisturbed, what a manifest describes is what is published. -/
theorem manifests_described {runId : String} {m : RunManifest}
    (unpublished : ∀ runId, manifestKey partitionDate runId ∉ s.objects)
    (run : Machine.Run (Pipeline.step spark partitionDate) (UndisturbedStep spark partitionDate) s t)
    (found : t.objects.lookup (manifestKey partitionDate runId) = some (.manifest m)) :
    Described partitionDate t.objects runId m := by
  have all : AllPublished partitionDate t.objects := by
    refine run.invariant (P := fun s => AllPublished partitionDate s.objects) ?_ ?_
    · exact fun s l t all met next => step_allPublished all met next
    · intro runId m found
      exact absurd (AList.lookup_isSome.mp (found ▸ rfl)) (unpublished runId)
  exact (all runId m found).toDescribed

end

/-! ### A run that publishes, and one that is made again -/

namespace Small

def csv : String :=
  "event_date,supplier_code,product_sku,warehouse_code,on_hand_quantity,reserved_quantity,inbound_quantity," ++
    "forecast_quantity,actual_demand_quantity\n2026-01-15,supplier-a,SKU-1,WH-1,4,1,2,10,9\n"

def spark : Spark where
  readCsv files := .ok (files.flatMap fun file => if file.2 = csv then [rawRow] else [])
  approxQuantile

/-- The files of the two writes that Spark named by `id`. -/
def sparkOutput (id : String) : SparkOutput where
  curated := [["_SUCCESS"], ["warehouse_code=WH-1", "part-00000-" ++ id ++ ".c000.snappy.parquet"]]
  summary := [["_SUCCESS"], ["part-00000-" ++ id ++ "-summary.c000.snappy.parquet"]]

/-- The first execution stops at its first mark, before any part, and the second goes through. -/
def markedRun : List PipelineLabel :=
  [.put "inventory.csv" csv, .execute "manual" (sparkOutput "a") 2, .execute "manual" (sparkOutput "b") 7]

/-- The first execution stops after its first part. -/
def repeatedRun : List PipelineLabel :=
  [.put "inventory.csv" csv, .execute "manual" (sparkOutput "a") 3, .execute "manual" (sparkOutput "b") 7]

def isManual : PipelineLabel → Bool
  | .execute runId _ _ => runId = "manual"
  | _ => true

/-- Of data, there are at most the marks of the run. -/
def onlyMarked (s : Pipeline) : Bool := s.objects.keys.all fun key =>
  decide (key ∈ markerKeys day "manual") || [KeyFolder.raw, KeyFolder.quality].any fun folder =>
    folder.path.toList.isPrefixOf key.toList

theorem onlyMarked_undisturbed {spark : Spark} {s : Pipeline} (l : PipelineLabel)
    (shown : (isManual l && onlyMarked s) = true) : UndisturbedStep spark day s l := by
  obtain ⟨manual, marked⟩ := Bool.and_eq_true_iff.mp shown
  have places : ∀ key ∈ s.objects, key ∈ markerKeys day "manual" ∨
      ∃ folder : KeyFolder, InFolder folder key ∧ folder ∈ [KeyFolder.raw, KeyFolder.quality] := by
    intro key member
    rcases Bool.or_eq_true_iff.mp (List.all_eq_true.mp marked key (AList.mem_keys.mp member)) with mark | place
    · exact .inl (of_decide_eq_true mark)
    · obtain ⟨folder, listed, begins⟩ := List.any_eq_true.mp place
      obtain ⟨rest, same⟩ := List.isPrefixOf_iff_prefix.mp begins
      exact .inr ⟨folder, ⟨String.ofList rest, by rw [← String.toList_inj, String.toList_append, String.toList_ofList,
        same]⟩, listed⟩
  have elsewhere {folder : KeyFolder} (listed : folder ∈ [KeyFolder.raw, KeyFolder.quality]) :
      folder ≠ .curated ∧ folder ≠ .summary ∧ folder ≠ .manifests := by
    revert folder
    decide
  cases l with
  | put | remove => trivial
  | execute runId output writes =>
    obtain rfl : runId = "manual" := of_decide_eq_true manual
    constructor
    · intro _ _ _ _ _ key member under
      rcases places key member with mark | ⟨folder, place, listed⟩
      · exact mark
      · exact absurd under (not_under place ⟨(elsewhere listed).1, (elsewhere listed).2.1⟩)
    · intro _ _ m _ _ found
      have present : manifestKey day "manual" ∈ s.objects := AList.lookup_isSome.mp (found ▸ rfl)
      rcases places _ present with mark | ⟨folder, place, listed⟩
      · exact absurd (marker_under mark) (not_under manifestKey_folder (by decide))
      · exact absurd (folder_unique place manifestKey_folder) (elsewhere listed).2.2

end Small

theorem manifests_described_first :
    ∃ (t : Pipeline) (m : RunManifest), t.objects.lookup (manifestKey Small.day "manual") = some (.manifest m) ∧
      Described Small.day t.objects "manual" m := by
  have shown : (Machine.exec (Machine.checked (Pipeline.step Small.spark Small.day) fun s l =>
        Small.isManual l && Small.onlyMarked s) ⟨∅, []⟩ Small.markedRun).any (fun t =>
        (t.objects.lookup (manifestKey Small.day "manual")).any fun object => match object with
          | .manifest _ => true
          | _ => false) = true := by decide +kernel
  obtain ⟨t, steps, shown⟩ := (Option.any_eq_true _ _).mp shown
  obtain ⟨object, found, shown⟩ := (Option.any_eq_true _ _).mp shown
  cases object with
  | manifest m =>
    exact ⟨t, m, found, manifests_described (fun _ => AList.notMem_empty _)
      (Machine.exec_run_checked (fun _ l shown => Small.onlyMarked_undisturbed l shown) steps) found⟩
  | raw | quality | data => cases shown

/-- An execution stops after its first part and is made again: the part is left beside what the manifest lists. -/
theorem repeated_run_leaves_part :
    ∃ t m, Machine.Run (Pipeline.step Small.spark Small.day) Machine.unguarded ⟨∅, []⟩ t ∧
      t.objects.lookup (manifestKey Small.day "manual") = some (.manifest m) ∧
      ¬ Described Small.day t.objects "manual" m := by
  have shown : (Machine.exec (Pipeline.step Small.spark Small.day) ⟨∅, []⟩ Small.repeatedRun).any (fun t =>
      (t.objects.lookup (manifestKey Small.day "manual")).any fun object => match object with
        | .manifest m => decide (curatedPrefix Small.day "manual" ++ "/" ++
              "warehouse_code=WH-1/part-00000-a.c000.snappy.parquet" ∈ t.objects.keys ∧
            curatedPrefix Small.day "manual" ++ "/" ++
              "warehouse_code=WH-1/part-00000-a.c000.snappy.parquet" ∉ m.curatedKeys)
        | _ => false) = true := by decide +kernel
  obtain ⟨t, steps, shown⟩ := (Option.any_eq_true _ _).mp shown
  obtain ⟨object, found, shown⟩ := (Option.any_eq_true _ _).mp shown
  cases object with
  | manifest m =>
    obtain ⟨present, unlisted⟩ := of_decide_eq_true shown
    refine ⟨t, m, Machine.exec_run (fun _ _ _ => trivial) steps, found, fun described => unlisted ?_⟩
    exact (described.curated _).mpr ⟨AList.mem_keys.mpr present, _, rfl⟩
  | raw | quality | data => cases shown

end SupplyChainHub
