import SupplyChainHub.Library.Continuations
import SupplyChainHub.Pipelines.Archive

/-!
`list_learning_pipelines` of `api/routes/learning.py`, over `S3ObjectStore.list_keys`, while executions go on writing:
each request to the object store is answered from the bucket of its time.
-/

namespace SupplyChainHub

open Continuations (Response Serves collect)

/-! ### The calls -/

/-- `S3ObjectStore.list_keys`; what it raises is of `ClientError` or `BotoCoreError`. -/
def listStoredKeys (keyPrefix : String) (listObjects : Nat → Option String → Except Raised (Response String String))
    (fuel : Nat) : Option (Except Raised (List String)) :=
  (collect listObjects fuel 0 none []).map fun collected =>
    match collected with
    | .error _ => .error ⟨[], "Could not list objects under '" ++ keyPrefix ++ "'."⟩
    | .ok keys => .ok (keys.insertionSort (· ≤ ·))

structure LearningPipelineRun where
  manifestKey : String
  status : String
  partitionDate : Option String
  runId : Option String
  inputRows : Option Nat
  curatedObjectCount : Nat
  summaryObjectCount : Nat
  deriving DecidableEq

def learningPrefix : String := "manifests/inventory-risk/"

def endsWith (ending key : String) : Bool := ending.toList.isSuffixOf key.toList

/-- The keys that are not copies of the latest manifest. -/
def isRunManifest (key : String) : Bool := endsWith ".json" key && !endsWith "/latest.json" key

def RunManifest.learningRun (m : RunManifest) (key : String) : LearningPipelineRun where
  manifestKey := key
  status := m.status
  partitionDate := some m.partitionDate.isoformat
  runId := some m.runId
  inputRows := some m.inputRows
  curatedObjectCount := m.curatedKeys.length
  summaryObjectCount := m.summaryKeys.length

/-- What is read of a JSON object; what is none is left out. -/
def learningPipelineRun (key : String) : PipelineObject → Option LearningPipelineRun
  | .manifest m => some (m.learningRun key)
  | .quality report => some {
      manifestKey := key
      status := "unknown"
      partitionDate := some report.partitionDate.isoformat
      runId := some report.runId
      inputRows := some report.inputRows
      curatedObjectCount := 0
      summaryObjectCount := 0 }
  | .raw _ | .data => none

/-- `get` is `none` where the store raises. -/
def listLearningPipelines (listing : Except Raised (List String)) (get : String → Option PipelineObject) (limit : Nat) :
    List LearningPipelineRun :=
  match listing with
  | .error _ => []
  | .ok listed =>
    let keys := listed.filter isRunManifest
    (keys.drop (keys.length - limit)).reverse.filterMap fun key => (get key).bind (learningPipelineRun key)

/-! ### Keys of manifests -/

section
variable {partitionDate d e : CalendarDate} {runId other key : String} {spark : Spark} {s t : Archive}
  {m : RunManifest}

theorem after_last_slash {xs ys rest rest' : List Char} (free : '/' ∉ xs) (free' : '/' ∉ ys)
    (same : rest ++ '/' :: xs = rest' ++ '/' :: ys) : xs = ys := by
  have reversed := congrArg List.reverse same
  simp only [List.reverse_append, List.reverse_cons, List.append_assoc, List.singleton_append] at reversed
  exact List.reverse_inj.mp (before_slash (mt List.mem_reverse.mp free) (mt List.mem_reverse.mp free') reversed)

/-- The name of a manifest is that of its run. -/
theorem manifestKey_isRunManifest : isRunManifest (manifestKey partitionDate runId) = true := by
  have json : endsWith ".json" (manifestKey partitionDate runId) = true := by
    unfold endsWith manifestKey
    rw [String.toList_append]
    exact List.isSuffixOf_iff_suffix.mpr (List.suffix_append _ _)
  have own : endsWith "/latest.json" (manifestKey partitionDate runId) = false := by
    rw [endsWith, ← Bool.not_eq_true, List.isSuffixOf_iff_suffix]
    rintro ⟨folder, same⟩
    have slash : "/run_id=" = "/" ++ "run_id=" := by decide
    have parts : manifestKey partitionDate runId = "manifests/inventory-risk/event_date=" ++ partitionDate.isoformat ++
        ("/" ++ ("run_id=" ++ safeRunId runId ++ ".json")) := by
      unfold manifestKey
      rw [slash]
      simp only [String.append_assoc]
    have name : '/' ∉ ("run_id=" ++ safeRunId runId ++ ".json").toList := by
      simp only [String.toList_append, List.mem_append, safeRunId_no_slash, or_false]
      decide
    rw [parts, String.toList_append, String.toList_append (s := "/")] at same
    have names : "latest.json".toList = ("run_id=" ++ safeRunId runId ++ ".json").toList :=
      after_last_slash (by decide) name same
    have letters := congrArg List.head? names
    simp at letters
  rw [isRunManifest, json, own]
  rfl

theorem latestKey_not_run : isRunManifest (latestKey partitionDate) = false := by
  have latest : endsWith "/latest.json" (latestKey partitionDate) = true := by
    unfold endsWith latestKey
    rw [String.toList_append]
    exact List.isSuffixOf_iff_suffix.mpr (List.suffix_append _ _)
  rw [isRunManifest, latest, Bool.not_true, Bool.and_false]

theorem manifestKey_prefix : learningPrefix.toList <+: (manifestKey partitionDate runId).toList := by
  unfold manifestKey
  have begins : "manifests/inventory-risk/event_date=" = learningPrefix ++ "event_date=" := by decide
  rw [begins]
  simp only [String.append_assoc, String.toList_append]
  exact List.prefix_append _ _

/-- Manifests of later days have greater keys. -/
theorem manifestKey_lt (first : d.Valid) (second : e.Valid) (before : d.Before e) :
    manifestKey d runId < manifestKey e other := by
  unfold manifestKey
  simp only [String.lt_iff_toList_lt, String.toList_append, List.append_assoc]
  refine (Numerals.append_lt_append rfl).mpr (.inr ⟨rfl, ?_⟩)
  refine (Numerals.append_lt_append ?_).mpr (.inl (isoformat_lt first second before))
  rw [isoformat_length first, isoformat_length second]

theorem ordinal_le_of_key (first : d.Valid) (second : e.Valid) (le : manifestKey d runId ≤ manifestKey e other) :
    d.ordinal ≤ e.ordinal := by
  by_contra less
  have before := (ordinal_lt_iff second first).mp (by omega)
  exact absurd (manifestKey_lt second first before) (not_lt.mpr le)

/-- What is listed of a bucket under the prefix, and is no copy, is the manifest of a run. -/
theorem stored_manifest (sound : pipelineScheme.Sound s) (present : key ∈ s.objects)
    (within : learningPrefix.toList <+: key.toList) (listed : isRunManifest key = true) :
    ∃ m, s.objects.lookup key = some (.manifest m) ∧ m.partitionDate.Valid ∧
      key = manifestKey m.partitionDate m.runId := by
  obtain ⟨object, found, allowed⟩ := stored_object sound present
  obtain ⟨rest, begins⟩ := within
  have key_eq : key = learningPrefix ++ String.ofList rest := by
    rw [← String.toList_inj, String.toList_append, String.toList_ofList, begins]
  have elsewhere {folder : KeyFolder} (place : InFolder folder key)
      (apart : ¬ folder.path.toList <+: learningPrefix.toList ∧ ¬ learningPrefix.toList <+: folder.path.toList) :
      False := by
    obtain ⟨rest', same⟩ := place
    exact beginnings_differ apart (same.symm.trans key_eq)
  cases object with
  | raw content => exact (elsewhere (allowed : InFolder .raw key) (by decide)).elim
  | quality report =>
    have place : InFolder .quality key := (allowed : key = _) ▸ qualityKey_folder
    exact (elsewhere place (by decide)).elim
  | data =>
    rcases (allowed : InFolder .curated key ∨ InFolder .summary key) with place | place
    · exact (elsewhere place (by decide)).elim
    · exact (elsewhere place (by decide)).elim
  | manifest m =>
    obtain ⟨valid, -, -, -, -, own | copy⟩ := allowed
    · exact ⟨m, found, valid, own⟩
    · rw [copy, latestKey_not_run] at listed
      cases listed

/-! ### What is listed -/

/-- The manifests behind keys that all lead to one. -/
theorem read_manifests {get : String → Option PipelineObject} {Q : RunManifest → Prop} {keys : List String}
    (leads : ∀ key ∈ keys, ∃ m, get key = some (.manifest m) ∧ key = manifestKey m.partitionDate m.runId ∧ Q m) :
    ∃ ms : List RunManifest, keys = ms.map (fun m => manifestKey m.partitionDate m.runId) ∧ (∀ m ∈ ms, Q m) ∧
      (keys.filterMap fun key => (get key).bind (learningPipelineRun key)) =
        ms.map fun m => m.learningRun (manifestKey m.partitionDate m.runId) := by
  induction keys with
  | nil => exact ⟨[], rfl, List.forall_mem_nil _, rfl⟩
  | cons key rest ih =>
    obtain ⟨⟨m, found, own, holds⟩, others⟩ := List.forall_mem_cons.mp leads
    obtain ⟨ms, rfl, all, read⟩ := ih others
    refine ⟨m :: ms, by rw [List.map_cons, ← own], List.forall_mem_cons.mpr ⟨holds, all⟩, ?_⟩
    rw [List.filterMap_cons_some (b := m.learningRun key), read, List.map_cons, ← own]
    rw [found]
    rfl

/-- Of a sorted list, what is before the last `limit` entries is below each of them. -/
theorem last_entries {keys : List String} {limit : Nat} (sorted : keys.Pairwise (· < ·)) (present : key ∈ keys) :
    key ∈ keys.drop (keys.length - limit) ∨
      (keys.drop (keys.length - limit)).length = limit ∧ ∀ k ∈ keys.drop (keys.length - limit), key < k := by
  have parts := List.take_append_drop (keys.length - limit) keys
  rw [← parts] at sorted present
  rcases List.mem_append.mp present with early | late
  · refine .inr ⟨?_, fun k member => (List.pairwise_append.mp sorted).2.2 key early k member⟩
    have some := List.length_pos_of_mem early
    rw [List.length_take] at some
    rw [List.length_drop]
    omega
  · exact .inl late

section
variable {S : Nat → Archive} {position : String → String} {fuel : Nat} {keys : List String}
  {listObjects : Nat → Option String → Except Raised (Response String String)} {get : String → Option PipelineObject}

theorem archive_run_le (goes : ∀ n, Archive.Run spark (S n) (S (n + 1))) {n k : Nat} (le : n ≤ k) :
    Archive.Run spark (S n) (S k) := by
  induction le with
  | refl => exact .refl _
  | step _ ih => exact ih.trans (goes _)

/-- A manifest as it was read at some time, when all that it lists was there to stay. -/
structure ReadComplete (S : Nat → Archive) (get : String → Option PipelineObject) (fuel : Nat) (m : RunManifest) :
    Prop where
  got : get (manifestKey m.partitionDate m.runId) = some (.manifest m)
  stored : ∃ n ≥ fuel, (S n).objects.lookup (manifestKey m.partitionDate m.runId) = some (.manifest m) ∧
    ∀ later ≥ n, m.Complete (S later).objects

/-- Whatever executions write while the listing is made, it ends, if there are ever only so many keys. It names the
manifests of so many runs, each once, by key from the last to the first and so by day, and all that such a manifest
lists is there when it is read. No run that had a manifest before is left out for one of an earlier day. -/
theorem recent_runs_listed (start : Archive.Run spark ⟨∅, []⟩ (S 0))
    (goes : ∀ n, Archive.Run spark (S n) (S (n + 1)))
    (serves : Serves (fun n key => key ∈ (S n).objects ∧ learningPrefix.toList <+: key.toList) position listObjects)
    (answers : ∀ n token, ∃ response, listObjects n token = .ok response)
    (pool : List String) (within : ∀ n, ∀ key ∈ (S n).objects, key ∈ pool) (enough : pool.length < fuel)
    (reads : ∀ key, ∃ n ≥ fuel, get key = (S n).objects.lookup key) (limit : Nat) :
    ∃ (keys : List String) (ms : List RunManifest),
      listStoredKeys learningPrefix listObjects fuel = some (.ok keys) ∧
      listLearningPipelines (.ok keys) get limit =
        ms.map (fun m => m.learningRun (manifestKey m.partitionDate m.runId)) ∧
      ms.length ≤ limit ∧
      (ms.map fun m => manifestKey m.partitionDate m.runId).Pairwise (· > ·) ∧
      ms.Pairwise (fun m later => later.partitionDate.ordinal ≤ m.partitionDate.ordinal) ∧
      (∀ m ∈ ms, ReadComplete S get fuel m) ∧
      ∀ m, (S 0).objects.lookup (manifestKey m.partitionDate m.runId) = some (.manifest m) →
        (∃ listed ∈ ms, manifestKey listed.partitionDate listed.runId = manifestKey m.partitionDate m.runId) ∨
          ms.length = limit ∧ ∀ listed ∈ ms, m.partitionDate.ordinal ≤ listed.partitionDate.ordinal := by
  have reached (n : Nat) : Archive.Run spark ⟨∅, []⟩ (S n) := start.trans (archive_run_le goes (Nat.zero_le n))
  have sound (n : Nat) : pipelineScheme.Sound (S n) := Archive.run_sound pipelineScheme.empty_sound (reached n)
  obtain ⟨all, ended, gathered⟩ := Continuations.collect_all serves answers pool
    (fun n key there => within n key there.1) enough
  have kept := gathered.sorted.filter isRunManifest
  let keys := all.filter isRunManifest
  have leads : ∀ key ∈ keys, ∃ m, get key = some (.manifest m) ∧ key = manifestKey m.partitionDate m.runId ∧
      m.partitionDate.Valid ∧ ReadComplete S get fuel m := by
    intro key member
    obtain ⟨listed, isRun⟩ := List.mem_filter.mp member
    obtain ⟨n, -, before, present, begins⟩ := gathered.sound key listed
    obtain ⟨_, -, -, named⟩ := stored_manifest (sound n) present begins isRun
    obtain ⟨k, after, got⟩ := reads key
    have still : key ∈ (S k).objects := Archive.run_keeps (lasts (named ▸ manifestKey_folder) (by decide)) present
      (archive_run_le goes (by omega))
    obtain ⟨m, found, valid, own⟩ := stored_manifest (sound k) still begins isRun
    have read : get key = some (.manifest m) := got.trans found
    refine ⟨m, read, own, valid, own ▸ read, k, after, own ▸ found, fun later since => ?_⟩
    exact listed_complete (sound k) found (archive_run_le goes since)
  have tail : keys.drop (keys.length - limit) ⊆ keys := List.drop_subset _ _
  obtain ⟨ms, names, read, reading⟩ := read_manifests fun key member => leads key (tail (List.mem_reverse.mp member))
  have length : ms.length = (keys.drop (keys.length - limit)).length := by
    have counted := congrArg List.length names
    rwa [List.length_reverse, List.length_map, eq_comm] at counted
  have descending := List.pairwise_reverse.mpr (kept.drop (i := keys.length - limit))
  have inside (k : String) :
      k ∈ keys.drop (keys.length - limit) ↔ k ∈ ms.map fun m => manifestKey m.partitionDate m.runId := by
    rw [← names, List.mem_reverse]
  rw [names] at descending
  refine ⟨all, ms, ?_, reading, ?_, descending, ?_, fun m member => (read m member).2, ?_⟩
  · have same : all.insertionSort (· ≤ ·) = all := (gathered.sorted.imp le_of_lt).insertionSort_eq
    rw [listStoredKeys, ended]
    exact congrArg (fun keys => some (Except.ok keys)) same
  · rw [length, List.length_drop]
    omega
  · exact (List.pairwise_map.mp descending).imp_of_mem fun first second greater =>
      ordinal_le_of_key (read _ second).1 (read _ first).1 (le_of_lt greater)
  · intro m found
    have present : manifestKey m.partitionDate m.runId ∈ (S 0).objects := by
      rw [← AList.lookup_isSome, found]
      rfl
    have valid : m.partitionDate.Valid := ((sound 0).stored _ _ found).1.1
    have listed := gathered.complete (manifestKey m.partitionDate m.runId) nofun fun n _ _ =>
      ⟨Archive.run_keeps (lasts manifestKey_folder (by decide)) present (archive_run_le goes (Nat.zero_le n)),
        manifestKey_prefix⟩
    rcases last_entries kept (List.mem_filter.mpr ⟨listed, manifestKey_isRunManifest⟩) with late | ⟨full, below⟩
    · obtain ⟨other, member, own⟩ := List.mem_map.mp ((inside _).mp late)
      exact .inl ⟨other, member, own⟩
    · refine .inr ⟨length.trans full, fun other member => ?_⟩
      have greater := below _ ((inside _).mpr (List.mem_map_of_mem member))
      exact ordinal_le_of_key valid (read other member).1 (le_of_lt greater)

end

end

/-! ### A run that ends between two responses -/

namespace Small

/-- The first response is given before, the others are given after. -/
def between (before after : Archive) : Nat → Archive
  | 0 => before
  | _ + 1 => after

/-- One key in each response. -/
def listOne (before after : Archive) (n : Nat) (token : Option String) : Except Raised (Response String String) :=
  .ok (Continuations.truncated 1 (listKeys (between before after n).objects learningPrefix) token)

theorem listOne_serves (before after : Archive) :
    Serves (fun n key => key ∈ (between before after n).objects ∧ learningPrefix.toList <+: key.toList) id
      (listOne before after) := by
  have kept := Continuations.truncated_serves (ε := Raised)
    (fun n : Nat => listKeys_sorted (between before after n).objects learningPrefix) (show 0 < 1 by decide)
  simp only [mem_listKeys] at kept
  exact kept

theorem between_goes {before after : Archive} (later : Archive.Run spark before after) (n : Nat) :
    Archive.Run spark (between before after n) (between before after (n + 1)) := by
  cases n with
  | zero => exact later
  | succ n => exact .refl after

theorem between_within {before after : Archive} (grown : before.objects.keys.all (· ∈ after.objects.keys) = true)
    (n : Nat) (key : String) (present : key ∈ (between before after n).objects) : key ∈ after.objects.keys := by
  cases n with
  | zero => exact of_decide_eq_true (List.all_eq_true.mp grown key (AList.mem_keys.mp present))
  | succ n => exact AList.mem_keys.mp present

def listsNightlyFirst (listing : Option (Except Raised (List String))) (get : String → Option PipelineObject) : Bool :=
  match listing with
  | some listed => (listLearningPipelines listed get 20).map (fun run => run.runId) == [some "nightly", some "manual"]
  | none => false

end Small

theorem recent_runs_listed_manual : ∃ (before after : Archive) (keys : List String) (ms : List RunManifest),
    before.objects.lookup (manifestKey Small.day "nightly") = none ∧
    listStoredKeys learningPrefix (Small.listOne before after) (after.objects.keys.length + 1) = some (.ok keys) ∧
    listLearningPipelines (.ok keys) after.objects.lookup 20 =
      ms.map (fun m => m.learningRun (manifestKey m.partitionDate m.runId)) ∧
    ms.map RunManifest.runId = ["nightly", "manual"] ∧ ∀ m ∈ ms, m.Complete after.objects := by
  have shown : (Machine.exec (Archive.step Small.spark) ⟨∅, []⟩ Small.overtakenRun).any (fun before =>
      (before.objects.lookup (manifestKey Small.day "nightly")).isNone &&
        (Machine.exec (Archive.step Small.spark) before (List.replicate 4 (.write 1))).any fun after =>
          before.objects.keys.all (· ∈ after.objects.keys) &&
            Small.listsNightlyFirst (listStoredKeys learningPrefix (Small.listOne before after)
              (after.objects.keys.length + 1)) after.objects.lookup) = true := by decide +kernel
  obtain ⟨before, steps, shown⟩ := (Option.any_eq_true _ _).mp shown
  obtain ⟨absent, shown⟩ := Bool.and_eq_true_iff.mp shown
  obtain ⟨after, later, shown⟩ := (Option.any_eq_true _ _).mp shown
  obtain ⟨grown, listed⟩ := Bool.and_eq_true_iff.mp shown
  have goes := Small.between_goes (Machine.exec_run (fun _ _ _ => trivial) later)
  have reads (key : String) : ∃ n ≥ after.objects.keys.length + 1,
      after.objects.lookup key = (Small.between before after n).objects.lookup key :=
    ⟨_, le_rfl, rfl⟩
  obtain ⟨keys, ms, listing, runs, -, -, -, complete, -⟩ := recent_runs_listed
    (Machine.exec_run (fun _ _ _ => trivial) steps) goes (Small.listOne_serves before after) (fun _ _ => ⟨_, rfl⟩)
    after.objects.keys (Small.between_within grown) (Nat.lt_succ_self _) reads 20
  rw [listing] at listed
  have names : (listLearningPipelines (.ok keys) after.objects.lookup 20).map (fun run => run.runId) =
      [some "nightly", some "manual"] := eq_of_beq listed
  rw [runs, List.map_map] at names
  have ids : (ms.map RunManifest.runId).map some = ["nightly", "manual"].map some := by
    rw [List.map_map]
    exact names
  refine ⟨before, after, keys, ms, Option.isNone_iff_eq_none.mp absent, listing, runs,
    List.map_injective_iff.mpr (Option.some_injective _) ids, fun m member => ?_⟩
  obtain ⟨n, since, -, there⟩ := (complete m member).stored
  obtain ⟨round, rfl⟩ : ∃ round, n = round + 1 := ⟨n - 1, by omega⟩
  exact there _ le_rfl

end SupplyChainHub
