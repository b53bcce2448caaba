import Mathlib.Data.List.Basic
import SupplyChainHub.Domain.Values

/-!
The keys of `pipelines/historical_inventory.py`. A run id becomes part of them after its other characters are
rewritten and its end is cut off.
-/

namespace SupplyChainHub

structure CalendarDate where
  year : Nat
  month : Nat
  day : Nat
  deriving DecidableEq

def CalendarDate.isoformat (d : CalendarDate) : String :=
  padded 4 d.year ++ "-" ++ padded 2 d.month ++ "-" ++ padded 2 d.day

/-- `[A-Za-z0-9_.-]` -/
def keptInRunId (c : Char) : Bool := c.isAlphanum || c = '_' || c = '.' || c = '-'

def safeRunId (runId : String) : String :=
  String.ofList ((runId.toList.map fun c => if keptInRunId c then c else '_').take 180)

section
variable (partitionDate : CalendarDate) (runId : String)

def sourcePrefix : String := "raw/history/inventory/event_date=" ++ partitionDate.isoformat ++ "/"

def manifestKey : String :=
  "manifests/inventory-risk/event_date=" ++ partitionDate.isoformat ++ "/run_id=" ++ safeRunId runId ++ ".json"

def latestKey : String := "manifests/inventory-risk/event_date=" ++ partitionDate.isoformat ++ "/latest.json"

def qualityKey : String :=
  "quality/inventory/event_date=" ++ partitionDate.isoformat ++ "/run_id=" ++ safeRunId runId ++ ".json"

def curatedPrefix : String :=
  "curated/inventory-risk/event_date=" ++ partitionDate.isoformat ++ "/run_id=" ++ safeRunId runId

def summaryPrefix : String :=
  "curated/inventory-risk-summary/event_date=" ++ partitionDate.isoformat ++ "/run_id=" ++ safeRunId runId

end

/-- Where `upload_directory` puts a file. -/
def Under (destinationPrefix key : String) : Prop := ∃ relative, key = destinationPrefix ++ "/" ++ relative

/-- At one of the first 180 places the two ids differ, and not just in characters that are both written
as `_`. -/
def ToldApart (runId other : String) : Prop :=
  ∃ i < 180, runId.toList[i]? ≠ other.toList[i]? ∧
    ¬ ∃ c d, runId.toList[i]? = some c ∧ other.toList[i]? = some d ∧
      (c = '_' ∨ keptInRunId c = false) ∧ (d = '_' ∨ keptInRunId d = false)

section
variable {partitionDate : CalendarDate} {runId other key : String} {c d : Char}

theorem rewritten_eq : (if keptInRunId c then c else '_') = (if keptInRunId d then d else '_') ↔
    c = d ∨ (c = '_' ∨ keptInRunId c = false) ∧ (d = '_' ∨ keptInRunId d = false) := by
  by_cases kept : keptInRunId c = true <;> by_cases kept' : keptInRunId d = true
  · simp only [kept, kept', if_true, Bool.true_eq_false, or_false]
    constructor
    · exact .inl
    · rintro (same | ⟨rfl, rfl⟩)
      · exact same
      · rfl
  · simp only [kept, kept', if_true, Bool.false_eq_true, if_false, Bool.true_eq_false, or_false, or_true, and_true]
    constructor
    · exact .inr
    · rintro (rfl | same)
      · exact absurd kept kept'
      · exact same
  · simp only [kept, kept', if_true, Bool.false_eq_true, if_false, Bool.true_eq_false, or_false, or_true, true_and]
    constructor
    · exact fun same => .inr same.symm
    · rintro (rfl | same)
      · exact absurd kept' kept
      · exact same.symm
  · simp only [kept, kept', Bool.false_eq_true, if_false, or_true, and_self]

theorem rewritten_at {x y : Option Char} :
    x.map (fun c => if keptInRunId c then c else '_') = y.map (fun c => if keptInRunId c then c else '_') ↔
      x = y ∨ ∃ c d, x = some c ∧ y = some d ∧ (c = '_' ∨ keptInRunId c = false) ∧
        (d = '_' ∨ keptInRunId d = false) := by
  cases x with
  | none => cases y <;> simp
  | some c =>
    cases y with
    | none => simp
    | some d =>
      rw [Option.map_some, Option.map_some, Option.some_inj, Option.some_inj, rewritten_eq]
      constructor
      · exact Or.imp_right fun both => ⟨c, d, rfl, rfl, both⟩
      · rintro (same | ⟨_, _, first, second, both⟩)
        · exact .inl same
        · obtain rfl := Option.some.inj first
          obtain rfl := Option.some.inj second
          exact .inr both

theorem safeRunId_eq : safeRunId runId = safeRunId other ↔ ¬ ToldApart runId other := by
  unfold safeRunId ToldApart
  rw [String.ofList_inj, List.ext_getElem?_iff]
  constructor
  · rintro same ⟨i, early, differ, apart⟩
    have here := same i
    rw [List.getElem?_take_of_lt early, List.getElem?_take_of_lt early, List.getElem?_map, List.getElem?_map,
      rewritten_at] at here
    exact here.elim differ apart
  · intro alike i
    by_cases early : i < 180
    · rw [List.getElem?_take_of_lt early, List.getElem?_take_of_lt early, List.getElem?_map, List.getElem?_map,
        rewritten_at]
      by_contra apart
      rw [not_or] at apart
      exact alike ⟨i, early, apart.1, apart.2⟩
    · rw [List.getElem?_take_eq_none (by omega), List.getElem?_take_eq_none (by omega)]

theorem manifestKey_inj : manifestKey partitionDate runId = manifestKey partitionDate other ↔
    safeRunId runId = safeRunId other := by
  unfold manifestKey
  rw [String.append_left_inj, String.append_right_inj]

theorem qualityKey_inj : qualityKey partitionDate runId = qualityKey partitionDate other ↔
    safeRunId runId = safeRunId other := by
  unfold qualityKey
  rw [String.append_left_inj, String.append_right_inj]

theorem curatedPrefix_inj : curatedPrefix partitionDate runId = curatedPrefix partitionDate other ↔
    safeRunId runId = safeRunId other := by
  unfold curatedPrefix
  rw [String.append_right_inj]

theorem summaryPrefix_inj : summaryPrefix partitionDate runId = summaryPrefix partitionDate other ↔
    safeRunId runId = safeRunId other := by
  unfold summaryPrefix
  rw [String.append_right_inj]

theorem safeRunId_no_slash : '/' ∉ (safeRunId runId).toList := by
  unfold safeRunId
  rw [String.toList_ofList]
  intro member
  obtain ⟨c, -, same⟩ := List.mem_map.mp (List.mem_of_mem_take member)
  split at same
  · rename_i kept
    subst same
    exact absurd kept (by decide)
  · exact absurd same (by decide)

/-- Keys whose fixed beginnings part ways are different keys. -/
theorem beginnings_differ {a b x y : String} (apart : ¬ a.toList <+: b.toList ∧ ¬ b.toList <+: a.toList) :
    a ++ x ≠ b ++ y := by
  intro same
  have chars := congrArg String.toList same
  rw [String.toList_append, String.toList_append] at chars
  have first : a.toList <+: b.toList ++ y.toList := chars ▸ List.prefix_append _ _
  rcases List.prefix_or_prefix_of_prefix first (List.prefix_append b.toList y.toList) with inside | inside
  · exact apart.1 inside
  · exact apart.2 inside

theorem before_slash {xs ys rest rest' : List Char} (free : '/' ∉ xs) (free' : '/' ∉ ys)
    (same : xs ++ '/' :: rest = ys ++ '/' :: rest') : xs = ys := by
  have stops (zs : List Char) (free : '/' ∉ zs) (rest : List Char) :
      (zs ++ '/' :: rest).takeWhile (· ≠ '/') = zs := by
    rw [List.takeWhile_append_of_pos]
    · simp
    · intro c member
      simp only [decide_eq_true_eq]
      rintro rfl
      exact free member
  rw [← stops xs free rest, same, stops ys free' rest']

/-- No run's keys are under another's prefix. -/
theorem run_under {base relative relative' : String}
    (same : base ++ safeRunId runId ++ "/" ++ relative = base ++ safeRunId other ++ "/" ++ relative') :
    safeRunId runId = safeRunId other := by
  simp only [String.append_assoc, String.append_right_inj] at same
  have chars := congrArg String.toList same
  have slash : "/".toList = ['/'] := by decide
  simp only [String.toList_append, slash, List.singleton_append] at chars
  exact String.toList_inj.mp (before_slash safeRunId_no_slash safeRunId_no_slash chars)

theorem under_curated (under : Under (curatedPrefix partitionDate runId) key)
    (under' : Under (curatedPrefix partitionDate other) key) : safeRunId runId = safeRunId other := by
  obtain ⟨relative, rfl⟩ := under
  obtain ⟨relative', same⟩ := under'
  exact run_under same

theorem under_summary (under : Under (summaryPrefix partitionDate runId) key)
    (under' : Under (summaryPrefix partitionDate other) key) : safeRunId runId = safeRunId other := by
  obtain ⟨relative, rfl⟩ := under
  obtain ⟨relative', same⟩ := under'
  exact run_under same

end

/-! ### Folders -/

/-- What the keys of a kind begin with. -/
inductive KeyFolder where
  | raw | manifests | quality | curated | summary
  deriving DecidableEq

def KeyFolder.path : KeyFolder → String
  | .raw => "raw/history/inventory/event_date="
  | .manifests => "manifests/inventory-risk/event_date="
  | .quality => "quality/inventory/event_date="
  | .curated => "curated/inventory-risk/event_date="
  | .summary => "curated/inventory-risk-summary/event_date="

def InFolder (folder : KeyFolder) (key : String) : Prop := ∃ rest, key = folder.path ++ rest

section
variable {partitionDate : CalendarDate} {runId other key : String} {folder folder' : KeyFolder}

theorem folder_unique (first : InFolder folder key) (second : InFolder folder' key) : folder = folder' := by
  obtain ⟨x, rfl⟩ := first
  obtain ⟨y, same⟩ := second
  by_contra ne
  cases folder <;> cases folder' <;> first | exact ne rfl | exact beginnings_differ (by decide) same

theorem sourcePrefix_folder (relative : String) : InFolder .raw (sourcePrefix partitionDate ++ relative) := by
  refine ⟨partitionDate.isoformat ++ ("/" ++ relative), ?_⟩
  unfold sourcePrefix
  rw [String.append_assoc, String.append_assoc]
  rfl

theorem manifestKey_folder : InFolder .manifests (manifestKey partitionDate runId) := by
  refine ⟨partitionDate.isoformat ++ ("/run_id=" ++ (safeRunId runId ++ ".json")), ?_⟩
  unfold manifestKey
  rw [String.append_assoc, String.append_assoc, String.append_assoc]
  rfl

theorem latestKey_folder : InFolder .manifests (latestKey partitionDate) := by
  refine ⟨partitionDate.isoformat ++ "/latest.json", ?_⟩
  unfold latestKey
  rw [String.append_assoc]
  rfl

theorem qualityKey_folder : InFolder .quality (qualityKey partitionDate runId) := by
  refine ⟨partitionDate.isoformat ++ ("/run_id=" ++ (safeRunId runId ++ ".json")), ?_⟩
  unfold qualityKey
  rw [String.append_assoc, String.append_assoc, String.append_assoc]
  rfl

theorem curatedPrefix_folder : InFolder .curated (curatedPrefix partitionDate runId) := by
  refine ⟨partitionDate.isoformat ++ ("/run_id=" ++ safeRunId runId), ?_⟩
  unfold curatedPrefix
  rw [String.append_assoc, String.append_assoc]
  rfl

theorem summaryPrefix_folder : InFolder .summary (summaryPrefix partitionDate runId) := by
  refine ⟨partitionDate.isoformat ++ ("/run_id=" ++ safeRunId runId), ?_⟩
  unfold summaryPrefix
  rw [String.append_assoc, String.append_assoc]
  rfl

theorem Under.inFolder {destination : String} (within : InFolder folder destination) (under : Under destination key) :
    InFolder folder key := by
  obtain ⟨rest, rfl⟩ := within
  obtain ⟨relative, rfl⟩ := under
  exact ⟨rest ++ ("/" ++ relative), by rw [String.append_assoc, String.append_assoc]⟩

theorem manifestKey_latest : manifestKey partitionDate runId ≠ latestKey partitionDate := by
  unfold manifestKey latestKey
  simp only [String.append_assoc, ne_eq, String.append_right_inj]
  exact beginnings_differ (b := "/latest.json") (y := "") (by decide)

end

end SupplyChainHub
