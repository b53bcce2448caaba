import Mathlib.Data.List.Nodup
import SupplyChainHub.Database.Rows
import SupplyChainHub.Library.Cursors

/-!
The cursor of `list_import_events`. The listing is ordered by `occurred_at` and `id`; a page resumes at the
`occurred_at` of the event it comes after, so that it starts again with whatever shares that time.
-/

namespace SupplyChainHub

/-- A row of `operation_events`, under its random id. -/
structure OperationEventRow extends OperationEvent where
  id : Id
  deriving DecidableEq

structure OperationEvents where
  rows : List OperationEventRow
  primaryKey : (rows.map (·.id)).Nodup

namespace OperationEvents

/-- The columns of the `ORDER BY`. -/
def stamps : Cursors.Stamps OperationEventRow Timestamp Id where
  time := (·.occurredAt)
  id := (·.id)

def eventsOf (table : OperationEvents) (importJobId : Id) : List OperationEventRow :=
  table.rows.filter fun e => e.importJobId = importJobId

def listImportEvents (table : OperationEvents) (importJobId : Id) (afterId : Option Id := none) :
    List OperationEventRow :=
  let statement := table.eventsOf importJobId
  match afterId with
  | none => stamps.ordered statement
  | some afterId =>
    match table.rows.find? fun e => e.id = afterId with
    | none => stamps.ordered statement
    | some priorEvent => stamps.ordered
      (statement.filter fun e => priorEvent.occurredAt ≤ e.occurredAt ∧ e.id ≠ priorEvent.id)

/-- The page after `e` is what follows `e` in the listing. -/
def Resumes (table : OperationEvents) (importJobId : Id) (e : OperationEventRow) : Prop :=
  ∀ before after, table.listImportEvents importJobId = before ++ e :: after →
    table.listImportEvents importJobId (some e.id) = after

/-- A client that reads page after page, each from the last event it has seen, sees the events of the listing in
their order and each of them once. -/
def ReadsOnce (table : OperationEvents) (importJobId : Id) : Prop :=
  ∀ seen, Cursors.Reading (table.listImportEvents importJobId)
    (fun e => table.listImportEvents importJobId (some e.id)) seen → seen <+: table.listImportEvents importJobId

section
variable {table : OperationEvents} {importJobId : Id} {e other : OperationEventRow}

theorem same_row (present : e ∈ table.rows) (found : other ∈ table.rows) (same : e.id = other.id) : e = other :=
  List.inj_on_of_nodup_map table.primaryKey present found same

theorem mem_eventsOf : e ∈ table.eventsOf importJobId ↔ e ∈ table.rows ∧ e.importJobId = importJobId := by
  unfold eventsOf
  rw [List.mem_filter, decide_eq_true_eq]

theorem eventsOf_distinct : stamps.Distinct (table.eventsOf importJobId) := fun _ present _ found same =>
  same_row (mem_eventsOf.mp present).1 (mem_eventsOf.mp found).1 same

theorem eventsOf_nodup : (table.eventsOf importJobId).Nodup := table.primaryKey.of_map.filter _

theorem listImportEvents_after (present : e ∈ table.rows) : table.listImportEvents importJobId (some e.id) =
    stamps.ordered ((table.eventsOf importJobId).filter (stamps.From e)) := by
  have found : table.rows.find? (fun row => row.id = e.id) = some e := by
    cases lookup : table.rows.find? (fun row => row.id = e.id) with
    | none => simpa using List.find?_eq_none.mp lookup e present
    | some row =>
      have same : row.id = e.id := by simpa using List.find?_some lookup
      rw [same_row (List.mem_of_find?_eq_some lookup) present same]
  unfold listImportEvents
  simp only [found]
  rfl

theorem listed_split (member : e ∈ table.eventsOf importJobId) :
    ∃ before after, table.listImportEvents importJobId = before ++ e :: after :=
  List.append_of_mem (Cursors.mem_ordered.mpr member)

theorem listed_member {before after : List OperationEventRow}
    (split : table.listImportEvents importJobId = before ++ e :: after) : e ∈ table.eventsOf importJobId := by
  rw [← Cursors.mem_ordered (S := stamps)]
  show e ∈ table.listImportEvents importJobId
  rw [split]
  exact List.mem_append_right _ List.mem_cons_self

theorem resumes_iff (member : e ∈ table.eventsOf importJobId) :
    table.Resumes importJobId e ↔ ¬ stamps.TiedBefore (table.eventsOf importJobId) e := by
  unfold Resumes
  rw [listImportEvents_after (mem_eventsOf.mp member).1]
  constructor
  · intro resumes
    obtain ⟨before, after, split⟩ := listed_split member
    have rest := resumes before after split
    exact Cursors.from_prefix eventsOf_distinct eventsOf_nodup split (rest ▸ List.prefix_rfl)
  · intro untied before after split
    exact Cursors.from_rest eventsOf_distinct eventsOf_nodup split untied

/-- A client that reads each event once has no event come again after one of the same time. -/
theorem once_untied (once : table.ReadsOnce importJobId) (member : e ∈ table.eventsOf importJobId) :
    ¬ stamps.TiedBefore (table.eventsOf importJobId) e := by
  obtain ⟨before, after, split⟩ := listed_split member
  have seen := once _ (Cursors.reading_resumes split)
  rw [split, List.append_assoc, List.singleton_append, List.prefix_append_right_inj, List.cons_prefix_cons,
    listImportEvents_after (mem_eventsOf.mp member).1] at seen
  exact Cursors.from_prefix eventsOf_distinct eventsOf_nodup split seen.2

end

/-- The page after an event is the rest of the listing just when no event of the same time has a smaller id, and
page after page reads every event once just when no two events have the same time. -/
theorem cursor_resumes_iff (table : OperationEvents) (importJobId : Id) :
    (∀ e ∈ table.eventsOf importJobId, table.Resumes importJobId e ↔
      ¬ ∃ other ∈ table.eventsOf importJobId, other.occurredAt = e.occurredAt ∧ other.id < e.id) ∧
    (table.ReadsOnce importJobId ↔ ∀ e ∈ table.eventsOf importJobId, ∀ other ∈ table.eventsOf importJobId,
      other.occurredAt = e.occurredAt → other = e) := by
  refine ⟨fun e member => resumes_iff member, ?_, ?_⟩
  · intro once e member other found tied
    apply eventsOf_distinct other found e member
    rcases lt_trichotomy other.id e.id with smaller | same | larger
    · exact absurd ⟨other, found, tied, smaller⟩ (once_untied once member)
    · exact same
    · exact absurd ⟨e, member, tied.symm, larger⟩ (once_untied once found)
  · intro apart seen reading
    refine Cursors.reading_prefix ?_ reading
    intro before e after split
    have member := listed_member split
    refine (resumes_iff member).mpr ?_ before after split
    rintro ⟨other, found, tied, smaller⟩
    rw [apart e member other found tied] at smaller
    exact lt_irrefl _ smaller

/-! ### Two events of one time

Two of the events a submission records, with one reading of the clock. -/

namespace SmallTrail

def validated : OperationEventRow where
  importJobId := 1
  component := "FastAPI"
  stage := "request.validated"
  status := "succeeded"
  evidenceReference := .importJob 1
  occurredAt := seconds 1785250800
  id := 7

def queued : OperationEventRow := { validated with component := "PostgreSQL", stage := "job.queued", id := 3 }

def table : OperationEvents := ⟨[validated, queued], by decide⟩

end SmallTrail

open SmallTrail in
/-- The last event of the listing is followed by the one before it, which a client then sees twice. -/
theorem event_comes_again : ∃ (table : OperationEvents) (e other : OperationEventRow), e.importJobId = 1 ∧
    table.listImportEvents 1 = [other, e] ∧ table.listImportEvents 1 (some e.id) = [other] ∧
    ¬ table.Resumes 1 e ∧ ¬ table.ReadsOnce 1 := by
  have listed : table.listImportEvents 1 = [queued, validated] := by decide
  have page : table.listImportEvents 1 (some validated.id) = [queued] := by decide
  refine ⟨table, validated, queued, rfl, listed, page, ?_, ?_⟩
  · intro resumes
    have rest := resumes [queued] [] listed
    rw [page] at rest
    contradiction
  · intro once
    have split : table.listImportEvents 1 = [queued] ++ validated :: [] := listed
    have seen := once _ (Cursors.reading_resumes split)
    rw [page, listed] at seen
    exact absurd seen.length_le (by decide)

end OperationEvents

end SupplyChainHub
