import Mathlib.Data.List.Sort
import SupplyChainHub.Library.Polling
import SupplyChainHub.Imports.Trail

/-!
The live event stream of an import. Each round asks for the events and then, in another query, for the
status; the worker commits both together, and its commit may fall between the two questions.
-/

namespace SupplyChainHub

/-- `list_import_events`, each event with its id: its place among the committed events. Events of one time come in the
order of their places, where the query has the order of their random ids. -/
def listImportEvents (db : Database) (importJobId : Id) : List (OperationEvent × Nat) :=
  (db.events.zipIdx.filter fun e => e.1.importJobId = importJobId).insertionSort fun a b =>
    a.1.occurredAt ≤ b.1.occurredAt

inductive StreamPhase where
  /-- Before the events query of a round. -/
  | polling
  /-- Between the events query and the status query. -/
  | listed
  /-- `settled` is ghost: the number of events committed when the status last changed. -/
  | complete (status : ImportStatus) (settled : Nat)
  | timeout
  | disconnected
  deriving DecidableEq

/-- A call of `stream_import_events`. -/
structure EventStream where
  follow : Bool
  messages : Polling.Reader Nat := {}
  phase : StreamPhase := .polling
  /-- Ghost: the number of events committed at the last events query. -/
  read : Nat := 0

/-- The hub with one stream of one job. -/
structure Watch where
  hub : Hub
  stream : Option EventStream := none
  /-- Ghost: the number of events committed when the status of the job last changed. -/
  settled : Nat := 0

inductive WatchLabel where
  | commit (l : Label)
  | openStream (follow : Bool)
  | disconnect
  | listEvents
  /-- `late` is whether the stream has waited its 120 seconds. -/
  | readStatus (late : Bool)

def Database.statusOf (db : Database) (id : Id) : Option ImportStatus := (db.job id).map (·.status)

namespace Watch

/-- The round's second query, and what the stream makes of it. -/
def readStatus (w : Watch) (s : EventStream) (status : ImportStatus) (late : Bool) : StreamPhase :=
  if !s.follow || status.terminal then .complete status w.settled
  else if late then .timeout
  else .polling

def step (env : Env) (id : Id) (w : Watch) : WatchLabel → Option Watch
  | .commit l =>
    match Hub.step env w.hub l with
    | none => none
    | some hub => some { w with
        hub
        settled := if hub.db.statusOf id = w.hub.db.statusOf id then w.settled else hub.db.events.length }
  | .openStream follow =>
    match w.stream, w.hub.db.job id with
    | none, some _ => some { w with stream := some { follow } }
    | _, _ => none
  | .disconnect =>
    match w.stream with
    | some s => if s.phase = .polling then some { w with stream := some { s with phase := .disconnected } } else none
    | none => none
  | .listEvents =>
    match w.stream with
    | some s =>
      if s.phase = .polling then some { w with stream := some { s with
        messages := s.messages.poll ((listImportEvents w.hub.db id).map Prod.snd)
        phase := .listed
        read := w.hub.db.events.length } }
      else none
    | none => none
  | .readStatus late =>
    match w.stream, w.hub.db.job id with
    | some s, some job =>
      if s.phase = .listed then
        some { w with stream := some { s with phase := w.readStatus s job.status late } }
      else none
    | _, _ => none

structure Initial (w : Watch) : Prop where
  hub : w.hub.Initial
  stream : w.stream = none
  settled : w.settled = 0

abbrev Reachable (env : Env) (id : Id) : Watch → Prop := Machine.Reachable (step env id) Initial

end Watch

section
variable {env : Env} {id : Id} {db after : Database} {w next : Watch} {s : EventStream} {l : WatchLabel}
    {i : Nat}

/-! ### Events by their place -/

def Database.OwnsEvent (db : Database) (id : Id) (i : Nat) : Prop :=
  ∃ e, db.events[i]? = some e ∧ e.importJobId = id

theorem ownsEvent_inside (owns : db.OwnsEvent id i) : i < db.events.length := by
  obtain ⟨e, present, -⟩ := owns
  exact (List.getElem?_eq_some_iff.mp present).1

theorem ownsEvent_grown (grown : db.events <+: after.events) (inside : i < db.events.length) :
    after.OwnsEvent id i ↔ db.OwnsEvent id i := by
  obtain ⟨new, same⟩ := grown
  unfold Database.OwnsEvent
  rw [← same, List.getElem?_append_left inside]

theorem mem_listImportEvents :
    i ∈ (listImportEvents db id).map Prod.snd ↔ db.OwnsEvent id i := by
  unfold listImportEvents Database.OwnsEvent
  simp only [List.mem_map, List.mem_insertionSort, List.mem_filter, decide_eq_true_eq, Prod.exists,
    List.mem_zipIdx_iff_getElem?, exists_eq_right]

/-! ### Every run -/

/-- A stream has sent each event of the job that was committed at its last events query, once. -/
structure EventStream.Faithful (id : Id) (db : Database) (s : EventStream) : Prop where
  sound : s.messages.Sound
  read : s.read ≤ db.events.length
  sent : ∀ i, i ∈ s.messages.sent ↔ db.OwnsEvent id i ∧ i < s.read
  ended : ∀ status settled, s.phase = .complete status settled → s.follow = true → status.terminal = true

theorem EventStream.Faithful.grown (faithful : s.Faithful id db) (grown : db.events <+: after.events) :
    s.Faithful id after := by
  refine ⟨faithful.sound, faithful.read.trans grown.length_le, fun i => ?_, faithful.ended⟩
  rw [faithful.sent i]
  refine and_congr_left fun inside => ?_
  exact (ownsEvent_grown grown (inside.trans_le faithful.read)).symm

theorem EventStream.Faithful.listed (faithful : s.Faithful id db) : EventStream.Faithful id db
    { s with
      messages := s.messages.poll ((listImportEvents db id).map Prod.snd)
      phase := .listed
      read := db.events.length } := by
  refine ⟨Polling.poll_sound faithful.sound, le_rfl, fun i => ?_, by simp⟩
  rw [Polling.poll_sent faithful.sound, faithful.sent i, mem_listImportEvents]
  constructor
  · rintro (⟨owns, -⟩ | owns)
    · exact ⟨owns, ownsEvent_inside owns⟩
    · exact ⟨owns, ownsEvent_inside owns⟩
  · rintro ⟨owns, -⟩
    exact .inr owns

theorem EventStream.Faithful.moved (faithful : s.Faithful id db) (phase : StreamPhase)
    (ended : ∀ status settled, phase = .complete status settled → s.follow = true → status.terminal = true) :
    EventStream.Faithful id db { s with phase } :=
  ⟨faithful.sound, faithful.read, faithful.sent, ended⟩

theorem readStatus_ended (s : EventStream) (actual : ImportStatus) (late : Bool) (status : ImportStatus)
    (settled : Nat) (completes : w.readStatus s actual late = .complete status settled)
    (follows : s.follow = true) : status.terminal = true := by
  simp only [Watch.readStatus, follows, Bool.not_true, Bool.false_or] at completes
  split at completes
  · rename_i terminal
    obtain ⟨rfl, -⟩ := StreamPhase.complete.inj completes
    exact terminal
  · split at completes <;> contradiction

theorem watch_hub (reached : Watch.Reachable env id w) : Hub.Reachable env w.hub := by
  apply reached.invariant (P := fun w => Hub.Reachable env w.hub)
  · exact fun w begins => .start begins.hub
  · intro w l next reached h
    cases l with
    | commit l =>
      simp only [Watch.step] at h
      split at h
      · contradiction
      · rename_i step
        obtain rfl := Option.some.inj h
        exact reached.step step
    | openStream | disconnect | listEvents | readStatus =>
      simp only [Watch.step] at h
      repeat' split at h
      all_goals first | contradiction | (obtain rfl := Option.some.inj h; exact reached)

theorem faithful_step (reached : Hub.Reachable env w.hub)
    (faithful : ∀ s, w.stream = some s → s.Faithful id w.hub.db) (h : w.step env id l = some next) :
    ∀ s, next.stream = some s → s.Faithful id next.hub.db := by
  intro t streams
  cases l with
  | commit l =>
    simp only [Watch.step] at h
    split at h
    · contradiction
    · rename_i step
      obtain rfl := Option.some.inj h
      exact (faithful t streams).grown (events_grow (reachable_ledger reached) (step_effect step))
  | openStream follow =>
    simp only [Watch.step] at h
    split at h
    · obtain rfl := Option.some.inj h
      obtain rfl := Option.some.inj streams
      exact ⟨Polling.fresh_sound, Nat.zero_le _, by simp, by simp⟩
    · contradiction
  | disconnect =>
    simp only [Watch.step] at h
    split at h
    · rename_i s present
      split at h
      · obtain rfl := Option.some.inj h
        obtain rfl := Option.some.inj streams
        exact (faithful s present).moved .disconnected (by simp)
      · contradiction
    · contradiction
  | listEvents =>
    simp only [Watch.step] at h
    split at h
    · rename_i s present
      split at h
      · obtain rfl := Option.some.inj h
        obtain rfl := Option.some.inj streams
        exact (faithful s present).listed
      · contradiction
    · contradiction
  | readStatus late =>
    simp only [Watch.step] at h
    split at h
    · rename_i s job present _
      split at h
      · obtain rfl := Option.some.inj h
        obtain rfl := Option.some.inj streams
        exact (faithful s present).moved _ (readStatus_ended s job.status late)
      · contradiction
    · contradiction

/-- A stream sends no event twice, and its last message comes after every event committed no later than the
status it reports, unless one was committed after the last round's events query. -/
theorem stream_loses_nothing (reached : Watch.Reachable env id w) (streams : w.stream = some s) :
    s.messages.sent.Nodup ∧ ∀ status settled, s.phase = .complete status settled →
      (s.follow = true → status.terminal = true) ∧
      ((∀ i, w.hub.db.OwnsEvent id i → i < settled → i ∈ s.messages.sent) ↔
        ∀ i, w.hub.db.OwnsEvent id i → s.read ≤ i → settled ≤ i) := by
  have invariant : ∀ s, w.stream = some s → s.Faithful id w.hub.db := by
    obtain ⟨start, begins, run⟩ := reached
    apply run.invariant_reachable (P := fun w => ∀ s, w.stream = some s → s.Faithful id w.hub.db) ?_
      (.start begins)
    · intro s closed
      rw [begins.stream] at closed
      contradiction
    · intro w l next reached faithful _ h
      exact faithful_step (watch_hub reached) faithful h
  have faithful := invariant s streams
  refine ⟨faithful.sound.once, fun status settled completes => ⟨faithful.ended status settled completes, ?_⟩⟩
  constructor
  · intro law i owns after
    by_contra before
    have sent := law i owns (Nat.lt_of_not_le before)
    exact absurd ((faithful.sent i).mp sent).2 (Nat.not_lt.mpr after)
  · intro quiet i owns before
    apply (faithful.sent i).mpr
    refine ⟨owns, Nat.lt_of_not_le fun after => ?_⟩
    exact absurd before (Nat.not_lt.mpr (quiet i owns after))

end

namespace Small

def watch : Watch := { hub }

/-- A worker up to its last transaction's commit. -/
def applying : List WatchLabel :=
  (submitted ++ claimed 0 (moment 1) ++ applied 0 (moment 2)).map .commit

def finishing : List WatchLabel := (completed 0 (moment 3)).map .commit

theorem watch_reaches (labels : List WatchLabel) (p : Watch → Bool)
    (h : (Machine.exec (Watch.step env 1) watch labels).any p = true) :
    ∃ w, Watch.Reachable env 1 w ∧ p w = true := by
  obtain ⟨w, run, holds⟩ := (Option.any_eq_true _ _).mp h
  have begins : watch.Initial := ⟨initial, rfl, rfl⟩
  exact ⟨w, ⟨watch, begins, Machine.exec_run (fun _ _ _ => trivial) run⟩, holds⟩

end Small

/-- The status the stream ended with, and the number of events committed by then. -/
def EventStream.ending? (s : EventStream) : Option (ImportStatus × Nat) :=
  match s.phase with
  | .complete status settled => some (status, settled)
  | _ => none

theorem ending_ok {s : EventStream} {status : ImportStatus} {settled : Nat}
    (h : s.ending? = some (status, settled)) : s.phase = .complete status settled := by
  unfold EventStream.ending? at h
  split at h
  · rename_i completes
    obtain ⟨rfl, rfl⟩ := Prod.mk.inj (Option.some.inj h)
    exact completes
  · contradiction

/-- A stream opened while the worker is at work, that polls once more after its commit. -/
theorem stream_loses_nothing_polling : ∃ (w : Watch) (s : EventStream) (settled : Nat),
    Watch.Reachable Small.env 1 w ∧ w.stream = some s ∧ s.phase = .complete .completed settled ∧
    ∀ i, w.hub.db.OwnsEvent 1 i → i < settled → i ∈ s.messages.sent := by
  obtain ⟨w, reached, shown⟩ := Small.watch_reaches
    (Small.applying ++ [.openStream true, .listEvents, .readStatus false] ++ Small.finishing ++
      [.listEvents, .readStatus false])
    (fun w => w.stream.any fun s => s.ending?.any fun ended => ended.1 = .completed &&
      ((listImportEvents w.hub.db 1).map Prod.snd).all fun i => s.read ≤ i → ended.2 ≤ i)
    (by decide +kernel)
  simp only [Option.any_eq_true, Bool.and_eq_true, decide_eq_true_eq, List.all_eq_true] at shown
  obtain ⟨s, streams, ⟨status, settled⟩, ends, completed, quiet⟩ := shown
  obtain rfl : status = .completed := completed
  have completes := ending_ok ends
  have law := ((stream_loses_nothing reached streams).2 _ settled completes).2
  exact ⟨w, s, settled, reached, streams, completes,
    law.mpr fun i owns => quiet i (mem_listImportEvents.mpr owns)⟩

/-- The commit falls between the two queries of a round: the stream reports the status and stops, and the
events committed with it are never sent. -/
theorem stream_misses_final_events : ∃ (w : Watch) (s : EventStream) (settled i : Nat),
    Watch.Reachable Small.env 1 w ∧ w.stream = some s ∧ s.follow = true ∧
    s.phase = .complete .completed settled ∧
    w.hub.db.OwnsEvent 1 i ∧ i < settled ∧ i ∉ s.messages.sent := by
  obtain ⟨w, reached, shown⟩ := Small.watch_reaches
    (Small.applying ++ [.openStream true, .listEvents] ++ Small.finishing ++ [.readStatus false])
    (fun w => w.stream.any fun s => s.follow && s.ending?.any fun ended => ended.1 = .completed &&
      ((listImportEvents w.hub.db 1).map Prod.snd).any fun i => i < ended.2 && i ∉ s.messages.sent)
    (by decide +kernel)
  simp only [Option.any_eq_true, Bool.and_eq_true, decide_eq_true_eq, List.any_eq_true] at shown
  obtain ⟨s, streams, follows, ⟨status, settled⟩, ends, completed, i, listed, before, unsent⟩ := shown
  obtain rfl : status = .completed := completed
  exact ⟨w, s, settled, i, reached, streams, follows, ending_ok ends, mem_listImportEvents.mp listed, before,
    unsent⟩

end SupplyChainHub
